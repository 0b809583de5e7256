import Mathlib.Data.List.TakeWhile
import QueryDesk.Proofs.Fields

/-!
Settings that are written into a file and read back. Main statement: new settings are found again, the others stay
as they were and no line that sets nothing is lost, unless a setting is put behind a line that has no end.
-/

namespace QueryDesk

open List

namespace Fields

variable {news : Fields} {key : String}

lemma latest_eq_lookup (h : (news.map (·.1)).Nodup) : latest news key = news.lookup key := by
  induction news with
  | nil => rfl
  | cons f rest ih =>
    rw [map_cons, nodup_cons] at h
    rw [latest_cons, lookup_cons]
    by_cases hk : key = f.1
    · simp [hk, latest_eq_none h.1]
    · simp [hk, ih h.2]

lemma lookup_filter (p : String → Bool) : (news.filter fun f => p f.1).lookup key = if p key then news.lookup key else none := by
  induction news with
  | nil => simp
  | cons f rest ih =>
    rw [filter_cons, lookup_cons, apply_ite (lookup key), lookup_cons, ih]
    grind

end Fields

namespace Text

variable {c : Char} {cs new : List Char} {s line : String} {pieces : List String}

lemma replaceFrom_of_notMem (old new : List Char) (h : c ∉ cs) : replaceFrom (c :: old) new 0 cs = cs := by
  induction cs with
  | nil => rfl
  | cons d cs ih =>
    rw [mem_cons, not_or] at h
    simp [replaceFrom, isPrefixOf, h.1, ih h.2]

lemma notMem_replaceFrom (h : c ∉ new) (cs : List Char) : c ∉ replaceFrom [c] new 0 cs := by
  induction cs with
  | nil => simp [replaceFrom]
  | cons d cs ih =>
    by_cases hd : c = d
    · simp [replaceFrom, isPrefixOf, ← hd, h, ih]
    · simp [replaceFrom, isPrefixOf, hd, ih]

lemma plainLines_of_notMem (h : '\r' ∉ s.toList) : plainLines s = s := by
  simp [plainLines, replace, replaceFrom_of_notMem _ _ h]

lemma notMem_plainLines (s : String) : '\r' ∉ (plainLines s).toList := by
  simpa [plainLines, replace] using notMem_replaceFrom (by decide : '\r' ∉ ['\n']) _

lemma linesFrom_append (h : '\n' ∉ cs) (line rest : List Char) :
    linesFrom line (cs ++ rest) = linesFrom (cs.reverse ++ line) rest := by
  induction cs generalizing line with
  | nil => rfl
  | cons c cs ih =>
    rw [mem_cons, not_or] at h
    simp [linesFrom, Ne.symm h.1, ih h.2]

/-- A line is not empty, and only its last character may end it. -/
def IsLine (s : String) : Prop := s.toList ≠ [] ∧ '\n' ∉ s.toList.dropLast

lemma mem_linesFrom {line cs piece : List Char} (h : '\n' ∉ line) (hp : piece ∈ linesFrom line cs) :
    piece ≠ [] ∧ '\n' ∉ piece.dropLast ∧ piece ⊆ line ++ cs := by
  fun_induction linesFrom line cs with
  | case1 => cases hp
  | case2 line hne =>
    obtain rfl := mem_singleton.1 hp
    exact ⟨by simpa using hne, fun hm => h (mem_reverse.1 ((dropLast_sublist _).subset hm)), by simp⟩
  | case3 line c rest hc ih =>
    rcases mem_cons.1 hp with rfl | hp
    · simp_all
    · obtain ⟨hne, he, hs⟩ := ih not_mem_nil hp
      exact ⟨hne, he, fun d hd => mem_append_right _ (mem_cons_of_mem _ (hs hd))⟩
  | case4 line c rest hc ih =>
    obtain ⟨hne, he, hs⟩ := ih (by simp_all [Ne.symm]) hp
    exact ⟨hne, he, fun d hd => by simpa [or_left_comm] using hs hd⟩

/-- Lines are read back as they were written, if all but the last one have an end. -/
lemma linesOf_join (h : ∀ s ∈ pieces, IsLine s) (he : ∀ s ∈ pieces.dropLast, '\n' ∈ s.toList) :
    linesOf (String.join pieces) = pieces := by
  unfold linesOf
  induction pieces with
  | nil => rfl
  | cons s rest ih =>
    obtain ⟨⟨hne, hl⟩, hr⟩ := forall_mem_cons.1 h
    obtain ⟨cs, c, hs⟩ := (eq_nil_or_concat' s.toList).resolve_left hne
    rw [hs, dropLast_concat] at hl
    by_cases hc : c = '\n'
    · have ih := ih hr fun s hs => he s (by cases rest <;> simp_all)
      have hs' : String.ofList (cs ++ ['\n']) = s := by rw [← hc, ← hs, String.ofList_toList]
      simp only [String.toList_join] at ih
      simp [hs, hc, linesFrom_append hl, linesFrom, ih, hs']
    · have hno : '\n' ∉ s.toList := by simp [hs, hl, Ne.symm hc]
      obtain rfl : rest = [] := by
        by_contra hm
        exact hno (he s (by rw [dropLast_cons_of_ne_nil hm]; exact mem_cons_self))
      have heq := linesFrom_append hno [] []
      rw [append_nil] at heq
      simp [heq, linesFrom, hne]

/-- A trimmed text neither begins nor ends with a blank. -/
def IsTrimmed (s : String) : Prop := (∀ c ∈ s.toList.head?, ¬ isBlank c) ∧ ∀ c ∈ s.toList.getLast?, ¬ isBlank c

lemma IsTrimmed.trim_append {s b : String} (h : IsTrimmed s) (hb : ∀ c ∈ b.toList, isBlank c) : trim (s ++ b) = s := by
  have hba : (b.toList.reverse ++ s.toList.reverse).dropWhile isBlank = s.toList.reverse := by
    rw [dropWhile_append_of_pos (by simpa using hb), dropWhile_eq_self_iff.2]
    exact fun hne => h.2 _ (by simp [← getElem?_eq_getElem, getLast?_eq_getElem?])
  cases hs : s.toList with
  | nil => simp_all [trim, trimBy, trimEnd, trimStart, dropWhile_eq_nil_iff.2 hb]
  | cons c cs =>
    have hst : (s.toList ++ b.toList).dropWhile isBlank = s.toList ++ b.toList := by
      simpa [hs, dropWhile_eq_self_iff] using h.1
    simp [trim, trimBy, trimEnd, trimStart, hst, hba]

lemma IsTrimmed.trim (h : IsTrimmed s) : trim s = s := by simpa using h.trim_append (b := "") (by simp)

lemma positionOf_append (h : c ∉ cs) (rest : List Char) : positionOf [c] (cs ++ c :: rest) = some cs.length := by
  induction cs with
  | nil => simp [positionOf, isPrefixOf]
  | cons d cs ih =>
    rw [mem_cons, not_or] at h
    simp [positionOf, isPrefixOf, h.1, ih h.2]

end Text

namespace SettingsFile

open Text

variable {f : SettingsFile} {news : Fields} {s : String × Value} {line : String} {pieces : List String}

/-- A setting that one line can hold: name and value are trimmed, and the name has no mark of its own. -/
structure Fits (s : String × Value) : Prop where
  named : s.1 ≠ ""
  name : IsTrimmed s.1
  marks : ∀ c ∈ ['=', '#', '\n', '\r'], c ∉ s.1.toList
  text : s.2 = .text s.2.display
  value : IsTrimmed s.2.display
  breaks : ∀ c ∈ ['\n', '\r'], c ∉ s.2.display.toList

lemma toList_lineFor (s : String × Value) :
    (lineFor s.1 s.2).toList = (s.1.toList ++ '=' :: s.2.display.toList) ++ ['\n'] := by simp [lineFor]

lemma Fits.trim_lineFor (h : Fits s) : trim (lineFor s.1 s.2) = s.1 ++ "=" ++ s.2.display := by
  refine IsTrimmed.trim_append ⟨?_, ?_⟩ (all_eq_true.1 (by decide))
  · obtain ⟨c, cs, hn⟩ := exists_cons_of_ne_nil (show s.1.toList ≠ [] by simpa using h.named)
    simpa [hn] using h.name.1
  · cases hv : s.2.display.toList.getLast? with
    | none => simp_all [isBlank]
    | some c => simpa [getLast?_append, getLast?_cons, hv] using h.value.2 c hv

lemma Fits.setting?_lineFor (h : Fits s) : setting? (lineFor s.1 s.2) = some s := by
  have hm : ¬ ['#'] <+: s.1.toList ++ '=' :: s.2.display.toList := by
    obtain ⟨c, cs, hn⟩ := exists_cons_of_ne_nil (show s.1.toList ≠ [] by simpa using h.named)
    have hc := h.marks '#' (by simp)
    rw [hn] at hc ⊢
    rw [cons_append, cons_prefix_cons]
    exact fun hs => hc (hs.1 ▸ mem_cons_self)
  have hcu : cut? (s.1 ++ "=" ++ s.2.display) "=" = some (s.1, s.2.display) := by
    simp [cut?, Text.find?, positionOf_append (h.marks '=' (by simp)) s.2.display.toList, show "=".length = 1 from rfl]
  simp [setting?, h.trim_lineFor, hcu, startsWith, hm, h.named, h.name.trim, h.value.trim, ← h.text]

lemma mem_updatedLines (h : line ∈ updatedLines news pieces) :
    line ∈ pieces ∨ ∃ s ∈ news, line = lineFor s.1 s.2 := by
  rcases mem_append.1 h with h | h
  · obtain ⟨line, hl, rfl⟩ := mem_map.1 h
    rw [renewed]
    split
    · next name _ _ =>
      cases hn : news.lookup name with
      | none => exact .inl hl
      | some val =>
        obtain ⟨_, _, rfl, -⟩ := lookup_eq_some_iff.1 hn
        exact .inr ⟨(name, val), by simp, rfl⟩
    · exact .inl hl
  · obtain ⟨s, hs, rfl⟩ := mem_map.1 h
    exact .inr ⟨s, mem_of_mem_filter hs, rfl⟩

/-- Of the lines that are written none but the last lacks its end. -/
def HasRoom (f : SettingsFile) (news : Fields) : Prop := ∀ line ∈ (updatedLines news f.lines).dropLast, '\n' ∈ line.toList

section

variable (hfit : ∀ s ∈ news, Fits s)

include hfit

lemma linesOf_updatedLines (hr : f.HasRoom news) :
    linesOf (plainLines (String.join (updatedLines news f.lines))) = updatedLines news f.lines := by
  have hl : ∀ line ∈ updatedLines news f.lines, IsLine line ∧ '\r' ∉ line.toList := by
    intro line hl
    rcases mem_updatedLines hl with ho | ⟨s, hs, rfl⟩
    · cases ht : f.text with
      | none => simp [SettingsFile.lines, ht] at ho
      | some text =>
        simp only [SettingsFile.lines, ht, Option.map_some, Option.getD_some] at ho
        obtain ⟨piece, hp, rfl⟩ := mem_map.1 ho
        obtain ⟨hne, he, hsu⟩ := mem_linesFrom not_mem_nil hp
        refine ⟨by simp [IsLine, hne, he], fun hc => ?_⟩
        have hm := hsu (by simpa using hc)
        exact notMem_plainLines text (by simpa using hm)
    · have hs := hfit s hs
      constructor
      · rw [IsLine, toList_lineFor, dropLast_concat]
        simp [hs.marks '\n', hs.breaks '\n']
      · simp [lineFor, hs.marks '\r', hs.breaks '\r']
  have hpl : '\r' ∉ (String.join (updatedLines news f.lines)).toList := by
    rw [String.toList_join, mem_flatMap]
    exact fun ⟨line, hm, hc⟩ => (hl line hm).2 hc
  rw [plainLines_of_notMem hpl, linesOf_join (fun line h => (hl line h).1) hr]

lemma setting?_renewed (line : String) :
    setting? (renewed news line) = (setting? line).map fun s => (s.1, (news.lookup s.1).getD s.2) := by
  cases hl : setting? line with
  | none => simp [renewed, hl]
  | some s =>
    cases hn : news.lookup s.1 with
    | none => simp [renewed, hl, hn]
    | some val =>
      obtain ⟨_, _, rfl, -⟩ := lookup_eq_some_iff.1 hn
      simpa [renewed, hl, hn] using (hfit (s.1, val) (by simp)).setting?_lineFor

lemma settings_updatedLines (pieces : List String) : (updatedLines news pieces).filterMap setting? =
    (pieces.filterMap setting?).map (fun s => (s.1, (news.lookup s.1).getD s.2)) ++
      news.filter fun s => !((pieces.filterMap setting?).map (·.1)).contains s.1 := by
  have hl : ∀ more ⊆ news, (more.map fun s => lineFor s.1 s.2).filterMap setting? = more := by
    intro more h
    rw [filterMap_map, Function.comp_def, filterMap_congr fun s hs => (hfit s (h hs)).setting?_lineFor, filterMap_some]
  rw [updatedLines, filterMap_append, hl _ (filter_subset_self _), filterMap_map]
  simp only [Function.comp_def, setting?_renewed hfit, map_filterMap]

/-- The new settings come first, then those that were there before. -/
lemma lookup_updatedLines (hn : (news.map (·.1)).Nodup) (pieces : List String) (name : String) :
    (settingsOf (updatedLines news pieces)).lookup name = (news.lookup name).or ((settingsOf pieces).lookup name) := by
  have ho : ∀ fd : Fields, (fd.map fun s => (s.1, (news.lookup s.1).getD s.2)).lookup name =
      (fd.lookup name).map (news.lookup name).getD := by
    intro fd
    induction fd with
    | nil => rfl
    | cons s fd ih =>
      rw [map_cons, Fields.lookup_cons, Fields.lookup_cons, ih]
      split <;> simp_all
  simp only [settingsOf, Fields.lookup_putAll, lookup_nil, Option.or_none, settings_updatedLines hfit]
  generalize pieces.filterMap setting? = fd
  have hne : Fields.latest (news.filter fun s => !(fd.map (·.1)).contains s.1) name =
      if name ∈ fd.map (·.1) then none else news.lookup name := by
    rw [Fields.latest_eq_lookup (hn.sublist (filter_sublist.map _)),
      Fields.lookup_filter fun name => !(fd.map (·.1)).contains name]
    by_cases hm : name ∈ fd.map (·.1) <;> simp_all
  rw [Fields.latest, reverse_append, lookup_append, ← Fields.latest, hne, ← map_reverse, ho, ← Fields.latest]
  split
  case isTrue hm =>
    obtain ⟨value, hv⟩ : ∃ value, Fields.latest fd name = some value := by
      rw [← Option.ne_none_iff_exists', Fields.latest, ne_eq, lookup_eq_none_iff]
      simpa using hm
    cases hna : news.lookup name <;> simp [hv]
  case isFalse hm => simp [Fields.latest_eq_none hm]

lemma filter_updatedLines (pieces : List String) :
    (updatedLines news pieces).filter (fun line => (setting? line).isNone) =
      pieces.filter fun line => (setting? line).isNone := by
  have ho : (pieces.map (renewed news)).filter (fun line => (setting? line).isNone) =
      pieces.filter fun line => (setting? line).isNone := by
    induction pieces with
    | nil => rfl
    | cons line pieces ih =>
      rw [map_cons, filter_cons, filter_cons, ih, setting?_renewed hfit, Option.isNone_map]
      split
      case isTrue hn => rw [renewed, Option.isNone_iff_eq_none.1 hn]
      case isFalse => rfl
  rw [updatedLines, filter_append, ho, append_right_eq_self, filter_eq_nil_iff]
  intro line hl
  obtain ⟨s, hs, rfl⟩ := mem_map.1 hl
  simp [(hfit s (mem_of_mem_filter hs)).setting?_lineFor]

end

/-- New settings are found again, every other name has what it had, and the lines that set nothing are the same. -/
theorem update_round_trip (f : SettingsFile) (news : Fields) (hnodup : (news.map (·.1)).Nodup)
    (hfit : ∀ s ∈ news, Fits s) (hroom : f.HasRoom news) :
    ∃ f', f.update (.record news) = .ok f' ∧ (∀ name value, news.lookup name = some value → f'.current (.text name) = .ok value) ∧
      (∀ name, news.lookup name = none → f'.settings.lookup name = f.settings.lookup name) ∧
        f'.lines.filter (fun line => (setting? line).isNone) = f.lines.filter fun line => (setting? line).isNone := by
  have hl : ({ f with text := some (String.join (updatedLines news f.lines)) } : SettingsFile).lines =
      updatedLines news f.lines := by
    rw [SettingsFile.lines, Option.map_some, Option.getD_some, linesOf_updatedLines hfit hroom]
  refine ⟨_, rfl, fun name value hn => ?_, fun name hn => ?_, by rw [hl, filter_updatedLines hfit]⟩
  · refine congrArg Except.ok (?_ : Option.getD (lookup name (settingsOf _)) (.text "") = value)
    rw [hl, lookup_updatedLines hfit hnodup, hn, Option.some_or, Option.getD_some]
  · rw [settings, hl, lookup_updatedLines hfit hnodup, hn, Option.none_or, settings]

theorem update_round_trip_unended : ∃ f', ({ text := some "# one\nA=1\nB = 2" } : SettingsFile).update
    (.record [("B", .text "3"), ("C", .text "x=y")]) = .ok f' ∧ f'.current (.text "C") = .ok (.text "x=y") ∧
      f'.settings.lookup "A" = ({ text := some "# one\nA=1\nB = 2" } : SettingsFile).settings.lookup "A" := by
  have hfit : ∀ s ∈ [("B", Value.text "3"), ("C", .text "x=y")], Fits s := by
    rintro s hs
    obtain rfl | rfl : s = ("B", .text "3") ∨ s = ("C", .text "x=y") := by simpa using hs
    all_goals exact ⟨by decide, ⟨by rintro _ ⟨⟩; decide, by rintro _ ⟨⟩; decide⟩, by simp, rfl,
      ⟨by rintro _ ⟨⟩; decide, by rintro _ ⟨⟩; decide⟩, by simp [Value.display]⟩
  obtain ⟨f', hf', hn, ho, -⟩ := update_round_trip { text := some "# one\nA=1\nB = 2" }
    [("B", .text "3"), ("C", .text "x=y")] (by decide) hfit (by unfold HasRoom; decide +kernel)
  exact ⟨f', hf', hn "C" _ rfl, ho "A" rfl⟩

/-- A new setting behind a last line that is not ended is not found, and spoils the setting of this line. -/
theorem unended_line_spoilt : ∃ f', ({ text := some "A=1" } : SettingsFile).update (.record [("B", .text "2")]) = .ok f' ∧
    f'.current (.text "B") = .ok (.text "") ∧ f'.current (.text "A") = .ok (.text "1B=2") :=
  ⟨_, rfl, rfl, rfl⟩

end SettingsFile

end QueryDesk
