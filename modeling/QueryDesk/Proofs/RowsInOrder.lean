import QueryDesk.Proofs.MappingRuns

/-!
Runs of the work on references as a whole. The open rows of the sheet are worked off from above, each once, until
none is left or the person quits; then the run comes to its end. The rows that were not turned to stay as they
were, and nobody is asked when no row is open.
-/

namespace QueryDesk.Mapping

open Desk Value Sheet List

variable {station : Station} {v : Visit} {s : Surroundings} {t t₁ : Traffic} {state : Value}

/-! ### Runs -/

section

variable {index : Option SearchIndex} {start state : Value} {t₀ t : Traffic} {sheet₀ sheet : Sheet}
  {visits : List Visit} {next : Option Station} {row : Option Nat}

def Visit.AsksOpen (path : String) (v : Visit) : Prop := v.station = .requestDecision →
  ∃ sheet r, v.world.workbooks.lookup path = some sheet ∧ r ∈ sheet.openRows ∧
    v.before.at? "current_row_idx" = some (.nat r)

lemma Standing.asksOpen (h : Standing path sheet₀ sheet done row (some station) state t)
    (after : Value) : Visit.AsksOpen path ⟨station, state, t, after⟩ := by
  rintro rfl
  obtain ⟨hf, -, hl, he, hr, -⟩ := h
  obtain ⟨r, rfl⟩ := Option.ne_none_iff_exists'.1 hr
  exact ⟨sheet, r, hf, hl.mem_open rfl, he.place⟩

lemma Standing.quitsAt_mem
    (h : Standing path sheet₀ sheet done row (some v.station) v.before t) (hq : v.QuitsAt r) : r ∈ row := by
  obtain ⟨hs, hp, -⟩ := hq
  rw [hs] at h
  obtain ⟨-, -, -, he, -⟩ := h
  rw [he.place, Option.some.injEq] at hp
  cases row with
  | none => cases hp
  | some r' =>
    have hr : (r' : Int) = r := Value.int.inj hp
    simp only [Option.mem_def, Option.some.injEq]
    omega

lemma Standing.world (h : Standing path sheet₀ sheet done row next state t)
    (hb : t₁.workbooks = t.workbooks) : Standing path sheet₀ sheet done row next state t₁ :=
  ⟨by rw [hb, h.found], h.furnished, h.ledger, h.ready⟩

lemma Standing.choices {after : Value} (h : Standing path sheet₀ sheet done row (some .requestDecision) state t)
    (hr : Gives (requestDecision state) s t after t') : t.choices ≠ [] := by
  intro hn
  obtain ⟨hfo, hfu, hl, he, hro, ho⟩ := h
  obtain ⟨t₁, hf⟩ := requestDecision_fails (s := s) hfu ho hn
  cases hr.symm.trans hf

lemma rowsVisited_concat (visits : List Visit) (v : Visit) :
    rowsVisited (visits ++ [v]) = rowsVisited visits ++ v.row?.toList := by
  rw [rowsVisited, filterMap_append]
  rfl

/-- What a run keeps up: where it is, the rows it has turned to, how far the end is at most, that it has only asked
about open rows, and that the person has quit exactly if they answered so, at the row at hand. -/
structure History (path : String) (sheet₀ sheet : Sheet) (done : List Nat) (row : Option Nat) (visits : List Visit)
    (next : Option Station) (state : Value) (t : Traffic) : Prop where
  standing : Standing path sheet₀ sheet done row next state t
  rows : rowsVisited visits = done ++ row.toList
  length : visits.length + ahead sheet next ≤ 5 * sheet₀.openRows.length + 5
  asks : ∀ v ∈ visits, v.AsksOpen path
  heeded : ∀ v ∈ visits, ∀ r, v.QuitsAt r → HasQuit state
  answered : HasQuit state → ∃ r ∈ row, ∃ v ∈ visits, v.QuitsAt r

lemma history_prepared (hst : Furnished path start) (hg : start.at? "user_quit" = some (.bool false))
    (hfu : ∀ sheet, t₀.workbooks.lookup path = some sheet → sheet.Full) (ho : sheet₀.openRows ≠ [])
    (hp : Gives (prepare start) s t₀ state t) (hs : t.workbooks.lookup path = some sheet₀) :
    History path sheet₀ sheet₀ [] none [] (some .loadNextRow) state t := by
  obtain ⟨hfn, hsa, sheet, hf, hb⟩ := prepare_ends hst hp
  obtain rfl : sheet₀ = sheet := Option.some.inj (hs.symm.trans hf)
  have hf₀ : sheet₀.Full := by
    rcases hb with hb | ⟨-, hn⟩
    · exact hfu sheet₀ hb
    · exact hn
  have hg' : state.at? "user_quit" = some (.bool false) := hsa.trans hg
  have hl : Ledger sheet₀ sheet₀ [] none := ⟨hf₀, rfl, .inl rfl, by simp, fun _ _ => rfl⟩
  refine ⟨⟨hs, hfn, hl, rfl, hg', fun hni => absurd hni ho⟩, rfl, ?_, by simp,
    by simp, ?_⟩
  · simp [ahead]
  · simp [HasQuit, hg']

lemma History.visit
    (h : History path sheet₀ sheet done row visits (some v.station) v.before t)
    (hb : v.world.workbooks = t.workbooks)
    (hl : Leads path sheet₀ sheet done row v next' t' sheet' done' row') :
    History path sheet₀ sheet' done' row' (visits ++ [v]) next' v.after t' := by
  refine ⟨hl.standing, ?_, ?_, ?_, ?_, ?_⟩
  · rw [rowsVisited_concat, h.rows, hl.rows]
  · have hn := hl.nearer
    have hle := h.length
    rw [length_append, length_singleton]
    omega
  · intro u hu
    rcases mem_append.1 hu with hu | hu
    · exact h.asks u hu
    · obtain rfl := mem_singleton.1 hu
      exact (h.standing.world hb).asksOpen u.after
  · intro u hu r hq
    rcases mem_append.1 hu with hu | hu
    · exact hl.quits.2 (.inl (h.heeded u hu r hq))
    · obtain rfl := mem_singleton.1 hu
      exact hl.quits.2 (.inr ⟨r, hq⟩)
  · intro hqu
    rw [hl.quitRow hqu]
    rcases hl.quits.1 hqu with hbe | ⟨r, hq⟩
    · obtain ⟨r, hr, u, hu, hq⟩ := h.answered hbe
      exact ⟨r, hr, u, by simp [hu], hq⟩
    · exact ⟨r, (h.standing.world hb).quitsAt_mem hq, v, by simp, hq⟩

lemma Run.history (hst : Furnished path start) (hg : start.at? "user_quit" = some (.bool false))
    (hf : ∀ sheet, t₀.workbooks.lookup path = some sheet → sheet.Full) (ho : sheet₀.openRows ≠ [])
    (h : Run index path start t₀ sheet₀ visits next state t) :
    ∃ sheet done row, History path sheet₀ sheet done row visits next state t := by
  induction h with
  | prepared hp hsh =>
    exact ⟨sheet₀, [], none, history_prepared hst hg hf ho hp hsh⟩
  | @visit visits station next s state after t t₁ t₂ hr₀ hb hs hr hn ih =>
    obtain ⟨sheet, done, row, hh⟩ := ih
    -- the station gives one result only, so the visit of the run is the one that leads on
    have hhe := hh.standing.world hb
    obtain ⟨after', t', next', sh', done', row', hgi, hn', hl⟩ := hhe.onward hs (by
      rintro rfl
      exact hhe.choices hr)
    obtain ⟨rfl, rfl⟩ := hgi.unique hr
    obtain rfl : next' = next := Except.ok.inj (hn'.symm.trans hn)
    exact ⟨sh', done', row', hh.visit hb hl⟩

lemma Run.last (h : Run index path start t₀ sheet₀ visits none state t) :
    ∃ earlier v, visits = earlier ++ [v] ∧ v.station = .finalize := by
  generalize hn : (none : Option Station) = next at h
  cases h with
  | prepared => cases hn
  | @visit visits station _ _ _ _ _ _ _ _ _ _ _ hne =>
    subst hn
    refine ⟨visits, _, rfl, ?_⟩
    cases station with
    | finalize => rfl
    | evaluateAmbiguity | recordDecision =>
      simp [nextStation] at hne
    | _ => cases hne

/-! ### A run as a whole -/

def workbookPath (database : String) : String := s!"fk_mappings_{database}.xlsx"

/-- How far the rows of a sheet were worked off: from above, each open row once. The rows that were turned to are
decided, except for the last one, which may still be at hand; the other rows are as they were. The person was only
asked about open rows. -/
structure Worked (path : String) (sheet₀ sheet : Sheet) (visits : List Visit) : Prop where
  order : rowsVisited visits <+: sheet₀.openRows
  increasing : (rowsVisited visits).Pairwise (· < ·)
  decided : ∀ r ∈ (rowsVisited visits).dropLast, sheet.Decided r
  others : ∀ i, i + 1 ∉ rowsVisited visits → sheet.rows[i]? = sheet₀.rows[i]?
  asks : ∀ v ∈ visits, v.AsksOpen path
  length : visits.length ≤ 5 * sheet₀.openRows.length + 5

/-- A run that is over: its last visit has summed up. Every open row is decided and the person has not quit, or
they have quit at the last row that was turned to and all before it are decided. -/
structure Finished (sheet₀ sheet : Sheet) (visits : List Visit) : Prop where
  last : ∃ earlier v, visits = earlier ++ [v] ∧ v.station = .finalize
  rows : (rowsVisited visits = sheet₀.openRows ∧ (∀ r ∈ sheet₀.openRows, sheet.Decided r) ∧
      ∀ v ∈ visits, ∀ r, ¬ v.QuitsAt r) ∨
    ∃ done r, rowsVisited visits = done ++ [r] ∧ (∀ r' ∈ done, sheet.Decided r') ∧ ∃ v ∈ visits, v.QuitsAt r

lemma History.worked (h : History path sheet₀ sheet done row visits next state t) :
    Worked path sheet₀ sheet visits := by
  have hl := h.standing.ledger
  have ho : rowsVisited visits <+: sheet₀.openRows := by
    rw [h.rows, hl.rest, prefix_append_right_inj]
    rcases hl.hand with rfl | rfl
    · exact nil_prefix
    · cases sheet.openRows <;> simp
  refine ⟨ho, sheet₀.openRows_sorted.sublist ho.sublist, fun r hr => ?_, ?_, h.asks, ?_⟩
  · rw [h.rows] at hr
    refine hl.decided r ?_
    cases row with
    | none => exact (dropLast_sublist done).mem (by simpa using hr)
    | some x => simpa using hr
  · rw [h.rows]
    exact hl.others
  · have hle := h.length
    omega

lemma History.finished (h : History path sheet₀ sheet done row visits none state t)
    (hla : ∃ earlier v, visits = earlier ++ [v] ∧ v.station = .finalize) : Finished sheet₀ sheet visits := by
  refine ⟨hla, ?_⟩
  have hl := h.standing.ledger
  rcases h.standing.ready with ⟨rfl, hn, hg⟩ | ⟨hr, hqu⟩
  · have ha : sheet₀.openRows = done := by
      rw [hl.rest, hn, append_nil]
    refine .inl ⟨?_, ?_, fun v hv r hq => hg (h.heeded v hv r hq)⟩
    · rw [h.rows, ha]
      simp
    · rw [ha]
      exact hl.decided
  · obtain ⟨r, rfl, v, hv, hq⟩ := h.answered hqu
    exact .inr ⟨done, r, h.rows, hl.decided, v, hv, hq⟩

lemma Run.origin (hst : Furnished path start) (h : Run index path start t₀ sheet₀ visits next state t)
    (hs : t₀.workbooks.lookup path = some sheet) : sheet = sheet₀ := by
  induction h with
  | prepared hp hf =>
    obtain ⟨-, -, sheet', hf', hb⟩ := prepare_ends hst hp
    obtain rfl : sheet₀ = sheet' := Option.some.inj (hf.symm.trans hf')
    rcases hb with hb | ⟨hn, -⟩
    · exact Option.some.inj (hs.symm.trans hb)
    · rw [hs] at hn
      cases hn
  | visit _ _ _ _ _ ih => exact ih

/-- The open rows of a sheet are worked off from above until none is left or the person quits. A workbook that is
there is worked on as it is; a run does not get stuck where the person has answered, and it comes to its end. -/
theorem open_rows_worked_off {database : String} {options : Fields}
    (hthreshold : ((options.lookup "--threshold").getD .null).float?.isSome = true)
    (hfull : ∀ sheet, t₀.workbooks.lookup (workbookPath database) = some sheet → sheet.Full)
    (hopen : sheet₀.openRows ≠ [])
    (h : Run index (workbookPath database) (initialState database options) t₀ sheet₀ visits next state t) :
    (∀ sheet, t₀.workbooks.lookup (workbookPath database) = some sheet → sheet = sheet₀) ∧
      ∃ sheet, t.workbooks.lookup (workbookPath database) = some sheet ∧
        Worked (workbookPath database) sheet₀ sheet visits ∧
        (∀ station s t₁, next = some station → t₁.workbooks = t.workbooks →
          Serves index (workbookPath database) station state s t₁ →
          (station = .requestDecision → t₁.choices ≠ []) →
            ∃ after t₂ onward, Gives (station.run index state) s t₁ after t₂ ∧
              nextStation station after = .ok onward) ∧
        (next = none → Finished sheet₀ sheet visits) := by
  have hs : Furnished (workbookPath database) (initialState database options) := furnished_initialState hthreshold
  obtain ⟨sheet, done, row, hh⟩ := h.history hs rfl hfull hopen
  refine ⟨fun sheet hsh => h.origin hs hsh, sheet, hh.standing.found, hh.worked, ?_, ?_⟩
  · rintro station s t₁ rfl hb hse ha
    obtain ⟨after, t₂, onward, _, _, _, hg, hn, -⟩ :=
      (hh.standing.world hb).onward hse ha
    exact ⟨after, t₂, onward, hg, hn⟩
  · rintro rfl
    exact hh.finished h.last

end

/-! ### Carrying a run out -/

/-- A run as far as it has come. -/
structure Progress where
  visits : List Visit
  next : Option Station
  state : Value
  traffic : Traffic

/-- Whether a decision on the row at hand can be written. -/
def canWrite (path : String) (state : Value) (s : Surroundings) (t : Traffic) : Bool :=
  match state.at? "current_row_idx" with
  | some (.int n) =>
    match (carryOut (Workbook.writeDecision (.text path) (.int n) (decisionOf state)) s t).1 with
    | .ok _ => true
    | .error _ => false
  | _ => true

/-- Goes on with a run without a search index to its next station, if there is one; a run that fails there, or
that cannot write a decision, stays where it is. -/
def Progress.step (path : String) (s : Surroundings) (p : Progress) : Progress :=
  match p.next with
  | none => p
  | some station =>
    if canWrite path p.state s p.traffic then
      match carryOut (station.run none p.state) s p.traffic with
      | (.error _, _) => p
      | (.ok after, t) =>
        match nextStation station after with
        | .error _ => p
        | .ok next => ⟨p.visits ++ [⟨station, p.state, p.traffic, after⟩], next, after, t⟩
    else p

def Progress.follow (path : String) (s : Surroundings) : Nat → Progress → Progress
  | 0, p => p
  | n + 1, p => follow path s n (p.step path s)

section

variable {start : Value} {t₀ : Traffic} {sheet₀ : Sheet}

lemma serves_of_canWrite
    (h : canWrite path state s t = true) : Serves none path station state s t := by
  refine ⟨by simp [NamesTables], fun _ r hr => ?_⟩
  have hr' : state.at? "current_row_idx" = some (.int r) := hr
  simp only [canWrite, hr'] at h
  split at h
  case h_1 u hw => exact ⟨_, Prod.ext hw rfl⟩
  case h_2 => cases h

lemma Progress.step_cases (path : String) (s : Surroundings) (p : Progress) : p.step path s = p ∨
    ∃ station after next t, p.next = some station ∧ canWrite path p.state s p.traffic = true ∧
      Gives (station.run none p.state) s p.traffic after t ∧ nextStation station after = .ok next ∧
      p.step path s = ⟨p.visits ++ [⟨station, p.state, p.traffic, after⟩], next, after, t⟩ := by
  unfold Progress.step
  split
  · exact .inl rfl
  case h_2 station hs =>
    split
    case isTrue hw =>
      split
      · exact .inl rfl
      case h_2 after t hr =>
        split
        · exact .inl rfl
        case h_2 next hn => exact .inr ⟨station, after, next, t, hs, hw, hr, hn, rfl⟩
    case isFalse => exact .inl rfl

lemma Progress.follow_of_step {P : Progress → Prop} (hs : ∀ p, P p → P (p.step path s))
    (n : Nat) : ∀ {p : Progress}, P p → P (p.follow path s n) := by
  induction n with
  | zero => exact fun h => h
  | succ n ih => exact fun h => ih (hs _ h)

lemma Progress.follow_run (s : Surroundings) (n : Nat) {p : Progress}
    (h : Run none path start t₀ sheet₀ p.visits p.next p.state p.traffic) :
    Run none path start t₀ sheet₀ (p.follow path s n).visits (p.follow path s n).next (p.follow path s n).state
      (p.follow path s n).traffic := by
  refine follow_of_step (P := fun p => Run none path start t₀ sheet₀ p.visits p.next p.state p.traffic) ?_ n h
  intro p h
  obtain hs | ⟨station, after, next, t, hst, hw, hr, hn, heq⟩ := p.step_cases path s
  · rw [hs]
    exact h
  · rw [heq]
    rw [hst] at h
    exact h.visit rfl (serves_of_canWrite hw) hr hn

end

/-! A sheet with two open rows and a row between them that is decided; nothing can be searched, so the open rows
are left out. -/

def orderRow (column base : String) (decision : List Value) : List Value :=
  [.text "orders", .text column, .text base, .text "NO"] ++ replicate 10 .null ++ decision

def shopSheet : Sheet where
  rows := [headings.map .text, orderRow "userID" "user" (replicate 5 .null),
    orderRow "productID" "product" ["[EXISTING]", "N/A", "existing", .null, "Explicit FK exists"],
    orderRow "storeID" "store" (replicate 5 .null)]

def emptyDatabase : Surroundings where
  env := [("USE_TEST_DB", "true")]
  inspector := some []

def shopTraffic : Traffic where
  workbooks := [(workbookPath "shop", shopSheet)]

def shopOptions : Fields := [("--threshold", .int 1)]

/-- The work on the sheet once it is prepared. -/
def shopBeginning : Progress where
  visits := []
  next := some .loadNextRow
  state := (initialState "shop" shopOptions).update [("schema", .list []), ("total_rows", .nat 0),
    ("last_step", "initialize")]
  traffic := { shopTraffic with requests := [.createEngine "sqlite:///./sample-db.db", .disposeEngine] }

def shopEnd : Progress := shopBeginning.follow (workbookPath "shop") emptyDatabase 13

lemma shopEnd_run : Run none (workbookPath "shop") (initialState "shop" shopOptions) shopTraffic shopSheet
    shopEnd.visits shopEnd.next shopEnd.state shopEnd.traffic := by
  refine Progress.follow_run emptyDatabase 13 ?_
  have hp : Gives (prepare (initialState "shop" shopOptions)) emptyDatabase shopTraffic shopBeginning.state
    shopBeginning.traffic := by rfl
  exact .prepared hp (by simp [shopBeginning, shopTraffic])

theorem open_rows_worked_off_shop :
    shopSheet.openRows = [2, 4] ∧ rowsVisited shopEnd.visits = [2, 4] ∧ shopEnd.visits.length = 13 ∧
      ∃ sheet, shopEnd.traffic.workbooks.lookup (workbookPath "shop") = some sheet ∧
        sheet.Decided 2 ∧ sheet.Decided 4 ∧ sheet.rows[2]? = shopSheet.rows[2]? := by
  have ho : shopSheet.openRows = [2, 4] := by decide +kernel
  have he : (rowsVisited shopEnd.visits, shopEnd.visits.length, shopEnd.next,
      shopEnd.visits.all (·.station ≠ .requestDecision)) = ([2, 4], 13, none, true) := by decide +kernel
  simp only [Prod.mk.injEq] at he
  obtain ⟨hr, hl, hn, ha⟩ := he
  have hfu : ∀ sheet, shopTraffic.workbooks.lookup (workbookPath "shop") = some sheet → sheet.Full := by
    intro sheet hs
    have hsh : shopSheet = sheet := by simpa [shopTraffic] using hs
    exact hsh ▸ by decide
  obtain ⟨-, sheet, hfo, hw, -, hf⟩ :=
    open_rows_worked_off rfl hfu (by simp [ho]) shopEnd_run
  refine ⟨ho, hr, hl, sheet, hfo, ?_⟩
  rcases (hf hn).rows with ⟨-, hd, -⟩ | ⟨_, r, -, -, v, hv, hq⟩
  · rw [ho] at hd
    exact ⟨hd 2 (by simp), hd 4 (by simp), hw.others 2 (by simp [hr])⟩
  · rw [all_eq_true] at ha
    simpa [hq.1] using ha v hv

end QueryDesk.Mapping
