import Mathlib.Data.List.Basic
import QueryDesk.Document.Display

/-!
The characters of numbers. Whatever number is written, whole or not, finite or not, its text is not empty and holds
digits, signs, a point and the letters of an exponent, of infinity and of the value that is no number.
-/

namespace QueryDesk.Number

open List

def isNumberChar (c : Char) : Bool := c.isDigit || "+-.aefin".toList.contains c

def AreNumberChars (cs : List Char) : Prop := ∀ c ∈ cs, isNumberChar c = true

def IsNumberText (s : String) : Prop := s.toList ≠ [] ∧ AreNumberChars s.toList

instance (cs : List Char) : Decidable (AreNumberChars cs) :=
  decidable_of_iff (cs.all isNumberChar = true) all_eq_true

instance (s : String) : Decidable (IsNumberText s) :=
  decidable_of_iff (s.toList.isEmpty = false ∧ s.toList.all isNumberChar = true) <|
    and_congr isEmpty_eq_false_iff all_eq_true

lemma AreNumberChars.append (hcs : AreNumberChars cs) (hds : AreNumberChars ds) :
    AreNumberChars (cs ++ ds) := by
  intro c hc
  rcases mem_append.1 hc with hc | hc
  · exact hcs c hc
  · exact hds c hc

lemma IsNumberText.append (hs : AreNumberChars s.toList) (ht : IsNumberText t) : IsNumberText (s ++ t) := by
  rw [IsNumberText, String.toList_append]
  exact ⟨append_ne_nil_of_right_ne_nil _ ht.1, hs.append ht.2⟩

lemma areNumberChars_zeros (n : Nat) : AreNumberChars (replicate n '0') := by
  intro c hc
  rw [eq_of_mem_replicate hc]
  rfl

lemma areNumberChars_digitsOf (n : Nat) : AreNumberChars (digitsOf n) := by
  intro c hc
  have hd : c.isDigit = true := Nat.isDigit_of_mem_toDigits (by decide) (by decide) hc
  simp [isNumberChar, hd]

lemma isNumberText_nat (n : Nat) : IsNumberText (toString n) := by
  rw [IsNumberText, Nat.toString_eq_repr, Nat.toList_repr]
  exact ⟨Nat.toDigits_ne_nil, areNumberChars_digitsOf n⟩

lemma isNumberText_int (n : Int) : IsNumberText (toString n) := by
  cases n with
  | ofNat m => exact isNumberText_nat m
  | negSucc m => exact IsNumberText.append (by decide : AreNumberChars "-".toList) (isNumberText_nat (m + 1))

lemma areNumberChars_dropZeros (n : Nat) : AreNumberChars (dropZeros (digitsOf n)).1 := by
  intro c hc
  have hc : c ∈ (digitsOf n).reverse := (dropWhile_sublist _).subset (mem_reverse.1 hc)
  exact areNumberChars_digitsOf n c (mem_reverse.1 hc)

lemma isNumberText_decimal (d : Decimal) : IsNumberText d.text := by
  have hk := areNumberChars_dropZeros d.digits
  unfold Decimal.text
  dsimp only
  generalize (dropZeros (digitsOf d.digits)).1 = kept at hk ⊢
  split
  case isTrue =>
    split
    case isTrue =>
      refine ⟨by simp, ?_⟩
      rw [String.toList_append]
      refine AreNumberChars.append (by decide) ?_
      rw [String.toList_ofList]
      exact (areNumberChars_zeros _).append hk
    case isFalse =>
      split
      case isTrue =>
        refine IsNumberText.append ?_ (by decide)
        rw [String.toList_ofList]
        exact hk.append (areNumberChars_zeros _)
      case isFalse =>
        rw [IsNumberText, String.toList_ofList]
        refine ⟨by simp, AreNumberChars.append (AreNumberChars.append ?_ (by decide)) ?_⟩
        · exact fun c hc => hk c (mem_of_mem_take hc)
        · exact fun c hc => hk c (mem_of_mem_drop hc)
  case isFalse =>
    refine IsNumberText.append ?_ ?_
    · rw [String.toList_append]
      refine AreNumberChars.append ?_ (by split <;> decide)
      split
      case h_1 => decide
      case h_2 c _ => simpa using hk
      case h_3 c rest _ _ =>
        rw [String.toList_ofList]
        intro b hb
        rcases mem_cons.1 hb with rfl | hb
        · exact hk b (by simp)
        · rcases mem_cons.1 hb with rfl | hb
          · rfl
          · exact hk b (by simp [hb])
    · split
      · exact IsNumberText.append (by decide) (isNumberText_nat _)
      · exact isNumberText_nat _

lemma isNumberText_float (x : Float) : IsNumberText (shortestText x) := by
  unfold shortestText
  split
  case h_1 => exact (by decide : IsNumberText "nan")
  case h_2 negative _ => cases negative <;> decide
  case h_3 negative m q _ =>
    refine IsNumberText.append ?_ ?_
    · cases negative <;> decide
    · split
      · decide
      · exact isNumberText_decimal _

end QueryDesk.Number
