/-!
Binary floating-point numbers as exact quotients, rounded once: a half goes to the even neighbour. A finite
number is `± m · 2 ^ q`; its shortest text is the decimal of fewest digits among those that read back as the
same number, and its text with fixed places is the exact value rounded.
-/

namespace QueryDesk.Number

/-- The integer nearest to `num / den`; of two equally near ones the even one. -/
def roundDiv (num den : Nat) : Nat :=
  let q := num / den
  let r := num % den
  if 2 * r < den then q
  else if den < 2 * r then q + 1
  else if q % 2 == 0 then q else q + 1

def digitsOf (n : Nat) : List Char := Nat.toDigits 10 n

/-- `n / 10 ^ places` written with exactly that many places. -/
def withPlaces (n places : Nat) : String :=
  if places == 0 then toString n
  else
    let digits := digitsOf n
    let padded := List.replicate (places + 1 - digits.length) '0' ++ digits
    let whole := padded.take (padded.length - places)
    String.ofList (whole ++ ['.'] ++ padded.drop (padded.length - places))

/-- The digits of a whole number in groups of three, counted from the right; the list is reversed. -/
def groupsFrom : List Char → List Char
  | a :: b :: c :: d :: rest => a :: b :: c :: ',' :: groupsFrom (d :: rest)
  | cs => cs

/-- What sixty-four bits stand for. -/
inductive Reading where
  | finite (negative : Bool) (m : Nat) (q : Int)
  | infinite (negative : Bool)
  | notANumber

/-- The number that a float's bits write down. -/
def reading (x : Float) : Reading :=
  let bits : Nat := x.toBits.toNat
  let negative := bits / Nat.pow 2 63 == 1
  let e : Nat := bits / Nat.pow 2 52 % Nat.pow 2 11
  let frac : Nat := bits % Nat.pow 2 52
  if e == 2047 then (if frac == 0 then .infinite negative else .notANumber)
  else if e == 0 then .finite negative frac (-1074)
  else .finite negative (Nat.pow 2 52 + frac) ((e : Int) - 1075)

def isFinite (x : Float) : Bool :=
  match reading x with
  | .finite .. => true
  | _ => false

def quotient (m : Nat) (q : Int) : Nat × Nat :=
  if 0 ≤ q then (m * Nat.pow 2 q.toNat, 1) else (m, Nat.pow 2 (-q).toNat)

/-- Decimal digits and the power of ten of the last one. -/
structure Decimal where
  digits : Nat
  exponent : Int

def width (n : Nat) : Nat := (digitsOf n).length

/-- The least `k` with `num / den < 10 ^ k`, for a positive quotient. -/
def magnitude (num den : Nat) : Int :=
  let guess : Int := (width num : Int) - (width den : Int)
  let below := fun k : Int =>
    if 0 ≤ k then decide (num < den * Nat.pow 10 k.toNat) else decide (num * Nat.pow 10 (-k).toNat < den)
  if below (guess - 1) then guess - 1 else if below guess then guess else guess + 1

/-- The decimals that read back as `m · 2 ^ q` lie between the midpoints to its neighbours, the
midpoints included when `m` is even; all three are in quarters of the last binary place. -/
def readsBack (m : Nat) (q : Int) (c : Nat) (s : Int) : Bool :=
  let atEdge := m == Nat.pow 2 52 && -1074 < q
  let low := if atEdge then 4 * m - 1 else 4 * m - 2
  let high := 4 * m + 2
  let (scale, div) := quotient 1 (q - 2)
  let (num, den) := if 0 ≤ s then (c * Nat.pow 10 s.toNat, 1) else (c, Nat.pow 10 (-s).toNat)
  let value := num * div
  let lo := low * scale * den
  let hi := high * scale * den
  if m % 2 == 0 then lo ≤ value && value ≤ hi else lo < value && value < hi

/-- The first grid, from `n` digits on, with a point that reads back; `fuel` bounds the digits. -/
def shortestFrom (m : Nat) (q : Int) (num den : Nat) (k : Int) : Nat → Nat → Decimal
  | 0, n =>
    let s := k - n
    ⟨if 0 ≤ s then num / (den * Nat.pow 10 s.toNat) else num * Nat.pow 10 (-s).toNat / den, s⟩
  | fuel + 1, n =>
    let s := k - n
    let (top, bottom) :=
      if 0 ≤ s then (num, den * Nat.pow 10 s.toNat) else (num * Nat.pow 10 (-s).toNat, den)
    let down := top / bottom
    let near := roundDiv top bottom
    let far := if near == down then down + 1 else down
    if readsBack m q near s then ⟨near, s⟩
    else if readsBack m q far s then ⟨far, s⟩
    else shortestFrom m q num den k fuel (n + 1)

def shortest (m : Nat) (q : Int) : Decimal :=
  let (num, den) := quotient m q
  shortestFrom m q num den (magnitude num den) 17 1

def dropZeros (digits : List Char) : List Char × Nat :=
  let kept := (digits.reverse.dropWhile (· == '0')).reverse
  (kept, digits.length - kept.length)

/-- A decimal as text: positional from `0.0001` up to below `10 ^ 16`, with a point and a digit after
it; otherwise one digit, the rest behind a point, and a signed exponent of at least two digits. -/
def Decimal.text (d : Decimal) : String :=
  let all := digitsOf d.digits
  let (kept, zeros) := dropZeros all
  let exponent := d.exponent + zeros
  let point : Int := kept.length + exponent
  if -4 < point && point ≤ 16 then
    if point ≤ 0 then
      "0." ++ String.ofList (List.replicate (-point).toNat '0' ++ kept)
    else if 0 ≤ exponent then
      String.ofList (kept ++ List.replicate exponent.toNat '0') ++ ".0"
    else
      String.ofList (kept.take point.toNat ++ ['.'] ++ kept.drop point.toNat)
  else
    let e := point - 1
    let mantissa := match kept with
      | [] => "0"
      | [c] => String.singleton c
      | c :: rest => String.ofList (c :: '.' :: rest)
    let size := toString e.natAbs
    mantissa ++ (if e < 0 then "e-" else "e+") ++ (if size.length < 2 then "0" ++ size else size)

def shortestText (x : Float) : String :=
  match reading x with
  | .notANumber => "nan"
  | .infinite negative => if negative then "-inf" else "inf"
  | .finite negative m q =>
    (if negative then "-" else "") ++ (if m == 0 then "0.0" else (shortest m q).text)

def fixedText (places : Nat) (x : Float) : String :=
  match reading x with
  | .notANumber => "nan"
  | .infinite negative => if negative then "-inf" else "inf"
  | .finite negative m q =>
    let (num, den) := quotient m q
    (if negative then "-" else "") ++ withPlaces (roundDiv (num * Nat.pow 10 places) den) places

def roundTo (places : Nat) (x : Float) : Float :=
  match reading x with
  | .finite negative m q =>
    let (num, den) := quotient m q
    let y := Float.ofScientific (roundDiv (num * Nat.pow 10 places) den) true places
    if negative then -y else y
  | _ => x

def wholePart (x : Float) : Int :=
  match reading x with
  | .finite negative m q =>
    let (num, den) := quotient m q
    let n : Int := ((num / den : Nat) : Int)
    if negative then -n else n
  | _ => 0

/-- The exact comparison of a whole number with a float, if the float is finite. -/
def compareInt (n : Int) (x : Float) : Option Ordering :=
  match reading x with
  | .finite negative m q =>
    let (num, den) := quotient m q
    some (compare (n * den) (if negative then -(num : Int) else num))
  | .infinite negative => some (if negative then .gt else .lt)
  | .notANumber => none

/-- The number `m · 10 ^ e`; beyond the range of floats it is infinite or zero. -/
def scientific (m : Nat) (e : Int) : Float :=
  if m == 0 then 0.0
  else if 5000 < e then 1.0 / 0.0
  else if e + (width m : Int) < -5000 then 0.0
  else if 0 ≤ e then Float.ofScientific m false e.toNat else Float.ofScientific m true (-e).toNat

/-! ### A fixed number of significant digits -/

/-- The nearest decimal to a positive quotient that has the given number of digits. -/
def significant (digits : Nat) (num den : Nat) : Decimal :=
  let s := magnitude num den - digits
  let c := if 0 ≤ s then roundDiv num (den * Nat.pow 10 s.toNat) else roundDiv (num * Nat.pow 10 (-s).toNat) den
  ⟨c, s⟩

def Decimal.trimmed (d : Decimal) : Decimal :=
  let (kept, zeros) := dropZeros (digitsOf d.digits)
  ⟨kept.foldl (fun n c => 10 * n + (c.toNat - '0'.toNat)) 0, d.exponent + zeros⟩

def Decimal.point (d : Decimal) : Int := (width d.digits : Int) + d.exponent

/-!
### Quotients of whole numbers

The quotient is taken with more bits than a float has, and its last bit tells whether anything was left over, so
that rounding once gives the nearest float.
-/

def naturalRatio (num den : Nat) : Float :=
  if num < Nat.pow 2 53 && den < Nat.pow 2 53 then Float.ofNat num / Float.ofNat den
  else
    let shift := 70 + den.log2 - min num.log2 (70 + den.log2)
    let scaled := num * Nat.pow 2 shift
    let q := scaled / den
    let q := if scaled % den == 0 then 2 * q else 2 * q + 1
    (Float.ofNat q).scaleB (-(shift + 1 : Int))

def ratio (num den : Int) : Float :=
  let x := naturalRatio num.natAbs den.natAbs
  if (num < 0) == (den < 0) then x else -x

end QueryDesk.Number
