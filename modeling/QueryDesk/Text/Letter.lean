import QueryDesk.Text.Ranges

/-!
Classes and case of single characters, for every script. ASCII is decided by comparison, the rest by
tables, so a name written in any alphabet is treated like one written in Latin letters.
-/

namespace QueryDesk.Text

/-- Whether a code point lies in a class that is written as stretches outside and inside in turn. -/
def inStretches : List Nat → Nat → Bool
  | outside :: inside :: rest, n =>
    outside ≤ n && (n < outside + inside || inStretches rest (n - (outside + inside)))
  | _, _ => false

/-- Blank characters: what a trim removes and what parts words. -/
def isBlank (c : Char) : Bool :=
  let n := c.toNat
  n == 0x20 || (0x09 ≤ n && n ≤ 0x0d) || (0x1c ≤ n && n ≤ 0x1f) || n == 0x85 || n == 0xa0 ||
    n == 0x1680 || (0x2000 ≤ n && n ≤ 0x200a) || n == 0x2028 || n == 0x2029 || n == 0x202f ||
    n == 0x205f || n == 0x3000

def isCapital (c : Char) : Bool := 'A' ≤ c && c ≤ 'Z'

def isSmall (c : Char) : Bool := 'a' ≤ c && c ≤ 'z'

def isDecimal (c : Char) : Bool :=
  if c.toNat < 128 then '0' ≤ c && c ≤ '9'
  else Ranges.decimal.any fun first => first ≤ c.toNat && c.toNat < first + 10

def isDigit (c : Char) : Bool := isDecimal c || inStretches Ranges.otherDigit c.toNat

def isAlnum (c : Char) : Bool :=
  if c.toNat < 128 then isCapital c || isSmall c || ('0' ≤ c && c ≤ '9')
  else inStretches Ranges.alnum c.toNat

def isWord (c : Char) : Bool := c == '_' || isAlnum c

def isPrintable (c : Char) : Bool :=
  if c.toNat < 128 then 0x20 ≤ c.toNat && c.toNat < 0x7f
  else !inStretches Ranges.unprintable c.toNat

def isTitled (c : Char) : Bool := inStretches Ranges.titled c.toNat

def isCaseIgnorable (c : Char) : Bool := inStretches Ranges.caseIgnorable c.toNat

/-- The code point that a character in one of the runs changes to. -/
def lowerOne (n : Nat) : Nat :=
  match Ranges.toLower.find? fun (a, b, step, _, _) => a ≤ n && n ≤ b && (n - a) % step == 0 with
  | some (_, _, _, up, by_) => if up then n + by_ else n - by_
  | none => n

/-- The first code point of the runs that changes to a character. -/
def raiseOne (n : Nat) : Nat :=
  let back (up : Bool) (by_ : Nat) := if up then n - by_ else n + by_
  let run? := Ranges.toLower.find? fun (a, b, step, up, by_) =>
    a ≤ back up by_ && back up by_ ≤ b && (back up by_ - a) % step == 0
  match run? with
  | some (_, _, _, up, by_) => back up by_
  | none => n

def changed (listed? : Nat → Option (List Nat)) (otherwise : Nat → Nat) (c : Char) : List Char :=
  match listed? c.toNat with
  | some ns => ns.map Char.ofNat
  | none => [Char.ofNat (otherwise c.toNat)]

def lowerChar (c : Char) : List Char :=
  if c.toNat < 128 then (if isCapital c then [Char.ofNat (c.toNat + 32)] else [c])
  else changed (Ranges.toLowerMany.lookup ·) lowerOne c

/-- Upper case that is not the way back. Greek vowels with an iota below them have it behind them as a letter. -/
def raisedMany? (n : Nat) : Option (List Nat) :=
  if 8064 ≤ n && n < 8112 then some [[7944, 7976, 8040].getD ((n - 8064) / 16) 0 + n % 8, 921]
  else Ranges.toUpper.lookup n

def upperChar (c : Char) : List Char :=
  if c.toNat < 128 then (if isSmall c then [Char.ofNat (c.toNat - 32)] else [c])
  else changed raisedMany? raiseOne c

/-- The title case of a letter that the table of title case does not have: of the upper case the first letter, and the
others small, an iota below. Georgian letters stay as they are. -/
def titledMany? (n : Nat) : Option (List Nat) :=
  if inStretches Ranges.titled n || (0x10d0 ≤ n && n ≤ 0x10ff) then some [n]
  else if raiseOne n != n then some [raiseOne n]
  else (raisedMany? n).map fun ns => ns.take 1 ++ (ns.drop 1).flatMap fun m =>
    if m == 921 then [837] else (lowerChar (Char.ofNat m)).map Char.toNat

def titleChar (c : Char) : List Char :=
  if c.toNat < 128 then (if isSmall c then [Char.ofNat (c.toNat - 32)] else [c])
  else changed (fun n => (Ranges.toTitle.lookup n).or (titledMany? n)) id c

def isUpper (c : Char) : Bool :=
  if c.toNat < 128 then isCapital c
  else lowerChar c != [c] && !isTitled c || inStretches Ranges.onlyUpper c.toNat

def isLower (c : Char) : Bool :=
  if c.toNat < 128 then isSmall c
  else upperChar c != [c] && !isTitled c || inStretches Ranges.onlyLower c.toNat

def isCased (c : Char) : Bool := isUpper c || isLower c || isTitled c

/-- Whether a character stands for an ASCII letter when case does not count. Beside the two cases
of the letter these are the long s, the Kelvin sign and the dotted and dotless i. -/
def matchesLetter (letter c : Char) : Bool :=
  lowerChar c == lowerChar letter ||
    (let l := lowerChar letter
     (l == ['s'] && c.toNat == 0x17f) || (l == ['k'] && c.toNat == 0x212a) ||
       (l == ['i'] && (c.toNat == 0x130 || c.toNat == 0x131)))

end QueryDesk.Text
