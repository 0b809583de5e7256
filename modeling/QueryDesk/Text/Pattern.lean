import QueryDesk.Text.Basic

/-!
File name patterns: `*` stands for any run of characters, `?` for one character and `[...]` for one of
those between the brackets, or none of them after `!`. A name that begins with a dot is met only by a
pattern that begins with one.
-/

namespace QueryDesk.Text

inductive Wild where
  | run
  | any
  | only (c : Char)
  | within (negated : Bool) (ranges : List (Char × Char))
  deriving DecidableEq

/-- The ranges between brackets; a dash between two characters spans them. -/
def wildRanges : List Char → List (Char × Char)
  | a :: '-' :: b :: rest => (a, b) :: wildRanges rest
  | a :: rest => (a, a) :: wildRanges rest
  | [] => []

/-- The text between brackets and what follows them. The first character is never the closing one. -/
def bracketed? (cs : List Char) : Option (List Char × List Char) :=
  match cs with
  | [] => none
  | c :: rest =>
    match rest.dropWhile (· != ']') with
    | [] => none
    | _ :: after => some (c :: rest.takeWhile (· != ']'), after)

/-- The parts of a pattern; `fuel` bounds their number. -/
def wildParts : Nat → List Char → List Wild
  | 0, _ => []
  | _, [] => []
  | fuel + 1, c :: rest =>
    if c == '*' then .run :: wildParts fuel rest
    else if c == '?' then .any :: wildParts fuel rest
    else if c == '[' then
      let (negated, body) := match rest with
        | '!' :: r => (true, r)
        | r => (false, r)
      match bracketed? body with
      | some (inside, after) => .within negated (wildRanges inside) :: wildParts fuel after
      | none => .only c :: wildParts fuel rest
    else .only c :: wildParts fuel rest

def Wild.fits (w : Wild) (c : Char) : Bool :=
  match w with
  | run => false
  | any => true
  | only d => c == d
  | within negated ranges => (ranges.any fun r => r.1 ≤ c && c ≤ r.2) != negated

def anyEnd (p : List Char → Bool) : List Char → Bool
  | [] => p []
  | c :: rest => p (c :: rest) || anyEnd p rest

def fitsParts : List Wild → List Char → Bool
  | [], cs => cs.isEmpty
  | .run :: ws, cs => anyEnd (fitsParts ws) cs
  | w :: ws, c :: cs => w.fits c && fitsParts ws cs
  | _ :: _, [] => false

def fitsPattern (pattern name : String) : Bool :=
  let cs := pattern.toList
  (startsWith pattern "." || !startsWith name ".") && fitsParts (wildParts cs.length cs) name.toList

/-!
### Words in which case does not count

Two letters are the same when their lower cases are, or when they are variants of one letter, such as the two small
sigmas.
-/

def letterVariants : List (List Nat) := [
  [0x69, 0x131], [0x73, 0x17f], [0xb5, 0x3bc], [0x345, 0x3b9, 0x1fbe], [0x390, 0x1fd3], [0x3b0, 0x1fe3],
  [0x3b2, 0x3d0], [0x3b5, 0x3f5], [0x3b8, 0x3d1], [0x3ba, 0x3f0], [0x3c0, 0x3d6], [0x3c1, 0x3f1],
  [0x3c2, 0x3c3], [0x3c6, 0x3d5], [0x432, 0x1c80], [0x434, 0x1c81], [0x43e, 0x1c82], [0x441, 0x1c83],
  [0x442, 0x1c84, 0x1c85], [0x44a, 0x1c86], [0x463, 0x1c87], [0x1c88, 0xa64b], [0x1e61, 0x1e9b],
  [0xfb05, 0xfb06]]

def smallLetter (c : Char) : Char := (lowerChar c).headD c

/-- Whether two characters are the same when case does not count. -/
def sameLetter (a b : Char) : Bool :=
  let x := smallLetter a
  let y := smallLetter b
  x == y || letterVariants.any fun vs => vs.contains x.toNat && vs.contains y.toNat

/-- What follows `p` if a text begins with it, case not counted. -/
def looselyAfter? : (p : List Char) → List Char → Option (List Char)
  | [], cs => some cs
  | _ :: _, [] => none
  | a :: p, c :: cs => if sameLetter a c then looselyAfter? p cs else none

/-- Whether a word begins or ends between two neighbours; at the ends of a text there is no neighbour. -/
def isWordEdge (before after : Option Char) : Bool :=
  (before.any isWord) != (after.any isWord)

/-- Whether `p` stands as a whole word in a text, case not counted; `before` is the character before the
text. -/
def hasWordFrom (p : List Char) (before : Option Char) : List Char → Bool
  | [] => p.isEmpty && isWordEdge before none
  | c :: rest =>
    (isWordEdge before (some c) &&
      match looselyAfter? p (c :: rest) with
      | some after => isWordEdge (p.getLast?.or before) after.head?
      | none => false) ||
    hasWordFrom p (some c) rest

def hasWord (s word : String) : Bool := hasWordFrom word.toList none s.toList

end QueryDesk.Text
