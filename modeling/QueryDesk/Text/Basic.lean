import QueryDesk.Text.Letter

/-!
Operations on text: case, trimming, searching, replacing, cutting and joining. Each is a walk over the
list of characters, with a wrapper on strings.
-/

namespace QueryDesk.Text

/-- What precedes the character under the walk, nearest first, decides whether a capital sigma ends
its word: a cased letter before it, past marks, and none after it. -/
def endsWord (before after : List Char) : Bool :=
  let cased := fun cs : List Char =>
    match cs.dropWhile isCaseIgnorable with
    | c :: _ => isCased c
    | [] => false
  cased before && !cased after

def lowerIn (before : List Char) (c : Char) (after : List Char) : List Char :=
  if c.toNat == 0x3a3 then (if endsWord before after then [Char.ofNat 0x3c2] else [Char.ofNat 0x3c3])
  else lowerChar c

def lowerFrom (before : List Char) : List Char → List Char
  | [] => []
  | c :: rest => lowerIn before c rest ++ lowerFrom (c :: before) rest

def lower (s : String) : String := String.ofList (lowerFrom [] s.toList)

def upper (s : String) : String := String.ofList (s.toList.flatMap upperChar)

/-- Title case along a text: a letter is raised unless it follows a letter that has case. -/
def titleFrom (before : List Char) : List Char → List Char
  | [] => []
  | c :: rest =>
    let inWord := match before with
      | p :: _ => isCased p
      | [] => false
    (if inWord then lowerIn before c rest else titleChar c) ++ titleFrom (c :: before) rest

def title (s : String) : String := String.ofList (titleFrom [] s.toList)

/-- Only capitals among the letters that have case, and at least one of them. -/
def allUpper (s : String) : Bool :=
  s.toList.all (fun c => !isLower c && !isTitled c) && s.toList.any isUpper

def allDigits (s : String) : Bool := !s.isEmpty && s.toList.all isDigit

def trimStart (drop : Char → Bool) (s : String) : String := String.ofList (s.toList.dropWhile drop)

def trimEnd (drop : Char → Bool) (s : String) : String :=
  String.ofList (s.toList.reverse.dropWhile drop).reverse

def trimBy (drop : Char → Bool) (s : String) : String := trimEnd drop (trimStart drop s)

def trim (s : String) : String := trimBy isBlank s

def startsWith (s p : String) : Bool := p.toList.isPrefixOf s.toList

def endsWith (s p : String) : Bool := p.toList.isSuffixOf s.toList

def occursIn (p : List Char) : List Char → Bool
  | [] => p.isEmpty
  | c :: rest => p.isPrefixOf (c :: rest) || occursIn p rest

def contains (s needle : String) : Bool := occursIn needle.toList s.toList

def positionOf (p : List Char) : List Char → Option Nat
  | [] => if p.isEmpty then some 0 else none
  | c :: rest => if p.isPrefixOf (c :: rest) then some 0 else (positionOf p rest).map (· + 1)

def find? (s needle : String) : Option Nat := positionOf needle.toList s.toList

/-- Replacement along a text; `skip` characters still belong to the occurrence just replaced. -/
def replaceFrom (old new : List Char) : Nat → List Char → List Char
  | _, [] => []
  | skip + 1, _ :: rest => replaceFrom old new skip rest
  | 0, c :: rest =>
    if old.isPrefixOf (c :: rest) then new ++ replaceFrom old new (old.length - 1) rest
    else c :: replaceFrom old new 0 rest

/-- Every occurrence of a nonempty `old`, from the left and without overlap, becomes `new`. -/
def replace (s old new : String) : String :=
  if old.isEmpty then s else String.ofList (replaceFrom old.toList new.toList 0 s.toList)

/-- A text in which ⟨ and ⟩ stand for braces. -/
def braced (s : String) : String := replace (replace s "⟨" "\x7b") "⟩" "\x7d"

/-- The pieces between occurrences of `sep`; `piece` is the open piece, reversed. -/
def splitFrom (sep : List Char) (piece : List Char) : Nat → List Char → List (List Char)
  | _, [] => [piece.reverse]
  | skip + 1, _ :: rest => splitFrom sep piece skip rest
  | 0, c :: rest =>
    if sep.isPrefixOf (c :: rest) then piece.reverse :: splitFrom sep [] (sep.length - 1) rest
    else splitFrom sep (c :: piece) 0 rest

def split (s sep : String) : List String := (splitFrom sep.toList [] 0 s.toList).map String.ofList

def cut? (s sep : String) : Option (String × String) :=
  (find? s sep).map fun i =>
    (String.ofList (s.toList.take i), String.ofList (s.toList.drop (i + sep.length)))

/-- The words of a text, parted by runs of blanks. -/
def wordsFrom (word : List Char) : List Char → List (List Char)
  | [] => if word.isEmpty then [] else [word.reverse]
  | c :: rest =>
    if isBlank c then (if word.isEmpty then wordsFrom [] rest else word.reverse :: wordsFrom [] rest)
    else wordsFrom (c :: word) rest

def words (s : String) : List String := (wordsFrom [] s.toList).map String.ofList

/-- The pieces put together with `sep` between them. -/
def join (sep : String) : List String → String
  | [] => ""
  | [s] => s
  | s :: rest => s ++ sep ++ join sep rest

def joinLines (lines : List String) : String := join "\n" lines

def take (s : String) (n : Nat) : String := String.ofList (s.toList.take n)

def drop (s : String) (n : Nat) : String := String.ofList (s.toList.drop n)

def repeated (s : String) (n : Nat) : String := String.join (List.replicate n s)

def zeroPadded (width n : Nat) : String :=
  let digits := toString n
  repeated "0" (width - digits.length) ++ digits

/-!
### Texts between quotes, as they are shown inside a list or an object

Single quotes are taken unless the text holds a single quote and no double one; what cannot be seen is written by
its code point.
-/

def hexPadded (width n : Nat) : List Char :=
  let digits := Nat.toDigits 16 n
  List.replicate (width - digits.length) '0' ++ digits

def quoteChar (mark c : Char) : List Char :=
  if c == mark || c == '\\' then ['\\', c]
  else if c == '\n' then ['\\', 'n']
  else if c == '\r' then ['\\', 'r']
  else if c == '\t' then ['\\', 't']
  else if isPrintable c then [c]
  else if c.toNat < 0x100 then '\\' :: 'x' :: hexPadded 2 c.toNat
  else if c.toNat < 0x10000 then '\\' :: 'u' :: hexPadded 4 c.toNat
  else '\\' :: 'U' :: hexPadded 8 c.toNat

def quoted (s : String) : String :=
  let cs := s.toList
  let mark := if cs.contains '\'' && !cs.contains '"' then '"' else '\''
  String.ofList (mark :: cs.flatMap (quoteChar mark) ++ [mark])

/-! ### Text from octets; what encodes no character is left out -/

/-- A character under way: how many octets are missing, its value so far, and the bounds of the next
octet. -/
structure Pending where
  missing : Nat
  value : Nat
  low : Nat := 0x80
  high : Nat := 0xbf

/-- What an octet begins: a character of its own, a longer one, or nothing. -/
def begins (b : Nat) : Option (Char ⊕ Pending) :=
  if b < 0x80 then some (.inl (Char.ofNat b))
  else if 0xc2 ≤ b && b ≤ 0xdf then some (.inr ⟨1, b - 0xc0, 0x80, 0xbf⟩)
  else if 0xe0 ≤ b && b ≤ 0xef then
    some (.inr ⟨2, b - 0xe0, if b == 0xe0 then 0xa0 else 0x80, if b == 0xed then 0x9f else 0xbf⟩)
  else if 0xf0 ≤ b && b ≤ 0xf4 then
    some (.inr ⟨3, b - 0xf0, if b == 0xf0 then 0x90 else 0x80, if b == 0xf4 then 0x8f else 0xbf⟩)
  else none

/-- The characters along octets. An octet that does not continue the character under way begins anew. -/
def charsOf : Option Pending → List Nat → List Char
  | _, [] => []
  | none, b :: rest => start b rest
  | some p, b :: rest =>
    if p.low ≤ b && b ≤ p.high then
      let value := p.value * 64 + (b - 0x80)
      if p.missing == 1 then Char.ofNat value :: charsOf none rest
      else charsOf (some ⟨p.missing - 1, value, 0x80, 0xbf⟩) rest
    else start b rest
where
  start (b : Nat) (rest : List Nat) : List Char :=
    match begins b with
    | some (.inl c) => c :: charsOf none rest
    | some (.inr p) => charsOf (some p) rest
    | none => charsOf none rest

def ofOctets (octets : List Nat) : String := String.ofList (charsOf none octets)

/-!
### The left margin

A margin is the blanks that all lines have in common; lines of nothing but blanks have no part in it and lose
their blanks.
-/

def isMarginBlank (c : Char) : Bool := c == ' ' || c == '\t'

def clearBlankLine (line : List Char) : List Char := if line.all isMarginBlank then [] else line

def commonStart : List Char → List Char → List Char
  | a :: as, b :: bs => if a == b then a :: commonStart as bs else []
  | _, _ => []

def marginOf (lines : List (List Char)) : List Char :=
  match (lines.filter fun l => !l.isEmpty).map fun l => l.takeWhile isMarginBlank with
  | [] => []
  | first :: rest => rest.foldl commonStart first

def withoutMargin (s : String) : String :=
  let lines := (splitFrom ['\n'] [] 0 s.toList).map clearBlankLine
  let width := (marginOf lines).length
  joinLines (lines.map fun l => String.ofList (l.drop width))

/-- Pieces between line breaks, each set in by four blanks as often as `depth` says. -/
def setIn (depth : Nat) (pieces : List String) : String :=
  let margin := repeated "    " depth
  let lines := pieces.map fun p => if p.isEmpty then p else margin ++ p
  "\n" ++ joinLines lines ++ "\n" ++ margin

/-- Pieces set in, and then the margin of the whole taken away. A piece of several lines is set in at its
first line and takes part in the margin with all of them. -/
def block (depth : Nat) (pieces : List String) : String := withoutMargin (setIn depth pieces)

def lines (s : String) : List String := split s "\n"

def plainLines (s : String) : String := replace (replace s "\r\n" "\n") "\r" "\n"

/-- The lines of a text, each with the end it has; the line so far is given from its end. -/
def linesFrom (line : List Char) : List Char → List (List Char)
  | [] => if line.isEmpty then [] else [line.reverse]
  | c :: rest => if c == '\n' then (c :: line).reverse :: linesFrom [] rest else linesFrom (c :: line) rest

def linesOf (s : String) : List String := (linesFrom [] s.toList).map String.ofList

end QueryDesk.Text
