import QueryDesk.Text.Basic

/-!
The clock, and reading a moment from a text: a calendar day such as `2025-01-15`, or a day of a week such as
`2025-W03-3`, with or without hyphens, then any one character, then a time of day and perhaps a distance from
universal time. What is not such a text names no moment.
-/

namespace QueryDesk.Clock

def isLeap (year : Nat) : Bool := (year % 4 == 0 && year % 100 != 0) || year % 400 == 0

def daysIn (year month : Nat) : Nat :=
  if month == 2 then (if isLeap year then 29 else 28)
  else if [4, 6, 9, 11].contains month then 30
  else 31

def nextDay (year month day : Nat) : Nat × Nat × Nat :=
  if day < daysIn year month then (year, month, day + 1)
  else if month < 12 then (year, month + 1, 1)
  else (year + 1, 1, 1)

def numbers (sep s : String) : List Nat := (Text.split s sep).map fun p => p.toNat?.getD 0

def later (moment : String) : String :=
  match numbers "-" (Text.take moment 10), numbers ":" (Text.take (Text.drop moment 11) 8) with
  | [year, month, day], [hour, minute, second] =>
    let seconds := hour * 3600 + minute * 60 + second + 1
    let (year, month, day) := if seconds < 86400 then (year, month, day) else nextDay year month day
    let seconds := seconds % 86400
    let two := Text.zeroPadded 2
    Text.zeroPadded 4 year ++ "-" ++ two month ++ "-" ++ two day ++ "T" ++ two (seconds / 3600) ++ ":" ++
      two (seconds / 60 % 60) ++ ":" ++ two (seconds % 60) ++ Text.drop moment 19
  | _, _ => moment

structure Moment where
  year : Nat
  month : Nat
  day : Nat
  hour : Nat := 0
  minute : Nat := 0
  deriving DecidableEq

/-- A number of exactly so many figures, and what follows it. -/
def figures? : Nat → List Char → Option (Nat × List Char)
  | 0, cs => some (0, cs)
  | n + 1, c :: cs =>
    if c.isDigit then
      (figures? n cs).map fun (v, rest) => ((c.toNat - '0'.toNat) * Nat.pow 10 n + v, rest)
    else none
  | _ + 1, [] => none

def firstWeekday (year : Nat) : Nat :=
  let before := year - 1
  (365 * before + before / 4 - before / 100 + before / 400) % 7

def daysAfter : Nat → Nat × Nat × Nat → Nat × Nat × Nat
  | 0, d => d
  | n + 1, (year, month, day) => daysAfter n (nextDay year month day)

/-- Whether a year has a week of this number. The fifty-third is only there if the year begins on a
Thursday, or on a Wednesday and has a leap day. -/
def hasWeek (year week : Nat) : Bool :=
  (1 ≤ week && week ≤ 52) ||
    (week == 53 && (firstWeekday year == 3 || (firstWeekday year == 2 && isLeap year)))

/-- The calendar day of a day in a week. The first week is the one with the first Thursday. -/
def dayOfWeek? (year week weekday : Nat) : Option (Nat × Nat × Nat) :=
  if !hasWeek year week || weekday == 0 || 7 < weekday then none
  else
    let first := firstWeekday year
    let days := (week - 1) * 7 + (weekday - 1)
    if 3 < first then some (daysAfter (days + 7 - first) (year, 1, 1))
    else if first ≤ days then some (daysAfter (days - first) (year, 1, 1))
    else some (year - 1, 12, 32 + days - first)

/-- The rest of a text behind a hyphen, if a hyphen is wanted. -/
def afterHyphen? (wanted : Bool) (cs : List Char) : Option (List Char) :=
  if !wanted then some cs
  else match cs with
    | '-' :: rest => some rest
    | _ => none

def readDay? (cs : List Char) : Option (Nat × Nat × Nat) := do
  let (year, rest) ← figures? 4 cs
  let hyphens := rest.head? == some '-'
  let rest := if hyphens then rest.drop 1 else rest
  match rest with
  | 'W' :: rest =>
    let (week, rest) ← figures? 2 rest
    if rest.isEmpty then dayOfWeek? year week 1
    else
      let (weekday, _) ← figures? 1 (← afterHyphen? hyphens rest)
      dayOfWeek? year week weekday
  | rest =>
    let (month, rest) ← figures? 2 rest
    let (day, rest) ← figures? 2 (← afterHyphen? hyphens rest)
    if rest.isEmpty then some (year, month, day) else none

def dayLength (cs : List Char) : Option Nat :=
  let at_ := fun (i : Nat) => cs[i]?
  if cs.length == 7 then some 7
  else if at_ 4 == some '-' then
    if at_ 5 == some 'W' then
      if 8 < cs.length && at_ 8 == some '-' then
        if cs.length == 9 then none
        else if (at_ 10).any Char.isDigit then some 8
        else some 10
      else some 8
    else some 10
  else if at_ 4 == some 'W' then
    let n := 7 + ((cs.drop 7).takeWhile Char.isDigit).length
    if n < 9 then some n else if n % 2 == 0 then some 7 else some 8
  else some 8

/-- What was read of a time of day: its numbers, and whether something is left. -/
structure Reading where
  numbers : List Nat
  left : Bool

/-- The parts of a second, which are not kept. -/
def readFraction? (numbers : List Nat) (followed : Bool) (cs : List Char) : Option Reading := do
  let (_, rest) ← figures? (min 6 cs.length) cs
  let rest := rest.dropWhile Char.isDigit
  return ⟨numbers, followed || !rest.isEmpty⟩

/-- The numbers of a time of day, of which at most `count` are still to come. The first separator decides
whether there are colons; `followed` tells whether something comes behind the time. -/
def readTime? (followed : Bool) : (count : Nat) → (colons : Option Bool) → List Nat → List Char → Option Reading
  | 0, _, numbers, cs => readFraction? numbers followed cs
  | count + 1, colons, numbers, cs => do
    let (n, rest) ← figures? 2 cs
    let numbers := numbers ++ [n]
    match rest with
    | [] => some ⟨numbers, followed⟩
    | [c] => if c.toNat < 128 then some ⟨numbers, true⟩ else none
    | c :: rest =>
      let colons := colons.getD (c == ':')
      if colons && c == ':' then readTime? followed count (some colons) numbers rest
      else if c == '.' || c == ',' then readFraction? numbers followed rest
      else if !colons then readTime? followed count (some colons) numbers (c :: rest)
      else none

def beginsOffset (c : Char) : Bool := c == '+' || c == '-' || c == 'Z'

/-- Whether some characters are a distance from universal time, or nothing at all. -/
def isOffset : List Char → Bool
  | [] => true
  | 'Z' :: rest => rest.isEmpty
  | _ :: rest =>
    match readTime? false 3 none [] rest with
    | some ⟨numbers, false⟩ =>
      match numbers with
      | [h] => h < 24
      | [h, m] => h * 60 + m < 1440
      | [h, m, s] => h * 3600 + m * 60 + s < 86400
      | _ => false
    | _ => false

/-- The numbers of a time of day that stands at the end of a moment. -/
def timeOfDay? (cs : List Char) : Option (List Nat) := do
  let time := cs.takeWhile fun c => !beginsOffset c
  let offset := cs.drop time.length
  let r ← readTime? (!offset.isEmpty) 3 none [] time
  if offset.isEmpty && r.left then none
  else if isOffset offset then some r.numbers
  else none

def Moment.isValid (m : Moment) (second : Nat) : Bool :=
  1 ≤ m.year && 1 ≤ m.month && m.month ≤ 12 && 1 ≤ m.day && m.day ≤ daysIn m.year m.month &&
    m.hour < 24 && m.minute < 60 && second < 60

def read? (s : String) : Option Moment := do
  let cs := s.toList
  if cs.length < 7 then none
  else
    let size ← dayLength cs
    let (year, month, day) ← readDay? (cs.take size)
    let numbers ← if cs.length ≤ size then some [] else timeOfDay? (cs.drop (size + 1))
    let number := fun (i : Nat) => numbers[i]?.getD 0
    let m : Moment := ⟨year, month, day, number 0, number 1⟩
    if m.isValid (number 2) then some m else none

end QueryDesk.Clock
