import QueryDesk.Text.Basic

/-!
How alike two texts are. The longest block that both have in common is taken, then the longest ones
before and behind it, and so on; twice the number of characters in these blocks over the number of all
characters is the likeness. It is kept as a pair of whole numbers and compared exactly.
-/

namespace QueryDesk.Text

/-- A block common to two texts: where it starts in each, and how long it is. -/
structure Block where
  left : Nat
  right : Nat
  size : Nat

/-- The lengths of the blocks that end at `c` and each place of `right`, from the lengths for the
character before; a character that `skip` holds of ends no block. -/
def blockRow (skip : Char → Bool) (c : Char) : Nat → List Char → List Nat → List Nat
  | _, [], _ => []
  | before, d :: ds, row =>
    (if c == d && !skip d then before + 1 else 0) :: blockRow skip c (row.headD 0) ds row.tail

def bestOf (i : Nat) (best : Block) (row : List Nat) : Block :=
  (row.zipIdx).foldl (fun b (k, j) => if b.size < k then ⟨i + 1 - k, j + 1 - k, k⟩ else b) best

/-- The best block over the rows. -/
def blockFrom (skip : Char → Bool) (right : List Char) :
    Nat → List Nat → Block → List Char → Block
  | _, _, best, [] => best
  | i, row, best, c :: cs =>
    let next := blockRow skip c 0 right row
    blockFrom skip right (i + 1) next (bestOf i best next) cs

def sharedFront : List Char → List Char → Nat
  | a :: as, b :: bs => if a == b then sharedFront as bs + 1 else 0
  | _, _ => 0

/-- A block extended as far as the characters around it agree. -/
def Block.extend (as bs : List Char) (b : Block) : Block :=
  let back := sharedFront (as.take b.left).reverse (bs.take b.right).reverse
  let front := sharedFront (as.drop (b.left + b.size)) (bs.drop (b.right + b.size))
  ⟨b.left - back, b.right - back, b.size + back + front⟩

def longestBlock (skip : Char → Bool) (as bs : List Char) : Block :=
  let found := blockFrom skip bs 0 (bs.map fun _ => 0) ⟨0, 0, 0⟩ as
  found.extend as bs

/-- The number of characters in common blocks; `fuel` bounds the depth of the search. -/
def commonCount (skip : Char → Bool) : Nat → List Char → List Char → Nat
  | 0, _, _ => 0
  | n + 1, as, bs =>
    let b := longestBlock skip as bs
    if b.size == 0 then 0
    else
      b.size + commonCount skip n (as.take b.left) (bs.take b.right) +
        commonCount skip n (as.drop (b.left + b.size)) (bs.drop (b.right + b.size))

/-- In a long text, a character that makes up more than about a hundredth of it starts no block. -/
def isPopular (text : List Char) (c : Char) : Bool :=
  200 ≤ text.length && text.length / 100 + 1 < text.count c

structure Likeness where
  common : Nat
  total : Nat

def likeness (candidate word : String) : Likeness :=
  let as := candidate.toList
  let bs := word.toList
  ⟨commonCount (isPopular bs) (as.length + 1) as bs, as.length + bs.length⟩

def Likeness.isClose (l : Likeness) : Bool := 3 * l.total ≤ 10 * l.common

def Likeness.less (a b : Likeness) : Bool := a.common * b.total < b.common * a.total

def Likeness.equal (a b : Likeness) : Bool := a.common * b.total == b.common * a.total

/-- The better of two candidates with their likenesses; of equally good ones the later in order. -/
def better (a b : Likeness × String) : Likeness × String :=
  if a.1.less b.1 || (a.1.equal b.1 && a.2 < b.2) then b else a

def closest? (word : String) (candidates : List String) : Option String :=
  let close := (candidates.map fun c => (likeness c word, c)).filter fun p => p.1.isClose
  match close with
  | [] => none
  | p :: rest => some (rest.foldl better p).2

end QueryDesk.Text
