/-!
# Sorting few elements

Few elements are sorted by insertion. Somewhat more are cut in two, each half is sorted on its own,
and the halves are merged from both ends at once. The two ends meet if the comparison is an order;
if it contradicts itself they may miss each other, and there is no result.
-/

namespace Campus.StableSort

variable {α : Type} (before : α → α → Bool)

/-- Put an element behind the last one that it does not come before; the list is held back to
front. -/
def insertBack (x : α) : List α → List α
  | [] => [x]
  | last :: rest => if before x last then last :: insertBack x rest else x :: last :: rest

/-- Put elements one after another into a list that is held back to front. -/
def insertAll (held xs : List α) : List α := xs.foldl (fun held x => insertBack before x held) held

/-- Sort by inserting the elements one after another. -/
def insertion (xs : List α) : List α := (insertAll before [] xs).reverse

/-- Take the next element of two lists that are merged: of their first elements the one of the
second list only if it comes before the other. -/
def next? : List α → List α → Option (α × List α × List α)
  | [], [] => none
  | [], y :: right => some (y, [], right)
  | x :: left, [] => some (x, left, [])
  | x :: left, y :: right =>
    if before y x then some (y, x :: left, right) else some (x, left, y :: right)

/-- Take a number of elements off two lists that are merged: these elements in turn, and what is
left of both lists. -/
def takeFronts : Nat → List α → List α → List α × List α × List α
  | 0, left, right => ([], left, right)
  | n + 1, left, right =>
    match next? before left right with
    | none => ([], left, right)
    | some (x, left, right) =>
      let (taken, rest) := takeFronts n left right
      (x :: taken, rest)

/-- Merge two lists from their fronts. -/
def mergeUp (left right : List α) : List α :=
  (takeFronts before (left.length + right.length) left right).1

/-- Merge two lists from their backs, where of the last elements the one of the first list is taken
only if the other comes before it. -/
def mergeDown (left right : List α) : List α :=
  (mergeUp (fun x y => before y x) right.reverse left.reverse).reverse

/-- Merge two lists from the end that the shorter one is at. -/
def merge (left right : List α) : List α :=
  if left.length ≤ right.length then mergeUp before left right else mergeDown before left right

/-- Merge two lists from both ends at once, half of the elements from each. What the ends take of a
list must not overlap; what neither takes, one element at most, stands between. -/
def mergeHalves (left right : List α) : Option (List α) :=
  let half := (left.length + right.length) / 2
  let (front, leftRest, rightRest) := takeFronts before half left right
  let (back, rightKept, leftKept) :=
    takeFronts (fun x y => before y x) half right.reverse left.reverse
  if left.length ≤ leftRest.length + leftKept.length ∧
      right.length ≤ rightRest.length + rightKept.length then
    some (front ++ leftRest.take (leftRest.length + leftKept.length - left.length) ++
      rightRest.take (rightRest.length + rightKept.length - right.length) ++ back.reverse)
  else none

/-- Merge two sorted pairs with three comparisons: the lowest and the highest of all first, and then
the two between. -/
def mergePairs (a b c d : α) : List α :=
  let low := if before c a then c else a
  let high := if before d b then b else d
  let left := if before c a then a else if before d b then c else b
  let right := if before d b then d else if before c a then b else c
  if before right left then [low, right, left, high] else [low, left, right, high]

/-- Sort four elements as two pairs. -/
def sortFour (u v w x : α) : List α :=
  let (a, b) := if before v u then (v, u) else (u, v)
  let (c, d) := if before x w then (x, w) else (w, x)
  mergePairs before a b c d

/-- Sort by inserting elements behind the first four. -/
def sortHalf : List α → List α
  | u :: v :: w :: x :: rest => (insertAll before (sortFour before u v w x).reverse rest).reverse
  | few => insertion before few

/-- Sort the halves of a list and merge them. Only halves of four elements and more start with four
at once, and neither does unless both do. -/
def smallSort (xs : List α) : Option (List α) :=
  let (left, right) := xs.splitAt (xs.length / 2)
  if 8 ≤ xs.length then mergeHalves before (sortHalf before left) (sortHalf before right)
  else mergeHalves before (insertion before left) (insertion before right)

end Campus.StableSort
