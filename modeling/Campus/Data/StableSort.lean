import Campus.Data.SmallSort
/-!
# Stable sorting

A list is sorted in runs: stretches that are in order already, and pieces in between. Runs next to
each other are merged along a tree that is nearly balanced; pieces that are not sorted yet grow
together as long as they can and are then partitioned around pivots. Elements of which none comes
before the other keep their order.

That there is a result depends on the comparison. If it contradicts itself, a merge may find that it
would lose elements; then there is none. Lists of at most twenty elements are only sorted by
insertion, which never fails.
-/

namespace Campus.StableSort

variable {α : Type} (before : α → α → Bool)

/-! ## Runs -/

/-- A stretch of the list, sorted or not. -/
structure Run (α : Type) where
  elements : List α
  isSorted : Bool

/-- How many elements are sorted as a small list. -/
def smallLimit : Nat := 32

/-- Go on with a run behind an element as long as each next element may follow the last: the rest of
the run, and what is behind it. -/
def follow (mayFollow : α → α → Bool) (last : α) : List α → List α × List α
  | [] => ([], [])
  | x :: rest =>
    if mayFollow last x then
      let (run, others) := follow mayFollow x rest
      (x :: run, others)
    else ([], x :: rest)

/-- The run that a list starts with, in order, and what is behind it. A run that goes down is turned
around; so no two of its elements may be on a level. -/
def existingRun : List α → List α × List α
  | x :: y :: rest =>
    if before y x then
      let (run, others) := follow (fun last next => before next last) y rest
      ((x :: y :: run).reverse, others)
    else
      let (run, others) := follow (fun last next => !before next last) y rest
      (x :: y :: run, others)
  | few => (few, [])

/-- Cut the first run off a list. One that exists counts if it is long enough; else a short piece is
sorted at once if this is to be done eagerly, and a longer one is left as it is if not. -/
def firstRun (settle : List α → Option (List α)) (eager : Bool) (least : Nat) (xs : List α) :
    Option (Run α × List α) :=
  let (run, others) := existingRun before xs
  if least ≤ run.length then some (⟨run, true⟩, others)
  else if eager then
    (settle (xs.take smallLimit)).map fun piece => (⟨piece, true⟩, xs.drop smallLimit)
  else some (⟨xs.take least, false⟩, xs.drop least)

/-- Cut a list into runs, at most as many as are asked for. -/
def runs (settle : List α → Option (List α)) (eager : Bool) (least : Nat) :
    Nat → List α → Option (List (Run α))
  | _, [] => some []
  | 0, _ :: _ => none
  | n + 1, xs => do
    let (run, others) ← firstRun before settle eager least xs
    return run :: (← runs settle eager least n others)

/-- About the square root of a number. -/
def nearRoot (n : Nat) : Nat :=
  let shift := (1 + (n ||| 1).log2) / 2
  (Nat.pow 2 shift + n / Nat.pow 2 shift) / 2

/-- How long a run of a list has to be. -/
def leastRun (length : Nat) : Nat :=
  if length ≤ 4096 then min (length - length / 2) 64 else nearRoot length

/-! ## Merging runs -/

/-- The elements of a run, sorted. -/
def Run.settled (settle : List α → Option (List α)) (run : Run α) : Option (List α) :=
  if run.isSorted then some run.elements else settle run.elements

/-- Join two runs. If neither is sorted and there is room to sort them together, they are left as
they are. -/
def joinRuns (settle : List α → Option (List α)) (room : Nat) (left right : Run α) :
    Option (Run α) :=
  if !left.isSorted && !right.isSorted && left.elements.length + right.elements.length ≤ room then
    some ⟨left.elements ++ right.elements, false⟩
  else do
    return ⟨merge before (← left.settled settle) (← right.settled settle), true⟩

/-- How deep in the tree two runs are merged, by where they start, meet and end in a list of some
length. -/
def mergeDepth (length start middle stop : Nat) : Nat :=
  let scale := (0x4000000000000000 + length - 1) / length
  let apart := (scale * (start + middle)) ^^^ (scale * (middle + stop))
  if apart = 0 then 64 else 63 - apart.log2

/-- Join a run with those before it that are to be merged at least as deep as it and its successor.
The runs before it are held back to front, each with how deep it is merged with its successor. -/
def collapse (settle : List α → Option (List α)) (room depth : Nat) :
    List (Run α × Nat) → Run α → Option (List (Run α × Nat) × Run α)
  | [], run => some ([], run)
  | (left, leftDepth) :: held, run =>
    if depth ≤ leftDepth then do
      collapse settle room depth held (← joinRuns before settle room left run)
    else some ((left, leftDepth) :: held, run)

/-- Join runs to one; the last of those held and all later ones are not joined yet. -/
def joinAll (settle : List α → Option (List α)) (room length : Nat) :
    List (Run α × Nat) → Run α → Nat → List (Run α) → Option (Run α)
  | held, last, _, [] => do return (← collapse before settle room 0 held last).2
  | held, last, stop, next :: rest => do
    let nextStop := stop + next.elements.length
    let depth := mergeDepth length (stop - last.elements.length) stop nextStop
    let (held, run) ← collapse before settle room depth held last
    joinAll settle room length ((run, depth) :: held) next nextStop rest

/-- How many elements can be partitioned: all, unless they take more than eight megabytes, and half
of them in any case. -/
def roomFor (length : Nat) : Nat := max (length - length / 2) (min length 333333)

/-- Sort a list by runs, with a way to sort what is in no order. -/
def drift (settle : List α → Option (List α)) (eager : Bool) (xs : List α) : Option (List α) := do
  match ← runs before settle eager (leastRun xs.length) xs.length xs with
  | [] => some []
  | first :: rest =>
    let room := roomFor xs.length
    let run ← joinAll before settle room xs.length [] first first.elements.length rest
    run.settled settle

/-! ## Partitioning -/

/-- The place of the middle one of three elements. -/
def median (less : Nat → Nat → Bool) (a b c : Nat) : Nat :=
  if less a b == less a c then if less b c ^^ less a b then c else b else a

/-- The place of an element that is about in the middle of three stretches of a length. -/
def deepMedian (less : Nat → Nat → Bool) (n a b c : Nat) : Nat :=
  if 8 ≤ n then
    let within (start : Nat) : Nat :=
      deepMedian less (n / 8) start (start + n / 8 * 4) (start + n / 8 * 7)
    median less (within a) (within b) (within c)
  else median less a b c
termination_by n

/-- Whether the element at one place comes before the one at another. -/
def lessAt (xs : List α) (i j : Nat) : Bool :=
  match xs[i]?, xs[j]? with
  | some x, some y => before x y
  | _, _ => false

/-- The place of the pivot of a list. -/
def pivotPlace (xs : List α) : Nat :=
  let n := xs.length / 8
  if xs.length < 64 then median (lessAt before xs) 0 (n * 4) (n * 7)
  else deepMedian (lessAt before xs) n 0 (n * 4) (n * 7)

/-- The elements that go left and those that go right. The pivot, which stands between the two lists
given, is not compared with itself. -/
def partition (goesLeft : α → Bool) (pivotLeft : Bool) (front : List α) (pivot : α)
    (back : List α) : List α × List α :=
  (front.filter goesLeft ++ (if pivotLeft then [pivot] else []) ++ back.filter goesLeft,
    front.filter (fun x => !goesLeft x) ++ (if pivotLeft then [] else [pivot]) ++
      back.filter fun x => !goesLeft x)

/-- Sort by partitioning around pivots, to some depth. What is not before the pivot is sorted with
it as a bound: a later pivot on a level with the bound is lowest, and then, as whenever no element
goes left, everything on its level is put in front. Below the depth runs are sorted eagerly. -/
def quicksort : Nat → Option α → List α → Option (List α)
  | depth, bound, xs =>
    if xs.length ≤ smallLimit then smallSort before xs
    else match depth with
      | 0 => drift before (smallSort before) true xs
      | depth + 1 =>
        match xs.splitAt (pivotPlace before xs) with
        | (_, []) => none
        | (front, pivot :: back) =>
          let (left, right) := partition (before · pivot) false front pivot back
          if bound.any (fun bound => !before bound pivot) || left.isEmpty then do
            let (level, above) := partition (!before pivot ·) true front pivot back
            return level ++ (← quicksort depth none above)
          else do
            let above ← quicksort depth (some pivot) right
            return (← quicksort depth bound left) ++ above

/-- Sort what is in no order. -/
def sortPieces (xs : List α) : Option (List α) :=
  quicksort before (2 * (xs.length ||| 1).log2) none xs

/-- How many elements are sorted by insertion. -/
def insertionLimit : Nat := 20

/-- Sort so that no element stands after one it comes before. -/
def sort (xs : List α) : Option (List α) :=
  if xs.length ≤ insertionLimit then some (insertion before xs)
  else drift before (sortPieces before) (xs.length ≤ 2 * smallLimit) xs

end Campus.StableSort
