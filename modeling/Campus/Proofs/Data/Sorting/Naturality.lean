import Campus.Data.StableSort
/-!
# Sorting sees only the comparison

Elements may be replaced before or after they are sorted, if what replaces them compares the same.
This holds whatever the comparison says, also where it contradicts itself and where there is no
result: every step of sorting looks at elements through the comparison alone.
-/

namespace Campus.StableSort

variable {α β : Type}

/-- The comparison of what replaces elements. -/
abbrev along (before : β → β → Bool) (g : α → β) (x y : α) : Bool := before (g x) (g y)

variable (before : β → β → Bool) (g : α → β)

/-! ## Small lists -/

/-- An element may be replaced before or after it is put in its place. -/
theorem insertBack_map (x : α) (held : List α) :
    insertBack before (g x) (held.map g) = (insertBack (along before g) x held).map g := by
  induction held with
  | nil => rfl
  | cons last rest ih =>
    rw [List.map_cons, insertBack, insertBack]
    split
    · rw [ih, List.map_cons]
    · rfl

/-- Elements may be replaced before or after they are put in their places. -/
theorem insertAll_map (held xs : List α) :
    insertAll before (held.map g) (xs.map g) = (insertAll (along before g) held xs).map g := by
  induction xs generalizing held with
  | nil => rfl
  | cons x rest ih =>
    have next := ih (insertBack (along before g) x held)
    rw [← insertBack_map] at next
    exact next

/-- Elements may be replaced before or after they are inserted. -/
theorem insertion_map (xs : List α) :
    insertion before (xs.map g) = (insertion (along before g) xs).map g := by
  rw [insertion, insertion, List.map_reverse]
  exact congrArg List.reverse (insertAll_map before g [] xs)

/-- Elements may be replaced before or after the next one is taken. -/
theorem next?_map (left right : List α) :
    next? before (left.map g) (right.map g) =
      (next? (along before g) left right).map
        (Prod.map g (Prod.map (List.map g) (List.map g))) := by
  cases left with
  | nil => cases right <;> rfl
  | cons x left =>
    cases right with
    | nil => rfl
    | cons y right =>
      simp only [List.map_cons, next?]
      split <;> rfl

/-- Elements may be replaced before or after they are taken off the fronts. -/
theorem takeFronts_map (n : Nat) (left right : List α) :
    takeFronts before n (left.map g) (right.map g) =
      Prod.map (List.map g) (Prod.map (List.map g) (List.map g))
        (takeFronts (along before g) n left right) := by
  induction n generalizing left right with
  | zero => rfl
  | succ n ih =>
    rw [takeFronts, takeFronts, next?_map]
    cases next? (along before g) left right with
    | none => rfl
    | some found => simp [ih]

/-- Elements may be replaced before or after they are merged from the fronts. -/
theorem mergeUp_map (left right : List α) :
    mergeUp before (left.map g) (right.map g) = (mergeUp (along before g) left right).map g := by
  rw [mergeUp, takeFronts_map, List.length_map, List.length_map]
  rfl

/-- Elements may be replaced before or after they are merged. -/
theorem merge_map (left right : List α) :
    merge before (left.map g) (right.map g) = (merge (along before g) left right).map g := by
  unfold merge mergeDown
  rw [List.length_map, List.length_map, mergeUp_map, ← List.map_reverse, ← List.map_reverse,
    mergeUp_map, ← List.map_reverse]
  split <;> rfl

/-- Elements may be replaced before or after they are merged from both ends. -/
theorem mergeHalves_map (left right : List α) :
    mergeHalves before (left.map g) (right.map g) =
      (mergeHalves (along before g) left right).map (List.map g) := by
  simp only [mergeHalves, ← List.map_reverse, takeFronts_map, List.length_map, Prod.map_fst,
    Prod.map_snd]
  split
  · simp [List.map_take]
  · rfl

/-- Elements may be replaced before or after two pairs are merged. -/
theorem mergePairs_map (a b c d : α) :
    mergePairs before (g a) (g b) (g c) (g d) = (mergePairs (along before g) a b c d).map g := by
  simp only [mergePairs, along, ← apply_ite g]
  rw [apply_ite (List.map g)]
  rfl

/-- Elements may be replaced before or after four of them are sorted. -/
theorem sortFour_map (u v w x : α) :
    sortFour before (g u) (g v) (g w) (g x) = (sortFour (along before g) u v w x).map g := by
  have pair (x y : α) : (if before (g y) (g x) then (g y, g x) else (g x, g y)) =
      Prod.map g g (if along before g y x then (y, x) else (x, y)) := by
    split <;> rfl
  simp only [sortFour, pair, Prod.map_fst, Prod.map_snd, mergePairs_map]

/-- Elements may be replaced before or after half of a small list is sorted. -/
theorem sortHalf_map (xs : List α) :
    sortHalf before (xs.map g) = (sortHalf (along before g) xs).map g := by
  match xs with
  | u :: v :: w :: x :: rest =>
    simp only [List.map_cons, sortHalf]
    rw [sortFour_map, ← List.map_reverse, insertAll_map, List.map_reverse]
  | [] => exact insertion_map before g []
  | [u] => exact insertion_map before g [u]
  | [u, v] => exact insertion_map before g [u, v]
  | [u, v, w] => exact insertion_map before g [u, v, w]

/-- Elements may be replaced before or after a small list is sorted. -/
theorem smallSort_map (xs : List α) :
    smallSort before (xs.map g) = (smallSort (along before g) xs).map (List.map g) := by
  simp only [smallSort, List.splitAt_eq, List.length_map, ← List.map_take, ← List.map_drop,
    sortHalf_map, insertion_map, mergeHalves_map]
  split <;> rfl

/-! ## Runs -/

/-- Elements may be replaced before or after a run is followed. -/
theorem follow_map (mayFollow : β → β → Bool) (last : α) (xs : List α) :
    follow mayFollow (g last) (xs.map g) =
      Prod.map (List.map g) (List.map g) (follow (along mayFollow g) last xs) := by
  induction xs generalizing last with
  | nil => rfl
  | cons x rest ih =>
    simp only [List.map_cons, follow, ih]
    split <;> rfl

/-- Elements may be replaced before or after the first run is found. -/
theorem existingRun_map (xs : List α) :
    existingRun before (xs.map g) =
      Prod.map (List.map g) (List.map g) (existingRun (along before g) xs) := by
  match xs with
  | x :: y :: rest =>
    simp only [List.map_cons, existingRun, follow_map]
    split
    · simp
    · rfl
  | [] => rfl
  | [_] => rfl

/-- The run of what replaces elements. -/
def Run.map (g : α → β) (run : Run α) : Run β := ⟨run.elements.map g, run.isSorted⟩

section

variable {settle : List β → Option (List β)} {settleToo : List α → Option (List α)}
  (same : ∀ xs, settle (xs.map g) = (settleToo xs).map (List.map g))

include same

/-- Elements may be replaced before or after the first run is cut off. -/
theorem firstRun_map (eager : Bool) (least : Nat) (xs : List α) :
    firstRun before settle eager least (xs.map g) =
      (firstRun (along before g) settleToo eager least xs).map
        (Prod.map (Run.map g) (List.map g)) := by
  simp only [firstRun, existingRun_map, Prod.map_fst, Prod.map_snd, List.length_map,
    ← List.map_take, ← List.map_drop, same]
  split
  · rfl
  · split
    · rw [Option.map_map, Option.map_map]
      rfl
    · rfl

/-- Elements may be replaced before or after a list is cut into runs. -/
theorem runs_map (eager : Bool) (least n : Nat) (xs : List α) :
    runs before settle eager least n (xs.map g) =
      (runs (along before g) settleToo eager least n xs).map (List.map (Run.map g)) := by
  induction n generalizing xs with
  | zero => cases xs <;> rfl
  | succ n ih =>
    cases xs with
    | nil => rfl
    | cons x rest =>
      have first := firstRun_map before g same eager least (x :: rest)
      simp only [List.map_cons, runs] at first ⊢
      rw [first]
      cases firstRun (along before g) settleToo eager least (x :: rest) with
      | none => rfl
      | some found =>
        simp only [Option.map_some, Option.bind_eq_bind, Option.bind_some, Prod.map_fst,
          Prod.map_snd, ih]
        cases runs (along before g) settleToo eager least n found.2 <;> rfl

/-- Elements may be replaced before or after a run is sorted. -/
theorem Run.settled_map (run : Run α) :
    (run.map g).settled settle = (run.settled settleToo).map (List.map g) := by
  unfold Run.settled Run.map
  split
  · rfl
  · exact same run.elements

/-- Elements may be replaced before or after runs are joined. -/
theorem joinRuns_map (room : Nat) (left right : Run α) :
    joinRuns before settle room (left.map g) (right.map g) =
      (joinRuns (along before g) settleToo room left right).map (Run.map g) := by
  unfold joinRuns
  rw [Run.settled_map g same, Run.settled_map g same]
  simp only [Run.map, List.length_map]
  split
  · simp [Run.map]
  · cases left.settled settleToo <;> cases right.settled settleToo <;> simp [Run.map, merge_map]

/-- Elements may be replaced before or after a run is joined with those before it. -/
theorem collapse_map (room depth : Nat) (held : List (Run α × Nat)) (run : Run α) :
    collapse before settle room depth (held.map (Prod.map (Run.map g) id)) (run.map g) =
      (collapse (along before g) settleToo room depth held run).map
        (Prod.map (List.map (Prod.map (Run.map g) id)) (Run.map g)) := by
  induction held generalizing run with
  | nil => rfl
  | cons entry held ih =>
    obtain ⟨left, leftDepth⟩ := entry
    simp only [List.map_cons, Prod.map_apply, id_eq, collapse]
    split
    · rw [joinRuns_map before g same]
      cases joinRuns (along before g) settleToo room left run with
      | none => rfl
      | some both => exact ih both
    · rfl

/-- Elements may be replaced before or after all runs are joined. -/
theorem joinAll_map (room length : Nat) (held : List (Run α × Nat)) (last : Run α) (stop : Nat)
    (rest : List (Run α)) :
    joinAll before settle room length (held.map (Prod.map (Run.map g) id)) (last.map g) stop
        (rest.map (Run.map g)) =
      (joinAll (along before g) settleToo room length held last stop rest).map (Run.map g) := by
  induction rest generalizing held last stop with
  | nil =>
    rw [List.map_nil, joinAll, joinAll, collapse_map before g same]
    cases collapse (along before g) settleToo room 0 held last <;> rfl
  | cons next rest ih =>
    have lengths (run : Run α) : (run.map g).elements.length = run.elements.length :=
      List.length_map g
    simp only [List.map_cons, joinAll, lengths, collapse_map before g same]
    cases collapse (along before g) settleToo room _ held last with
    | none => rfl
    | some found => exact ih ((found.2, _) :: found.1) next _

/-- Elements may be replaced before or after they are sorted by runs. -/
theorem drift_map (eager : Bool) (xs : List α) :
    drift before settle eager (xs.map g) =
      (drift (along before g) settleToo eager xs).map (List.map g) := by
  rw [drift, drift, runs_map before g same, List.length_map]
  cases runs (along before g) settleToo eager (leastRun xs.length) xs.length xs with
  | none => rfl
  | some found =>
    cases found with
    | nil => rfl
    | cons first rest =>
      have joined := joinAll_map before g same (roomFor xs.length) xs.length [] first
        first.elements.length rest
      have length : (first.map g).elements.length = first.elements.length := List.length_map g
      simp only [List.map_nil] at joined
      simp only [Option.map_some, List.map_cons, Option.bind_eq_bind, Option.bind_some, length,
        joined]
      cases joinAll (along before g) settleToo (roomFor xs.length) xs.length [] first
          first.elements.length rest with
      | none => rfl
      | some whole => exact Run.settled_map g same whole

end

/-! ## Partitioning -/

/-- The pivot is at the same place whether or not elements are replaced. -/
theorem pivotPlace_map (xs : List α) :
    pivotPlace before (xs.map g) = pivotPlace (along before g) xs := by
  have less : lessAt before (xs.map g) = lessAt (along before g) xs := by
    funext i j
    unfold lessAt
    rw [List.getElem?_map, List.getElem?_map]
    cases xs[i]? <;> cases xs[j]? <;> rfl
  rw [pivotPlace, pivotPlace, less, List.length_map]

/-- Elements may be replaced before or after they are partitioned. -/
theorem partition_map (goesLeft : β → Bool) (pivotLeft : Bool) (front : List α) (pivot : α)
    (back : List α) :
    partition goesLeft pivotLeft (front.map g) (g pivot) (back.map g) =
      Prod.map (List.map g) (List.map g)
        (partition (fun x => goesLeft (g x)) pivotLeft front pivot back) := by
  cases pivotLeft <;> simp [partition, List.filter_map, Function.comp_def]

/-- Elements may be replaced before or after they are sorted by partitioning. -/
theorem quicksort_map (depth : Nat) (bound : Option α) (xs : List α) :
    quicksort before depth (bound.map g) (xs.map g) =
      (quicksort (along before g) depth bound xs).map (List.map g) := by
  induction depth generalizing bound xs with
  | zero =>
    rw [quicksort, quicksort, List.length_map]
    split
    · exact smallSort_map before g xs
    · exact drift_map before g (smallSort_map before g) true xs
  | succ depth ih =>
    rw [quicksort, quicksort, List.length_map]
    split
    · exact smallSort_map before g xs
    rw [pivotPlace_map, List.splitAt_eq, List.splitAt_eq, ← List.map_take, ← List.map_drop]
    generalize xs.take (pivotPlace (along before g) xs) = front
    generalize xs.drop (pivotPlace (along before g) xs) = behind
    cases behind with
    | nil => rfl
    | cons pivot back =>
      simp only [List.map_cons, partition_map, Prod.map_fst, Prod.map_snd, Option.any_map,
        List.isEmpty_map]
      split
      · have above := ih none (partition (!along before g pivot ·) true front pivot back).2
        rw [Option.map_none] at above
        rw [above]
        cases quicksort (along before g) depth none _ <;> simp
      · have above := ih (some pivot) (partition (along before g · pivot) false front pivot back).2
        have below := ih bound (partition (along before g · pivot) false front pivot back).1
        rw [Option.map_some] at above
        rw [above, below]
        cases quicksort (along before g) depth (some pivot) _ <;>
          cases quicksort (along before g) depth bound _ <;> simp

/-- Elements may be replaced before or after they are sorted. -/
theorem sort_map (xs : List α) :
    sort before (xs.map g) = (sort (along before g) xs).map (List.map g) := by
  have pieces (us : List α) :
      sortPieces before (us.map g) = (sortPieces (along before g) us).map (List.map g) := by
    rw [sortPieces, sortPieces, List.length_map]
    exact quicksort_map before g _ none us
  rw [sort, sort, List.length_map]
  split
  · rw [insertion_map, Option.map_some]
  · exact drift_map before g pieces _ xs

end Campus.StableSort
