import Campus.Proofs.Data.Sorting.Running
/-!
# Partitioning

Under an order everything on one level goes to the same side of a pivot, so that partitioning passes
no element past another on its level. What goes left comes before what goes right. What is put in
front without being sorted is all on the level of the pivot: it is not after the pivot, and either
nothing comes before the pivot or a pivot on its level is a bound for the whole list.
-/

namespace Campus.StableSort

variable {α : Type} {before : α → α → Bool}

/-! ## Pivots -/

/-- The middle one of three places is one of them. -/
theorem median_lt {less : Nat → Nat → Bool} {a b c n : Nat} (first : a < n) (second : b < n)
    (third : c < n) : median less a b c < n := by
  unfold median
  split
  · split <;> assumption
  · assumption

/-- The middle place of three stretches is in one of them. -/
theorem deepMedian_lt {less : Nat → Nat → Bool} {n a b c stop : Nat} (positive : 0 < n)
    (first : a + n ≤ stop) (second : b + n ≤ stop) (third : c + n ≤ stop) :
    deepMedian less n a b c < stop := by
  induction n using Nat.strongRecOn generalizing a b c with
  | ind n ih =>
    rw [deepMedian]
    split
    · have within {start : Nat} (fits : start + n ≤ stop) :
          deepMedian less (n / 8) start (start + n / 8 * 4) (start + n / 8 * 7) < stop :=
        ih (n / 8) (by omega) (by omega) (by omega) (by omega) (by omega)
      exact median_lt (within first) (within second) (within third)
    · exact median_lt (by omega) (by omega) (by omega)

/-- The pivot of a list that is not small is one of its elements. -/
theorem pivotPlace_lt (before : α → α → Bool) {xs : List α} (long : smallLimit < xs.length) :
    pivotPlace before xs < xs.length := by
  unfold smallLimit at long
  simp only [pivotPlace]
  split
  · exact median_lt (by omega) (by omega) (by omega)
  · exact deepMedian_lt (by omega) (by omega) (by omega) (by omega)

/-! ## Sides -/

/-- Partitioning loses and doubles no element. -/
theorem perm_partition (goesLeft : α → Bool) (pivotLeft : Bool) (front : List α) (pivot : α)
    (back : List α) :
    let sides := partition goesLeft pivotLeft front pivot back
    (sides.1 ++ sides.2).Perm (front ++ pivot :: back) := by
  classical
  refine List.perm_iff_count.2 fun x => ?_
  have counted (xs : List α) :
      (xs.filter goesLeft).count x + (xs.filter fun x => !goesLeft x).count x = xs.count x := by
    rw [← List.count_append]
    exact (List.filter_append_perm goesLeft xs).count_eq x
  have inFront := counted front
  have inBack := counted back
  cases pivotLeft <;> simp [partition, List.count_cons, List.count_append] <;> omega

/-- A pivot that goes where it belongs makes no exception. -/
theorem partition_eq (goesLeft : α → Bool) {pivotLeft : Bool} {pivot : α}
    (belongs : goesLeft pivot = pivotLeft) (front back : List α) :
    partition goesLeft pivotLeft front pivot back =
      ((front ++ pivot :: back).filter goesLeft,
        (front ++ pivot :: back).filter fun x => !goesLeft x) := by
  subst belongs
  unfold partition
  cases side : goesLeft pivot <;> simp [List.filter_append, side]

/-- If all elements on a level go to the same side, none passes another. -/
theorem filter_partition {goesLeft alike : α → Bool}
    (together : ∀ x y, alike x = true → alike y = true → goesLeft x = goesLeft y) (xs : List α) :
    (xs.filter goesLeft ++ xs.filter fun x => !goesLeft x).filter alike = xs.filter alike := by
  obtain ⟨side, all⟩ : ∃ side, ∀ x, alike x = true → goesLeft x = side := by
    by_cases some : ∃ z, alike z = true
    · obtain ⟨z, same⟩ := some
      exact ⟨goesLeft z, fun x mine => together x z mine same⟩
    · exact ⟨true, fun x mine => absurd ⟨x, mine⟩ some⟩
  have left (x : α) : (alike x && goesLeft x) = (alike x && side) := by
    cases mine : alike x with
    | false => rfl
    | true => rw [all x mine]
  have right (x : α) : (alike x && !goesLeft x) = (alike x && !side) := by
    cases mine : alike x with
    | false => rfl
    | true => rw [all x mine]
  rw [List.filter_append, List.filter_filter, List.filter_filter]
  simp only [left, right]
  cases side <;> simp

/-- Partitioning passes no element past another on its level if such elements go to the same side
and the pivot goes where it belongs. -/
theorem rearranged_partition (goesLeft : α → Bool) {pivotLeft : Bool} {pivot : α}
    (belongs : IsWeakOrder before → goesLeft pivot = pivotLeft)
    (together : IsWeakOrder before → ∀ alike, IsLevel before alike → ∀ x y, alike x = true →
      alike y = true → goesLeft x = goesLeft y) (front back : List α) :
    let sides := partition goesLeft pivotLeft front pivot back
    Rearranged before (front ++ pivot :: back) (sides.1 ++ sides.2) := by
  refine ⟨perm_partition goesLeft pivotLeft front pivot back, fun order alike level => ?_⟩
  rw [partition_eq goesLeft (belongs order)]
  exact filter_partition (together order alike level) _

/-- Under an order partitioning by what comes before the pivot makes no exception of it. -/
theorem partition_before (order : IsWeakOrder before) (front : List α) (pivot : α)
    (back : List α) :
    partition (before · pivot) false front pivot back =
      ((front ++ pivot :: back).filter (before · pivot),
        (front ++ pivot :: back).filter fun x => !before x pivot) :=
  partition_eq (before · pivot) (order.irrefl pivot) front back

/-- Under an order partitioning by what is not after the pivot makes no exception of it. -/
theorem partition_notAfter (order : IsWeakOrder before) (front : List α) (pivot : α)
    (back : List α) :
    partition (!before pivot ·) true front pivot back =
      ((front ++ pivot :: back).filter (!before pivot ·),
        (front ++ pivot :: back).filter fun x => !!before pivot x) :=
  partition_eq (!before pivot ·) (by rw [order.irrefl, Bool.not_false]) front back

section

variable {front back : List α} {pivot : α}

/-- What comes before the pivot is sorted on its own, and so is everything else. -/
theorem isSortOf_partition {below above : List α}
    (left : IsSortOf before (partition (before · pivot) false front pivot back).1 below)
    (right : IsSortOf before (partition (before · pivot) false front pivot back).2 above) :
    IsSortOf before (front ++ pivot :: back) (below ++ above) := by
  have together (order : IsWeakOrder before) (alike : α → Bool) (level : IsLevel before alike)
      (x y : α) (first : alike x = true) (second : alike y = true) :
      before x pivot = before y pivot :=
    (level.congr order first second pivot).1
  refine .of_rearranged (rearranged_partition (before · pivot) (fun order => order.irrefl pivot)
    together front back) ?_
  refine left.append right fun order x inLeft u inRight => ?_
  rw [partition_before order] at inLeft inRight
  have less : before x pivot = true := (List.mem_filter.1 inLeft).2
  have notLess : before u pivot = false := by simpa using (List.mem_filter.1 inRight).2
  exact order.asymm x u (order.lt_of_lt_of_le less notLess)

/-- If nothing comes before the pivot, what is not after it is sorted as it is. -/
theorem isSortOf_partition_of_lowest {above : List α}
    (lowest : IsWeakOrder before → ∀ x ∈ front ++ pivot :: back, before x pivot = false)
    (right : IsSortOf before (partition (!before pivot ·) true front pivot back).2 above) :
    IsSortOf before (front ++ pivot :: back)
      ((partition (!before pivot ·) true front pivot back).1 ++ above) := by
  have together (order : IsWeakOrder before) (alike : α → Bool) (level : IsLevel before alike)
      (x y : α) (first : alike x = true) (second : alike y = true) :
      (!before pivot x) = !before pivot y := by
    rw [(level.congr order first second pivot).2]
  have level (order : IsWeakOrder before) :
      ∀ x ∈ (partition (!before pivot ·) true front pivot back).1,
        before pivot x = false ∧ before x pivot = false := by
    intro x member
    rw [partition_notAfter order] at member
    obtain ⟨listed, notAfter⟩ := List.mem_filter.1 member
    exact ⟨by simpa using notAfter, lowest order x listed⟩
  refine .of_rearranged (rearranged_partition (!before pivot ·)
    (fun order => by rw [order.irrefl, Bool.not_false]) together front back) ?_
  refine IsSortOf.append (.of_sorted fun order => ?_) right fun order x inLevel u inRight => ?_
  · refine List.pairwise_of_forall_mem_list fun x first y second => ?_
    exact order.trans x pivot y (level order x first).1 (level order y second).2
  · rw [partition_notAfter order] at inRight
    have less : before pivot u = true := by simpa using (List.mem_filter.1 inRight).2
    exact order.asymm x u (order.lt_of_le_of_lt (level order x inLevel).1 less)

/-- A pivot on a level with a bound is lowest, and so is one that nothing goes left of. -/
theorem lowest_of_partition {bound : Option α}
    (bounded : IsWeakOrder before →
      ∀ lowest ∈ bound, ∀ x ∈ front ++ pivot :: back, before x lowest = false)
    (found : (bound.any (fun bound => !before bound pivot) ||
      (partition (before · pivot) false front pivot back).1.isEmpty) = true)
    (order : IsWeakOrder before) : ∀ x ∈ front ++ pivot :: back, before x pivot = false := by
  rcases Bool.or_eq_true_iff.1 found with atBound | none
  · obtain ⟨lowest, isBound, notAfter⟩ := Option.any_eq_true _ _ |>.1 atBound
    intro x listed
    exact order.trans pivot lowest x (by simpa using notAfter)
      (bounded order lowest isBound x listed)
  · rw [partition_before order, List.isEmpty_iff, List.filter_eq_nil_iff] at none
    exact fun x listed => by simpa using none x listed

end

/-! ## Sorting -/

/-- There is nothing to say about no bound. -/
theorem bounded_none (xs : List α) : IsWeakOrder before → ∀ lowest ∈ (none : Option α), ∀ x ∈ xs,
    before x lowest = false :=
  fun _ _ isBound => nomatch isBound

/-- Sorting by partitioning sorts, if the bound is one: nothing in the list comes before it. -/
theorem isSortOf_quicksort {depth : Nat} {bound : Option α} {xs ys : List α}
    (bounded : IsWeakOrder before → ∀ lowest ∈ bound, ∀ x ∈ xs, before x lowest = false)
    (sorted : quicksort before depth bound xs = some ys) : IsSortOf before xs ys := by
  induction depth generalizing bound xs ys with
  | zero =>
    rw [quicksort] at sorted
    split at sorted
    · exact isSortOf_smallSort sorted
    · exact sorts_drift (fun _ _ => isSortOf_smallSort) true xs ys sorted
  | succ depth ih =>
    rw [quicksort] at sorted
    split at sorted
    · exact isSortOf_smallSort sorted
    rw [List.splitAt_eq] at sorted
    dsimp only at sorted
    split at sorted
    · cases sorted
    next front pivot back same =>
    obtain ⟨frontEq, backEq⟩ := Prod.mk.inj same
    have whole := List.take_append_drop (pivotPlace before xs) xs
    rw [frontEq, backEq] at whole
    subst whole
    split at sorted
    · next found =>
      simp only [Option.bind_eq_bind, Option.bind_eq_some_iff, Option.pure_def,
        Option.some.injEq] at sorted
      obtain ⟨above, sortedAbove, rfl⟩ := sorted
      exact isSortOf_partition_of_lowest (lowest_of_partition bounded found)
        (ih (bounded_none _) sortedAbove)
    · simp only [Option.bind_eq_bind, Option.bind_eq_some_iff, Option.pure_def,
        Option.some.injEq] at sorted
      obtain ⟨above, sortedAbove, below, sortedBelow, rfl⟩ := sorted
      refine isSortOf_partition (ih (fun order lowest isBound x member => ?_) sortedBelow)
        (ih (fun order lowest isBound x member => ?_) sortedAbove)
      · rw [partition_before order] at member
        exact bounded order lowest isBound x (List.mem_of_mem_filter member)
      · obtain rfl := Option.some.inj isBound
        rw [partition_before order] at member
        simpa using (List.mem_filter.1 member).2

/-- Under an order partitioning has a result. -/
theorem isSome_quicksort (order : IsWeakOrder before) (depth : Nat) (bound : Option α)
    (xs : List α) : (quicksort before depth bound xs).isSome = true := by
  induction depth generalizing bound xs with
  | zero =>
    rw [quicksort]
    split
    · exact isSome_smallSort order xs
    · exact isSome_drift (isSome_smallSort order) before true xs
  | succ depth ih =>
    rw [quicksort]
    split
    · exact isSome_smallSort order xs
    next long =>
    rw [List.splitAt_eq]
    dsimp only
    split
    · next none =>
      have place := pivotPlace_lt before (Nat.not_le.1 long)
      rw [Prod.mk.injEq, List.drop_eq_nil_iff] at none
      omega
    next front pivot back same =>
    split
    · obtain ⟨above, sorted⟩ := Option.isSome_iff_exists.1
        (ih none (partition (!before pivot ·) true front pivot back).2)
      simp [sorted]
    · obtain ⟨above, sortedAbove⟩ := Option.isSome_iff_exists.1
        (ih (some pivot) (partition (before · pivot) false front pivot back).2)
      obtain ⟨below, sortedBelow⟩ := Option.isSome_iff_exists.1
        (ih bound (partition (before · pivot) false front pivot back).1)
      simp [sortedAbove, sortedBelow]

/-- What is sorted has the same elements, and under an order it is sorted and none has passed
another that it is on a level with. -/
theorem isSortOf_sort {xs ys : List α} (sorted : sort before xs = some ys) :
    IsSortOf before xs ys := by
  unfold sort at sorted
  split at sorted
  · obtain rfl := Option.some.inj sorted
    exact isSortOf_insertion before xs
  · refine sorts_drift (fun us vs sortedPiece => ?_) _ xs ys sorted
    exact isSortOf_quicksort (bounded_none us) sortedPiece

/-- Sorting has a result if there are few elements or the comparison is an order. -/
theorem isSome_sort {xs : List α}
    (sortable : xs.length ≤ insertionLimit ∨ IsWeakOrder before) :
    (sort before xs).isSome = true := by
  unfold sort
  split
  · rfl
  · next long =>
    have order := sortable.resolve_left long
    exact isSome_drift (fun us => isSome_quicksort order _ none us) before _ xs

end Campus.StableSort
