import Campus.Data.SmallSort
import Campus.Proofs.Data.Sorting.Orders
/-!
# Merging

Taking elements off the fronts of two sorted lists leaves nothing behind that comes before what was
taken. From both ends at once, what one end takes therefore comes before what the other end takes,
and in an order the two cannot overlap. Either way the result is the two lists, one behind the
other, sorted.
-/

namespace Campus.StableSort

variable {α : Type} {before : α → α → Bool}

/-! ## Insertion -/

/-- Putting an element in its place moves it past none that it is on a level with. -/
theorem rearranged_insertBack (before : α → α → Bool) (x : α) (held : List α) :
    Rearranged before (x :: held) (insertBack before x held) := by
  induction held with
  | nil => exact .refl before [x]
  | cons last rest ih =>
    rw [insertBack]
    by_cases first : before x last = true
    · rw [if_pos first]
      refine ⟨(ih.perm.cons last).trans (.swap x last rest), fun order alike level => ?_⟩
      rw [List.filter_cons, ih.kept order alike level]
      by_cases mine : alike x = true
      · have other : ¬alike last = true := fun same => by
          rw [level x last mine same] at first
          cases first
        rw [if_neg other, List.filter_cons_of_pos mine, List.filter_cons_of_pos mine,
          List.filter_cons_of_neg other]
      · rw [List.filter_cons_of_neg mine, List.filter_cons_of_neg mine, List.filter_cons]
    · rw [if_neg first]
      exact .refl before _

/-- Putting an element in its place keeps the order; the list is held back to front. -/
theorem isSorted_insertBack (order : IsWeakOrder before) (x : α) {held : List α}
    (sorted : IsSorted (fun y z => before z y) held) :
    IsSorted (fun y z => before z y) (insertBack before x held) := by
  induction held with
  | nil => exact List.pairwise_singleton _ _
  | cons last rest ih =>
    obtain ⟨below, sortedRest⟩ := List.pairwise_cons.1 sorted
    rw [insertBack]
    by_cases first : before x last = true
    · rw [if_pos first]
      refine List.pairwise_cons.2 ⟨fun y member => ?_, ih sortedRest⟩
      rcases List.mem_cons.1 ((rearranged_insertBack before x rest).perm.mem_iff.1 member) with
        rfl | earlier
      · exact order.asymm y last first
      · exact below y earlier
    · rw [if_neg first]
      refine List.pairwise_cons.2 ⟨fun y member => ?_, sorted⟩
      have notFirst : before x last = false := Bool.eq_false_iff.2 first
      rcases List.mem_cons.1 member with rfl | earlier
      · exact notFirst
      · exact order.trans y last x (below y earlier) notFirst

/-- Elements are inserted one after another behind sorted ones. -/
theorem isSortOf_insertAll (held : List α)
    (sorted : IsWeakOrder before → IsSorted (fun y z => before z y) held) (xs : List α) :
    IsSortOf before (held.reverse ++ xs) (insertAll before held xs).reverse := by
  induction xs generalizing held with
  | nil =>
    rw [List.append_nil]
    exact .of_sorted fun order => (sorted order).reverse
  | cons x rest ih =>
    have placed := (rearranged_insertBack before x held).reverse
    rw [List.reverse_cons] at placed
    rw [List.append_cons]
    exact .of_rearranged (placed.append (.refl before rest))
      (ih _ fun order => isSorted_insertBack order x (sorted order))

/-- Inserting all elements one after another sorts them. -/
theorem isSortOf_insertion (before : α → α → Bool) (xs : List α) :
    IsSortOf before xs (insertion before xs) :=
  isSortOf_insertAll [] (fun _ => List.Pairwise.nil) xs

/-! ## Taking from the fronts -/

/-- How elements are taken off the fronts of two lists that are merged: those taken of each list,
all of them in turn, and what is left of both lists. -/
inductive Takes (before : α → α → Bool) (left right : List α) :
    List α → List α → List α → Prop
  | stop : Takes before left right [] [] []
  | left {x : α} {mine others taken : List α}
    (level : ∀ y ∈ (others ++ right).head?, before y x = false)
    (rest : Takes before left right mine others taken) :
    Takes before left right (x :: mine) others (x :: taken)
  | right {y : α} {mine others taken : List α}
    (first : ∀ x ∈ (mine ++ left).head?, before y x = true)
    (rest : Takes before left right mine others taken) :
    Takes before left right mine (y :: others) (y :: taken)

/-- The element that is taken next is the first of one of the lists, and it may stand before the
first of the other. -/
theorem next?_cases {left right leftRest rightRest : List α} {x : α}
    (taken : next? before left right = some (x, leftRest, rightRest)) :
    (left = x :: leftRest ∧ right = rightRest ∧ ∀ y ∈ right.head?, before y x = false) ∨
      (right = x :: rightRest ∧ left = leftRest ∧ ∀ y ∈ left.head?, before x y = true) := by
  cases left with
  | nil =>
    cases right with
    | nil => cases taken
    | cons y right =>
      cases taken
      exact .inr ⟨rfl, rfl, nofun⟩
  | cons z left =>
    cases right with
    | nil =>
      cases taken
      exact .inl ⟨rfl, rfl, nofun⟩
    | cons y right =>
      rw [next?] at taken
      split at taken
      · next first =>
        cases taken
        exact .inr ⟨rfl, rfl, by simpa using first⟩
      · next notFirst =>
        cases taken
        exact .inl ⟨rfl, rfl, by simpa using notFirst⟩

/-- An element is taken as long as there is one. -/
theorem next?_eq_none_iff {left right : List α} :
    next? before left right = none ↔ left = [] ∧ right = [] := by
  cases left <;> cases right <;> simp [next?]
  split <;> simp

/-- What is taken off two lists, and what is left of them. -/
theorem takes_takeFronts (before : α → α → Bool) (n : Nat) (left right : List α) :
    let took := takeFronts before n left right
    ∃ mine others, left = mine ++ took.2.1 ∧ right = others ++ took.2.2 ∧
      Takes before took.2.1 took.2.2 mine others took.1 ∧
      took.1.length = min n (left.length + right.length) := by
  induction n generalizing left right with
  | zero => exact ⟨[], [], rfl, rfl, .stop, by simp [takeFronts]⟩
  | succ n ih =>
    intro took
    unfold took takeFronts
    cases step : next? before left right with
    | none =>
      obtain ⟨rfl, rfl⟩ := next?_eq_none_iff.1 step
      exact ⟨[], [], rfl, rfl, .stop, by simp⟩
    | some found =>
      obtain ⟨x, leftRest, rightRest⟩ := found
      obtain ⟨mine, others, restLeft, restRight, takes, count⟩ := ih leftRest rightRest
      rcases next?_cases step with ⟨rfl, rfl, level⟩ | ⟨rfl, rfl, first⟩
      · refine ⟨x :: mine, others, congrArg (x :: ·) restLeft, restRight, .left ?_ takes, ?_⟩
        · rwa [← restRight]
        · simp only [List.length_cons, count]
          omega
      · refine ⟨mine, x :: others, restLeft, congrArg (x :: ·) restRight, .right ?_ takes, ?_⟩
        · rwa [← restLeft]
        · simp only [List.length_cons, count]
          omega

namespace Takes

variable {left right mine others taken : List α}

/-- What is taken are elements of both lists. -/
theorem perm (takes : Takes before left right mine others taken) :
    taken.Perm (mine ++ others) := by
  induction takes with
  | stop => exact .refl _
  | left _ _ ih => exact ih.cons _
  | right _ _ ih => exact (ih.cons _).trans List.perm_middle.symm

/-- An element that the first of a sorted list is not before has none of the list before it. -/
theorem forall_of_head {x : α} {ys : List α} (order : IsWeakOrder before)
    (sorted : IsSorted before ys) (first : ∀ y ∈ ys.head?, before y x = false) :
    ∀ y ∈ ys, before y x = false := by
  cases ys with
  | nil => nofun
  | cons head rest =>
    have lowest : before head x = false := first head rfl
    refine List.forall_mem_cons.2 ⟨lowest, fun y member => ?_⟩
    exact order.trans x head y lowest ((List.pairwise_cons.1 sorted).1 y member)

/-- An element that is before the first of a sorted list is before all of the list. -/
theorem forall_lt_of_head {y : α} {xs : List α} (order : IsWeakOrder before)
    (sorted : IsSorted before xs) (first : ∀ x ∈ xs.head?, before y x = true) :
    ∀ x ∈ xs, before y x = true := by
  cases xs with
  | nil => nofun
  | cons head rest =>
    have lowest : before y head = true := first head rfl
    refine List.forall_mem_cons.2 ⟨lowest, fun x member => ?_⟩
    exact order.lt_of_lt_of_le lowest ((List.pairwise_cons.1 sorted).1 x member)

section

variable (order : IsWeakOrder before) (takes : Takes before left right mine others taken)
  (sortedLeft : IsSorted before (mine ++ left)) (sortedRight : IsSorted before (others ++ right))

include order takes sortedLeft sortedRight

/-- What is left of the second list is not before what was taken of the first. -/
theorem left_le : ∀ x ∈ mine, ∀ y ∈ right, before y x = false := by
  induction takes with
  | stop => nofun
  | @left x mine others taken level rest ih =>
    refine List.forall_mem_cons.2 ⟨fun y member => ?_, ih (List.pairwise_cons.1 sortedLeft).2
      sortedRight⟩
    exact forall_of_head order sortedRight level y (List.mem_append_right _ member)
  | right _ _ ih => exact ih sortedLeft (List.pairwise_cons.1 sortedRight).2

/-- What was taken of the second list is before what is left of the first. -/
theorem right_lt : ∀ y ∈ others, ∀ x ∈ left, before y x = true := by
  induction takes with
  | stop => nofun
  | left _ _ ih => exact ih (List.pairwise_cons.1 sortedLeft).2 sortedRight
  | @right y mine others taken first rest ih =>
    refine List.forall_mem_cons.2 ⟨fun x member => ?_, ih sortedLeft
      (List.pairwise_cons.1 sortedRight).2⟩
    exact forall_lt_of_head order sortedLeft first x (List.mem_append_right _ member)

/-- What is taken is taken in order. -/
theorem isSorted : IsSorted before taken := by
  induction takes with
  | stop => exact List.Pairwise.nil
  | @left x mine others taken level rest ih =>
    obtain ⟨below, sortedRest⟩ := List.pairwise_cons.1 sortedLeft
    refine List.pairwise_cons.2 ⟨fun z member => ?_, ih sortedRest sortedRight⟩
    rcases List.mem_append.1 (rest.perm.mem_iff.1 member) with own | other
    · exact below z (List.mem_append_left _ own)
    · exact forall_of_head order sortedRight level z (List.mem_append_left _ other)
  | @right y mine others taken first rest ih =>
    obtain ⟨below, sortedRest⟩ := List.pairwise_cons.1 sortedRight
    refine List.pairwise_cons.2 ⟨fun z member => ?_, ih sortedLeft sortedRest⟩
    rcases List.mem_append.1 (rest.perm.mem_iff.1 member) with own | other
    · exact order.asymm y z
        (forall_lt_of_head order sortedLeft first z (List.mem_append_left _ own))
    · exact below z (List.mem_append_left _ other)

/-- Of elements on a level those of the first list are taken first. -/
theorem filter_eq {alike : α → Bool} (level : IsLevel before alike) :
    taken.filter alike = mine.filter alike ++ others.filter alike := by
  induction takes with
  | stop => rfl
  | left _ _ ih =>
    rw [List.filter_cons, List.filter_cons, ih (List.pairwise_cons.1 sortedLeft).2 sortedRight]
    split <;> rfl
  | @right y mine others taken first rest ih =>
    rw [List.filter_cons, List.filter_cons, ih sortedLeft (List.pairwise_cons.1 sortedRight).2]
    split
    · next here =>
      have none : mine.filter alike = [] := by
        refine List.filter_eq_nil_iff.2 fun x member same => ?_
        have passed := forall_lt_of_head order sortedLeft first x (List.mem_append_left _ member)
        exact Bool.false_ne_true ((level y x here same).symm.trans passed)
      rw [none, List.nil_append, List.nil_append]
    · rfl

/-- What is left of both lists is not before what was taken. -/
theorem le_rest : ∀ z ∈ taken, ∀ w ∈ left ++ right, before w z = false := by
  intro z member w rest
  obtain ⟨-, -, alongLeft⟩ := List.pairwise_append.1 sortedLeft
  obtain ⟨-, -, alongRight⟩ := List.pairwise_append.1 sortedRight
  rcases List.mem_append.1 (takes.perm.mem_iff.1 member) with own | other
  · rcases List.mem_append.1 rest with inLeft | inRight
    · exact alongLeft z own w inLeft
    · exact left_le order takes sortedLeft sortedRight z own w inRight
  · rcases List.mem_append.1 rest with inLeft | inRight
    · exact order.asymm z w (right_lt order takes sortedLeft sortedRight z other w inLeft)
    · exact alongRight z other w inRight

end

end Takes

/-! ## Merging from one end -/

section

variable {left right : List α} (sortedLeft : IsWeakOrder before → IsSorted before left)
  (sortedRight : IsWeakOrder before → IsSorted before right)

include sortedLeft sortedRight

/-- Merging from the fronts sorts two sorted lists. -/
theorem isSortOf_mergeUp : IsSortOf before (left ++ right) (mergeUp before left right) := by
  obtain ⟨mine, others, restLeft, restRight, takes, count⟩ :=
    takes_takeFronts before (left.length + right.length) left right
  unfold mergeUp
  generalize takeFronts before (left.length + right.length) left right = took at *
  obtain ⟨taken, leftRest, rightRest⟩ := took
  dsimp only at *
  -- All elements are taken, so that nothing is left of the lists.
  have all := takes.perm.length_eq
  rw [count, Nat.min_self, restLeft, restRight] at all
  simp only [List.length_append] at all
  obtain rfl : leftRest = [] := List.length_eq_zero_iff.1 (by omega)
  obtain rfl : rightRest = [] := List.length_eq_zero_iff.1 (by omega)
  obtain rfl : left = mine := by simpa using restLeft
  obtain rfl : right = others := by simpa using restRight
  refine ⟨⟨takes.perm, fun order alike level => ?_⟩, fun order => ?_⟩
  · rw [List.filter_append]
    exact Takes.filter_eq order takes (restLeft ▸ sortedLeft order) (restRight ▸ sortedRight order)
      level
  · exact Takes.isSorted order takes (restLeft ▸ sortedLeft order) (restRight ▸ sortedRight order)

/-- Merging from the backs sorts two sorted lists. -/
theorem isSortOf_mergeDown : IsSortOf before (left ++ right) (mergeDown before left right) := by
  have turned : IsSortOf (fun x y => before y x) (right.reverse ++ left.reverse)
      (mergeUp (fun x y => before y x) right.reverse left.reverse) :=
    isSortOf_mergeUp (fun order => (sortedRight order.flip).reverse)
      fun order => (sortedLeft order.flip).reverse
  rw [← List.reverse_append] at turned
  have back := turned.reverse
  rwa [List.reverse_reverse] at back

/-- Merging from either end sorts two sorted lists. -/
theorem isSortOf_merge : IsSortOf before (left ++ right) (merge before left right) := by
  unfold merge
  split
  · exact isSortOf_mergeUp sortedLeft sortedRight
  · exact isSortOf_mergeDown sortedLeft sortedRight

end

/-! ## Merging from both ends -/

/-- A list whose back is known from its reverse. -/
theorem eq_append_of_reverse_eq {xs ys zs : List α} (same : xs.reverse = ys ++ zs) :
    xs = zs.reverse ++ ys.reverse := by
  rw [← List.reverse_append, ← same, List.reverse_reverse]

/-- Where one end leaves at least what the other takes, the list is what both take and what stands
between. -/
theorem exists_between {front rest kept back : List α} (same : front ++ rest = kept ++ back)
    (fits : (front ++ rest).length ≤ rest.length + kept.length) :
    let between := rest.take (rest.length + kept.length - (front ++ rest).length)
    rest = between ++ back ∧ kept = front ++ between := by
  rw [List.length_append] at fits
  have short : front.length ≤ kept.length := by omega
  obtain ⟨middle, rfl, rfl⟩ : ∃ middle, kept = front ++ middle ∧ rest = middle ++ back := by
    rcases List.append_eq_append_iff.1 same with
      ⟨middle, keptEq, restEq⟩ | ⟨surplus, frontEq, backEq⟩
    · exact ⟨middle, keptEq, restEq⟩
    · have none : surplus = [] := by
        rw [frontEq, List.length_append] at short
        exact List.length_eq_zero_iff.1 (by omega)
      subst none
      exact ⟨[], by simpa using frontEq.symm, by simpa using backEq.symm⟩
  have count : (middle ++ back).length + (front ++ middle).length -
      (front ++ (middle ++ back)).length = middle.length := by
    simp only [List.length_append]
    omega
  rw [count, List.take_left]
  exact ⟨rfl, rfl⟩

/-- A list merged from both ends is what the ends take with what stands between, which is one
element at most. -/
theorem exists_takes_of_mergeHalves {left right ys : List α}
    (merged : mergeHalves before left right = some ys) :
    ∃ mine others taken mineBetween othersBetween mineBack othersBack takenBack,
      left = mine ++ (mineBetween ++ mineBack) ∧
      right = others ++ (othersBetween ++ othersBack) ∧
      ys = taken ++ mineBetween ++ othersBetween ++ takenBack.reverse ∧
      mineBetween.length + othersBetween.length ≤ 1 ∧
      Takes before (mineBetween ++ mineBack) (othersBetween ++ othersBack) mine others taken ∧
      Takes (fun x y => before y x) (others ++ othersBetween).reverse (mine ++ mineBetween).reverse
        othersBack.reverse mineBack.reverse takenBack := by
  simp only [mergeHalves] at merged
  obtain ⟨mine, others, restLeft, restRight, takes, count⟩ :=
    takes_takeFronts before ((left.length + right.length) / 2) left right
  obtain ⟨othersBack, mineBack, turnedRight, turnedLeft, takesBack, countBack⟩ :=
    takes_takeFronts (fun x y => before y x) ((left.length + right.length) / 2) right.reverse
      left.reverse
  have keptLeft := eq_append_of_reverse_eq turnedLeft
  have keptRight := eq_append_of_reverse_eq turnedRight
  generalize takeFronts before ((left.length + right.length) / 2) left right = front at *
  generalize takeFronts _ ((left.length + right.length) / 2) right.reverse left.reverse = back at *
  obtain ⟨taken, leftRest, rightRest⟩ := front
  obtain ⟨takenBack, rightKept, leftKept⟩ := back
  dsimp only at *
  split at merged
  rotate_left
  · cases merged
  next fits =>
  obtain ⟨fitsLeft, fitsRight⟩ := fits
  have between := exists_between (restLeft.symm.trans keptLeft)
    (by rw [← restLeft, List.length_reverse]; exact fitsLeft)
  have betweenRight := exists_between (restRight.symm.trans keptRight)
    (by rw [← restRight, List.length_reverse]; exact fitsRight)
  rw [← restLeft, List.length_reverse] at between
  rw [← restRight, List.length_reverse] at betweenRight
  generalize leftRest.take _ = mineBetween at *
  generalize rightRest.take _ = othersBetween at *
  obtain ⟨rfl, leftKeptEq⟩ := between
  obtain ⟨rfl, rightKeptEq⟩ := betweenRight
  obtain rfl := Option.some.inj merged
  rw [List.reverse_eq_iff] at leftKeptEq rightKeptEq
  subst leftKeptEq rightKeptEq
  have all := takes.perm.length_eq
  have allBack := takesBack.perm.length_eq
  refine ⟨mine, others, taken, mineBetween, othersBetween, mineBack.reverse, othersBack.reverse,
    takenBack, restLeft, restRight, rfl, ?_, takes, ?_⟩
  · rw [restLeft, restRight] at count countBack
    simp only [List.length_append, List.length_reverse] at *
    omega
  · rwa [List.reverse_reverse, List.reverse_reverse]

/-- If all of some elements come before all of others, only some or only others are on a level. -/
theorem filter_eq_nil_of_lt {xs ys : List α} {alike : α → Bool} (level : IsLevel before alike)
    (less : ∀ y ∈ ys, ∀ x ∈ xs, before y x = true) :
    ys.filter alike = [] ∨ xs.filter alike = [] := by
  by_contra both
  rw [not_or, List.filter_eq_nil_iff, List.filter_eq_nil_iff] at both
  push Not at both
  obtain ⟨⟨y, inYs, sameY⟩, x, inXs, sameX⟩ := both
  exact Bool.false_ne_true ((level y x sameY sameX).symm.trans (less y inYs x inXs))

/-- Two cuts of a list at different places have an element between them. -/
theorem exists_common {front rest kept back : List α} (same : front ++ rest = kept ++ back)
    (long : kept.length < front.length) : ∃ x ∈ front, x ∈ back := by
  rcases List.append_eq_append_iff.1 same with ⟨middle, rfl, -⟩ | ⟨surplus, rfl, rfl⟩
  · simp only [List.length_append] at long
    omega
  · cases surplus with
    | nil => simp at long
    | cons x surplus => exact ⟨x, by simp, by simp⟩

/-- One element alone is sorted. -/
theorem isSorted_of_length_le_one {xs : List α} (short : xs.length ≤ 1) : IsSorted before xs := by
  match xs, short with
  | [], _ => exact List.Pairwise.nil
  | [x], _ => exact List.pairwise_singleton _ x

section

variable {left right : List α} (sortedLeft : IsWeakOrder before → IsSorted before left)
  (sortedRight : IsWeakOrder before → IsSorted before right)

include sortedLeft sortedRight

/-- Merging from both ends sorts two sorted lists, if there is a result. -/
theorem isSortOf_mergeHalves {ys : List α} (merged : mergeHalves before left right = some ys) :
    IsSortOf before (left ++ right) ys := by
  obtain ⟨mine, others, taken, mineBetween, othersBetween, mineBack, othersBack, takenBack, rfl,
    rfl, rfl, short, takes, takesBack⟩ := exists_takes_of_mergeHalves merged
  have turned (order : IsWeakOrder before) := And.intro (sortedLeft order).reverse
    (sortedRight order).reverse
  simp only [List.reverse_append, List.append_assoc] at turned
  simp only [List.reverse_append] at takesBack
  refine ⟨⟨?_, fun order alike level => ?_⟩, fun order => ?_⟩
  · classical
    refine List.perm_iff_count.2 fun x => ?_
    have front := takes.perm.count_eq x
    have back := takesBack.perm.count_eq x
    simp only [List.count_append, List.count_reverse] at front back ⊢
    omega
  · have front := Takes.filter_eq order takes (sortedLeft order) (sortedRight order) level
    have back := Takes.filter_eq order.flip takesBack (turned order).2 (turned order).1 level.flip
    have notPassed := filter_eq_nil_of_lt level
      (Takes.right_lt order takes (sortedLeft order) (sortedRight order))
    have notPassedBack := filter_eq_nil_of_lt level.flip
      (Takes.right_lt order.flip takesBack (turned order).2 (turned order).1)
    simp only [List.filter_append, List.filter_reverse, List.append_eq_nil_iff,
      List.reverse_eq_nil_iff] at front back notPassed notPassedBack ⊢
    rw [front, back]
    rcases notPassed with none | ⟨none, noneBack⟩
    · rcases notPassedBack with noneBack | ⟨noneBetween, -⟩
      · simp [none, noneBack]
      · simp [none, noneBetween]
    · simp [none, noneBack]
  · have front := Takes.isSorted order takes (sortedLeft order) (sortedRight order)
    have back := Takes.isSorted order.flip takesBack (turned order).2 (turned order).1
    have below := Takes.le_rest order takes (sortedLeft order) (sortedRight order)
    have above := Takes.le_rest order.flip takesBack (turned order).2 (turned order).1
    have between : IsSorted before (mineBetween ++ othersBetween) := by
      rw [← List.length_append] at short
      exact isSorted_of_length_le_one short
    have backTurned : IsSorted before takenBack.reverse := back.reverse
    simp only [List.forall_mem_append, List.mem_reverse] at below above
    rw [List.append_assoc taken]
    refine List.pairwise_append.2 ⟨List.pairwise_append.2 ⟨front, between, ?_⟩, backTurned, ?_⟩
    · intro z member w rest
      obtain ⟨⟨own, -⟩, other, -⟩ := below z member
      exact (List.mem_append.1 rest).elim (own w) (other w)
    · intro z member w last
      rw [List.mem_reverse] at last
      rcases List.mem_append.1 member with first | middle
      · obtain ⟨⟨-, own⟩, -, other⟩ := below z first
        have source := takesBack.perm.mem_iff.1 last
        simp only [List.mem_append, List.mem_reverse] at source
        exact source.elim (other w) (own w)
      · obtain ⟨⟨other, -⟩, own, -⟩ := above w last
        exact (List.mem_append.1 middle).elim (own z) (other z)

/-- Under an order merging two sorted lists from both ends has a result. -/
theorem isSome_mergeHalves (order : IsWeakOrder before) :
    (mergeHalves before left right).isSome = true := by
  simp only [mergeHalves]
  obtain ⟨mine, others, restLeft, restRight, takes, count⟩ :=
    takes_takeFronts before ((left.length + right.length) / 2) left right
  obtain ⟨othersBack, mineBack, turnedRight, turnedLeft, takesBack, countBack⟩ :=
    takes_takeFronts (fun x y => before y x) ((left.length + right.length) / 2) right.reverse
      left.reverse
  have keptLeft := eq_append_of_reverse_eq turnedLeft
  have keptRight := eq_append_of_reverse_eq turnedRight
  generalize takeFronts before ((left.length + right.length) / 2) left right = front at *
  generalize takeFronts _ ((left.length + right.length) / 2) right.reverse left.reverse = back at *
  obtain ⟨taken, leftRest, rightRest⟩ := front
  obtain ⟨takenBack, rightKept, leftKept⟩ := back
  dsimp only at *
  have ahead := sortedLeft order
  have behind := sortedRight order
  have aheadTurned := (sortedLeft order).reverse
  have behindTurned := (sortedRight order).reverse
  rw [restLeft] at ahead
  rw [restRight] at behind
  rw [turnedLeft] at aheadTurned
  rw [turnedRight] at behindTurned
  have all := takes.perm.length_eq
  have allBack := takesBack.perm.length_eq
  have sizeLeft := congrArg List.length restLeft
  have sizeRight := congrArg List.length restRight
  have sizeKeptLeft := congrArg List.length keptLeft
  have sizeKeptRight := congrArg List.length keptRight
  simp only [List.length_append, List.length_reverse] at all allBack count countBack
  simp only [List.length_append] at sizeLeft sizeRight
  simp only [List.length_append, List.length_reverse] at sizeKeptLeft sizeKeptRight
  split
  · rfl
  next apart =>
  -- If the ends overlap in one list, something of the other list is taken by neither end; it can
  -- stand neither before nor behind what both have taken.
  exfalso
  rcases Decidable.not_and_iff_not_or_not.1 apart with overlap | overlap
  · obtain ⟨x, front, back⟩ := exists_common (restLeft.symm.trans keptLeft)
      (by rw [List.length_reverse]; omega)
    obtain ⟨y, kept, rest⟩ := exists_common (keptRight.symm.trans restRight)
      (by rw [List.length_reverse]; omega)
    rw [List.mem_reverse] at back kept
    have notBefore := Takes.left_le order takes ahead behind x front y rest
    have isBefore := Takes.right_lt order.flip takesBack behindTurned aheadTurned x back y kept
    exact Bool.false_ne_true (notBefore.symm.trans isBefore)
  · obtain ⟨y, front, back⟩ := exists_common (restRight.symm.trans keptRight)
      (by rw [List.length_reverse]; omega)
    obtain ⟨x, kept, rest⟩ := exists_common (keptLeft.symm.trans restLeft)
      (by rw [List.length_reverse]; omega)
    rw [List.mem_reverse] at back kept
    have isBefore := Takes.right_lt order takes ahead behind y front x rest
    have notBefore := Takes.left_le order.flip takesBack behindTurned aheadTurned y back x kept
    exact Bool.false_ne_true (notBefore.symm.trans isBefore)

end

/-! ## Small lists -/

/-- Merging two pairs loses and doubles none. -/
theorem perm_mergePairs (before : α → α → Bool) (a b c d : α) :
    (mergePairs before a b c d).Perm [a, b, c, d] := by
  classical
  refine List.perm_iff_count.2 fun x => ?_
  unfold mergePairs
  cases before c a <;> cases before d b <;> simp only [Bool.false_eq_true, ↓reduceIte] <;> split <;>
    simp only [List.count_cons, List.count_nil] <;> omega

/-- Under an order merging two pairs with three comparisons is merging them from the fronts. -/
theorem mergePairs_eq (order : IsWeakOrder before) {a b c d : α} (first : before b a = false)
    (second : before d c = false) :
    mergePairs before a b c d = mergeUp before [a, b] [c, d] := by
  cases low : before c a with
  | false =>
    cases high : before d b with
    | false => cases between : before c b <;>
        simp [mergePairs, mergeUp, takeFronts, next?, low, high, between]
    | true =>
      have between : before c b = true := order.lt_of_le_of_lt second high
      simp [mergePairs, mergeUp, takeFronts, next?, low, high, between, second]
  | true =>
    cases high : before d b with
    | false =>
      have between : before d a = false := by
        by_contra less
        rw [Bool.not_eq_false] at less
        exact Bool.false_ne_true (high.symm.trans (order.lt_of_lt_of_le less first))
      simp [mergePairs, mergeUp, takeFronts, next?, low, high, between, first]
    | true => cases between : before d a <;>
        simp [mergePairs, mergeUp, takeFronts, next?, low, high, between]

/-- Merging two sorted pairs sorts four elements. -/
theorem isSortOf_mergePairs {a b c d : α} (first : IsWeakOrder before → IsSorted before [a, b])
    (second : IsWeakOrder before → IsSorted before [c, d]) :
    IsSortOf before [a, b, c, d] (mergePairs before a b c d) := by
  have merged := isSortOf_mergeUp first second
  have same (order : IsWeakOrder before) :
      mergePairs before a b c d = mergeUp before [a, b] [c, d] := by
    have inFirst := first order
    have inSecond := second order
    simp only [IsSorted, List.pairwise_pair] at inFirst inSecond
    exact mergePairs_eq order inFirst inSecond
  refine ⟨⟨perm_mergePairs before a b c d, fun order => ?_⟩, fun order => ?_⟩
  · rw [same order]
    exact merged.kept order
  · rw [same order]
    exact merged.sorted order

/-- A pair is put in order. -/
theorem isSortOf_pair (before : α → α → Bool) (x y : α) :
    let pair := if before y x then (y, x) else (x, y)
    IsSortOf before [x, y] [pair.1, pair.2] := by
  intro pair
  have inserted := isSortOf_insertion before [x, y]
  simp only [insertion, insertAll, List.foldl_cons, List.foldl_nil, insertBack] at inserted
  unfold pair
  split at inserted
  · next less =>
    rw [if_pos less]
    exact inserted
  · next notLess =>
    rw [if_neg notLess]
    exact inserted

/-- Four elements are sorted as two pairs. -/
theorem isSortOf_sortFour (before : α → α → Bool) (u v w x : α) :
    IsSortOf before [u, v, w, x] (sortFour before u v w x) := by
  have one := isSortOf_pair before u v
  have two := isSortOf_pair before w x
  exact .of_rearranged (one.toRearranged.append two.toRearranged)
    (isSortOf_mergePairs one.sorted two.sorted)

/-- Inserting elements behind the first four sorts them all. -/
theorem isSortOf_sortHalf (before : α → α → Bool) (xs : List α) :
    IsSortOf before xs (sortHalf before xs) := by
  unfold sortHalf
  split
  · next u v w x rest =>
    have four := isSortOf_sortFour before u v w x
    have inserted := isSortOf_insertAll (sortFour before u v w x).reverse
      (fun order => (four.sorted order).reverse) rest
    rw [List.reverse_reverse] at inserted
    exact .of_rearranged (four.toRearranged.append (.refl before rest)) inserted
  · exact isSortOf_insertion before xs

/-- The halves of a small list are sorted. -/
theorem exists_isSortOf_halves (before : α → α → Bool) (xs : List α) :
    ∃ left right, smallSort before xs = mergeHalves before left right ∧
      IsSortOf before (xs.take (xs.length / 2)) left ∧
      IsSortOf before (xs.drop (xs.length / 2)) right := by
  unfold smallSort
  rw [List.splitAt_eq]
  dsimp only
  split
  · exact ⟨_, _, rfl, isSortOf_sortHalf before _, isSortOf_sortHalf before _⟩
  · exact ⟨_, _, rfl, isSortOf_insertion before _, isSortOf_insertion before _⟩

/-- A small list is sorted, if there is a result. -/
theorem isSortOf_smallSort {xs ys : List α} (sorted : smallSort before xs = some ys) :
    IsSortOf before xs ys := by
  obtain ⟨left, right, same, sortedLeft, sortedRight⟩ := exists_isSortOf_halves before xs
  rw [same] at sorted
  have halves := sortedLeft.toRearranged.append sortedRight.toRearranged
  rw [List.take_append_drop] at halves
  exact .of_rearranged halves (isSortOf_mergeHalves sortedLeft.sorted sortedRight.sorted sorted)

/-- Under an order a small list can be sorted. -/
theorem isSome_smallSort (order : IsWeakOrder before) (xs : List α) :
    (smallSort before xs).isSome = true := by
  obtain ⟨left, right, same, sortedLeft, sortedRight⟩ := exists_isSortOf_halves before xs
  rw [same]
  exact isSome_mergeHalves sortedLeft.sorted sortedRight.sorted order

end Campus.StableSort
