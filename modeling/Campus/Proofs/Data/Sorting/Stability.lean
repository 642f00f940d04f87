import Campus.Proofs.Data.Sorting.Naturality
import Campus.Proofs.Data.Sorting.Partitioning
/-!
# Stable sorting

What sorting gives has the same elements as before. If what comes before what is a strict weak order
among the elements of the list, then there is a result, in which no element stands after one that it
comes before, and elements of which none comes before another keep the order they had. For this it
does not matter what the comparison says of others.
-/

namespace Campus.StableSort

variable {α : Type} {before : α → α → Bool} {xs ys : List α}

/-- What comes before what is a strict weak order among the elements of a list. -/
abbrev IsWeakOrderOn (before : α → α → Bool) (xs : List α) : Prop :=
  IsWeakOrder fun x y : {x // x ∈ xs} => before x.1 y.1

/-- Sorting loses and doubles no element. -/
theorem perm_sort (sorted : sort before xs = some ys) : ys.Perm xs := (isSortOf_sort sorted).perm

/-- A list may be sorted as a list of its own elements. -/
theorem sort_eq_map_attach (before : α → α → Bool) (xs : List α) :
    sort before xs =
      (sort (fun x y : {x // x ∈ xs} => before x.1 y.1) xs.attach).map (List.map Subtype.val) := by
  have mapped := sort_map before (Subtype.val : {x // x ∈ xs} → α) xs.attach
  rwa [List.attach_map_subtype_val] at mapped

/-- Elements may be changed before or after they are sorted if that does not change what comes
first. -/
theorem map_sort {β : Type} {otherBefore : β → β → Bool} {change : α → β}
    (same : ∀ x ∈ xs, ∀ y ∈ xs, before x y = otherBefore (change x) (change y)) :
    (sort before xs).map (List.map change) = sort otherBefore (xs.map change) := by
  have mapped := sort_map otherBefore (fun x : {x // x ∈ xs} => change x.1) xs.attach
  have compared : along otherBefore (fun x : {x // x ∈ xs} => change x.1) =
      fun x y => before x.1 y.1 := by
    funext x y
    exact (same x.1 x.2 y.1 y.2).symm
  rw [List.attach_map_val, compared] at mapped
  rw [mapped, sort_eq_map_attach, Option.map_map]
  simp only [Function.comp_def, List.map_map]

/-- Sorting has a result for few elements, and for those that are ordered among themselves. -/
theorem isSome_sort_of_mem (sortable : xs.length ≤ insertionLimit ∨ IsWeakOrderOn before xs) :
    (sort before xs).isSome = true := by
  rw [sort_eq_map_attach, Option.isSome_map]
  refine isSome_sort (sortable.imp_left fun few => ?_)
  rwa [List.length_attach]

section

variable (order : IsWeakOrderOn before xs) (sorted : sort before xs = some ys)

include order sorted

/-- Of sorted elements that are ordered among themselves none stands after one that it comes
before. -/
theorem pairwise_sort_of_mem : ys.Pairwise fun earlier later => before later earlier = false := by
  rw [sort_eq_map_attach] at sorted
  obtain ⟨zs, attached, rfl⟩ := Option.map_eq_some_iff.1 sorted
  rw [List.pairwise_map]
  exact (isSortOf_sort attached).sorted order

/-- Sorting elements that are ordered among themselves moves none past one that it is on a level
with. -/
theorem filter_sort_of_mem {alike : α → Bool}
    (level : ∀ x ∈ xs, ∀ y ∈ xs, alike x = true → alike y = true → before x y = false) :
    ys.filter alike = xs.filter alike := by
  rw [sort_eq_map_attach] at sorted
  obtain ⟨zs, attached, rfl⟩ := Option.map_eq_some_iff.1 sorted
  have levelWithin : IsLevel (fun x y : {x // x ∈ xs} => before x.1 y.1) fun x => alike x.1 :=
    fun x y => level x.1 x.2 y.1 y.2
  have kept := (isSortOf_sort attached).kept order _ levelWithin
  have named (us : List {x // x ∈ xs}) :
      (us.map Subtype.val).filter alike = (us.filter fun x => alike x.1).map Subtype.val := by
    rw [List.filter_map]
    rfl
  rw [named, kept, ← named, List.attach_map_subtype_val]

end

end Campus.StableSort
