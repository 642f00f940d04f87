import Mathlib.Order.Defs.LinearOrder
import Mathlib.Data.List.Basic
/-!
# Sorted and rearranged lists

A list is rearranged if it has the same elements and no element has passed another that it is on a
level with. That none has passed another is asked for only if what comes before what is a strict
weak order, since nothing can be said otherwise; that no element is lost or doubled is asked for in
any case.
-/

namespace Campus.StableSort

variable {α : Type} {before : α → α → Bool}

/-- A strict weak order: at most one of two elements comes before the other, and an element that is
not after one, which is not after a third, is not after the third. -/
structure IsWeakOrder (before : α → α → Bool) : Prop where
  asymm : ∀ x y, before x y = true → before y x = false
  trans : ∀ x y z, before y x = false → before z y = false → before z x = false

namespace IsWeakOrder

/-- No element comes before itself. -/
theorem irrefl (order : IsWeakOrder before) (x : α) : before x x = false := by
  by_contra first
  rw [Bool.not_eq_false] at first
  exact Bool.false_ne_true ((order.asymm x x first).symm.trans first)

/-- An element before one that is not after another is before the other. -/
theorem lt_of_lt_of_le (order : IsWeakOrder before) {x y z : α} (first : before x y = true)
    (second : before z y = false) : before x z = true := by
  by_contra notFirst
  rw [Bool.not_eq_true] at notFirst
  exact Bool.false_ne_true ((order.trans y z x second notFirst).symm.trans first)

/-- An element that is not after one before another is before the other. -/
theorem lt_of_le_of_lt (order : IsWeakOrder before) {x y z : α} (first : before y x = false)
    (second : before y z = true) : before x z = true := by
  by_contra notFirst
  rw [Bool.not_eq_true] at notFirst
  exact Bool.false_ne_true ((order.trans z x y notFirst first).symm.trans second)

/-- An order may be followed in the other direction. -/
theorem flip (order : IsWeakOrder before) : IsWeakOrder fun x y => before y x where
  asymm x y := order.asymm y x
  trans x y z first second := order.trans z y x second first

end IsWeakOrder

/-- What a lawful comparison puts before is a strict weak order. -/
theorem isWeakOrder_of_transCmp (cmp : α → α → Ordering) [Std.TransCmp cmp] :
    IsWeakOrder fun x y => cmp x y == .lt where
  asymm x y first := by
    have less : cmp x y = .lt := eq_of_beq first
    have turned : cmp y x = (cmp x y).swap := Std.OrientedCmp.eq_swap
    rw [turned, less]
    rfl
  trans x y z first second := by
    have notLess {left right : α} : (cmp right left == .lt) = false ↔ (cmp left right).isLE := by
      have turned : cmp right left = (cmp left right).swap := Std.OrientedCmp.eq_swap
      rw [turned]
      cases cmp left right <;> simp
    rw [notLess] at first second ⊢
    exact Std.TransCmp.isLE_trans first second

/-- No element stands after one that it comes before. -/
def IsSorted (before : α → α → Bool) (xs : List α) : Prop :=
  xs.Pairwise fun earlier later => before later earlier = false

/-- Of some elements none comes before another. -/
def IsLevel (before : α → α → Bool) (alike : α → Bool) : Prop :=
  ∀ x y, alike x = true → alike y = true → before x y = false

/-- One list has the elements of another, and under an order none has passed another that it is on a
level with. -/
structure Rearranged (before : α → α → Bool) (xs ys : List α) : Prop where
  perm : ys.Perm xs
  kept : IsWeakOrder before → ∀ alike, IsLevel before alike → ys.filter alike = xs.filter alike

/-- One list is the other one sorted, so far as there is an order. -/
structure IsSortOf (before : α → α → Bool) (xs ys : List α) : Prop
    extends Rearranged before xs ys where
  sorted : IsWeakOrder before → IsSorted before ys

/-- Elements on a level are so in both directions of an order. -/
theorem IsLevel.flip {alike : α → Bool} (level : IsLevel before alike) :
    IsLevel (fun x y => before y x) alike :=
  fun x y first second => level y x second first

/-- What is on one level stands to anything else in the same way. -/
theorem IsLevel.congr {alike : α → Bool} (level : IsLevel before alike)
    (order : IsWeakOrder before) {x y : α} (first : alike x = true) (second : alike y = true)
    (z : α) : before x z = before y z ∧ before z x = before z y := by
  have one := level x y first second
  have two := level y x second first
  constructor <;> rw [Bool.eq_iff_iff]
  · exact ⟨order.lt_of_le_of_lt one, order.lt_of_le_of_lt two⟩
  · exact ⟨fun less => order.lt_of_lt_of_le less two, fun less => order.lt_of_lt_of_le less one⟩

/-- A list turned around is sorted for the other direction. -/
theorem IsSorted.reverse {xs : List α} (sorted : IsSorted before xs) :
    IsSorted (fun x y => before y x) xs.reverse :=
  List.pairwise_reverse.2 sorted

namespace Rearranged

variable {xs ys zs us vs : List α}

/-- A list as it is. -/
theorem refl (before : α → α → Bool) (xs : List α) : Rearranged before xs xs :=
  ⟨.refl xs, fun _ _ _ => rfl⟩

/-- A list may be rearranged again. -/
theorem trans (first : Rearranged before xs ys) (second : Rearranged before ys zs) :
    Rearranged before xs zs :=
  ⟨second.perm.trans first.perm, fun order alike level =>
    (second.kept order alike level).trans (first.kept order alike level)⟩

/-- Two parts of a list may be rearranged each on its own. -/
theorem append (first : Rearranged before xs ys) (second : Rearranged before us vs) :
    Rearranged before (xs ++ us) (ys ++ vs) where
  perm := first.perm.append second.perm
  kept order alike level := by
    rw [List.filter_append, List.filter_append, first.kept order alike level,
      second.kept order alike level]

/-- Both lists may be turned around. -/
theorem reverse (rearranged : Rearranged before xs ys) :
    Rearranged before xs.reverse ys.reverse where
  perm := (ys.reverse_perm.trans rearranged.perm).trans xs.reverse_perm.symm
  kept order alike level := by
    rw [List.filter_reverse, List.filter_reverse, rearranged.kept order alike level]

/-- What is on a level is so in both directions. -/
theorem flip (rearranged : Rearranged (fun x y => before y x) xs ys) : Rearranged before xs ys :=
  ⟨rearranged.perm, fun order alike level => rearranged.kept order.flip alike level.flip⟩

end Rearranged

namespace IsSortOf

variable {xs ys zs : List α}

/-- A sorted list is sorted as it is. -/
theorem of_sorted (sorted : IsWeakOrder before → IsSorted before xs) : IsSortOf before xs xs :=
  ⟨.refl before xs, sorted⟩

/-- A list may be rearranged before it is sorted. -/
theorem of_rearranged (first : Rearranged before xs ys) (second : IsSortOf before ys zs) :
    IsSortOf before xs zs :=
  ⟨first.trans second.toRearranged, second.sorted⟩

/-- Sorting for one direction is sorting for the other with both lists turned around. -/
theorem reverse (sort : IsSortOf (fun x y => before y x) xs ys) :
    IsSortOf before xs.reverse ys.reverse :=
  ⟨sort.toRearranged.flip.reverse, fun order => (sort.sorted order.flip).reverse⟩

/-- Two lists may be sorted each on its own if nothing of the second comes before anything of the
first. -/
theorem append {us vs : List α} (first : IsSortOf before xs ys) (second : IsSortOf before us vs)
    (apart : IsWeakOrder before → ∀ x ∈ xs, ∀ u ∈ us, before u x = false) :
    IsSortOf before (xs ++ us) (ys ++ vs) where
  toRearranged := first.toRearranged.append second.toRearranged
  sorted order := by
    refine List.pairwise_append.2 ⟨first.sorted order, second.sorted order, fun y one v two => ?_⟩
    exact apart order y (first.perm.mem_iff.1 one) v (second.perm.mem_iff.1 two)

end IsSortOf

end Campus.StableSort
