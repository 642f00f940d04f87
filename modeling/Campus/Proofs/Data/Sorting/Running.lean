import Campus.Data.StableSort
import Campus.Proofs.Data.Sorting.Merging
/-!
# Sorting by runs

Cutting a list into runs rearranges it at most within runs that go down, and joining runs rearranges
them into one. All this has a result as soon as there is one for the pieces that are in no order.
-/

namespace Campus.StableSort

variable {α : Type} {before : α → α → Bool} {settle : List α → Option (List α)}

/-- What a way of sorting gives is the list sorted. -/
def Sorts (before : α → α → Bool) (settle : List α → Option (List α)) : Prop :=
  ∀ xs ys, settle xs = some ys → IsSortOf before xs ys

/-- A run that is held to be sorted is. -/
def Run.IsSound (before : α → α → Bool) (run : Run α) : Prop :=
  run.isSorted = true → IsWeakOrder before → IsSorted before run.elements

/-- The elements of runs, one run behind another. -/
def elementsOf (runs : List (Run α)) : List α := (runs.map Run.elements).flatten

/-! ## Cutting -/

/-- A run that goes on is a chain, and what is behind it follows in the list. -/
theorem follow_spec (mayFollow : α → α → Bool) (last : α) (xs : List α) :
    let found := follow mayFollow last xs
    xs = found.1 ++ found.2 ∧ (last :: found.1).IsChain fun x y => mayFollow x y = true := by
  induction xs generalizing last with
  | nil => exact ⟨rfl, List.IsChain.singleton last⟩
  | cons x rest ih =>
    obtain ⟨same, chain⟩ := ih x
    simp only [follow]
    split
    · next goesOn => exact ⟨congrArg (x :: ·) same, List.isChain_cons_cons.2 ⟨goesOn, chain⟩⟩
    · exact ⟨rfl, List.IsChain.singleton last⟩

/-- Of strictly ordered elements at most one is of a level. -/
theorem reverse_filter_of_pairwise {xs : List α} {alike : α → Bool} (level : IsLevel before alike)
    (strict : xs.Pairwise fun x y => before y x = true) :
    (xs.filter alike).reverse = xs.filter alike := by
  have chosen : ∀ x ∈ xs.filter alike, alike x = true := fun x member =>
    (List.mem_filter.1 member).2
  have apart := strict.filter alike
  generalize xs.filter alike = few at chosen apart
  match few with
  | [] | [_] => rfl
  | x :: y :: _ =>
    have less := (List.pairwise_cons.1 apart).1 y List.mem_cons_self
    have notLess := level y x (chosen y (by simp)) (chosen x (by simp))
    exact absurd (notLess.symm.trans less) Bool.false_ne_true

/-- A chain of elements each of which is not before the one ahead of it is sorted. -/
theorem isSorted_of_isChain (order : IsWeakOrder before) {xs : List α}
    (chain : xs.IsChain fun last next => (!before next last) = true) : IsSorted before xs := by
  have lawful : Trans (fun x y => (!before y x) = true) (fun x y => (!before y x) = true)
      fun x y => (!before y x) = true := by
    refine ⟨fun {x y z} first second => ?_⟩
    rw [Bool.not_eq_true'] at first second ⊢
    exact order.trans x y z first second
  exact chain.pairwise.imp fun kept => by simpa using kept

/-- A chain of elements each of which is before the one ahead of it goes down throughout. -/
theorem pairwise_of_isChain (order : IsWeakOrder before) {xs : List α}
    (chain : xs.IsChain fun last next => before next last = true) :
    xs.Pairwise fun x y => before y x = true := by
  have lawful : Trans (fun x y => before y x = true) (fun x y => before y x = true)
      fun x y => before y x = true :=
    ⟨fun {x y z} first second => order.lt_of_lt_of_le second (order.asymm y x first)⟩
  exact chain.pairwise

/-- The run that a list starts with is sorted; the list is rearranged within the run at most. -/
theorem existingRun_spec (before : α → α → Bool) (xs : List α) :
    let found := existingRun before xs
    Rearranged before xs (found.1 ++ found.2) ∧
      (IsWeakOrder before → IsSorted before found.1) := by
  unfold existingRun
  split
  · next x y rest =>
    split
    · next first =>
      obtain ⟨same, chain⟩ := follow_spec (fun last next => before next last) y rest
      generalize follow (fun last next => before next last) y rest = found at *
      obtain ⟨run, others⟩ := found
      obtain rfl : rest = run ++ others := same
      have strict (order : IsWeakOrder before) :
          (x :: y :: run).Pairwise fun x y => before y x = true :=
        pairwise_of_isChain order (List.isChain_cons_cons.2 ⟨first, chain⟩)
      have turned : Rearranged before (x :: y :: run) (x :: y :: run).reverse :=
        ⟨List.reverse_perm _, fun order alike level => by
          rw [List.filter_reverse, reverse_filter_of_pairwise level (strict order)]⟩
      refine ⟨turned.append (.refl before others), fun order => ?_⟩
      refine List.pairwise_reverse.2 ((strict order).imp fun less => ?_)
      exact order.asymm _ _ less
    · next notFirst =>
      obtain ⟨same, chain⟩ := follow_spec (fun last next => !before next last) y rest
      generalize follow (fun last next => !before next last) y rest = found at *
      obtain ⟨run, others⟩ := found
      obtain rfl : rest = run ++ others := same
      refine ⟨.refl before _, fun order => isSorted_of_isChain order ?_⟩
      exact List.isChain_cons_cons.2 ⟨by simpa using notFirst, chain⟩
  · next short =>
    refine ⟨by simpa using Rearranged.refl before xs, fun _ => isSorted_of_length_le_one ?_⟩
    match xs, short with
    | [], _ | [_], _ => simp
    | x :: y :: rest, short => exact absurd rfl (short x y rest)

/-- The first run that is cut off, and what is behind it. -/
theorem firstRun_spec (sorts : Sorts before settle) {eager : Bool} {least : Nat} {xs : List α}
    {run : Run α} {others : List α}
    (cut : firstRun before settle eager least xs = some (run, others)) :
    Rearranged before xs (run.elements ++ others) ∧ run.IsSound before := by
  obtain ⟨rearranged, sorted⟩ := existingRun_spec before xs
  simp only [firstRun] at cut
  split at cut
  · cases cut
    exact ⟨rearranged, fun _ => sorted⟩
  split at cut
  · obtain ⟨piece, settled, same⟩ := Option.map_eq_some_iff.1 cut
    cases same
    have sort := sorts _ _ settled
    have pieces := sort.toRearranged.append (.refl before (xs.drop smallLimit))
    rw [List.take_append_drop] at pieces
    exact ⟨pieces, fun _ => sort.sorted⟩
  · cases cut
    refine ⟨?_, nofun⟩
    rw [List.take_append_drop]
    exact .refl before xs

/-- The runs that a list is cut into. -/
theorem runs_spec (sorts : Sorts before settle) {eager : Bool} {least n : Nat} {xs : List α}
    {found : List (Run α)} (cut : runs before settle eager least n xs = some found) :
    Rearranged before xs (elementsOf found) ∧ ∀ run ∈ found, run.IsSound before := by
  induction n generalizing xs found with
  | zero =>
    cases xs with
    | nil =>
      cases cut
      exact ⟨.refl before [], nofun⟩
    | cons => cases cut
  | succ n ih =>
    cases xs with
    | nil =>
      cases cut
      exact ⟨.refl before [], nofun⟩
    | cons x rest =>
      simp only [runs, Option.bind_eq_bind, Option.bind_eq_some_iff, Option.pure_def,
        Option.some.injEq] at cut
      obtain ⟨⟨run, others⟩, first, later, next, rfl⟩ := cut
      obtain ⟨rearranged, sound⟩ := firstRun_spec sorts first
      obtain ⟨rest, soundRest⟩ := ih next
      exact ⟨rearranged.trans ((Rearranged.refl before run.elements).append rest),
        List.forall_mem_cons.2 ⟨sound, soundRest⟩⟩

/-! ## Joining -/

/-- A run is sorted if need be. -/
theorem Run.isSortOf_settled (sorts : Sorts before settle) {run : Run α} {ys : List α}
    (sound : run.IsSound before) (settled : run.settled settle = some ys) :
    IsSortOf before run.elements ys := by
  unfold Run.settled at settled
  split at settled
  · next isSorted =>
    obtain rfl := Option.some.inj settled
    exact .of_sorted (sound isSorted)
  · exact sorts _ _ settled

/-- Two runs are joined to one. -/
theorem joinRuns_spec (sorts : Sorts before settle) {room : Nat} {left right run : Run α}
    (soundLeft : left.IsSound before) (soundRight : right.IsSound before)
    (joined : joinRuns before settle room left right = some run) :
    Rearranged before (left.elements ++ right.elements) run.elements ∧ run.IsSound before := by
  unfold joinRuns at joined
  split at joined
  · obtain rfl := Option.some.inj joined
    exact ⟨.refl before _, nofun⟩
  · simp only [Option.bind_eq_bind, Option.bind_eq_some_iff, Option.pure_def,
      Option.some.injEq] at joined
    obtain ⟨first, settledLeft, second, settledRight, rfl⟩ := joined
    have one := Run.isSortOf_settled sorts soundLeft settledLeft
    have two := Run.isSortOf_settled sorts soundRight settledRight
    have merged := isSortOf_merge one.sorted two.sorted
    exact ⟨(one.toRearranged.append two.toRearranged).trans merged.toRearranged,
      fun _ => merged.sorted⟩

/-- The elements of runs that are held back to front. -/
def heldElements (held : List (Run α × Nat)) : List α := elementsOf (held.map Prod.fst).reverse

/-- The elements of runs of which the last is held apart. -/
theorem heldElements_cons (left : Run α) (depth : Nat) (held : List (Run α × Nat)) :
    heldElements ((left, depth) :: held) = heldElements held ++ left.elements := by
  simp [heldElements, elementsOf]

/-- A run is joined with some of those before it. -/
theorem collapse_spec (sorts : Sorts before settle) {room depth : Nat}
    {held left : List (Run α × Nat)} {run whole : Run α}
    (soundHeld : ∀ entry ∈ held, entry.1.IsSound before) (sound : run.IsSound before)
    (joined : collapse before settle room depth held run = some (left, whole)) :
    Rearranged before (heldElements held ++ run.elements) (heldElements left ++ whole.elements) ∧
      (∀ entry ∈ left, entry.1.IsSound before) ∧ whole.IsSound before ∧
      (depth = 0 → left = []) := by
  induction held generalizing run with
  | nil =>
    cases joined
    exact ⟨.refl before _, nofun, sound, fun _ => rfl⟩
  | cons entry held ih =>
    obtain ⟨last, lastDepth⟩ := entry
    obtain ⟨soundLast, soundRest⟩ := List.forall_mem_cons.1 soundHeld
    rw [collapse] at joined
    split at joined
    · simp only [Option.bind_eq_bind, Option.bind_eq_some_iff] at joined
      obtain ⟨both, first, rest⟩ := joined
      obtain ⟨rearranged, soundBoth⟩ := joinRuns_spec sorts soundLast sound first
      obtain ⟨further, facts⟩ := ih soundRest soundBoth rest
      refine ⟨?_, facts⟩
      rw [heldElements_cons, List.append_assoc]
      exact ((Rearranged.refl before _).append rearranged).trans further
    · next apart =>
      cases joined
      refine ⟨.refl before _, soundHeld, sound, fun none => ?_⟩
      exact absurd (none ▸ Nat.zero_le lastDepth) apart

/-- All runs are joined to one. -/
theorem joinAll_spec (sorts : Sorts before settle) {room length stop : Nat}
    {held : List (Run α × Nat)} {last whole : Run α} {rest : List (Run α)}
    (soundHeld : ∀ entry ∈ held, entry.1.IsSound before) (soundLast : last.IsSound before)
    (soundRest : ∀ run ∈ rest, run.IsSound before)
    (joined : joinAll before settle room length held last stop rest = some whole) :
    Rearranged before (heldElements held ++ last.elements ++ elementsOf rest) whole.elements ∧
      whole.IsSound before := by
  induction rest generalizing held last stop with
  | nil =>
    simp only [joinAll, Option.bind_eq_bind, Option.bind_eq_some_iff, Option.pure_def,
      Option.some.injEq] at joined
    obtain ⟨⟨left, run⟩, collapsed, rfl⟩ := joined
    obtain ⟨rearranged, -, sound, none⟩ := collapse_spec sorts soundHeld soundLast collapsed
    obtain rfl := none rfl
    exact ⟨by simpa [elementsOf, heldElements] using rearranged, sound⟩
  | cons next rest ih =>
    simp only [joinAll, Option.bind_eq_bind, Option.bind_eq_some_iff] at joined
    obtain ⟨⟨left, run⟩, collapsed, further⟩ := joined
    obtain ⟨rearranged, soundLeft, sound, -⟩ := collapse_spec sorts soundHeld soundLast collapsed
    obtain ⟨soundNext, soundLater⟩ := List.forall_mem_cons.1 soundRest
    obtain ⟨all, soundWhole⟩ :=
      ih (List.forall_mem_cons.2 ⟨sound, soundLeft⟩) soundNext soundLater further
    refine ⟨?_, soundWhole⟩
    rw [heldElements_cons] at all
    refine (rearranged.append (.refl before (elementsOf (next :: rest)))).trans ?_
    simpa [elementsOf] using all

/-- Sorting by runs sorts. -/
theorem sorts_drift (sorts : Sorts before settle) (eager : Bool) :
    Sorts before (drift before settle eager) := by
  intro xs ys sorted
  simp only [drift, Option.bind_eq_bind, Option.bind_eq_some_iff] at sorted
  obtain ⟨found, cut, sorted⟩ := sorted
  obtain ⟨rearranged, sound⟩ := runs_spec sorts cut
  cases found with
  | nil =>
    cases sorted
    exact .of_rearranged rearranged (.of_sorted fun _ => List.Pairwise.nil)
  | cons first rest =>
    simp only [Option.bind_eq_some_iff] at sorted
    obtain ⟨whole, joined, settled⟩ := sorted
    obtain ⟨soundFirst, soundRest⟩ := List.forall_mem_cons.1 sound
    have noneHeld : ∀ entry ∈ ([] : List (Run α × Nat)), entry.1.IsSound before := nofun
    obtain ⟨all, soundWhole⟩ := joinAll_spec sorts noneHeld soundFirst soundRest joined
    refine .of_rearranged (rearranged.trans ?_) (Run.isSortOf_settled sorts soundWhole settled)
    simpa [heldElements, elementsOf] using all

/-! ## Results -/

/-- A run of a list that has to be found is not empty. -/
theorem leastRun_pos {n : Nat} (positive : 0 < n) : 0 < leastRun n := by
  unfold leastRun
  split
  · omega
  · next long =>
    have atLeast : n ≤ n ||| 1 := Nat.left_le_or
    have root : 1 ≤ (n ||| 1).log2 := (Nat.le_log2 (by omega)).2 (by omega)
    have power : 2 ^ 1 ≤ 2 ^ ((1 + (n ||| 1).log2) / 2) :=
      Nat.pow_le_pow_right (by decide) (by omega)
    exact Nat.div_pos (Nat.le_trans power (Nat.le_add_right _ _)) (by decide)

section

variable (succeeds : ∀ xs, (settle xs).isSome = true)

include succeeds

/-- A first run can be cut off any list, and what is behind it is shorter than the list. -/
theorem exists_firstRun (before : α → α → Bool) (eager : Bool) {least : Nat} (positive : 0 < least)
    {xs : List α} (some : xs ≠ []) :
    ∃ run others, firstRun before settle eager least xs = .some (run, others) ∧
      others.length < xs.length := by
  have nonempty : 0 < xs.length := List.length_pos_iff.2 some
  have all := (existingRun_spec before xs).1.perm.length_eq
  rw [List.length_append] at all
  simp only [firstRun]
  split
  · exact ⟨_, _, rfl, by omega⟩
  split
  · obtain ⟨piece, settled⟩ := Option.isSome_iff_exists.1 (succeeds (xs.take smallLimit))
    refine ⟨⟨piece, true⟩, xs.drop smallLimit, by rw [settled]; rfl, ?_⟩
    rw [List.length_drop, smallLimit]
    omega
  · refine ⟨_, _, rfl, ?_⟩
    rw [List.length_drop]
    omega

/-- Any list can be cut into runs, of which there are at most as many as elements. -/
theorem isSome_runs (before : α → α → Bool) (eager : Bool) {least : Nat} (positive : 0 < least)
    {n : Nat} {xs : List α} (enough : xs.length ≤ n) :
    (runs before settle eager least n xs).isSome = true := by
  induction n generalizing xs with
  | zero =>
    obtain rfl := List.length_eq_zero_iff.1 (Nat.le_zero.1 enough)
    rfl
  | succ n ih =>
    cases xs with
    | nil => rfl
    | cons x rest =>
      obtain ⟨run, others, first, shorter⟩ :=
        exists_firstRun succeeds before eager positive (List.cons_ne_nil x rest)
      have fewer : others.length ≤ n := by
        rw [List.length_cons] at enough shorter
        omega
      obtain ⟨later, next⟩ := Option.isSome_iff_exists.1 (ih fewer)
      simp [runs, first, next]

/-- Any run can be sorted. -/
theorem Run.isSome_settled (run : Run α) : (run.settled settle).isSome = true := by
  unfold Run.settled
  split
  · rfl
  · exact succeeds _

/-- Any two runs can be joined. -/
theorem isSome_joinRuns (before : α → α → Bool) (room : Nat) (left right : Run α) :
    (joinRuns before settle room left right).isSome = true := by
  obtain ⟨one, settled⟩ := Option.isSome_iff_exists.1 (Run.isSome_settled succeeds left)
  obtain ⟨two, settledToo⟩ := Option.isSome_iff_exists.1 (Run.isSome_settled succeeds right)
  unfold joinRuns
  split
  · rfl
  · simp [settled, settledToo]

/-- A run can be joined with those before it. -/
theorem isSome_collapse (before : α → α → Bool) (room depth : Nat) (held : List (Run α × Nat))
    (run : Run α) : (collapse before settle room depth held run).isSome = true := by
  induction held generalizing run with
  | nil => rfl
  | cons entry held ih =>
    rw [collapse]
    split
    · obtain ⟨both, joined⟩ :=
        Option.isSome_iff_exists.1 (isSome_joinRuns succeeds before room entry.1 run)
      simpa [joined] using ih both
    · rfl

/-- All runs can be joined to one. -/
theorem isSome_joinAll (before : α → α → Bool) (room length : Nat) (held : List (Run α × Nat))
    (last : Run α) (stop : Nat) (rest : List (Run α)) :
    (joinAll before settle room length held last stop rest).isSome = true := by
  induction rest generalizing held last stop with
  | nil =>
    obtain ⟨whole, joined⟩ :=
      Option.isSome_iff_exists.1 (isSome_collapse succeeds before room 0 held last)
    simp [joinAll, joined]
  | cons next rest ih =>
    rw [joinAll]
    obtain ⟨found, joined⟩ := Option.isSome_iff_exists.1 (isSome_collapse succeeds before room
      (mergeDepth length (stop - last.elements.length) stop (stop + next.elements.length)) held
        last)
    simpa [joined] using ih _ next _

/-- Any list can be sorted by runs if any piece can be sorted. -/
theorem isSome_drift (before : α → α → Bool) (eager : Bool) (xs : List α) :
    (drift before settle eager xs).isSome = true := by
  cases xs with
  | nil => rfl
  | cons x rest =>
    obtain ⟨found, cut⟩ := Option.isSome_iff_exists.1
      (isSome_runs succeeds before eager (leastRun_pos (Nat.succ_pos rest.length))
        (Nat.le_refl (x :: rest).length))
    simp only [drift, List.length_cons] at cut ⊢
    rw [cut]
    cases found with
    | nil => rfl
    | cons first others =>
      obtain ⟨whole, joined⟩ := Option.isSome_iff_exists.1
        (isSome_joinAll succeeds before (roomFor (rest.length + 1)) (rest.length + 1) [] first
          first.elements.length others)
      simpa [joined] using Run.isSome_settled succeeds whole

end

end Campus.StableSort
