import Campus.Proofs.Query.Partition
import Campus.Query.Aggregate
import Mathlib.Data.List.Pairwise
/-!
# Counts and extremes

Counting counts the values that a group shows under the target, equal ones once; a value that is not
equal to itself counts by its word. The largest and the smallest number bound every number of the
group other than NaN, which gives way to any other number wherever it stands. All three depend only
on which values the group shows, up to the sign of a zero and the word of a NaN.
-/

namespace Campus

namespace Binary64

variable {x y z : Binary64}

/-- A number is at most another when it is less or equal. No NaN is at most a number, or a number at
most a NaN. -/
def AtMost (x y : Binary64) : Prop := x.less y = true ∨ x.equals y = true

/-- Numbers other than NaN have the order of their keys. -/
theorem atMost_iff : x.AtMost y ↔ x.isNaN = false ∧ y.isNaN = false ∧ x.key ≤ y.key := by
  simp only [AtMost, less, equals, Bool.and_eq_true, Bool.not_eq_true', decide_eq_true_eq,
    beq_iff_eq, Int.le_iff_lt_or_eq]
  tauto

/-- A NaN is not zero, so it has no sign to drop. -/
theorem normalize_of_isNaN (nan : x.isNaN = true) : x.normalize = x := by
  have large : infinityMagnitude < x.magnitude := of_decide_eq_true nan
  have notZero : x.isZero = false := beq_false_of_ne (Nat.ne_zero_of_lt large)
  rw [normalize, notZero, if_neg Bool.false_ne_true]

/-- The number of the higher rank, the first of two with one rank; a NaN gives way to the other
side. -/
def pick (rank : Binary64 → Int) (x y : Binary64) : Binary64 :=
  if x.isNaN then y else if y.isNaN then x else if rank x < rank y then y else x

/-- The larger number is the one of the higher key. -/
theorem max_eq_pick : max = pick key := rfl

/-- The smaller number is the one of the lower key. -/
theorem min_eq_pick : min = pick fun x => -x.key := by
  funext x y
  simp only [min, pick, neg_lt_neg_iff]

end Binary64

namespace Scalar

variable {v w : Scalar}

/-- A NaN is its own grouping key. -/
theorem groupKey_of_isNaN (nan : v.isNaN = true) : v.groupKey = v := by
  cases v with
  | number x => rw [groupKey_number, Binary64.normalize_of_isNaN nan]
  | text => rfl

/-- A value and its grouping key are both NaN or neither is. -/
theorem isNaN_groupKey (v : Scalar) : v.groupKey.isNaN = v.isNaN := by
  cases v <;> simp [isNaN]

/-- No NaN is equal to anything. -/
theorem isNaN_of_equals (equal : v.equals w = true) : v.isNaN = false ∧ w.isNaN = false := by
  cases v <;> cases w <;> simp_all [equals, Binary64.equals, isNaN]

/-- Values that count as one: the same one twice, or equal ones. The two zeros are equal, a number
equals no text, and a NaN equals nothing, so it counts by its word. -/
def CountsAs (v w : Scalar) : Prop := v = w ∨ v.equals w = true

/-- Whether values count as one can be computed. -/
instance (v w : Scalar) : Decidable (v.CountsAs w) :=
  inferInstanceAs (Decidable (v = w ∨ v.equals w = true))

/-- Values have one grouping key exactly if they count as one. -/
theorem groupKey_eq_groupKey_iff : v.groupKey = w.groupKey ↔ v.CountsAs w := by
  constructor
  · intro same
    have both : v.isNaN = w.isNaN := by rw [← isNaN_groupKey, same, isNaN_groupKey]
    cases nan : v.isNaN with
    | true =>
      rw [groupKey_of_isNaN nan, groupKey_of_isNaN (both ▸ nan)] at same
      exact .inl same
    | false => exact .inr ((groupKey_eq_iff_equals nan (both ▸ nan)).1 same)
  · rintro (rfl | equal)
    · rfl
    · obtain ⟨left, right⟩ := isNaN_of_equals equal
      exact (groupKey_eq_iff_equals left right).2 equal

/-- Counting as one does not depend on the side. -/
theorem CountsAs.symm (same : v.CountsAs w) : w.CountsAs v :=
  groupKey_eq_groupKey_iff.1 (groupKey_eq_groupKey_iff.2 same).symm

/-- Values that count as one with a third count as one. -/
theorem CountsAs.trans {u : Scalar} (left : u.CountsAs v) (right : v.CountsAs w) : u.CountsAs w :=
  groupKey_eq_groupKey_iff.1
    ((groupKey_eq_groupKey_iff.2 left).trans (groupKey_eq_groupKey_iff.2 right))

/-- Values that differ at most in the sign of a zero or the word of a NaN. -/
def Alike (v w : Scalar) : Prop := v.equals w = true ∨ v.isNaN = true ∧ w.isNaN = true

end Scalar

namespace Aggregate

variable {key : String} {group reordered : List Record} {shown : List Scalar}

/-- A value is present when a record has it. -/
theorem mem_values_iff {value : Scalar} :
    value ∈ values key group ↔ ∃ record ∈ group, record.get? key = some value :=
  List.mem_filterMap

/-- A number is present when a record has it. -/
theorem mem_numbers_iff {x : Binary64} :
    x ∈ numbers key group ↔ ∃ record ∈ group, record.get? key = some (.number x) := by
  have number (value : Scalar) : value.asNumber? = some x ↔ value = .number x := by
    cases value <;> simp [Scalar.asNumber?]
  simp only [numbers, List.mem_filterMap, number, exists_eq_right, mem_values_iff]

/-- A group has no numbers exactly if none of its records has one. -/
theorem numbers_eq_nil_iff :
    numbers key group = [] ↔ ∀ record ∈ group, ∀ x, record.get? key ≠ some (.number x) := by
  rw [List.eq_nil_iff_forall_not_mem]
  simp only [mem_numbers_iff]
  exact ⟨fun absent record member x found => absent x ⟨record, member, found⟩,
    fun absent x ⟨record, member, found⟩ => absent record member x found⟩

/-- Values that stand for all that a group shows under a key: each is present, no two of them count as
one, and every present one counts as one of them. -/
structure Represents (key : String) (group : List Record) (shown : List Scalar) : Prop where
  present : ∀ value ∈ shown, ∃ record ∈ group, record.get? key = some value
  apart : shown.Pairwise fun v w => ¬v.CountsAs w
  complete : ∀ record ∈ group, ∀ value, record.get? key = some value →
    ∃ other ∈ shown, other.CountsAs value

/-- Every group has values that stand for all it shows. -/
theorem exists_represents (key : String) (group : List Record) :
    ∃ shown, Represents key group shown := by
  refine ⟨(values key group).pwFilter fun v w => ¬v.CountsAs w, fun value kept => ?_,
    List.pairwise_pwFilter _, ?_⟩
  · exact mem_values_iff.1 (List.pwFilter_subset _ kept)
  · intro record member value found
    have present : value ∈ values key group := mem_values_iff.2 ⟨record, member, found⟩
    by_contra missing
    have unlike : ∀ other ∈ (values key group).pwFilter fun v w => ¬v.CountsAs w,
        ¬value.CountsAs other := fun other kept same => missing ⟨other, kept, same.symm⟩
    refine (List.forall_mem_pwFilter (fun {u v w} differ => ?_) value _).1 unlike value present
      (.inl rfl)
    by_contra! same
    exact differ (same.1.trans same.2)

/-- Collecting what was not seen before keeps everything once. -/
theorem foldl_unseen (found : List Scalar) {seen : List Scalar} (fresh : seen.Nodup) :
    let all := found.foldl (fun seen value => if seen.contains value then seen else value :: seen)
      seen
    all.Nodup ∧ ∀ value, value ∈ all ↔ value ∈ seen ∨ value ∈ found := by
  induction found generalizing seen with
  | nil => simpa using fresh
  | cons first rest ih =>
    rw [List.foldl_cons]
    by_cases old : first ∈ seen
    · rw [if_pos (List.contains_iff_mem.2 old)]
      refine ⟨(ih fresh).1, fun value => (ih fresh).2 value |>.trans ?_⟩
      rw [List.mem_cons]
      constructor
      · exact Or.imp_right .inr
      · rintro (earlier | rfl | later)
        · exact .inl earlier
        · exact .inl old
        · exact .inr later
    · rw [if_neg (mt List.contains_iff_mem.1 old)]
      have more := List.nodup_cons.2 ⟨old, fresh⟩
      refine ⟨(ih more).1, fun value => (ih more).2 value |>.trans ?_⟩
      rw [List.mem_cons, List.mem_cons, or_assoc, or_left_comm]

/-- As many values are counted as there are grouping keys among them. -/
theorem length_distinct (found : List Scalar) :
    (distinct found).length = (found.map Scalar.groupKey).toFinset.card := by
  obtain ⟨once, kept⟩ := foldl_unseen (found.map Scalar.groupKey) List.nodup_nil
  rw [distinct, ← List.toFinset_card_of_nodup once]
  congr 1
  ext value
  rw [List.mem_toFinset, List.mem_toFinset, kept, or_iff_right List.not_mem_nil]

/-- The values that stand for a group are as many as its grouping keys. -/
theorem Represents.length_eq (represents : Represents key group shown) :
    shown.length = ((values key group).map Scalar.groupKey).toFinset.card := by
  have once : (shown.map Scalar.groupKey).Nodup :=
    List.pairwise_map.2 (represents.apart.imp (mt Scalar.groupKey_eq_groupKey_iff.1))
  rw [← List.length_map Scalar.groupKey, ← List.toFinset_card_of_nodup once]
  congr 1
  ext value
  simp only [List.mem_toFinset, List.mem_map, mem_values_iff]
  constructor
  · rintro ⟨other, stands, rfl⟩
    exact ⟨other, represents.present other stands, rfl⟩
  · rintro ⟨other, ⟨record, member, found⟩, rfl⟩
    obtain ⟨same, stands, alike⟩ := represents.complete record member other found
    exact ⟨same, stands, Scalar.groupKey_eq_groupKey_iff.2 alike⟩

/-- A number of a list with the highest rank among those other than NaN; a NaN only if there is no
other. -/
structure IsTop (rank : Binary64 → Int) (numbers : List Binary64) (x : Binary64) : Prop where
  member : x ∈ numbers
  highest : ∀ y ∈ numbers, y.isNaN = false → x.isNaN = false ∧ rank y ≤ rank x

section

variable {rank : Binary64 → Int} {seen numbers others : List Binary64} {x y : Binary64}

/-- The top is NaN only if every number is. -/
theorem IsTop.onlyNaN (top : IsTop rank numbers x) (nan : x.isNaN = true) :
    ∀ y ∈ numbers, y.isNaN = true := by
  intro y member
  by_contra number
  have first := (top.highest y member (Bool.eq_false_iff.2 number)).1
  exact Bool.false_ne_true (first.symm.trans nan)

/-- With one more number at the end, the higher of it and the top is the top. -/
theorem IsTop.concat (top : IsTop rank seen x) (y : Binary64) :
    IsTop rank (seen ++ [y]) (Binary64.pick rank x y) := by
  have last : y ∈ seen ++ [y] := List.mem_append_right _ List.mem_cons_self
  have before : x ∈ seen ++ [y] := List.mem_append_left _ top.member
  unfold Binary64.pick
  by_cases nanX : x.isNaN = true
  · -- the top is NaN, so all before the last number were
    rw [if_pos nanX]
    refine ⟨last, List.forall_mem_append.2 ⟨fun z earlier number => ?_,
      List.forall_mem_singleton.2 fun number => ⟨number, le_rfl⟩⟩⟩
    exact absurd (top.onlyNaN nanX z earlier) (ne_true_of_eq_false number)
  rw [if_neg nanX]
  by_cases nanY : y.isNaN = true
  · rw [if_pos nanY]
    exact ⟨before, List.forall_mem_append.2 ⟨top.highest,
      List.forall_mem_singleton.2 fun number => absurd nanY (ne_true_of_eq_false number)⟩⟩
  rw [if_neg nanY]
  by_cases higher : rank x < rank y
  · rw [if_pos higher]
    refine ⟨last, List.forall_mem_append.2 ⟨fun z earlier number => ?_,
      List.forall_mem_singleton.2 fun number => ⟨number, le_rfl⟩⟩⟩
    exact ⟨Bool.eq_false_iff.2 nanY, (top.highest z earlier number).2.trans higher.le⟩
  · rw [if_neg higher]
    refine ⟨before, List.forall_mem_append.2 ⟨top.highest,
      List.forall_mem_singleton.2 fun _ => ⟨Bool.eq_false_iff.2 nanX, not_lt.1 higher⟩⟩⟩

/-- Picking from left to right keeps the top of all numbers so far. -/
theorem IsTop.foldl (top : IsTop rank seen x) (rest : List Binary64) :
    IsTop rank (seen ++ rest) (rest.foldl (Binary64.pick rank) x) := by
  induction rest generalizing seen x with
  | nil => simpa using top
  | cons next rest ih => simpa using ih (top.concat next)

/-- Some numbers are reduced to their top by picking. -/
theorem isTop_of_reduce? (found : reduce? (Binary64.pick rank) numbers = some x) :
    IsTop rank numbers x := by
  cases numbers with
  | nil => cases found
  | cons first rest =>
    cases found
    have start : IsTop rank [first] first :=
      ⟨List.mem_cons_self, fun y member number => by
        obtain rfl := List.mem_singleton.1 member
        exact ⟨number, le_rfl⟩⟩
    exact start.foldl rest

/-- Lists of the same numbers have tops of one rank, or both have NaN only. -/
theorem IsTop.rank_eq (top : IsTop rank numbers x) (other : IsTop rank others y)
    (same : ∀ z, z ∈ numbers ↔ z ∈ others) :
    x.isNaN = false ∧ y.isNaN = false ∧ rank x = rank y ∨ x.isNaN = true ∧ y.isNaN = true := by
  cases number : x.isNaN with
  | false =>
    obtain ⟨otherNumber, below⟩ := other.highest x ((same x).1 top.member) number
    have above := (top.highest y ((same y).2 other.member) otherNumber).2
    exact .inl ⟨rfl, otherNumber, le_antisymm below above⟩
  | true => exact .inr ⟨rfl, top.onlyNaN number y ((same y).2 other.member)⟩

/-- Reducing finds nothing exactly if there is nothing. -/
theorem reduce?_eq_none_iff {combine : Binary64 → Binary64 → Binary64} :
    reduce? combine numbers = none ↔ numbers = [] := by
  cases numbers <;> simp [reduce?]

end

/-- An extreme of the numbers that a group has under a key: one of them, within which all of them
other than NaN are, and NaN only if all are. -/
structure IsExtreme (within : Binary64 → Binary64 → Prop) (key : String) (group : List Record)
    (x : Binary64) : Prop where
  present : ∃ record ∈ group, record.get? key = some (.number x)
  bound : ∀ record ∈ group, ∀ y, record.get? key = some (.number y) → y.isNaN = false → within y x
  onlyNaN : x.isNaN = true → ∀ record ∈ group, ∀ y, record.get? key = some (.number y) →
    y.isNaN = true

/-- The top of a group's numbers is an extreme of them. -/
theorem IsTop.isExtreme {rank : Binary64 → Int} {within : Binary64 → Binary64 → Prop}
    {x : Binary64} (top : IsTop rank (numbers key group) x)
    (ranked : ∀ y x, y.isNaN = false → x.isNaN = false → rank y ≤ rank x → within y x) :
    IsExtreme within key group x := by
  refine ⟨mem_numbers_iff.1 top.member, fun record member y found number => ?_,
    fun nan record member y found => ?_⟩
  · obtain ⟨someX, below⟩ := top.highest y (mem_numbers_iff.2 ⟨record, member, found⟩) number
    exact ranked y x number someX below
  · exact top.onlyNaN nan y (mem_numbers_iff.2 ⟨record, member, found⟩)

/-- What picking from a group's numbers gives: nothing if there is no number, else an extreme. -/
theorem reduce?_pick_isExtreme (key : String) (group : List Record) {rank : Binary64 → Int}
    {within : Binary64 → Binary64 → Prop}
    (ranked : ∀ y x, y.isNaN = false → x.isNaN = false → rank y ≤ rank x → within y x) :
    let value := (reduce? (Binary64.pick rank) (numbers key group)).map Scalar.number
    (value = none ↔ ∀ record ∈ group, ∀ x, record.get? key ≠ some (.number x)) ∧
      ∀ found, value = some found → ∃ x, found = .number x ∧ IsExtreme within key group x := by
  refine ⟨?_, fun found reduced => ?_⟩
  · rw [Option.map_eq_none_iff, reduce?_eq_none_iff, numbers_eq_nil_iff]
  · obtain ⟨x, top, rfl⟩ := Option.map_eq_some_iff.1 reduced
    exact ⟨x, rfl, (isTop_of_reduce? top).isExtreme ranked⟩

/-- Picking from a group's numbers does not depend on the order of its records. -/
theorem reduce?_pick_of_perm (key : String) (perm : reordered.Perm group) {rank : Binary64 → Int}
    (faithful : ∀ x y, rank x = rank y → x.key = y.key) :
    Option.Rel Scalar.Alike
      ((reduce? (Binary64.pick rank) (numbers key reordered)).map Scalar.number)
      ((reduce? (Binary64.pick rank) (numbers key group)).map Scalar.number) := by
  have same : (numbers key reordered).Perm (numbers key group) := (perm.filterMap _).filterMap _
  have both : reduce? (Binary64.pick rank) (numbers key reordered) = none ↔
      reduce? (Binary64.pick rank) (numbers key group) = none := by
    rw [reduce?_eq_none_iff, reduce?_eq_none_iff, ← List.length_eq_zero_iff, same.length_eq,
      List.length_eq_zero_iff]
  cases left : reduce? (Binary64.pick rank) (numbers key reordered) with
  | none =>
    rw [both.1 left]
    exact .none
  | some x =>
    cases right : reduce? (Binary64.pick rank) (numbers key group) with
    | none =>
      rw [both.2 right] at left
      cases left
    | some y =>
      refine .some ?_
      rcases (isTop_of_reduce? left).rank_eq (isTop_of_reduce? right) fun _ => same.mem_iff with
        ⟨numberX, numberY, ranks⟩ | nan
      · have keys := faithful x y ranks
        exact .inl (by simp [Scalar.equals, Binary64.equals, numberX, numberY, keys])
      · exact .inr nan

end Aggregate

namespace ApplyRule

variable {rule : ApplyRule}

/-- A count is how many grouping keys the present values have. -/
theorem value?_of_count (token : rule.token = .count) (group : List Record) :
    rule.value? group = some (.number (.ofNat
      ((Aggregate.values rule.target.text group).map Scalar.groupKey).toFinset.card)) := by
  simp only [value?, token, Aggregate.length_distinct]

/-- A maximum picks the higher key. -/
theorem value?_of_max (token : rule.token = .max) (group : List Record) :
    rule.value? group = (Aggregate.reduce? (.pick Binary64.key)
      (Aggregate.numbers rule.target.text group)).map .number := by
  simp only [value?, token, Binary64.max_eq_pick]

/-- A minimum picks the lower key. -/
theorem value?_of_min (token : rule.token = .min) (group : List Record) :
    rule.value? group = (Aggregate.reduce? (.pick fun x => -x.key)
      (Aggregate.numbers rule.target.text group)).map .number := by
  simp only [value?, token, Binary64.min_eq_pick]

/-- A count does not depend on the order of the records. -/
theorem value?_count_of_perm (token : rule.token = .count) {reordered group : List Record}
    (perm : reordered.Perm group) : rule.value? reordered = rule.value? group := by
  have same : ((Aggregate.values rule.target.text reordered).map Scalar.groupKey).toFinset =
      ((Aggregate.values rule.target.text group).map Scalar.groupKey).toFinset := by
    ext value
    rw [List.mem_toFinset, List.mem_toFinset]
    exact ((perm.filterMap _).map _).mem_iff
  rw [value?_of_count token, value?_of_count token, same]

/-- A count is the number of different values that the group has under the target: whatever values
stand for them, it is how many these are, and below `2 ^ 53` the binary64 number is that number. A
maximum or minimum is missing only if no record has a number under the target, else it is an extreme
of the numbers. The order of the records changes none of them, up to the sign of a zero and the word
of a NaN. -/
theorem value?_counts_or_compares (rule : ApplyRule) (group : List Record) :
    let key := rule.target.text
    let noNumber := ∀ record ∈ group, ∀ x, record.get? key ≠ some (.number x)
    (rule.token = .count →
      (∃ shown, Aggregate.Represents key group shown) ∧
      ∀ shown, Aggregate.Represents key group shown →
        rule.value? group = some (.number (.ofNat shown.length)) ∧
        (shown.length < 2 ^ 53 → (Binary64.ofNat shown.length).isFinite = true ∧
          (Binary64.ofNat shown.length).isNegative = false ∧
          (Binary64.ofNat shown.length).grains = shown.length * Binary64.grainsPerOne)) ∧
    (rule.token = .max → (rule.value? group = none ↔ noNumber) ∧
      ∀ found, rule.value? group = some found → ∃ x, found = .number x ∧
        Aggregate.IsExtreme (fun y x => y.AtMost x) key group x) ∧
    (rule.token = .min → (rule.value? group = none ↔ noNumber) ∧
      ∀ found, rule.value? group = some found → ∃ x, found = .number x ∧
        Aggregate.IsExtreme (fun y x => x.AtMost y) key group x) ∧
    ∀ reordered : List Record, reordered.Perm group →
      (rule.token = .count → rule.value? reordered = rule.value? group) ∧
      (rule.token = .max ∨ rule.token = .min →
        Option.Rel Scalar.Alike (rule.value? reordered) (rule.value? group)) := by
  intro key noNumber
  refine ⟨fun token => ⟨Aggregate.exists_represents key group, fun shown represents =>
      ⟨?_, Binary64.grains_ofNat⟩⟩, fun token => ?_, fun token => ?_,
    fun reordered perm => ⟨fun token => value?_count_of_perm token perm, ?_⟩⟩
  · rw [value?_of_count token, represents.length_eq]
  · rw [value?_of_max token]
    exact Aggregate.reduce?_pick_isExtreme key group fun y x numberY numberX below =>
      Binary64.atMost_iff.2 ⟨numberY, numberX, below⟩
  · rw [value?_of_min token]
    exact Aggregate.reduce?_pick_isExtreme key group fun y x numberY numberX below =>
      Binary64.atMost_iff.2 ⟨numberX, numberY, Int.neg_le_neg_iff.1 below⟩
  · rintro (token | token)
    · rw [value?_of_max token, value?_of_max token]
      exact Aggregate.reduce?_pick_of_perm key perm fun x y same => same
    · rw [value?_of_min token, value?_of_min token]
      exact Aggregate.reduce?_pick_of_perm key perm fun x y same => Int.neg_inj.1 same

/-- Records without an average, with a NaN, with either zero, with a text and with a one. -/
def mixedAverages : List Record :=
  ∅ :: [Scalar.number (.nan false), .number (.ofMagnitude true 0), .text "0", .number 0,
    .number (.ofNat 1)].map fun value => (∅ : Record).insert "courses_avg" value

/-- They have four different averages, the largest is one, and the smallest is the same from the
other end up to the sign of a zero. -/
theorem value?_mixedAverages :
    let average : FieldKey := ⟨"courses", .avg⟩
    (ApplyRule.mk "averages" .count average).value? mixedAverages = some (.number (.ofNat 4)) ∧
    (∃ x, (ApplyRule.mk "best" .max average).value? mixedAverages = some (.number x) ∧
      (Binary64.ofNat 1).AtMost x) ∧
    Option.Rel Scalar.Alike
      ((ApplyRule.mk "worst" .min average).value? mixedAverages.reverse)
      ((ApplyRule.mk "worst" .min average).value? mixedAverages) := by
  intro average
  obtain ⟨count, _, _, _⟩ :=
    value?_counts_or_compares ⟨"averages", .count, average⟩ mixedAverages
  obtain ⟨_, max, _, _⟩ := value?_counts_or_compares ⟨"best", .max, average⟩ mixedAverages
  obtain ⟨_, _, _, order⟩ := value?_counts_or_compares ⟨"worst", .min, average⟩ mixedAverages
  let shown : List Scalar := [.number (.nan false), .number 0, .text "0", .number (.ofNat 1)]
  have complete : ∀ record ∈ mixedAverages, ∀ value ∈ record.get? average.text,
      ∃ other ∈ shown, other.CountsAs value := by
    decide +kernel
  have represents : Aggregate.Represents average.text mixedAverages shown :=
    ⟨by decide +kernel, by decide +kernel, complete⟩
  refine ⟨((count rfl).2 _ represents).1, ?_, (order _ (List.reverse_perm _)).2 (.inr rfl)⟩
  obtain ⟨found, best⟩ : ∃ found,
      (ApplyRule.mk "best" .max average).value? mixedAverages = some found := ⟨_, rfl⟩
  obtain ⟨x, rfl, extreme⟩ := (max rfl).2 found best
  exact ⟨x, best, extreme.bound ((∅ : Record).insert "courses_avg" (.number (.ofNat 1)))
    (by decide +kernel) _ rfl (by decide +kernel)⟩

end ApplyRule
end Campus
