import Campus.Proofs.Dataset.Normal
import Campus.Proofs.Query.Groups
import Mathlib.Data.List.FinRange
/-!
# Groups as a partition of the records

A record is known by its place in the list, since records may be equal. Grouping distributes the
places: every place belongs to one group, two places to the same one exactly if their records agree
on every group key, groups stand in the order of their first places and places ascend within a
group. Values agree when their grouping keys are equal, which for values other than NaN is equality:
the two zeros agree, and a number agrees with no text.
-/

namespace Campus

namespace Binary64

/-- The key of a number is its magnitude with its sign. -/
theorem natAbs_key (x : Binary64) : x.key.natAbs = x.magnitude := by
  unfold key
  split <;> simp

/-- The key of a number other than zero is negative if the number is. -/
theorem key_neg_iff {x : Binary64} (someMagnitude : x.magnitude ≠ 0) :
    x.key < 0 ↔ x.isNegative = true := by
  unfold key
  split
  · next negative => exact iff_of_true (by omega) negative
  · next positive => exact iff_of_false (by omega) positive

/-- Numbers have one key exactly if they are the same apart from the sign of a zero. -/
theorem normalize_eq_normalize_iff {x y : Binary64} :
    x.normalize = y.normalize ↔ x.key = y.key := by
  constructor
  · intro same
    rw [← key_normalize x, same, key_normalize]
  · intro same
    have magnitudes : x.magnitude = y.magnitude := by rw [← natAbs_key, same, natAbs_key]
    by_cases zero : x.magnitude = 0
    · have left : x.isZero = true := beq_iff_eq.2 zero
      have right : y.isZero = true := beq_iff_eq.2 (magnitudes ▸ zero)
      rw [normalize, normalize, if_pos left, if_pos right]
    · have signs : x.isNegative = y.isNegative := by
        rw [Bool.eq_iff_iff, ← key_neg_iff zero, ← key_neg_iff (magnitudes ▸ zero), same]
      rw [← ofMagnitude_isNegative_magnitude x, signs, magnitudes, ofMagnitude_isNegative_magnitude]

end Binary64

namespace Scalar

/-- A value is NaN if it is a number that is. -/
def isNaN : Scalar → Bool
  | number x => x.isNaN
  | text _ => false

/-- Values other than NaN have one grouping key exactly if they are equal. -/
theorem groupKey_eq_iff_equals {v w : Scalar} (left : v.isNaN = false) (right : w.isNaN = false) :
    v.groupKey = w.groupKey ↔ v.equals w = true := by
  cases v with
  | number x =>
    cases w with
    | number y =>
      rw [groupKey_number, groupKey_number, number.injEq, Binary64.normalize_eq_normalize_iff]
      have someX : x.isNaN = false := left
      have someY : y.isNaN = false := right
      simp [equals, Binary64.equals, someX, someY]
    | text t => simp [equals]
  | text s =>
    cases w with
    | number y => simp [equals]
    | text t => simp [equals]

end Scalar

namespace Grouping

variable {keys : List FieldKey} {records : List Record}

/-- Two records agree on a key when both lack it or both have values with one grouping key. -/
def Agree (left right : Option Scalar) : Prop :=
  (left = none ∧ right = none) ∨
    ∃ v w, left = some v ∧ right = some w ∧ v.groupKey = w.groupKey

/-- Agreement is having the same entry in the tuple. -/
theorem agree_iff {left right : Option Scalar} :
    Agree left right ↔ left.map Scalar.groupKey = right.map Scalar.groupKey := by
  cases left <;> cases right <;> simp [Agree]

/-- Records show one tuple exactly if they agree on every key. -/
theorem signature_eq_iff {left right : Record} :
    signature keys left = signature keys right ↔
      ∀ key ∈ keys, Agree (left.get? key.text) (right.get? key.text) := by
  simp only [signature, List.map_inj_left, agree_iff]

/-- The places of the records that show a tuple, in ascending order. -/
def placesOf (keys : List FieldKey) (records : List Record) (tuple : List (Option Scalar)) :
    List (Fin records.length) :=
  (List.finRange records.length).filter fun i => signature keys (records.get i) = tuple

/-- The places of the records of each group. -/
def places (keys : List FieldKey) (records : List Record) : List (List (Fin records.length)) :=
  (tuples keys records).map (placesOf keys records)

/-- A place is one of a tuple when its record shows it. -/
theorem mem_placesOf_iff {tuple : List (Option Scalar)} {i : Fin records.length} :
    i ∈ placesOf keys records tuple ↔ signature keys (records.get i) = tuple := by
  rw [placesOf, List.mem_filter, decide_eq_true_eq]
  exact and_iff_right (List.mem_finRange i)

/-- The members of a tuple stand at its places. -/
theorem map_get_placesOf (keys : List FieldKey) (records : List Record)
    (tuple : List (Option Scalar)) :
    (placesOf keys records tuple).map records.get = members keys records tuple := by
  have named : (placesOf keys records tuple).map records.get =
      ((List.finRange records.length).map records.get).filter
        fun record => signature keys record = tuple := by
    rw [List.filter_map]
    rfl
  rw [named, List.map_get_finRange, members]

/-- The records at the places of the groups are the groups. -/
theorem groups_eq_map_places (keys : List FieldKey) (records : List Record) :
    groups keys records = (places keys records).map (List.map records.get) := by
  rw [groups_eq, places, List.map_map]
  exact List.map_congr_left fun tuple _ => (map_get_placesOf keys records tuple).symm

/-- The record at a place shows a tuple that is listed. -/
theorem signature_mem_tuples (i : Fin records.length) :
    signature keys (records.get i) ∈ tuples keys records :=
  mem_tuples_iff.2 ⟨records.get i, List.get_mem records i, rfl⟩

/-- Two places are in one group exactly if their records show one tuple. -/
theorem exists_places_iff {i j : Fin records.length} :
    (∃ place ∈ places keys records, i ∈ place ∧ j ∈ place) ↔
      signature keys (records.get i) = signature keys (records.get j) := by
  constructor
  · rintro ⟨place, listed, first, second⟩
    obtain ⟨tuple, _, rfl⟩ := List.mem_map.1 listed
    exact (mem_placesOf_iff.1 first).trans (mem_placesOf_iff.1 second).symm
  · intro same
    exact ⟨_, List.mem_map_of_mem (signature_mem_tuples i), mem_placesOf_iff.2 rfl,
      mem_placesOf_iff.2 same.symm⟩

/-- No group is without a place. -/
theorem ne_nil_of_mem_places {place : List (Fin records.length)}
    (listed : place ∈ places keys records) : place ≠ [] := by
  obtain ⟨tuple, shown, rfl⟩ := List.mem_map.1 listed
  obtain ⟨record, member, shows⟩ := mem_tuples_iff.1 shown
  obtain ⟨i, rfl⟩ := List.get_of_mem member
  exact List.ne_nil_of_mem (mem_placesOf_iff.2 shows)

/-- Every place belongs to one group. -/
theorem perm_flatten_places (keys : List FieldKey) (records : List Record) :
    (places keys records).flatten.Perm (List.finRange records.length) := by
  have apart : (places keys records).flatten.Nodup := by
    refine List.nodup_flatten.2 ⟨fun place listed => ?_, ?_⟩
    · obtain ⟨tuple, _, rfl⟩ := List.mem_map.1 listed
      exact (List.nodup_finRange _).filter _
    · refine List.pairwise_map.2 ((nodup_tuples keys records).imp fun differ => ?_)
      intro i first second
      exact differ ((mem_placesOf_iff.1 first).symm.trans (mem_placesOf_iff.1 second))
  refine (List.perm_ext_iff_of_nodup apart (List.nodup_finRange _)).2 fun i => ?_
  refine iff_of_true (List.mem_flatten.2 ?_) (List.mem_finRange i)
  exact ⟨_, List.mem_map_of_mem (signature_mem_tuples i), mem_placesOf_iff.2 rfl⟩

section

variable {α : Type} {xs : List α} {a b : α}

/-- One element occurs somewhere before every occurrence of another. -/
def OccursBefore (xs : List α) (a b : α) : Prop :=
  ∃ i : Nat, xs[i]? = some a ∧ ∀ j : Nat, xs[j]? = some b → i < j

/-- One more element at the end changes nothing about that. -/
theorem OccursBefore.concat (occurs : OccursBefore xs a b) (x : α) :
    OccursBefore (xs ++ [x]) a b := by
  obtain ⟨i, first, others⟩ := occurs
  have inside : i < xs.length := (List.getElem?_eq_some_iff.1 first).1
  refine ⟨i, by rw [List.getElem?_append_left inside, first], fun j found => ?_⟩
  by_cases within : j < xs.length
  · rw [List.getElem?_append_left within] at found
    exact others j found
  · omega

/-- An element of a list occurs before one that the list does not have. -/
theorem occursBefore_of_not_mem (member : a ∈ xs) (absent : b ∉ xs) : OccursBefore xs a b := by
  obtain ⟨i, first⟩ := List.mem_iff_getElem?.1 member
  exact ⟨i, first, fun j found => absurd (List.mem_of_getElem? found) absent⟩

end

/-- Tuples are listed in the order of the first records that show them. -/
theorem pairwise_tuples (keys : List FieldKey) (records : List Record) :
    (tuples keys records).Pairwise (OccursBefore (records.map (signature keys))) := by
  induction records using List.reverseRecOn with
  | nil => exact List.Pairwise.nil
  | append_singleton records record ih =>
    rw [tuples_concat, List.map_append, List.map_singleton]
    have kept := ih.imp fun occurs => occurs.concat (signature keys record)
    by_cases listed : signature keys record ∈ tuples keys records
    · rw [if_pos listed]
      exact kept
    · rw [if_neg listed]
      have shown {tuple : List (Option Scalar)} :
          tuple ∈ tuples keys records ↔ tuple ∈ records.map (signature keys) := List.mem_eraseDups
      refine List.pairwise_append.2 ⟨kept, List.pairwise_singleton _ _, fun earlier member => ?_⟩
      refine List.forall_mem_singleton.2 ?_
      exact (occursBefore_of_not_mem (shown.1 member) (mt shown.2 listed)).concat _

/-- Groups stand in the order of their first places. -/
theorem pairwise_places (keys : List FieldKey) (records : List Record) :
    (places keys records).Pairwise fun earlier later =>
      ∃ first ∈ earlier, ∀ i ∈ later, first < i := by
  refine List.pairwise_map.2 ((pairwise_tuples keys records).imp fun {earlier later} occurs => ?_)
  obtain ⟨n, shows, others⟩ := occurs
  obtain ⟨inside, shows⟩ := List.getElem?_eq_some_iff.1 shows
  rw [List.length_map] at inside
  refine ⟨⟨n, inside⟩, mem_placesOf_iff.2 (by simpa using shows), fun i member => ?_⟩
  have found := mem_placesOf_iff.1 member
  exact others i (by simpa using found)

/-- Grouping distributes the records over groups by their places in the list. No group is empty and
every record is in one; two records are in the same group exactly if they agree on every key; groups
stand in the order of their first records, and records ascend within a group. Values agree when both
are missing or have one grouping key, which for values other than NaN means that they are equal. -/
theorem groups_partition (keys : List FieldKey) (records : List Record) :
    (∃ places : List (List (Fin records.length)),
      groups keys records = places.map (List.map records.get) ∧
      (∀ place ∈ places, place ≠ []) ∧
      places.flatten.Perm (List.finRange records.length) ∧
      (∀ i j, (∃ place ∈ places, i ∈ place ∧ j ∈ place) ↔ ∀ key ∈ keys,
        Agree ((records.get i).get? key.text) ((records.get j).get? key.text)) ∧
      (places.Pairwise fun earlier later => ∃ first ∈ earlier, ∀ i ∈ later, first < i) ∧
      ∀ place ∈ places, place.Pairwise (· < ·)) ∧
    (groups keys records).flatten.Perm records ∧
    (∀ v w : Scalar, v.isNaN = false → w.isNaN = false →
      (v.groupKey = w.groupKey ↔ v.equals w = true)) ∧
    (Scalar.number 0).groupKey = (Scalar.number (.ofMagnitude true 0)).groupKey ∧
    ∀ x s, (Scalar.number x).groupKey ≠ (Scalar.text s).groupKey := by
  refine ⟨⟨places keys records, groups_eq_map_places keys records,
    fun _ => ne_nil_of_mem_places, perm_flatten_places keys records,
    fun i j => exists_places_iff.trans signature_eq_iff, pairwise_places keys records, ?_⟩,
    ?_, fun v w => Scalar.groupKey_eq_iff_equals, by decide, by simp⟩
  · intro place listed
    obtain ⟨tuple, _, rfl⟩ := List.mem_map.1 listed
    exact (List.pairwise_lt_finRange _).filter _
  · have all := (perm_flatten_places keys records).map records.get
    rw [List.map_get_finRange, List.map_flatten] at all
    rw [groups_eq_map_places]
    exact all

/-- Rows with either zero and one without a value. -/
def zeroRows : List Record :=
  [(∅ : Record).insert "rooms_seats" (.number 0),
    (∅ : Record).insert "rooms_seats" (.number (.ofMagnitude true 0)), ∅]

/-- The rows with either zero are in one group, since the zeros are equal, and the row without a
value is in another. -/
theorem groups_partition_zeroRows :
    (∃ places : List (List (Fin zeroRows.length)),
      groups [⟨"rooms", .seats⟩] zeroRows = places.map (List.map zeroRows.get) ∧
      (∃ place ∈ places, ⟨0, by decide⟩ ∈ place ∧ ⟨1, by decide⟩ ∈ place) ∧
      ¬∃ place ∈ places, ⟨1, by decide⟩ ∈ place ∧ ⟨2, by decide⟩ ∈ place) ∧
    (Scalar.number 0).isNaN = false ∧ (Scalar.number (.ofMagnitude true 0)).isNaN = false ∧
    (Scalar.number 0).equals (.number (.ofMagnitude true 0)) = true := by
  obtain ⟨⟨places, grouped, _, _, together, _, _⟩, _, equal, zeros, _⟩ :=
    groups_partition [⟨"rooms", .seats⟩] zeroRows
  have first : (Scalar.number 0).isNaN = false := by decide
  have second : (Scalar.number (.ofMagnitude true 0)).isNaN = false := by decide
  refine ⟨⟨places, grouped, (together _ _).2 ?_, mt (together _ _).1 ?_⟩, first, second,
    (equal _ _ first second).1 zeros⟩
  · simp only [List.forall_mem_singleton, agree_iff]
    decide
  · simp only [List.forall_mem_singleton, agree_iff]
    decide

end Grouping
end Campus
