import Campus.Proofs.Dataset.Legibility
import Campus.Proofs.Query.Partition
import Campus.Proofs.Store.Blobs
/-!
# What a blob tells

A dataset of finite numbers is read back from its blob with equal values exactly if its numbers are
read with correct rounding. Where they are, its blob is the one of the datasets that it equals and of
no others. So a blob tells its dataset and nothing more: two datasets have one blob exactly if they
have the same id, kind, announced size and records, up to the signs of zeros.
-/

namespace Campus

/-- Lists have the same images exactly if they agree place by place in what the images tell. -/
theorem map_eq_map_iff_forall₂ {α β : Type} {view : α → β} {agree : α → α → Prop}
    {left right : List α} (tells : ∀ l ∈ left, ∀ r ∈ right, view l = view r ↔ agree l r) :
    left.map view = right.map view ↔ List.Forall₂ agree left right := by
  induction left generalizing right with
  | nil => cases right <;> simp
  | cons l left ih =>
    cases right with
    | nil => simp
    | cons r right =>
      have rest := ih fun a inLeft b inRight =>
        tells a (List.mem_cons_of_mem _ inLeft) b (List.mem_cons_of_mem _ inRight)
      rw [List.map_cons, List.map_cons, List.cons.injEq, List.forall₂_cons, rest,
        tells l List.mem_cons_self r List.mem_cons_self]

/-- A finite value is no NaN. -/
theorem Scalar.isNaN_of_isFinite {value : Scalar} (finite : value.IsFinite) :
    value.isNaN = false := by
  cases value with
  | text s => rfl
  | number x =>
    have below : x.magnitude < Binary64.infinityMagnitude := of_decide_eq_true finite
    exact decide_eq_false (Nat.lt_asymm below)

/-- A finite value is read back with an equal value exactly if it is read with correct rounding. -/
theorem Scalar.reread_equals_iff {value : Scalar} (finite : value.IsFinite) :
    value.reread.equals value = true ↔ value.IsReadNearest := by
  constructor
  · intro equal
    cases value with
    | text => trivial
    | number x =>
      by_cases small : (x.isIntegral && x.abs.less integerBound) = true
      · exact .inl small
      · obtain ⟨y, read, -⟩ := JsonNumber.exists_reread?_real finite
        have isReread : (number x).reread = number y := by
          rw [reread, toJson, if_neg small, Json.toSource, read, ofSource?, Option.getD_some]
          rfl
        rw [isReread, equals, Binary64.equals, Bool.and_eq_true, beq_iff_eq,
          ← Binary64.normalize_eq_normalize_iff] at equal
        have notZero := isZero_of_large small
        have alsoNot : y.isZero = false := by
          rw [← Binary64.isZero_normalize, equal.2, Binary64.isZero_normalize, notZero]
        have same : y = x := by
          simpa only [Binary64.normalize, notZero, alsoNot, Bool.false_eq_true, if_false] using
            equal.2
        exact .inr ((Binary64.isReadNearest_iff finite).2 (same ▸ read))
  · intro nearest
    rw [reread_eq_groupKey finite nearest]
    exact equals_groupKey finite

/-- A record of finite values is read back with equal values exactly if they are read with correct
rounding. -/
theorem Record.reread_equals_iff {record : Record}
    (finite : ∀ value ∈ record.values, value.IsFinite) :
    record.reread.Equals record ↔ ∀ value ∈ record.values, value.IsReadNearest := by
  rw [Equals, reread, Keyed.map, List.forall₂_map_left_iff, List.forall₂_same]
  simp only [true_and, Keyed.values, List.forall_mem_map]
  exact forall₂_congr fun entry held =>
    Scalar.reread_equals_iff (finite _ (List.mem_map_of_mem held))

/-- Records of finite values are equal exactly if they are the same without signs of zeros. -/
theorem Record.normalize_eq_normalize_iff {left right : Record}
    (leftFinite : ∀ value ∈ left.values, value.IsFinite)
    (rightFinite : ∀ value ∈ right.values, value.IsFinite) :
    left.normalize = right.normalize ↔ left.Equals right := by
  have entries : left.normalize = right.normalize ↔
      left.normalize.entries = right.normalize.entries :=
    ⟨congrArg Keyed.entries, fun same => Keyed.ext fun key => congrArg (Entries.get? key) same⟩
  rw [entries]
  refine map_eq_map_iff_forall₂ fun l inLeft r inRight => ?_
  have someLeft := Scalar.isNaN_of_isFinite (leftFinite _ (List.mem_map_of_mem inLeft))
  have someRight := Scalar.isNaN_of_isFinite (rightFinite _ (List.mem_map_of_mem inRight))
  rw [Prod.mk.injEq, Scalar.groupKey_eq_iff_equals someLeft someRight]

namespace Dataset

/-- A dataset of finite numbers is read back with equal values exactly if its numbers are read with
correct rounding. -/
theorem reread_equals_iff {d : Dataset} (finite : d.IsFinite) :
    d.reread.Equals d ↔ d.IsReadNearest := by
  have records : List.Forall₂ Record.Equals (d.data.map Record.reread) d.data ↔
      d.IsReadNearest := by
    rw [List.forall₂_map_left_iff, List.forall₂_same]
    exact forall₂_congr fun record held => Record.reread_equals_iff (finite record held)
  exact ⟨fun same => records.1 same.data, fun nearest => ⟨rfl, rfl, rfl, records.2 nearest⟩⟩

/-- Datasets of finite numbers are equal exactly if they are the same without signs of zeros. -/
theorem normalize_eq_normalize_iff {left right : Dataset} (leftFinite : left.IsFinite)
    (rightFinite : right.IsFinite) : left.normalize = right.normalize ↔ left.Equals right := by
  have records : left.data.map Record.normalize = right.data.map Record.normalize ↔
      List.Forall₂ Record.Equals left.data right.data :=
    map_eq_map_iff_forall₂ fun l inLeft r inRight =>
      Record.normalize_eq_normalize_iff (leftFinite l inLeft) (rightFinite r inRight)
  rw [normalize, normalize, mk.injEq, records]
  constructor
  · rintro ⟨id, kind, numRows, data⟩
    exact ⟨id, kind, numRows, data⟩
  · intro same
    exact ⟨same.id, same.kind, same.numRows, same.data⟩

/-- Storable datasets whose numbers are read with correct rounding have one blob exactly if they are
the same without signs of zeros. -/
theorem content_eq_content_iff {left right : Dataset} (leftStorable : left.IsStorable)
    (leftNearest : left.IsReadNearest) (rightStorable : right.IsStorable)
    (rightNearest : right.IsReadNearest) :
    Blob.content left = Blob.content right ↔ left.normalize = right.normalize := by
  constructor
  · intro same
    have read := congrArg parse? same
    rw [parse?_content leftStorable, parse?_content rightStorable,
      reread_eq_normalize leftStorable leftNearest,
      reread_eq_normalize rightStorable rightNearest] at read
    exact Option.some.inj read
  · intro same
    rw [← Blob.content_normalize left, same, Blob.content_normalize]

/-- A dataset of finite numbers, of whatever id, keys, texts and size, is read back from its blob
with equal values, and has one blob with exactly the datasets that it equals, where numbers are read
with correct rounding. -/
theorem parse?_content_equals {d : Dataset} (storable : d.IsStorable)
    (nearest : d.IsReadNearest) :
    (∃ found, parse? (Blob.content d) = some found ∧ found.Equals d) ∧
      ∀ other : Dataset, other.IsStorable → other.IsReadNearest →
        (Blob.content d = Blob.content other ↔ d.Equals other) := by
  constructor
  · exact ⟨d.reread, parse?_content storable, (reread_equals_iff storable.finite).2 nearest⟩
  · intro other otherStorable otherNearest
    rw [content_eq_content_iff storable nearest otherStorable otherNearest,
      normalize_eq_normalize_iff storable.finite otherStorable.finite]

/-- A dataset of a record with a quote, a line feed and an astral character in its texts, a zero of
a given sign, a number beyond the bound for integers and one that is no integer. -/
def quotedRow (negative : Bool) : Dataset :=
  ⟨"a_\"\n\x00", .rooms, 7, [Keyed.ofList [("\\", .text "\"\x1f😀"),
    ("k_lat", .number (.ofRatio false 1 10)), ("k_lon", .number (.ofMagnitude negative 0)),
    ("k_seats", .number (.ofNat 10000000000000000))]]⟩

/-- The sign of a zero is not in the blob, and all else comes back. -/
theorem parse?_content_equals_quotedRow :
    (∃ found, parse? (Blob.content (quotedRow true)) = some found ∧
      found.Equals (quotedRow true)) ∧
      Blob.content (quotedRow true) = Blob.content (quotedRow false) ∧
      quotedRow true ≠ quotedRow false := by
  have negative : (quotedRow true).IsStorable := by decide +kernel
  have positive : (quotedRow false).IsStorable := by decide +kernel
  have nearest : ∀ sign, (quotedRow sign).IsReadNearest := by decide +kernel
  have same : (quotedRow true).Equals (quotedRow false) :=
    (normalize_eq_normalize_iff negative.finite positive.finite).1 (by decide +kernel)
  obtain ⟨found, alike⟩ := parse?_content_equals negative (nearest true)
  exact ⟨found, (alike _ positive (nearest false)).2 same, by decide +kernel⟩

end Dataset
end Campus
