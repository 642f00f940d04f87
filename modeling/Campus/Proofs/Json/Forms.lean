import Campus.Json.Fields
import Campus.Proofs.Data.Keyed
import Mathlib.Data.List.Forall2
/-!
# Reading fixed forms

The members of an object are read by their keys, which have to be readable. In a document read from
JSON text no key of an object occurs twice, so its fields in a fixed form are found without fail.
-/

namespace Campus

/-- A list is read if each of its elements is. -/
theorem mapM_eq_some_iff_forall₂ {α β : Type} {read : α → Option β} {list : List α}
    {results : List β} :
    list.mapM read = some results ↔
      List.Forall₂ (fun element result => read element = some result) list results := by
  induction list generalizing results with
  | nil =>
    rw [List.mapM_nil, List.forall₂_nil_left_iff]
    exact ⟨fun same => (Option.some.inj same).symm, fun same => congrArg some same.symm⟩
  | cons element rest ih =>
    simp only [List.mapM_cons, Option.bind_eq_bind, Option.bind_eq_some_iff,
      List.forall₂_cons_left_iff, ih]
    constructor
    · rintro ⟨first, readFirst, others, readOthers, same⟩
      exact ⟨first, others, readFirst, readOthers, (Option.some.inj same).symm⟩
    · rintro ⟨first, others, readFirst, readOthers, same⟩
      exact ⟨first, readFirst, others, readOthers, congrArg some same.symm⟩

namespace Json

/-- If a document is an object, no key occurs twice in it. -/
def HasDistinctKeys (doc : Json) : Prop :=
  ∀ members, doc = .object members → (members.map Prod.fst).Nodup

/-- The objects of trees hold every key once. -/
theorem hasDistinctKeys_of_toJson? {depth : Nat} {source : Source} {doc : Json}
    (read : source.toJson? depth = some doc) : doc.HasDistinctKeys := by
  rintro members rfl
  cases source with
  | object written =>
    cases depth with
    | zero => cases read
    | succ depth =>
      rw [Source.toJson?, Option.map_eq_some_iff] at read
      obtain ⟨entries, -, same⟩ := read
      obtain rfl := Json.object.inj same
      have ascending : ((Entries.sorted entries).map Prod.fst).Pairwise (· < ·) :=
        List.pairwise_map.2 (Entries.ascending_sorted entries)
      exact ascending.imp String.ne_of_lt
  | array items => cases depth <;> simp [Source.toJson?] at read
  | _ => simp [Source.toJson?] at read

namespace Fields

variable {α : Type}

/-- Members are read if their keys are. -/
theorem keyed_eq_some_iff {members : List (Option String × α)} {keyed : Entries α} :
    members.mapM (fun member => member.1.map fun key => (key, member.2)) = some keyed ↔
      members = keyed.map fun member => (some member.1, member.2) := by
  have each (member : Option String × α) (entry : String × α) :
      (member.1.map fun key => (key, member.2)) = some entry ↔
        member = (some entry.1, entry.2) := by
    obtain ⟨_ | key, value⟩ := member
    · simp
    · simp [Prod.ext_iff]
  simp only [mapM_eq_some_iff_forall₂, each]
  rw [← List.forall₂_eq_eq_eq, List.forall₂_map_right_iff]

/-- A value stands alone under one key exactly if no key is repeated and it is found. -/
theorem eq_single_iff {known : Entries α} {key : String} {value : α}
    (same : ∀ member ∈ known, member.1 = key) :
    known = [(key, value)] ↔ (known.map Prod.fst).Nodup ∧ known.get? key = some value := by
  constructor
  · rintro rfl
    simp [Entries.get?]
  · rintro ⟨distinct, found⟩
    cases known with
    | nil => cases found
    | cons first rest =>
      obtain ⟨firstKey, firstValue⟩ := first
      obtain rfl : firstKey = key := same _ List.mem_cons_self
      obtain rfl : firstValue = value := by simpa [Entries.get?] using found
      cases rest with
      | nil => rfl
      | cons second others =>
        have again := same second (List.mem_cons_of_mem _ List.mem_cons_self)
        rw [List.map_cons, List.map_cons, again] at distinct
        exact absurd List.mem_cons_self (List.nodup_cons.1 distinct).1

end Fields

/-- The fields of an object in which no key occurs twice are its members of the declared keys. -/
theorem fields?_object {members : Entries Json} (distinct : (members.map Prod.fst).Nodup)
    (declared : List String) :
    (Json.object members).fields? declared =
      some ⟨false, members.filter fun member => declared.contains member.1⟩ := by
  have known := distinct.sublist
    ((List.filter_sublist (p := fun member => declared.contains member.1)).map Prod.fst)
  rw [fields?, Fields.ofMembers?, Fields.keyed_eq_some_iff.2 rfl]
  exact if_pos known

/-- Only an array has items. -/
theorem Source.items_eq_some_iff {source : Source} {items : List Source} :
    source.items = some items ↔ source = .array items := by
  cases source <;> simp [Source.items]

end Json
end Campus
