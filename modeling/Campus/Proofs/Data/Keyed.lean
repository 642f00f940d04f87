import Campus.Data.Keyed
/-!
# Look-up in collected entries

Collecting entries keeps the last value of every key, so looking up in a collection is looking up in
the entries from the back. Keys and values of a collection are described through its look-ups.
-/

namespace Campus

namespace Entries

variable {α β : Type}

/-- Entries ascend when their keys do. -/
theorem ascending_of_keys {entries : Entries α}
    (keys : (entries.map Prod.fst).Pairwise (· < ·)) : Ascending entries :=
  List.pairwise_map.1 keys

/-- Looking up in two lists looks in the first one first. -/
theorem get?_append (key : String) (front back : Entries α) :
    get? key (front ++ back) = (get? key front).or (get? key back) := by
  induction front with
  | nil => rfl
  | cons entry rest ih =>
    obtain ⟨other, value⟩ := entry
    rw [List.cons_append, get?_cons, get?_cons, ih]
    split <;> rfl

/-- Sorting keeps the last value of every key. -/
theorem get?_sorted (key : String) (entries : Entries α) :
    get? key (sorted entries) = get? key entries.reverse := by
  suffices h : ∀ held : Entries α,
      get? key (entries.foldl (fun held entry => insert entry.1 entry.2 held) held) =
        (get? key entries.reverse).or (get? key held) by
    rw [sorted, h [], get?_nil, Option.or_none]
  induction entries with
  | nil => intro held; rfl
  | cons entry rest ih =>
    intro held
    rw [List.foldl_cons, ih, List.reverse_cons, get?_append, Option.or_assoc, get?_insert,
      get?_cons, get?_nil]
    split <;> rfl

/-- A key has a value exactly when it is one of the keys. -/
theorem isSome_get?_iff {key : String} {entries : Entries α} :
    (get? key entries).isSome ↔ key ∈ entries.map Prod.fst := by
  induction entries with
  | nil => simp
  | cons entry rest ih =>
    obtain ⟨other, value⟩ := entry
    rw [get?_cons, List.map_cons, List.mem_cons, ← ih]
    split <;> simp_all

/-- Where no key occurs twice every entry is found under its key. -/
theorem get?_eq_some_iff_of_nodup {key : String} {value : α} {entries : Entries α}
    (distinct : (entries.map Prod.fst).Nodup) :
    get? key entries = some value ↔ (key, value) ∈ entries := by
  refine ⟨mem_of_get?, fun member => ?_⟩
  induction entries with
  | nil => cases member
  | cons entry rest ih =>
    obtain ⟨other, previous⟩ := entry
    rw [List.map_cons, List.nodup_cons] at distinct
    rw [get?_cons]
    rcases List.mem_cons.1 member with same | later
    · cases same
      rw [if_pos rfl]
    · have differs : key ≠ other := by
        rintro rfl
        exact distinct.1 (List.mem_map.2 ⟨_, later, rfl⟩)
      rw [if_neg differs]
      exact ih distinct.2 later

/-- Where no key occurs twice the order of the entries does not matter. -/
theorem get?_reverse_of_nodup (key : String) {entries : Entries α}
    (distinct : (entries.map Prod.fst).Nodup) : get? key entries.reverse = get? key entries := by
  have turned : (entries.reverse.map Prod.fst).Nodup := by
    rw [List.map_reverse]
    exact List.pairwise_reverse.2 (distinct.imp Ne.symm)
  apply Option.ext
  intro value
  rw [get?_eq_some_iff_of_nodup turned, get?_eq_some_iff_of_nodup distinct, List.mem_reverse]

/-- Looking up among changed values changes what is found. -/
theorem get?_map (key : String) (change : α → β) (entries : Entries α) :
    get? key (entries.map fun entry => (entry.1, change entry.2)) =
      (get? key entries).map change := by
  induction entries with
  | nil => rfl
  | cons entry rest ih =>
    obtain ⟨other, value⟩ := entry
    rw [List.map_cons, get?_cons, get?_cons, ih]
    split <;> rfl

/-- Entries of other keys may be left out. -/
theorem get?_filter {key : String} {keep : String → Bool} (kept : keep key = true)
    (entries : Entries α) :
    get? key (entries.filter fun entry => keep entry.1) = get? key entries := by
  induction entries with
  | nil => rfl
  | cons entry rest ih =>
    obtain ⟨other, value⟩ := entry
    rw [get?_cons, ← ih, List.filter_cons]
    split
    · rfl
    · next dropped =>
      have differs : key ≠ other := by
        rintro rfl
        exact dropped kept
      rw [if_neg differs]

/-- A value of listed keys stands at the place of its key. -/
theorem get?_zip {key : String} {keys : List String} (member : key ∈ keys) (values : List α) :
    get? key (keys.zip values) = values[keys.idxOf key]? := by
  induction keys generalizing values with
  | nil => cases member
  | cons other rest ih =>
    cases values with
    | nil => rfl
    | cons value others =>
      rw [List.zip_cons_cons, get?_cons, List.idxOf_cons]
      by_cases same : key = other
      · simp [same]
      · have later := (List.mem_cons.1 member).resolve_left same
        simp [same, beq_false_of_ne (Ne.symm same), ih later]

end Entries

namespace Keyed

variable {α β : Type}

/-- Looking up in collected entries looks for the last of them. -/
theorem get?_ofList (entries : List (String × α)) (key : String) :
    (ofList entries).get? key = Entries.get? key entries.reverse := Entries.get?_sorted key entries

/-- Looking up in collected entries of different keys is looking up in the entries. -/
theorem get?_ofList_of_nodup {entries : List (String × α)}
    (distinct : (entries.map Prod.fst).Nodup) (key : String) :
    (ofList entries).get? key = Entries.get? key entries := by
  rw [get?_ofList, Entries.get?_reverse_of_nodup key distinct]

/-- The keys of a collection are those with a value. -/
theorem mem_keys_iff {m : Keyed α} {key : String} : key ∈ m.keys ↔ (m.get? key).isSome :=
  Entries.isSome_get?_iff.symm

/-- Nothing is held exactly if no key is. -/
theorem size_eq_zero_iff {m : Keyed α} : m.size = 0 ↔ ∀ key, m.contains key = false := by
  have none (key : String) : m.contains key = false ↔ key ∉ m.keys := by
    rw [mem_keys_iff, contains, Bool.not_eq_true]
  simp only [none, ← List.eq_nil_iff_forall_not_mem, size, keys, List.map_eq_nil_iff,
    List.length_eq_zero_iff]

/-- The keys of collected entries. -/
theorem mem_keys_ofList_iff {entries : List (String × α)} {key : String} :
    key ∈ (ofList entries).keys ↔ key ∈ entries.map Prod.fst := by
  rw [mem_keys_iff, get?_ofList, Entries.isSome_get?_iff, List.map_reverse, List.mem_reverse]

/-- Keys ascend strictly. -/
theorem keys_ascending (m : Keyed α) : m.keys.Pairwise (· < ·) :=
  List.pairwise_map.2 m.ascending

/-- No key is listed twice. -/
theorem keys_nodup (m : Keyed α) : m.keys.Nodup :=
  m.keys_ascending.imp fun less => String.ne_of_lt less

/-- An entry is held exactly when its value is found under its key. -/
theorem mem_entries_iff {m : Keyed α} {key : String} {value : α} :
    (key, value) ∈ m.entries ↔ m.get? key = some value :=
  ⟨Entries.get?_of_mem m.ascending, Entries.mem_of_get?⟩

/-- The values of a collection are those found under some key. -/
theorem mem_values_iff {m : Keyed α} {value : α} :
    value ∈ m.values ↔ ∃ key, m.get? key = some value := by
  simp only [values, List.mem_map, Prod.exists, exists_eq_right, mem_entries_iff]

/-- What is found among chosen keys. -/
theorem get?_filterKeys_eq_some_iff {m : Keyed α} {keep : String → Bool} {key : String}
    {value : α} :
    (m.filterKeys keep).get? key = some value ↔ m.get? key = some value ∧ keep key = true := by
  rw [← mem_entries_iff, ← mem_entries_iff]
  exact List.mem_filter

/-- A value may be put before or after keys are chosen. -/
theorem filterKeys_insert (m : Keyed α) (keep : String → Bool) (key : String) (value : α) :
    (m.insert key value).filterKeys keep =
      if keep key then (m.filterKeys keep).insert key value else m.filterKeys keep := by
  ext other found
  rw [get?_filterKeys_eq_some_iff, get?_insert]
  by_cases same : other = key
  · rw [if_pos same, same]
    cases kept : keep key with
    | false => simp [get?_filterKeys_eq_some_iff, kept]
    | true => simp [get?_insert]
  · rw [if_neg same, ← get?_filterKeys_eq_some_iff]
    cases keep key with
    | false => rfl
    | true => rw [if_pos rfl, get?_insert, if_neg same]

/-- A key may be removed before or after keys are chosen. -/
theorem filterKeys_erase (m : Keyed α) (keep : String → Bool) (key : String) :
    (m.erase key).filterKeys keep =
      if keep key then (m.filterKeys keep).erase key else m.filterKeys keep := by
  ext other found
  rw [get?_filterKeys_eq_some_iff, get?_erase]
  by_cases same : other = key
  · rw [if_pos same, same]
    cases kept : keep key with
    | false => simp [get?_filterKeys_eq_some_iff, kept]
    | true => simp [get?_erase]
  · rw [if_neg same, ← get?_filterKeys_eq_some_iff]
    cases keep key with
    | false => rfl
    | true => rw [if_pos rfl, get?_erase, if_neg same]

/-- Change every value of a collection. -/
def map (change : α → β) (m : Keyed α) : Keyed β where
  entries := m.entries.map fun entry => (entry.1, change entry.2)
  ascending := List.pairwise_map.2 (m.ascending.imp id)

/-- What is found among changed values is a changed value. -/
@[simp]
theorem get?_map (change : α → β) (m : Keyed α) (key : String) :
    (m.map change).get? key = (m.get? key).map change :=
  Entries.get?_map key change m.entries

/-- The values of a changed collection. -/
@[simp]
theorem values_map (change : α → β) (m : Keyed α) :
    (m.map change).values = m.values.map change := by
  simp only [values, map, List.map_map, Function.comp_def]

/-- A value may be changed before or after it is put in. -/
@[simp]
theorem map_insert (change : α → β) (m : Keyed α) (key : String) (value : α) :
    (m.insert key value).map change = (m.map change).insert key (change value) := by
  ext1 query
  rw [get?_map, get?_insert, get?_insert, get?_map]
  split <;> rfl

/-- Values may be changed before or after a key is dropped. -/
@[simp]
theorem map_erase (change : α → β) (m : Keyed α) (key : String) :
    (m.erase key).map change = (m.map change).erase key := by
  ext1 query
  rw [get?_map, get?_erase, get?_erase, get?_map]
  split <;> rfl

/-- Values may be changed before or after keys are chosen. -/
@[simp]
theorem map_filterKeys (change : α → β) (m : Keyed α) (keep : String → Bool) :
    (m.filterKeys keep).map change = (m.map change).filterKeys keep := by
  unfold filterKeys map
  congr 1
  dsimp only
  rw [List.filter_map]
  rfl

/-- Collections with the same values in some view hold the same keys. -/
theorem contains_eq_of_map_eq {left right : Keyed α} {view : α → β}
    (same : left.map view = right.map view) (key : String) :
    left.contains key = right.contains key := by
  have found := congrArg (fun m => (m.get? key).isSome) same
  simp only [get?_map, Option.isSome_map] at found
  exact found

/-- Collections with the same values in some view have the same values in any coarser one. -/
theorem values_map_eq_of_map_eq {γ : Type} {left right : Keyed α} {view : α → β}
    {coarser : α → γ} {coarsen : β → γ} (same : left.map view = right.map view)
    (factors : ∀ value, coarser value = coarsen (view value)) :
    left.values.map coarser = right.values.map coarser := by
  have split (m : Keyed α) : m.values.map coarser = (m.map view).values.map coarsen := by
    rw [values_map, List.map_map]
    exact List.map_congr_left fun value _ => factors value
  rw [split, same, ← split]

end Keyed
end Campus
