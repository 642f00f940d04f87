/-!
# Keyed collections

A keyed collection is a finite map from texts to values held in strictly ascending key order, so two
collections with the same look-ups are the same collection and listing needs no sorting. Texts are
ordered by their characters, which for UTF-8 is the order of their bytes. The operations act on
plain entry lists first, where JSON objects use them too, and the bundled type carries the order.
-/

namespace Campus

/-- Keys with their values, in the order they are held. -/
abbrev Entries (α : Type) := List (String × α)

namespace Entries

variable {α β : Type}

/-- Keys strictly ascend, so no key occurs twice. -/
def Ascending (entries : Entries α) : Prop :=
  entries.Pairwise fun left right => left.1 < right.1

/-- The value under a key. -/
def get? (key : String) : Entries α → Option α
  | [] => none
  | (other, value) :: rest => if key = other then some value else get? key rest

/-- Put a value in its place, over any earlier value of the same key. -/
def insert (key : String) (value : α) : Entries α → Entries α
  | [] => [(key, value)]
  | (other, previous) :: rest =>
    if key < other then (key, value) :: (other, previous) :: rest
    else if key = other then (key, value) :: rest
    else (other, previous) :: insert key value rest

/-- Drop every entry of a key. -/
def erase (key : String) (entries : Entries α) : Entries α :=
  entries.filter fun entry => entry.1 != key

/-- Insert the entries one after another, so the last of several values of a key is kept. -/
def sorted (entries : Entries α) : Entries α :=
  entries.foldl (fun held entry => insert entry.1 entry.2 held) []

/-- No entries have no value under a key. -/
@[simp] theorem get?_nil (key : String) : get? key ([] : Entries α) = none := rfl

/-- The first entry is looked at first. -/
theorem get?_cons (key other : String) (value : α) (rest : Entries α) :
    get? key ((other, value) :: rest) = if key = other then some value else get? key rest := rfl

/-- Inserting changes the look-up of its own key only. -/
theorem get?_insert (key query : String) (value : α) (entries : Entries α) :
    get? query (insert key value entries) =
      if query = key then some value else get? query entries := by
  induction entries with
  | nil => simp [insert, get?]
  | cons entry rest ih =>
    obtain ⟨other, previous⟩ := entry
    unfold insert
    split
    · simp [get?]
    · split
      · next same => subst same; simp only [get?]; split <;> rfl
      · next different =>
        simp only [get?, ih]
        by_cases first : query = other
        · subst first; simp [Ne.symm different]
        · simp [first]

/-- Erasing changes the look-up of its own key only. -/
theorem get?_erase (key query : String) (entries : Entries α) :
    get? query (erase key entries) = if query = key then none else get? query entries := by
  induction entries with
  | nil => simp [erase]
  | cons entry rest ih =>
    obtain ⟨other, value⟩ := entry
    simp only [erase, List.filter_cons, bne_iff_ne, ne_eq] at ih ⊢
    by_cases same : other = key
    · subst same; simp only [not_true_eq_false, ↓reduceIte, ih, get?]; split <;> rfl
    · simp only [same, not_false_eq_true, ↓reduceIte, get?, ih]
      by_cases first : query = other
      · subst first; simp [same]
      · simp [first]

/-- An inserted entry is the new one or an old one. -/
theorem mem_insert {key : String} {value : α} {entries : Entries α} {entry : String × α}
    (member : entry ∈ insert key value entries) : entry = (key, value) ∨ entry ∈ entries := by
  induction entries with
  | nil => simpa [insert] using member
  | cons head rest ih =>
    obtain ⟨other, previous⟩ := head
    unfold insert at member
    split at member
    · simpa using member
    · split at member
      · simp only [List.mem_cons] at member ⊢; grind
      · simp only [List.mem_cons] at member ⊢; grind

/-- No entries ascend. -/
theorem ascending_nil : Ascending ([] : Entries α) := List.Pairwise.nil

/-- Inserting keeps the keys ascending. -/
theorem ascending_insert (key : String) (value : α) {entries : Entries α}
    (ascending : Ascending entries) : Ascending (insert key value entries) := by
  induction entries with
  | nil => simp [insert, Ascending]
  | cons head rest ih =>
    obtain ⟨other, previous⟩ := head
    obtain ⟨below, tail⟩ := List.pairwise_cons.1 ascending
    unfold insert
    split
    · next less =>
      refine List.pairwise_cons.2 ⟨fun entry member => ?_, ascending⟩
      rcases List.mem_cons.1 member with rfl | later
      · exact less
      · exact String.lt_trans less (below entry later)
    · next notLess =>
      split
      · next same =>
        subst same
        exact List.pairwise_cons.2 ⟨below, tail⟩
      · next different =>
        refine List.pairwise_cons.2 ⟨fun entry member => ?_, ih tail⟩
        rcases mem_insert member with rfl | later
        · exact Std.lt_of_le_of_ne (String.not_lt.1 notLess) (Ne.symm different)
        · exact below entry later

/-- Erasing keeps the keys ascending. -/
theorem ascending_erase (key : String) {entries : Entries α} (ascending : Ascending entries) :
    Ascending (erase key entries) := List.Pairwise.filter _ ascending

/-- Sorted entries ascend. -/
theorem ascending_sorted (entries : Entries α) : Ascending (sorted entries) := by
  suffices h : ∀ held : Entries α, Ascending held →
      Ascending (entries.foldl (fun held entry => insert entry.1 entry.2 held) held) from
    h [] ascending_nil
  induction entries with
  | nil => intro held ascending; exact ascending
  | cons entry rest ih => intro held ascending; exact ih _ (ascending_insert _ _ ascending)

/-- Inserting past every held key appends. -/
theorem insert_of_forall_lt {key : String} {value : α} {entries : Entries α}
    (above : ∀ entry ∈ entries, entry.1 < key) :
    insert key value entries = entries ++ [(key, value)] := by
  induction entries with
  | nil => rfl
  | cons head rest ih =>
    obtain ⟨other, previous⟩ := head
    have less : other < key := above _ (List.mem_cons_self ..)
    have rest' := ih fun entry member => above entry (List.mem_cons_of_mem _ member)
    simp [insert, String.lt_asymm less, Ne.symm (String.ne_of_lt less), rest']

/-- Sorting leaves ascending entries as they are. -/
theorem sorted_of_ascending {entries : Entries α} (ascending : Ascending entries) :
    sorted entries = entries := by
  suffices h : ∀ held : Entries α, (held ++ entries).Pairwise (fun a b => a.1 < b.1) →
      entries.foldl (fun held entry => insert entry.1 entry.2 held) held = held ++ entries from
    h [] ascending
  induction entries with
  | nil => intro held _; simp
  | cons entry rest ih =>
    intro held pairwise
    have above : ∀ e ∈ held, e.1 < entry.1 := fun e member =>
      (List.pairwise_append.1 pairwise).2.2 e member entry (List.mem_cons_self ..)
    simp only [List.foldl_cons, insert_of_forall_lt above]
    rw [ih (List.pairwise_cons.1 ascending).2 (held ++ [(entry.1, entry.2)])
      (by simpa using pairwise)]
    simp

/-- A found value stands in the list. -/
theorem mem_of_get? {key : String} {value : α} {entries : Entries α}
    (found : get? key entries = some value) : (key, value) ∈ entries := by
  induction entries with
  | nil => cases found
  | cons entry rest ih =>
    obtain ⟨other, previous⟩ := entry
    simp only [get?] at found
    split at found
    · next same => subst same; cases found; exact List.mem_cons_self ..
    · exact List.mem_cons_of_mem _ (ih found)

/-- In ascending entries every entry is found under its key. -/
theorem get?_of_mem {key : String} {value : α} {entries : Entries α}
    (ascending : Ascending entries) (member : (key, value) ∈ entries) :
    get? key entries = some value := by
  induction entries with
  | nil => cases member
  | cons entry rest ih =>
    obtain ⟨other, previous⟩ := entry
    obtain ⟨below, tail⟩ := List.pairwise_cons.1 ascending
    rcases List.mem_cons.1 member with same | later
    · cases same; simp [get?]
    · have less := below _ later
      simp only [get?, Ne.symm (String.ne_of_lt less), ↓reduceIte]
      exact ih tail later

/-- Ascending entries with equal look-ups are equal. -/
theorem eq_of_get?_eq {left right : Entries α} (leftAscending : Ascending left)
    (rightAscending : Ascending right) (same : ∀ key, get? key left = get? key right) :
    left = right := by
  induction left generalizing right with
  | nil =>
    cases right with
    | nil => rfl
    | cons head tail => have impossible := same head.1; simp [get?] at impossible
  | cons head tail ih =>
    cases right with
    | nil => have impossible := same head.1; simp [get?] at impossible
    | cons other rest =>
      obtain ⟨key, value⟩ := head
      obtain ⟨otherKey, otherValue⟩ := other
      obtain ⟨below, tailAscending⟩ := List.pairwise_cons.1 leftAscending
      obtain ⟨otherBelow, restAscending⟩ := List.pairwise_cons.1 rightAscending
      have keys : key = otherKey := by
        apply Classical.byContradiction
        intro different
        have leftMember : (otherKey, otherValue) ∈ (key, value) :: tail :=
          mem_of_get? ((same otherKey).trans (by simp [get?]))
        have rightMember : (key, value) ∈ (otherKey, otherValue) :: rest :=
          mem_of_get? ((same key).symm.trans (by simp [get?]))
        have before := below _ ((List.mem_cons.1 leftMember).resolve_left
          fun same => different (congrArg Prod.fst same).symm)
        have after := otherBelow _ ((List.mem_cons.1 rightMember).resolve_left
          fun same => different (congrArg Prod.fst same))
        exact String.lt_asymm before after
      subst keys
      have values : value = otherValue := by simpa [get?] using same key
      subst values
      congr 1
      refine ih tailAscending restAscending fun query => ?_
      by_cases first : query = key
      · subst first
        have absent : ∀ {entries : Entries α}, (∀ e ∈ entries, query < e.1) →
            get? query entries = none := by
          intro entries above
          cases found : get? query entries with
          | none => rfl
          | some value => exact absurd (above _ (mem_of_get? found)) (String.lt_irrefl _)
        rw [absent below, absent otherBelow]
      · simpa [get?, first] using same query

end Entries

/-- A finite map from texts to values in ascending key order. -/
structure Keyed (α : Type) where
  /-- The entries in ascending key order. -/
  entries : Entries α
  /-- No two entries share a key, and keys ascend. -/
  ascending : entries.Ascending

namespace Keyed

variable {α β : Type}

/-- Collections are equal if their entries are. -/
instance [DecidableEq α] : DecidableEq (Keyed α) := fun left right =>
  decidable_of_iff (left.entries = right.entries) (by cases left; cases right; simp)

/-- The collection without entries. -/
def empty : Keyed α := ⟨[], Entries.ascending_nil⟩

/-- The collection without entries is written as the empty set is. -/
instance : EmptyCollection (Keyed α) := ⟨empty⟩

/-- There is the collection without entries. -/
instance : Inhabited (Keyed α) := ⟨empty⟩

/-- The value under a key. -/
def get? (m : Keyed α) (key : String) : Option α := m.entries.get? key

/-- A key is held when it has a value. -/
def contains (m : Keyed α) (key : String) : Bool := (m.get? key).isSome

/-- Put a value under a key, over any earlier one. -/
def insert (m : Keyed α) (key : String) (value : α) : Keyed α :=
  ⟨m.entries.insert key value, Entries.ascending_insert key value m.ascending⟩

/-- Drop a key. -/
def erase (m : Keyed α) (key : String) : Keyed α :=
  ⟨m.entries.erase key, Entries.ascending_erase key m.ascending⟩

/-- Collect entries; the last of several values of a key is kept. -/
def ofList (entries : List (String × α)) : Keyed α :=
  ⟨Entries.sorted entries, Entries.ascending_sorted entries⟩

/-- The keys in ascending order. -/
def keys (m : Keyed α) : List String := m.entries.map Prod.fst

/-- The values in the order of their keys. -/
def values (m : Keyed α) : List α := m.entries.map Prod.snd

/-- How many keys are held. -/
def size (m : Keyed α) : Nat := m.entries.length

/-- Keep the entries whose keys satisfy a condition. -/
def filterKeys (m : Keyed α) (keep : String → Bool) : Keyed α :=
  ⟨m.entries.filter fun entry => keep entry.1, List.Pairwise.filter _ m.ascending⟩

/-- The collection without entries has no value under a key. -/
@[simp] theorem get?_empty (key : String) : (∅ : Keyed α).get? key = none := rfl

/-- Putting a value under a key changes the look-up of this key only. -/
theorem get?_insert (m : Keyed α) (key query : String) (value : α) :
    (m.insert key value).get? query = if query = key then some value else m.get? query :=
  Entries.get?_insert key query value m.entries

/-- Dropping a key changes the look-up of this key only. -/
theorem get?_erase (m : Keyed α) (key query : String) :
    (m.erase key).get? query = if query = key then none else m.get? query :=
  Entries.get?_erase key query m.entries

/-- Collections with equal look-ups are equal. -/
@[ext] theorem ext {left right : Keyed α} (same : ∀ key, left.get? key = right.get? key) :
    left = right := by
  have entries := Entries.eq_of_get?_eq left.ascending right.ascending same
  cases left; cases right; cases entries; rfl

/-- Collecting a collection's own entries gives it back. -/
theorem ofList_entries (m : Keyed α) : ofList m.entries = m := by
  cases m with
  | mk entries ascending =>
    simp only [ofList, Entries.sorted_of_ascending ascending]

end Keyed
end Campus
