import Campus.Query.Grouping
import Mathlib.Data.Finset.Card
import Mathlib.Data.List.Induction
import Mathlib.Data.List.Nodup
/-!
# Groups by what their members show

What a record shows under the group keys is a tuple, and grouping gathers the records of each tuple:
there is one group for each tuple that some record shows, standing where the tuple appears first,
and its members are all records that show the tuple, in their order.
-/

namespace Campus.Grouping

variable {keys : List FieldKey} {records : List Record} {tuple : List (Option Scalar)}

/-- The tuples that records show under the group keys, each once and where it appears first. -/
def tuples (keys : List FieldKey) (records : List Record) : List (List (Option Scalar)) :=
  (records.map (signature keys)).eraseDups

/-- The records that show a tuple under the group keys, in their order. -/
def members (keys : List FieldKey) (records : List Record) (tuple : List (Option Scalar)) :
    List Record :=
  records.filter fun record => signature keys record = tuple

/-- A tuple is listed when a record shows it. -/
theorem mem_tuples_iff :
    tuple ∈ tuples keys records ↔ ∃ record ∈ records, signature keys record = tuple := by
  rw [tuples, List.mem_eraseDups, List.mem_map]

/-- The members of a tuple are the records that show it. -/
theorem mem_members_iff {record : Record} :
    record ∈ members keys records tuple ↔ record ∈ records ∧ signature keys record = tuple := by
  rw [members, List.mem_filter, decide_eq_true_eq]

/-- A last record adds its tuple at the end, unless the tuple is listed. -/
theorem tuples_concat (records : List Record) (record : Record) :
    tuples keys (records ++ [record]) =
      if signature keys record ∈ tuples keys records then tuples keys records
      else tuples keys records ++ [signature keys record] := by
  have listed : signature keys record ∈ tuples keys records ↔
      signature keys record ∈ records.map (signature keys) := List.mem_eraseDups
  rw [tuples, List.map_append, List.eraseDups_append, List.map_singleton, List.removeAll]
  by_cases shown : signature keys record ∈ records.map (signature keys)
  · rw [if_pos (listed.2 shown), List.filter_cons_of_neg (by simpa using shown)]
    exact List.append_nil _
  · rw [if_neg (mt listed.1 shown), List.filter_cons_of_pos (by simpa using shown)]
    rfl

/-- A last record is the last member of its tuple. -/
theorem members_concat (records : List Record) (record : Record) :
    members keys (records ++ [record]) tuple =
      if signature keys record = tuple then members keys records tuple ++ [record]
      else members keys records tuple := by
  rw [members, List.filter_append]
  by_cases shown : signature keys record = tuple
  · rw [if_pos shown, List.filter_cons_of_pos (by simpa using shown)]
    rfl
  · rw [if_neg shown, List.filter_cons_of_neg (by simpa using shown)]
    exact List.append_nil _

/-- No tuple is listed twice. -/
theorem nodup_tuples (keys : List FieldKey) (records : List Record) :
    (tuples keys records).Nodup := by
  induction records using List.reverseRecOn with
  | nil => exact List.nodup_nil
  | append_singleton records record ih =>
    rw [tuples_concat]
    split
    · exact ih
    · next absent =>
      rw [← List.concat_eq_append]
      exact List.Nodup.concat absent ih

/-- There are as many tuples as records show different ones. -/
theorem length_tuples (keys : List FieldKey) (records : List Record) :
    (tuples keys records).length = (records.map (signature keys)).toFinset.card := by
  have same : (records.map (signature keys)).toFinset = (tuples keys records).toFinset := by
    ext tuple
    rw [List.mem_toFinset, List.mem_toFinset]
    exact List.mem_eraseDups.symm
  rw [same, List.toFinset_card_of_nodup (nodup_tuples keys records)]

section

variable {listed : List (List (Option Scalar))} {held : List (Option Scalar) → List Record}
  {record : Record}

/-- A record is put in front of the members of its tuple if the tuple has a group. -/
theorem place_of_mem (distinct : listed.Nodup) (present : tuple ∈ listed) :
    place tuple record (listed.map fun other => (other, held other)) =
      listed.map fun other => (other, if tuple = other then record :: held other
        else held other) := by
  induction listed with
  | nil => cases present
  | cons first rest ih =>
    obtain ⟨absent, distinctRest⟩ := List.nodup_cons.1 distinct
    rw [List.map_cons, List.map_cons, place]
    by_cases same : first = tuple
    · subst same
      rw [if_pos rfl, if_pos rfl]
      congr 1
      refine List.map_congr_left fun other member => ?_
      have differs : first ≠ other := fun equal => absent (equal ▸ member)
      rw [if_neg differs]
    · have later : tuple ∈ rest := (List.mem_cons.1 present).resolve_left (Ne.symm same)
      rw [if_neg same, if_neg (Ne.symm same), ih distinctRest later]

/-- A record of a tuple without a group begins one behind the others. -/
theorem place_of_notMem (absent : tuple ∉ listed) :
    place tuple record (listed.map fun other => (other, held other)) =
      (listed.map fun other => (other, held other)) ++ [(tuple, [record])] := by
  induction listed with
  | nil => rfl
  | cons first rest ih =>
    have differs : first ≠ tuple := fun same => absent (same ▸ List.mem_cons_self)
    have absentRest : tuple ∉ rest := fun member => absent (List.mem_cons_of_mem _ member)
    rw [List.map_cons, place, if_neg differs, ih absentRest, List.cons_append]

end

/-- After all records are placed, every tuple has its members, the latest first. -/
theorem foldl_place (keys : List FieldKey) (records : List Record) :
    records.foldl (fun opened record => place (signature keys record) record opened) [] =
      (tuples keys records).map fun tuple => (tuple, (members keys records tuple).reverse) := by
  induction records using List.reverseRecOn with
  | nil => rfl
  | append_singleton records record ih =>
    rw [List.foldl_append, ih, List.foldl_cons, List.foldl_nil, tuples_concat]
    by_cases present : signature keys record ∈ tuples keys records
    · rw [place_of_mem (nodup_tuples keys records) present, if_pos present]
      refine List.map_congr_left fun tuple _ => ?_
      rw [members_concat]
      split <;> simp
    · rw [place_of_notMem present, if_neg present, List.map_append, List.map_singleton]
      have none : members keys records (signature keys record) = [] :=
        List.filter_eq_nil_iff.2 fun other member => by
          simpa using fun shown => present (mem_tuples_iff.2 ⟨other, member, shown⟩)
      congr 1
      · refine List.map_congr_left fun tuple listed => ?_
        have differs : signature keys record ≠ tuple := fun same => present (same ▸ listed)
        rw [members_concat, if_neg differs]
      · rw [members_concat, if_pos rfl, none]
        rfl

/-- There is one group for each tuple, of the records that show it. -/
theorem groups_eq (keys : List FieldKey) (records : List Record) :
    groups keys records = (tuples keys records).map (members keys records) := by
  rw [groups, foldl_place, List.map_map]
  exact List.map_congr_left fun tuple _ => List.reverse_reverse _

end Campus.Grouping
