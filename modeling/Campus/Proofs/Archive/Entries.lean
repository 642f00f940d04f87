import Campus.Archive.Basic
import Campus.Proofs.Data.Keyed
import Mathlib.Data.List.Nodup
/-!
# Archives by their entries

What an archive is made of are the files among its entries, by name, and the names of all entries
with the folders that they imply. If the entries have different names it does not matter in which
order they come.
-/

namespace Campus.Archive

variable {archive : Archive} {entry : ArchiveEntry} {name : String}

/-- Noting a name adds that name. -/
theorem contains_addName {other : String} :
    (archive.addName other).contains name = true ↔ name = other ∨ archive.contains name = true := by
  rw [contains, addName, Keyed.contains, Keyed.get?_insert]
  by_cases same : name = other
  · simp [same]
  · simp [same, contains, Keyed.contains]

/-- Noting names leaves the files alone. -/
theorem files_foldl_addName (names : List String) (archive : Archive) :
    (names.foldl addName archive).files = archive.files := by
  induction names generalizing archive with
  | nil => rfl
  | cons name rest ih => exact ih (archive.addName name)

/-- Noting names adds those names. -/
theorem contains_foldl_addName {names : List String} :
    (names.foldl addName archive).contains name = true ↔
      name ∈ names ∨ archive.contains name = true := by
  induction names generalizing archive with
  | nil => simp
  | cons first rest ih =>
    rw [List.foldl_cons, ih, contains_addName, List.mem_cons, or_left_comm, ← or_assoc]

/-- The names that an entry brings: its own and the folders that this implies. -/
theorem contains_add :
    (archive.add entry).contains name = true ↔
      name = entry.name ∨ name ∈ folders entry.name ∨ archive.contains name = true := by
  have named : (archive.add entry).contains name =
      (((folders entry.name).foldl addName archive).addName entry.name).contains name := by
    unfold add
    split <;> rfl
  rw [named, contains_addName, contains_foldl_addName]

/-- An archive has the names that its entries bring. -/
theorem contains_ofEntries {entries : List ArchiveEntry} :
    (ofEntries entries).contains name = true ↔
      ∃ entry ∈ entries, name = entry.name ∨ name ∈ folders entry.name := by
  suffices h : ∀ archive : Archive, (entries.foldl add archive).contains name = true ↔
      (∃ entry ∈ entries, name = entry.name ∨ name ∈ folders entry.name) ∨
        archive.contains name = true from
    (h empty).trans (or_iff_left Bool.false_ne_true)
  induction entries with
  | nil => simp
  | cons entry rest ih =>
    intro archive
    rw [List.foldl_cons, ih, contains_add, List.exists_mem_cons_iff, ← or_assoc (a := _ = _)]
    exact or_left_comm.trans (or_assoc.symm)

/-- The names and contents of the files among some entries. -/
def filesAmong (entries : List ArchiveEntry) : List (String × List UInt8) :=
  (entries.filter fun entry => !entry.isFolder).map fun entry => (entry.name, entry.content)

/-- An archive has the files among its entries. -/
theorem files_ofEntries (entries : List ArchiveEntry) :
    (ofEntries entries).files = .ofList (filesAmong entries) := by
  suffices h : ∀ archive : Archive, (entries.foldl add archive).files.entries =
      (filesAmong entries).foldl (fun held file => Entries.insert file.1 file.2 held)
        archive.files.entries from
    Keyed.ext fun name => congrArg (Entries.get? name) (h empty)
  induction entries with
  | nil => exact fun _ => rfl
  | cons entry rest ih =>
    intro archive
    have noted := files_foldl_addName (folders entry.name) archive
    rw [List.foldl_cons, ih]
    cases isFolder : entry.isFolder with
    | true =>
      simp only [filesAmong, add, isFolder, addName, noted, List.filter_cons, Bool.not_true,
        Bool.false_eq_true, if_false, if_true]
    | false =>
      simp only [filesAmong, add, isFolder, addName, noted, List.filter_cons, Bool.not_false,
        Bool.false_eq_true, if_false, if_true, List.map_cons, List.foldl_cons]
      rfl

/-- A file of an archive is one of its entries if these have different names. -/
theorem get?_files_ofEntries {entries : List ArchiveEntry}
    (distinct : (entries.map ArchiveEntry.name).Nodup) {content : List UInt8} :
    (ofEntries entries).files.get? name = some content ↔
      ∃ entry ∈ entries, entry.isFolder = false ∧ entry.name = name ∧ entry.content = content := by
  have names : ((filesAmong entries).map Prod.fst).Nodup := by
    rw [filesAmong, List.map_map]
    exact distinct.sublist (List.filter_sublist.map ArchiveEntry.name)
  rw [files_ofEntries, Keyed.get?_ofList_of_nodup names, Entries.get?_eq_some_iff_of_nodup names]
  simp [filesAmong, and_assoc]

/-- Archives with the same files and the same names are equal. -/
theorem ext_contains {left right : Archive} (files : left.files = right.files)
    (noted : ∀ name, left.contains name = right.contains name) : left = right := by
  have names : left.names = right.names := by
    ext1 name
    -- Nothing is stored with a name, so that it is there says all.
    have known : (left.names.get? name).isSome = (right.names.get? name).isSome := noted name
    generalize left.names.get? name = found at known ⊢
    generalize right.names.get? name = other at known ⊢
    cases found with
    | none => cases other with
      | none => rfl
      | some _ => cases known
    | some _ => cases other with
      | none => cases known
      | some _ => rfl
  exact congrArg₂ Archive.mk files names

/-- Entries of different names may come in any order. -/
theorem ofEntries_of_perm {first second : List ArchiveEntry} (same : first.Perm second)
    (distinct : (first.map ArchiveEntry.name).Nodup) : ofEntries first = ofEntries second := by
  refine ext_contains ?_ fun name => ?_
  · ext1 name
    apply Option.ext
    intro content
    rw [get?_files_ofEntries distinct,
      get?_files_ofEntries ((same.map ArchiveEntry.name).nodup_iff.1 distinct)]
    simp only [same.mem_iff]
  · rw [Bool.eq_iff_iff, contains_ofEntries, contains_ofEntries]
    simp only [same.mem_iff]

end Campus.Archive
