import Campus.Ingest.Upload
import Campus.Proofs.Archive.Entries
import Campus.Proofs.Data.ByteOrder
import Mathlib.Data.List.Induction
/-!
# Contents of archives

An archive says of every name whether it is there, and it lists the files in the order of their
bytes. Both can be told from the list of its entries: a name is there if an entry has it, or if it
ends in a slash and an entry's name starts with it; a file has the content of the last entry of its
name. So what matters is only the order of entries that share a name.
-/

namespace Campus.Archive

variable {entries : List ArchiveEntry} {entry last : ArchiveEntry} {name : String}
  {content : List UInt8}

/-- An entry is the last one of its name. -/
def IsLastAmong (entries : List ArchiveEntry) (entry : ArchiveEntry) : Prop :=
  ∃ before after, entries = before ++ entry :: after ∧ ∀ later ∈ after, later.name ≠ entry.name

/-- A folder's name ends in a slash or in a backslash. -/
theorem isFolder_eq_false_iff :
    entry.isFolder = false ↔
      entry.name.toList.getLast? ≠ some '/' ∧ entry.name.toList.getLast? ≠ some '\\' := by
  unfold ArchiveEntry.isFolder
  cases entry.name.toList.getLast? with
  | none => simp
  | some last => simp

/-- The folders that a name implies are those of its beginnings that end in a slash. -/
theorem mem_folders_iff {folder : String} :
    folder ∈ folders name ↔ folder.toList.getLast? = some '/' ∧ folder.toList <+: name.toList := by
  simp only [folders, List.mem_map, List.mem_filter, List.mem_range, beq_iff_eq]
  constructor
  · rintro ⟨i, ⟨-, slash⟩, rfl⟩
    rw [String.toList_ofList]
    refine ⟨?_, List.take_prefix _ _⟩
    rw [List.take_add_one, slash, Option.toList_some, List.getLast?_concat]
  · rintro ⟨slash, rest, split⟩
    obtain ⟨front, ends⟩ := List.getLast?_eq_some_iff.1 slash
    rw [ends, List.append_assoc, List.singleton_append] at split
    refine ⟨front.length, ⟨?_, ?_⟩, ?_⟩
    · rw [← split, List.length_append, List.length_cons]
      omega
    · rw [← split, List.getElem?_append_right (Nat.le_refl _), Nat.sub_self, List.getElem?_cons_zero]
    · rw [← split, List.append_cons, List.take_left' (by simp), ← ends,
        String.ofList_toList]

/-- An archive has the names of its entries, and every beginning of such a name that ends in a
slash. -/
theorem contains_iff_name_or_folder :
    (ofEntries entries).contains name = true ↔
      (∃ entry ∈ entries, entry.name = name) ∨
        name.toList.getLast? = some '/' ∧
          ∃ entry ∈ entries, name.toList <+: entry.name.toList := by
  rw [contains_ofEntries]
  simp only [mem_folders_iff, and_or_left, exists_or, eq_comm (a := name)]
  refine or_congr_right ⟨?_, ?_⟩
  · rintro ⟨entry, member, slash, starts⟩
    exact ⟨slash, entry, member, starts⟩
  · rintro ⟨slash, entry, member, starts⟩
    exact ⟨entry, member, slash, starts⟩

/-- The entry that comes last is the last one of its name, and it leaves the others that are the
last ones of another name. -/
theorem isLastAmong_concat :
    IsLastAmong (entries ++ [last]) entry ↔
      entry = last ∨ IsLastAmong entries entry ∧ last.name ≠ entry.name := by
  constructor
  · rintro ⟨before, after, split, none⟩
    cases after using List.reverseRecOn with
    | nil => exact .inl (List.head_eq_of_cons_eq (List.append_inj' split rfl).2).symm
    | append_singleton after final =>
      rw [← List.cons_append, ← List.append_assoc] at split
      obtain ⟨rfl, same⟩ := List.append_inj' split rfl
      obtain rfl : last = final := List.head_eq_of_cons_eq same
      exact .inr ⟨⟨before, after, rfl, fun later member =>
        none later (List.mem_append_left _ member)⟩, none last (by simp)⟩
  · rintro (rfl | ⟨⟨before, after, rfl, none⟩, other⟩)
    · exact ⟨entries, [], rfl, fun _ member => absurd member List.not_mem_nil⟩
    · refine ⟨before, after ++ [last], by simp, fun later member => ?_⟩
      rcases List.mem_append.1 member with old | isLast
      · exact none later old
      · rwa [List.mem_singleton.1 isLast]

/-- The last entry of a name is the last one of those that have it. -/
theorem isLastAmong_iff_getLast? :
    IsLastAmong entries entry ↔
      (entries.filter fun other => other.name = entry.name).getLast? = some entry := by
  induction entries using List.reverseRecOn with
  | nil =>
    refine iff_of_false ?_ nofun
    rintro ⟨before, after, split, -⟩
    simp at split
  | append_singleton entries last ih =>
    rw [isLastAmong_concat, ih, List.filter_append, List.filter_singleton]
    by_cases same : last.name = entry.name
    · simp [same, eq_comm]
    · have different : entry ≠ last := fun isLast => same (by rw [isLast])
      simp [same, different]

/-- Taking in an entry changes what is found under its name, if it is a file. -/
theorem get?_files_add {archive : Archive} :
    (archive.add entry).files.get? name =
      if entry.isFolder = false ∧ name = entry.name then some entry.content
      else archive.files.get? name := by
  have noted := files_foldl_addName (folders entry.name) archive
  unfold add
  cases isFolder : entry.isFolder with
  | true => simp [addName, noted]
  | false =>
    simp only [Bool.false_eq_true, if_false, true_and]
    rw [Keyed.get?_insert, addName, noted]

/-- An archive has the files that are the last entries of their names. -/
theorem get?_files_iff_isLastAmong :
    (ofEntries entries).files.get? name = some content ↔
      ∃ entry, IsLastAmong entries entry ∧ entry.isFolder = false ∧ entry.name = name ∧
        entry.content = content := by
  induction entries using List.reverseRecOn with
  | nil =>
    refine iff_of_false nofun ?_
    rintro ⟨entry, ⟨before, after, split, -⟩, -⟩
    simp at split
  | append_singleton entries last ih =>
    have added : ofEntries (entries ++ [last]) = (ofEntries entries).add last :=
      List.foldl_concat ..
    rw [added, get?_files_add]
    simp only [isLastAmong_concat]
    split
    · next replaces =>
      obtain ⟨isFile, rfl⟩ := replaces
      constructor
      · intro found
        exact ⟨last, .inl rfl, isFile, rfl, Option.some.inj found⟩
      · rintro ⟨entry, rfl | ⟨-, other⟩, -, same, rfl⟩
        · rfl
        · exact absurd same.symm other
    · next keeps =>
      rw [ih]
      refine exists_congr fun entry => ?_
      constructor
      · rintro ⟨isLast, isFile, rfl, same⟩
        refine ⟨.inr ⟨isLast, fun sameName => keeps ⟨?_, sameName.symm⟩⟩, isFile, rfl, same⟩
        rw [isFolder_eq_false_iff, sameName]
        exact isFolder_eq_false_iff.1 isFile
      · rintro ⟨rfl | ⟨isLast, -⟩, isFile, rfl, same⟩
        · exact absurd ⟨isFile, rfl⟩ keeps
        · exact ⟨isLast, isFile, rfl, same⟩

/-- Entries may come in any order that keeps those of the same name in theirs. -/
theorem ofEntries_of_filter_eq {others : List ArchiveEntry}
    (same : ∀ name, others.filter (fun entry => entry.name = name) =
      entries.filter fun entry => entry.name = name) : ofEntries others = ofEntries entries := by
  have member (entry : ArchiveEntry) : entry ∈ others ↔ entry ∈ entries := by
    have kept := congrArg (entry ∈ ·) (same entry.name)
    simpa using kept
  refine ext_contains ?_ fun name => ?_
  · ext1 name
    apply Option.ext
    intro content
    simp only [get?_files_iff_isLastAmong, isLastAmong_iff_getLast?, same]
  · rw [Bool.eq_iff_iff, contains_ofEntries, contains_ofEntries]
    simp only [member]

/-- Requiring succeeds exactly if every name is there. -/
theorem require_eq_ok_iff {archive : Archive} {required : List String} :
    archive.require required = .ok () ↔ ∀ name ∈ required, archive.contains name = true := by
  have none : archive.missing? required = none ↔ ∀ name ∈ required, archive.contains name = true := by
    simp [missing?]
  rw [← none, require]
  cases archive.missing? required <;> simp

/-- The first required name that is absent stands behind names that are there. -/
theorem missing?_eq_some_iff {archive : Archive} {required : List String} :
    archive.missing? required = some name ↔
      ∃ before after, required = before ++ name :: after ∧
        (∀ other ∈ before, archive.contains other = true) ∧ archive.contains name = false := by
  simp only [missing?, List.find?_eq_some_iff_append, Bool.not_eq_eq_eq_not, Bool.not_true,
    Bool.not_not]
  constructor
  · rintro ⟨absent, before, after, split, present⟩
    exact ⟨before, after, split, present, absent⟩
  · rintro ⟨before, after, split, present, absent⟩
    exact ⟨absent, before, after, split, present⟩

/-- Requiring fails exactly with the first name that is not there. -/
theorem require_eq_error_iff {archive : Archive} {required : List String} {error : IngestError} :
    archive.require required = .error error ↔
      ∃ before name after, error = .missingEntry name ∧ required = before ++ name :: after ∧
        (∀ other ∈ before, archive.contains other = true) ∧ archive.contains name = false := by
  have failed : archive.require required = .error error ↔
      ∃ name, error = .missingEntry name ∧ archive.missing? required = some name := by
    rw [require]
    cases archive.missing? required with
    | none => simp
    | some name => simp [eq_comm]
  rw [failed]
  simp only [missing?_eq_some_iff]
  constructor
  · rintro ⟨name, message, before, after, split⟩
    exact ⟨before, name, after, message, split⟩
  · rintro ⟨before, name, after, message, split⟩
    exact ⟨name, message, before, after, split⟩

/-- The files are listed in strictly ascending order of the bytes of their names. -/
theorem files_ascending (archive : Archive) :
    (archive.files.entries.map fun file => Bytes.ofText file.1).Pairwise (· < ·) := by
  rw [List.pairwise_map]
  exact archive.files.ascending.imp Bytes.ofText_lt_iff.2

/-- What the archive of a zip file with some entries is. It has a name exactly if an entry has it,
or if it ends in a slash and an entry's name starts with it. It lists every name of an entry that is
no folder's, once and in ascending order of bytes, with the content of the last entry of that name.
Requiring names fails exactly with the first of them that it does not have. And it is the same
archive if the entries come in another order, as long as those of the same name keep theirs, and in
any order if no two share a name. -/
theorem contents_ofEntries (entries : List ArchiveEntry) :
    let archive := ofEntries entries
    (∀ bytes, Zip.read bytes = .ok entries → ofBytes bytes = .ok archive) ∧
    (∀ name, archive.contains name = true ↔
      (∃ entry ∈ entries, entry.name = name) ∨
        name.toList.getLast? = some '/' ∧ ∃ entry ∈ entries, name.toList <+: entry.name.toList) ∧
    (archive.files.entries.map fun file => Bytes.ofText file.1).Pairwise (· < ·) ∧
    (∀ name content, (name, content) ∈ archive.files.entries ↔
      (name.toList.getLast? ≠ some '/' ∧ name.toList.getLast? ≠ some '\\') ∧
        IsLastAmong entries ⟨name, content⟩) ∧
    (∀ required, (archive.require required = .ok () ↔
        ∀ name ∈ required, archive.contains name = true) ∧
      ∀ error, archive.require required = .error error ↔
        ∃ before name after, error = .missingEntry name ∧ required = before ++ name :: after ∧
          (∀ other ∈ before, archive.contains other = true) ∧ archive.contains name = false) ∧
    ∀ others : List ArchiveEntry,
      ((∀ name, others.filter (fun entry => entry.name = name) =
          entries.filter fun entry => entry.name = name) ∨
        others.Perm entries ∧ (others.map ArchiveEntry.name).Nodup) → ofEntries others = archive := by
  refine ⟨fun bytes read => ?_, fun name => contains_iff_name_or_folder, files_ascending _,
    fun name content => ?_, fun required => ⟨require_eq_ok_iff, fun error => require_eq_error_iff⟩,
    fun others reordered => ?_⟩
  · rw [ofBytes, read]
  · rw [Keyed.mem_entries_iff, get?_files_iff_isLastAmong]
    constructor
    · rintro ⟨entry, isLast, isFile, rfl, rfl⟩
      exact ⟨isFolder_eq_false_iff.1 isFile, isLast⟩
    · rintro ⟨isFile, isLast⟩
      exact ⟨⟨name, content⟩, isLast, isFolder_eq_false_iff.2 isFile, rfl, rfl⟩
  · obtain same | ⟨same, distinct⟩ := reordered
    · exact ofEntries_of_filter_eq same
    · exact ofEntries_of_perm same distinct

/-- Entries of which two share a name and one is a folder that is marked by a backslash. -/
def sharedNames : List ArchiveEntry :=
  [⟨"campus/rooms/H.htm", [1]⟩, ⟨"index.htm", [2]⟩, ⟨"campus/rooms/H.htm", [3]⟩, ⟨"old\\", []⟩]

/-- A zip file of these entries is read: it has the folders on the way to a file, lists that file
with its last content, misses what is behind them, and could have its files the other way round. -/
theorem contents_sharedNames :
    let archive := ofEntries sharedNames
    Zip.read (Zip.render sharedNames) = .ok sharedNames ∧
      ofBytes (Zip.render sharedNames) = .ok archive ∧
      archive.contains "campus/rooms/" = true ∧ archive.contains "campus" = false ∧
      ("campus/rooms/H.htm", [3]) ∈ archive.files.entries ∧
      archive.require ["campus/", "old", "new"] = .error (.missingEntry "old") ∧
      ofEntries (sharedNames.take 1 ++ sharedNames.drop 2 ++ [⟨"index.htm", [2]⟩]) = archive := by
  intro archive
  obtain ⟨held, contains, -, listed, required, reordered⟩ := contents_ofEntries sharedNames
  have isZip : Zip.read (Zip.render sharedNames) = .ok sharedNames := by decide +kernel
  refine ⟨isZip, held _ isZip, ?_, ?_, ?_, ?_, ?_⟩
  · exact (contains "campus/rooms/").2
      (.inr ⟨by decide, ⟨"campus/rooms/H.htm", [1]⟩, by decide, by decide⟩)
  · rw [← Bool.not_eq_true, contains]
    decide
  · exact (listed "campus/rooms/H.htm" [3]).2 ⟨by decide, sharedNames.take 2, sharedNames.drop 3, rfl,
      by decide⟩
  · refine ((required ["campus/", "old", "new"]).2 _).2
      ⟨["campus/"], "old", ["new"], rfl, rfl, fun other member => ?_, ?_⟩
    · rw [List.mem_singleton.1 member, contains]
      decide
    · rw [← Bool.not_eq_true, contains]
      decide
  · refine reordered _ (.inl fun name => ?_)
    by_cases isMoved : "index.htm" = name
    · rw [← isMoved]
      decide
    · simp [sharedNames, List.filter_cons, isMoved]

end Campus.Archive
