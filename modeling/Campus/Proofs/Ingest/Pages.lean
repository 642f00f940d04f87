import Campus.Proofs.Ingest.Orders
import Mathlib.Data.List.TakeWhile
/-!
# Pages of buildings

A file in the folder of the buildings is the page of the building whose short name is its stem: the
last part of its path without the last extension. Of several buildings with one short name it is the
page of the first in the index. A file with an empty stem is no page, whatever the index lists.
-/

namespace Campus

section lastMark

variable {mark : Char} {chars front back : List Char}

/-- What follows the last mark. -/
theorem reverse_takeWhile_append (absent : mark ∉ back) :
    ((front ++ mark :: back).reverse.takeWhile (· != mark)).reverse = back := by
  have unmarked : ∀ c ∈ back.reverse, (c != mark) = true := fun c member =>
    bne_iff_ne.2 fun same => absent (same ▸ List.mem_reverse.1 member)
  rw [List.reverse_append, List.reverse_cons, List.append_assoc, List.singleton_append,
    List.takeWhile_append_of_pos unmarked, List.takeWhile_cons_of_neg (by simp), List.append_nil,
    List.reverse_reverse]

/-- What precedes the last mark. -/
theorem reverse_dropWhile_append (absent : mark ∉ back) :
    (((front ++ mark :: back).reverse.dropWhile (· != mark)).drop 1).reverse = front := by
  have unmarked : ∀ c ∈ back.reverse, (c != mark) = true := fun c member =>
    bne_iff_ne.2 fun same => absent (same ▸ List.mem_reverse.1 member)
  rw [List.reverse_append, List.reverse_cons, List.append_assoc, List.singleton_append,
    List.dropWhile_append_of_pos unmarked, List.dropWhile_cons_of_neg (by simp), List.drop_one,
    List.tail_cons, List.reverse_reverse]

/-- Without a mark everything follows the last one. -/
theorem reverse_takeWhile_of_notMem (absent : mark ∉ chars) :
    (chars.reverse.takeWhile (· != mark)).reverse = chars := by
  have unmarked : ∀ c ∈ chars.reverse, (c != mark) = true := fun c member =>
    bne_iff_ne.2 fun same => absent (same ▸ List.mem_reverse.1 member)
  rw [List.takeWhile_eq_self_iff.2 unmarked, List.reverse_reverse]

/-- A mark that occurs occurs last somewhere. -/
theorem exists_last_mark (present : mark ∈ chars) :
    ∃ front back, chars = front ++ mark :: back ∧ mark ∉ back := by
  obtain ⟨after, before, reversed, absent⟩ :=
    List.eq_append_cons_of_mem (List.mem_reverse.2 present)
  refine ⟨before.reverse, after.reverse, ?_, fun member => absent (List.mem_reverse.1 member)⟩
  rw [← List.reverse_reverse chars, reversed]
  simp

end lastMark

/-- The stem of a file in the folder of the buildings: the last part of its path, without the last
extension if it has one. -/
def IsStem (stem file : String) : Prop :=
  ∃ path segment : String, file = buildingsFolder ++ path ++ segment ∧
    (path = "" ∨ ∃ folders, path = folders ++ "/") ∧ '/' ∉ segment.toList ∧
    (segment = stem ∧ '.' ∉ segment.toList ∨
      ∃ extension : String, segment = stem ++ "." ++ extension ∧ '.' ∉ extension.toList)

/-- The characters after the last slash. -/
def lastPart (chars : List Char) : List Char := (chars.reverse.takeWhile (· != '/')).reverse

/-- The characters before the last point if there is one. -/
def withoutExtension (chars : List Char) : List Char :=
  if chars.contains '.' then ((chars.reverse.dropWhile (· != '.')).drop 1).reverse else chars

/-- The last part of a path. -/
theorem lastPart_eq_iff {chars segment : List Char} :
    lastPart chars = segment ↔
      ∃ path, chars = path ++ segment ∧ (path = [] ∨ ∃ folders, path = folders ++ ['/']) ∧
        '/' ∉ segment := by
  unfold lastPart
  constructor
  · rintro rfl
    by_cases present : '/' ∈ chars
    · obtain ⟨front, back, rfl, absent⟩ := exists_last_mark present
      rw [reverse_takeWhile_append absent]
      exact ⟨front ++ ['/'], by simp, .inr ⟨front, rfl⟩, absent⟩
    · rw [reverse_takeWhile_of_notMem present]
      exact ⟨[], rfl, .inl rfl, present⟩
  · rintro ⟨path, rfl, rfl | ⟨folders, rfl⟩, absent⟩
    · exact reverse_takeWhile_of_notMem absent
    · rw [List.append_assoc, List.singleton_append]
      exact reverse_takeWhile_append absent

/-- A name without its last extension. -/
theorem withoutExtension_eq_iff {chars stem : List Char} :
    withoutExtension chars = stem ↔
      chars = stem ∧ '.' ∉ chars ∨ ∃ extension, chars = stem ++ '.' :: extension ∧
        '.' ∉ extension := by
  unfold withoutExtension
  constructor
  · rintro rfl
    by_cases present : '.' ∈ chars
    · obtain ⟨front, back, rfl, absent⟩ := exists_last_mark present
      rw [if_pos (List.contains_iff_mem.2 present), reverse_dropWhile_append absent]
      exact .inr ⟨back, rfl, absent⟩
    · rw [if_neg fun pointed => present (List.contains_iff_mem.1 pointed)]
      exact .inl ⟨rfl, present⟩
  · rintro (⟨rfl, absent⟩ | ⟨extension, rfl, absent⟩)
    · rw [if_neg fun pointed => absent (List.contains_iff_mem.1 pointed)]
    · rw [if_pos (List.contains_iff_mem.2 (by simp)), reverse_dropWhile_append absent]

/-- The stem of a file, by its characters. -/
theorem isStem_iff {stem file : String} :
    IsStem stem file ↔ ∃ rest, file.toList = buildingsFolder.toList ++ rest ∧
      withoutExtension (lastPart rest) = stem.toList := by
  constructor
  · rintro ⟨path, segment, rfl, folders, noSlash, named⟩
    refine ⟨path.toList ++ segment.toList, by simp, ?_⟩
    have last : lastPart (path.toList ++ segment.toList) = segment.toList := by
      refine lastPart_eq_iff.2 ⟨path.toList, rfl, ?_, noSlash⟩
      rcases folders with rfl | ⟨folders, rfl⟩
      · exact .inl rfl
      · exact .inr ⟨folders.toList, String.toList_append⟩
    rw [last, withoutExtension_eq_iff]
    rcases named with ⟨rfl, noPoint⟩ | ⟨extension, rfl, noPoint⟩
    · exact .inl ⟨rfl, noPoint⟩
    · exact .inr ⟨extension.toList, by simp, noPoint⟩
  · rintro ⟨rest, chars, named⟩
    obtain ⟨segment, last⟩ : ∃ segment, lastPart rest = segment := ⟨_, rfl⟩
    rw [last] at named
    obtain ⟨path, rfl, folders, noSlash⟩ := lastPart_eq_iff.1 last
    refine ⟨String.ofList path, String.ofList segment, ?_, ?_, by simpa using noSlash, ?_⟩
    · apply String.toList_inj.1
      simp [chars]
    · rcases folders with rfl | ⟨folders, rfl⟩
      · exact .inl rfl
      · exact .inr ⟨String.ofList folders, String.ofList_append⟩
    · rcases withoutExtension_eq_iff.1 named with ⟨rfl, noPoint⟩ | ⟨extension, rfl, noPoint⟩
      · exact .inl ⟨String.ofList_toList, by simpa using noPoint⟩
      · refine .inr ⟨String.ofList extension, ?_, by simpa using noPoint⟩
        apply String.toList_inj.1
        simp

/-- The short name a file gives: what is left of its path, unless that is nothing. -/
theorem buildingCode?_eq (file : String) :
    buildingCode? file =
      if buildingsFolder.toList.isPrefixOf file.toList then
        let code := withoutExtension (lastPart (file.toList.drop buildingsFolder.toList.length))
        if code.isEmpty then none else some (String.ofList code)
      else none := rfl

/-- A file gives a short name exactly if that is its stem and not empty. -/
theorem buildingCode?_eq_some_iff {file code : String} :
    buildingCode? file = some code ↔ code ≠ "" ∧ IsStem code file := by
  rw [isStem_iff, buildingCode?_eq]
  constructor
  · intro found
    split at found
    · next inFolder =>
      obtain ⟨rest, chars⟩ := List.isPrefixOf_iff_prefix.1 inFolder
      simp only [← chars, List.drop_left] at found
      split at found
      · cases found
      · next someChars =>
        cases found
        refine ⟨fun none => someChars ?_, rest, chars.symm, String.toList_ofList.symm⟩
        rw [String.ofList_eq_empty_iff.1 none]
        rfl
    · cases found
  · rintro ⟨someName, rest, chars, stem⟩
    have inFolder : buildingsFolder.toList.isPrefixOf file.toList = true :=
      List.isPrefixOf_iff_prefix.2 ⟨rest, chars.symm⟩
    rw [if_pos inFolder]
    simp only [chars, List.drop_left, stem]
    rw [if_neg, String.ofList_toList]
    intro none
    exact someName (String.toList_eq_nil_iff.1 (List.isEmpty_iff.1 none))

/-- A building of the index that no earlier one shares its short name with. -/
def Building.IsFirst (buildings : List Building) (building : Building) : Prop :=
  ∃ before after, buildings = before ++ building :: after ∧
    ∀ earlier ∈ before, earlier.shortName ≠ building.shortName

/-- The building that is found under a short name is the first one that has it. -/
theorem Building.withCode?_eq_some_iff {buildings : List Building} {code : String}
    {building : Building} :
    withCode? buildings code = some building ↔
      building.shortName = code ∧ building.IsFirst buildings := by
  rw [withCode?, List.find?_eq_some_iff_append, beq_iff_eq]
  constructor
  · rintro ⟨rfl, before, after, listed, others⟩
    exact ⟨rfl, before, after, listed, fun earlier member => by simpa using others earlier member⟩
  · rintro ⟨rfl, before, after, listed, others⟩
    exact ⟨rfl, before, after, listed, fun earlier member => by simpa using others earlier member⟩

/-- A file is the page of a building of the index: the first one of its short name, which is not
empty and the stem of the file. -/
structure Building.HasPage (buildings : List Building) (building : Building) (file : String) :
    Prop where
  isFirst : building.IsFirst buildings
  named : building.shortName ≠ ""
  isStem : IsStem building.shortName file

/-- A file is taken for the page of the building whose page it is. -/
theorem bind_withCode?_eq_some_iff {buildings : List Building} {building : Building}
    {file : String} :
    (buildingCode? file).bind (Building.withCode? buildings) = some building ↔
      building.HasPage buildings file := by
  rw [Option.bind_eq_some_iff]
  simp only [buildingCode?_eq_some_iff, Building.withCode?_eq_some_iff]
  constructor
  · rintro ⟨_, ⟨named, isStem⟩, rfl, isFirst⟩
    exact ⟨isFirst, named, isStem⟩
  · rintro ⟨isFirst, named, isStem⟩
    exact ⟨_, ⟨named, isStem⟩, rfl, isFirst⟩

/-- A file is the page of one building only. -/
theorem Building.HasPage.unique {buildings : List Building} {building other : Building}
    {file : String} (isPage : building.HasPage buildings file)
    (isOther : other.HasPage buildings file) : building = other :=
  Option.some.inj ((bind_withCode?_eq_some_iff.2 isPage).symm.trans
    (bind_withCode?_eq_some_iff.2 isOther))

namespace RoomSurvey

variable {buildings : List Building} {file : String × List UInt8}

/-- A file is passed by exactly if it is the page of no building. -/
theorem tableOf?_eq_none_iff :
    tableOf? buildings file = none ↔ ∀ building, ¬Building.HasPage buildings building file.1 := by
  rw [tableOf?, Option.map_eq_none_iff, Option.eq_none_iff_forall_ne_some]
  exact forall_congr' fun building => not_congr bind_withCode?_eq_some_iff

/-- A table is read from the page of its building, which is text. -/
theorem tableOf?_eq_some_ok_iff {table : RoomTable} :
    tableOf? buildings file = some (.ok table) ↔
      table.building.HasPage buildings file.1 ∧
        ∃ page, Bytes.text? file.2 = some page ∧ table.rooms = Room.ofPage page := by
  rw [tableOf?, Option.map_eq_some_iff]
  simp only [bind_withCode?_eq_some_iff]
  constructor
  · rintro ⟨building, isPage, read⟩
    cases text : Bytes.text? file.2 with
    | none => simp [pageText, text, Except.map] at read
    | some page =>
      simp only [pageText, text, Except.map, Except.ok.injEq] at read
      subst read
      exact ⟨isPage, page, rfl, rfl⟩
  · rintro ⟨isPage, page, text, rooms⟩
    refine ⟨table.building, isPage, ?_⟩
    simp only [pageText, text, Except.map, ← rooms]

/-- Reading a page fails exactly if it is no text. -/
theorem tableOf?_eq_some_error_iff {error : IngestError} :
    tableOf? buildings file = some (.error error) ↔
      (∃ building, Building.HasPage buildings building file.1) ∧ Bytes.text? file.2 = none ∧
        error = .unreadableFile file.1 := by
  rw [tableOf?, Option.map_eq_some_iff]
  simp only [bind_withCode?_eq_some_iff]
  cases text : Bytes.text? file.2 with
  | none => simp [pageText, text, Except.map, eq_comm]
  | some page => simp [pageText, text, Except.map]

end RoomSurvey
end Campus
