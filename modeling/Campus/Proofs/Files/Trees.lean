import Campus.Files.Tree
import Campus.Proofs.Data.Keyed
import Mathlib.Data.List.Infix
/-!
# Making folders

In a tree where every folder with items stands in the one around it, folders that are made stand
where nothing was. So all files stay as they are, whatever the path says and wherever it ends.
-/

namespace Campus

/-- No part of a list that was split at a separator contains it. -/
theorem notMem_of_mem_splitOn {α : Type} [BEq α] [LawfulBEq α] {separator : α}
    {whole part : List α} (member : part ∈ whole.splitOn separator) : separator ∉ part := by
  unfold List.splitOn at member
  induction whole generalizing part with
  | nil =>
    rw [List.splitOnP_nil, List.mem_singleton] at member
    rw [member]
    exact List.not_mem_nil
  | cons first rest ih =>
    rw [List.splitOnP_cons_eq_if_modifyHead] at member
    split at member
    · rcases List.mem_cons.1 member with rfl | later
      · exact List.not_mem_nil
      · exact ih later
    · next differs =>
      obtain ⟨front, others, parts⟩ :=
        List.exists_cons_of_ne_nil (List.splitOnP_ne_nil (· == separator) rest)
      rw [parts, List.modifyHead_cons] at member
      rw [parts] at ih
      rcases List.mem_cons.1 member with rfl | later
      · rw [List.mem_cons, not_or]
        exact ⟨fun same => differs (beq_iff_eq.2 same.symm), ih List.mem_cons_self⟩
      · exact ih (List.mem_cons_of_mem _ later)

namespace FileTree

/-- What a part of a path is that names an item. -/
def IsName (name : String) : Prop := name ≠ "" ∧ '/' ∉ name.toList

/-- The parts of a path have no slashes. -/
theorem slash_notMem_of_mem_parts {path part : String} (member : part ∈ parts path) :
    '/' ∉ part.toList := by
  obtain ⟨chars, split, rfl⟩ := List.mem_map.1 member
  rw [String.toList_ofList]
  exact notMem_of_mem_splitOn split

/-- The names on the way to a folder are got back from its path. -/
theorem filter_parts_pathOf {names : List String} (each : ∀ name ∈ names, IsName name) :
    (parts (pathOf names)).filter (fun part => part ≠ "") = names := by
  by_cases outermost : names = []
  · rw [outermost]
    rfl
  · have split : (pathOf names).toList.splitOn '/' = names.map String.toList := by
      rw [pathOf, String.toList_intercalate]
      refine List.splitOn_intercalate '/' (fun part member => ?_) (by simpa using outermost)
      obtain ⟨name, listed, rfl⟩ := List.mem_map.1 member
      exact (each name listed).2
    rw [parts, split, List.map_map, Function.comp_def]
    simp only [String.ofList_toList, List.map_id']
    exact List.filter_eq_self.2 fun name member => decide_eq_true (each name member).1

/-- Folders at one path have the same names on the way. -/
theorem eq_of_pathOf_eq {names others : List String} (left : ∀ name ∈ names, IsName name)
    (right : ∀ name ∈ others, IsName name) (same : pathOf names = pathOf others) :
    names = others := by
  rw [← filter_parts_pathOf left, same, filter_parts_pathOf right]

/-- The items of one folder are exchanged. -/
theorem items_withItems (tree : FileTree) (names : List String) (items : Folder)
    (others : List String) :
    (tree.withItems names items).items others =
      if pathOf others = pathOf names then items else tree.items others := by
  unfold FileTree.items withItems
  dsimp only
  rw [Keyed.get?_insert]
  split <;> rfl

/-- Every name on a way is that of a folder in the folder reached before it. -/
def Leads (tree : FileTree) (names : List String) : Prop :=
  ∀ front name, front ++ [name] <+: names →
    IsName name ∧ (tree.items front).get? name = some .folder

/-- Every folder with items stands in the one around it, and so does the working folder. -/
structure IsWhole (tree : FileTree) : Prop where
  here : tree.Leads tree.here
  listed : ∀ names name, (∀ part ∈ names ++ [name], IsName part) →
    (tree.items names).get? name ≠ some .folder → tree.items (names ++ [name]) = ∅

/-- Two trees have the same files among those with some names. -/
def AgreesOn (among : String → Prop) (tree other : FileTree) : Prop :=
  ∀ names name content, among name →
    ((other.items names).get? name = some (.file content) ↔
      (tree.items names).get? name = some (.file content))

section

variable {tree left other : FileTree} {names place : List String} {part : String}
  {among : String → Prop}

/-- A tree has its own files. -/
theorem AgreesOn.refl (among : String → Prop) (tree : FileTree) : tree.AgreesOn among tree :=
  fun _ _ _ _ => Iff.rfl

/-- Trees that have the files of a third one. -/
theorem AgreesOn.trans (first : tree.AgreesOn among left) (second : left.AgreesOn among other) :
    tree.AgreesOn among other := fun names name content named =>
  (second names name content named).trans (first names name content named)

/-- The outermost folder is always there. -/
theorem leads_nil (tree : FileTree) : tree.Leads [] := by
  intro front name start
  simp at start

/-- A way to a folder goes through folders with names. -/
theorem Leads.isName (leads : tree.Leads names) : ∀ name ∈ names, IsName name := by
  intro name member
  obtain ⟨front, back, rfl⟩ := List.append_of_mem member
  exact (leads front name ⟨back, by simp⟩).1

/-- A way ends where it is cut off. -/
theorem Leads.dropLast (leads : tree.Leads names) : tree.Leads names.dropLast :=
  fun front name start => leads front name (start.trans (List.dropLast_prefix names))

/-- A way goes on with a folder that stands where it ends. -/
theorem Leads.concat (leads : tree.Leads names) {name : String} (named : IsName name)
    (found : (tree.items names).get? name = some .folder) : tree.Leads (names ++ [name]) := by
  intro front last start
  rcases List.prefix_concat_iff.1 start with whole | shorter
  · obtain ⟨rfl, same⟩ := List.append_inj' whole rfl
    obtain rfl := (List.cons.inj same).1
    exact ⟨named, found⟩
  · exact leads front last shorter

end

/-- The tree with a new folder in one of its folders. -/
def withFolder (tree : FileTree) (names : List String) (part : String) : FileTree :=
  (tree.withItem names part .folder).withItems (names ++ [part]) ∅

section

variable {tree left : FileTree} {names others place : List String} {name part : String}

/-- The items of a folder are those at its path. -/
theorem items_congr (tree : FileTree) (same : pathOf others = pathOf names) :
    tree.items others = tree.items names := by
  rw [FileTree.items, same]
  rfl

/-- What the folders hold when there is a new one. -/
theorem items_withFolder (tree : FileTree) (names : List String) (part : String)
    (others : List String) :
    (tree.withFolder names part).items others =
      if pathOf others = pathOf (names ++ [part]) then ∅
      else if pathOf others = pathOf names then (tree.items names).insert part .folder
      else tree.items others := by
  rw [withFolder, withItem, items_withItems, items_withItems]

section

variable (whole : tree.IsWhole) (leads : tree.Leads names) (named : IsName part)
  (missing : (tree.items names).get? part = none)

include whole leads named missing

/-- Where a folder is made nothing was before. -/
theorem items_of_missing (same : pathOf others = pathOf (names ++ [part])) :
    tree.items others = ∅ := by
  rw [tree.items_congr same]
  refine whole.listed names part ?_ (by rw [missing]; exact nofun)
  exact List.forall_mem_append.2 ⟨leads.isName, List.forall_mem_singleton.2 named⟩

/-- A new folder leaves all files. -/
theorem agreesOn_withFolder (among : String → Prop) :
    tree.AgreesOn among (tree.withFolder names part) := by
  intro others name content _
  rw [items_withFolder]
  split
  -- the new folder is empty, and nothing was in its place either
  · next same => rw [items_of_missing whole leads named missing same]
  split
  · next same =>
    rw [tree.items_congr same, Keyed.get?_insert]
    split
    · next isPart =>
      rw [isPart, missing]
      exact ⟨nofun, nofun⟩
    · exact Iff.rfl
  · exact Iff.rfl

/-- A new folder leaves all folders. -/
theorem get?_withFolder_of_folder (found : (tree.items others).get? name = some .folder) :
    ((tree.withFolder names part).items others).get? name = some .folder := by
  rw [items_withFolder]
  split
  · next same =>
    rw [items_of_missing whole leads named missing same] at found
    cases found
  split
  · next same =>
    rw [tree.items_congr same] at found
    rw [Keyed.get?_insert]
    split
    · rfl
    · exact found
  · exact found

/-- Ways to folders stay when there is a new one. -/
theorem leads_withFolder_of_leads (way : tree.Leads others) :
    (tree.withFolder names part).Leads others := fun front name start =>
  (way front name start).imp_right (get?_withFolder_of_folder whole leads named missing)

/-- A way leads to the new folder. -/
theorem leads_withFolder : (tree.withFolder names part).Leads (names ++ [part]) := by
  refine (leads_withFolder_of_leads whole leads named missing leads).concat named ?_
  have apart : pathOf names ≠ pathOf (names ++ [part]) := by
    intro same
    have longer := eq_of_pathOf_eq leads.isName
      (List.forall_mem_append.2 ⟨leads.isName, List.forall_mem_singleton.2 named⟩) same
    simp at longer
  rw [items_withFolder, if_neg apart, if_pos rfl, Keyed.get?_insert, if_pos rfl]

/-- With a new folder every folder with items still stands in the one around it. -/
theorem isWhole_withFolder : (tree.withFolder names part).IsWhole where
  here := leads_withFolder_of_leads whole leads named missing whole.here
  listed others name each unlisted := by
    rw [items_withFolder]
    split
    · rfl
    split
    · next same =>
      -- the folder around the new one is on a way, so it stands in the one around it
      obtain rfl := eq_of_pathOf_eq each leads.isName same
      exact absurd (leads_withFolder_of_leads whole leads named missing leads others name
        (List.prefix_refl _)).2 unlisted
    · exact whole.listed others name each
        (mt (get?_withFolder_of_folder whole leads named missing) unlisted)

end

/-- What following a part of a path comes to, where folders are made. -/
theorem followMaking_cases (plain : '/' ∉ part.toList)
    (followed : followMaking (tree, names) part = .ok (left, place)) :
    (left = tree ∧ (place = names ∨ place = names.dropLast ∨
        ((tree.items names).get? part = some .folder ∧ IsName part ∧ place = names ++ [part]))) ∨
      ((tree.items names).get? part = none ∧ IsName part ∧ left = tree.withFolder names part ∧
        place = names ++ [part]) := by
  simp only [FileTree.followMaking, follow] at followed
  by_cases stays : part = "" ∨ part = "."
  · rw [if_pos stays] at followed
    cases followed
    exact .inl ⟨rfl, .inl rfl⟩
  rw [if_neg stays] at followed
  by_cases up : part = ".."
  · rw [if_pos up] at followed
    cases followed
    exact .inl ⟨rfl, .inr (.inl rfl)⟩
  rw [if_neg up] at followed
  have named : IsName part := ⟨fun empty => stays (.inl empty), plain⟩
  by_cases long : Folder.isTooLong part = true
  · rw [if_pos long] at followed
    cases followed
  rw [if_neg long] at followed
  cases found : (tree.items names).get? part with
  | none =>
    rw [found] at followed
    cases followed
    exact .inr ⟨rfl, named, rfl, rfl⟩
  | some item =>
    rw [found] at followed
    cases item with
    | file content => cases followed
    | folder =>
      cases followed
      exact .inl ⟨rfl, .inr (.inr ⟨rfl, named, rfl⟩)⟩

/-- What is kept while a path is followed and folders are made: the files, and that the place
reached is a folder on a way. -/
structure Keeps (tree left : FileTree) (place : List String) : Prop where
  whole : left.IsWhole
  leads : left.Leads place
  files : tree.AgreesOn (fun _ => True) left

/-- Following one part of a path makes folders only where nothing was. -/
theorem Keeps.followMaking {after : FileTree} {next : List String} (keeps : tree.Keeps left place)
    (plain : '/' ∉ part.toList)
    (followed : followMaking (left, place) part = .ok (after, next)) : tree.Keeps after next := by
  obtain ⟨whole, leads, files⟩ := keeps
  rcases followMaking_cases plain followed with
    ⟨rfl, rfl | rfl | ⟨found, named, rfl⟩⟩ | ⟨missing, named, rfl, rfl⟩
  · exact ⟨whole, leads, files⟩
  · exact ⟨whole, leads.dropLast, files⟩
  · exact ⟨whole, leads.concat named found, files⟩
  · exact ⟨isWhole_withFolder whole leads named missing,
      leads_withFolder whole leads named missing,
      files.trans (agreesOn_withFolder whole leads named missing _)⟩

/-- Following the parts of a path makes folders only where nothing was, wherever it ends. -/
theorem Keeps.go (keeps : tree.Keeps left place) {rest : List String}
    (plain : ∀ part ∈ rest, '/' ∉ part.toList) :
    ∃ next, tree.Keeps (makeFolders.go (left, place) rest).1 next := by
  induction rest generalizing left place with
  | nil => exact ⟨place, keeps⟩
  | cons part others ih =>
    obtain ⟨plainPart, plainOthers⟩ := List.forall_mem_cons.1 plain
    unfold makeFolders.go
    cases followed : FileTree.followMaking (left, place) part with
    | error fault => exact ⟨place, keeps⟩
    | ok state => exact ih (keeps.followMaking plainPart followed) plainOthers

/-- Making the folders of a path leaves all files, and every folder stays in the one around it. -/
theorem exists_keeps_makeFolders (whole : tree.IsWhole) (path : String) :
    ∃ place, tree.Keeps (tree.makeFolders path).1 place := by
  unfold makeFolders
  cases checkPath path with
  | error fault => exact ⟨[], whole, tree.leads_nil, .refl _ tree⟩
  | ok _ =>
    have start : tree.Leads (tree.start path) := by
      unfold FileTree.start
      split
      · exact tree.leads_nil
      · exact whole.here
    have keeps : tree.Keeps tree (tree.start path) := ⟨whole, start, .refl _ tree⟩
    exact keeps.go fun _ => slash_notMem_of_mem_parts

end

/-- A tree of one folder is whole. -/
theorem isWhole_of_outermost (folder : Folder) :
    IsWhole ⟨Keyed.empty.insert "" folder, []⟩ where
  here := leads_nil _
  listed names name each _ := by
    have inner : pathOf (names ++ [name]) ≠ "" := by
      intro same
      have outermost : pathOf [] = "" := by decide
      have empty := eq_of_pathOf_eq each (List.forall_mem_nil _) (same.trans outermost.symm)
      simp at empty
    rw [FileTree.items, Keyed.get?_insert, if_neg inner]
    rfl

end FileTree
end Campus
