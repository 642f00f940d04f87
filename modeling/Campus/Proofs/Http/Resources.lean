import Campus.Http.Resource
import Campus.Proofs.Files.Trees
import Campus.Proofs.Url.Percent
import Mathlib.Data.List.TakeWhile
/-!
# Resources and their paths

Every resource has one path, and a path leads to the resource that it is the path of and to nothing
else. So ids and kinds are the parts of a path as they stand between its slashes. A text whose bytes
are all escaped has no slash, question mark or number sign, and is decoded again, so every text can
be such a part.
-/

namespace Campus

namespace Percent

/-- A text with all its bytes escaped. -/
def escapeAll (text : String) : List Char := (Bytes.ofText text).flatMap escape

/-- An escaped text consists of percent signs and hexadecimal digits. -/
theorem exists_of_mem_escapeAll {text : String} {c : Char} (member : c ∈ escapeAll text) :
    c = '%' ∨ ∃ n < 16, c = digit n := by
  obtain ⟨b, -, inEscape⟩ := List.mem_flatMap.1 member
  exact exists_of_mem_escape inEscape

/-- An escaped text has nothing in it that separates the parts of a target. -/
theorem separates_notMem_escapeAll {text : String} {c : Char} (separates : c ∈ ['/', '?', '#']) :
    c ∉ escapeAll text := by
  intro member
  have digits : ∀ n < 16, digit n ∉ ['/', '?', '#'] := by decide
  rcases exists_of_mem_escapeAll member with rfl | ⟨n, small, rfl⟩
  · exact absurd separates (by decide)
  · exact digits n small separates

/-- Only the empty text has nothing to escape. -/
theorem escapeAll_ne_nil {text : String} (nonEmpty : text ≠ "") : escapeAll text ≠ [] := by
  intro none
  have decoded := decode_flatMap_escape (Bytes.ofText text)
  rw [escapeAll] at none
  rw [none] at decoded
  exact nonEmpty (Bytes.ofText_injective decoded.symm)

end Percent

namespace Resource

/-- An escaped text is the text that it stands for. -/
theorem decode?_escapeAll (text : String) : decode? (Percent.escapeAll text) = some text := by
  rw [decode?, Percent.escapeAll, Percent.decode_flatMap_escape, Bytes.text?_ofText]

/-- The parts of a resource's path. -/
def parts : Resource → List (List Char)
  | health => ["health".toList]
  | datasets => ["datasets".toList]
  | upload id kind => ["dataset".toList, id, kind]
  | dataset id => ["dataset".toList, id]
  | query => ["query".toList]

/-- The path of a resource: its parts, each after a slash. -/
def path (resource : Resource) : List Char := resource.parts.flatMap ('/' :: ·)

/-- A resource whose parts have no slash in them and whose last part is not empty. -/
structure IsPlain (resource : Resource) : Prop where
  noSlash : ∀ part ∈ resource.parts, '/' ∉ part
  lastPart : resource.parts.getLast? ≠ some []

/-- A path is the empty text and the parts of its resource, joined by slashes. -/
theorem path_eq_intercalate (resource : Resource) :
    resource.path = ['/'].intercalate ([] :: resource.parts) := by
  cases resource <;> simp [path, parts, List.intercalate, List.intersperse]

/-- The path of a plain resource is split into its parts. -/
theorem splitOn_path {resource : Resource} (plain : resource.IsPlain) :
    resource.path.splitOn '/' = [] :: resource.parts := by
  rw [path_eq_intercalate]
  refine List.splitOn_intercalate '/' (fun part member => ?_) (List.cons_ne_nil _ _)
  rcases List.mem_cons.1 member with rfl | listed
  · exact List.not_mem_nil
  · exact plain.noSlash part listed

/-- A path that is split into the parts of a resource is its path. -/
theorem eq_path_of_splitOn {chars : List Char} {resource : Resource}
    (split : chars.splitOn '/' = [] :: resource.parts) (last : resource.parts.getLast? ≠ some []) :
    chars = resource.path ∧ resource.IsPlain := by
  refine ⟨?_, fun part member => ?_, last⟩
  · rw [path_eq_intercalate, ← split, List.intercalate_splitOn]
  · exact notMem_of_mem_splitOn (by rw [split]; exact List.mem_cons_of_mem _ member)

/-- A path leads to a resource exactly if it is the path of that resource. -/
theorem ofPath?_eq_some_iff {chars : List Char} {resource : Resource} :
    ofPath? chars = some resource ↔ chars = resource.path ∧ resource.IsPlain := by
  constructor
  · intro found
    unfold ofPath? at found
    split at found
    · next name split =>
      split at found
      · next same =>
        cases found
        exact eq_path_of_splitOn (by rw [split, same, parts]) (by decide)
      split at found
      · next same =>
        cases found
        exact eq_path_of_splitOn (by rw [split, same, parts]) (by decide)
      split at found
      · next same =>
        cases found
        exact eq_path_of_splitOn (by rw [split, same, parts]) (by decide)
      · cases found
    · next name id split =>
      split at found
      · next same =>
        cases found
        exact eq_path_of_splitOn (by rw [split, same.1, parts]) (by simpa [parts] using same.2)
      · cases found
    · next name id kind split =>
      split at found
      · next same =>
        cases found
        exact eq_path_of_splitOn (by rw [split, same.1, parts]) (by simpa [parts] using same.2)
      · cases found
    · cases found
  · rintro ⟨rfl, plain⟩
    have last := plain.lastPart
    rw [ofPath?, splitOn_path plain]
    cases resource with
    | health | datasets | query => rfl
    | dataset id => exact if_pos ⟨rfl, by simpa [parts] using last⟩
    | upload id kind => exact if_pos ⟨rfl, by simpa [parts] using last⟩

/-- A path without a question mark or a number sign is found in a target that consists of it. -/
theorem targetPath_path {resource : Resource}
    (noEnd : ∀ part ∈ resource.parts, '?' ∉ part ∧ '#' ∉ part) :
    targetPath (String.ofList resource.path) = resource.path := by
  have kept : ∀ c ∈ resource.path, (c != '?' && c != '#') = true := by
    intro c member
    obtain ⟨part, listed, inPart⟩ := List.mem_flatMap.1 member
    obtain ⟨noQuery, noFragment⟩ := noEnd part listed
    rcases List.mem_cons.1 inPart with rfl | inside
    · rfl
    · simpa using ⟨fun same => noQuery (same ▸ inside), fun same => noFragment (same ▸ inside)⟩
  have whole : resource.path.takeWhile (fun c => c != '?' && c != '#') = resource.path :=
    List.takeWhile_eq_self_iff.2 kept
  obtain ⟨rest, slash⟩ : ∃ rest, resource.path = '/' :: rest := by
    cases resource <;> exact ⟨_, rfl⟩
  rw [slash] at whole ⊢
  unfold targetPath
  simp only [String.toList_ofList, whole]

end Resource
end Campus
