import Campus.Proofs.Data.Base64
import Campus.Service.Basic
import Mathlib.Data.List.TakeWhile
/-!
# Uploads in both forms

An upload as base64 text is the upload of the bytes that the text is the written form of, whatever
blanks stand around it. The service does the same with both. Any other text is refused, once the id
has been found usable and new, and nothing changes.
-/

namespace Campus

/-- Blanks around a text without blanks are trimmed. -/
theorem Text.trimChars_around {before middle after : List Char}
    (blankBefore : ∀ c ∈ before, isBlank c = true) (visible : ∀ c ∈ middle, isBlank c = false)
    (blankAfter : ∀ c ∈ after, isBlank c = true) :
    trimChars (before ++ middle ++ after) = middle := by
  have tail (chars : List Char) : dropTail isBlank (chars ++ after) = dropTail isBlank chars := by
    rw [dropTail, List.reverse_append, List.dropWhile_append_of_pos fun c member =>
      blankAfter c (List.mem_reverse.1 member), dropTail]
  have visibleTail : dropTail isBlank middle = middle := by
    cases reversed : middle.reverse with
    | nil => rw [List.reverse_eq_nil_iff.1 reversed, dropTail, List.reverse_nil, List.dropWhile_nil,
        List.reverse_nil]
    | cons last rest =>
      have lastVisible := visible last (List.mem_reverse.1 (reversed ▸ List.mem_cons_self))
      rw [dropTail, reversed, List.dropWhile_cons_of_neg (by simp [lastVisible]), ← reversed,
        List.reverse_reverse]
  rw [trimChars, List.append_assoc, List.dropWhile_append_of_pos blankBefore]
  cases middle with
  | nil =>
    rw [List.nil_append, List.dropWhile_eq_nil_iff.2 blankAfter, visibleTail]
  | cons first rest =>
    have firstVisible := visible first List.mem_cons_self
    rw [List.cons_append, List.dropWhile_cons_of_neg (by simp [firstVisible]), ← List.cons_append,
      tail, visibleTail]

namespace Base64

/-- What a written form is made of. -/
theorem Form.mem_encode {form : Form} {bytes : List UInt8} {c : Char}
    (member : c ∈ form.encode bytes) : (∃ n < 64, c = form.digit n) ∨ c = '=' := by
  have ofPadding {count : Nat} (filling : c ∈ form.padding count) : c = '=' := by
    unfold padding at filling
    split at filling
    · exact (List.mem_replicate.1 filling).2
    · cases filling
  induction bytes using encode.induct with
  | case1 => cases member
  | case2 x =>
    have small := x.toNat_lt
    simp only [encode, List.mem_append, List.mem_cons, List.not_mem_nil, or_false] at member
    rcases member with (rfl | rfl) | filling
    · exact .inl ⟨_, by omega, rfl⟩
    · exact .inl ⟨_, by omega, rfl⟩
    · exact .inr (ofPadding filling)
  | case3 x y =>
    have smallFirst := x.toNat_lt
    have smallSecond := y.toNat_lt
    simp only [encode, List.mem_append, List.mem_cons, List.not_mem_nil, or_false] at member
    rcases member with (rfl | rfl | rfl) | filling
    · exact .inl ⟨_, by omega, rfl⟩
    · exact .inl ⟨_, by omega, rfl⟩
    · exact .inl ⟨_, by omega, rfl⟩
    · exact .inr (ofPadding filling)
  | case4 x y z rest ih =>
    have smallFirst := x.toNat_lt
    have smallSecond := y.toNat_lt
    have smallThird := z.toNat_lt
    simp only [encode, List.mem_cons] at member
    rcases member with rfl | rfl | rfl | rfl | later
    · exact .inl ⟨_, by omega, rfl⟩
    · exact .inl ⟨_, by omega, rfl⟩
    · exact .inl ⟨_, by omega, rfl⟩
    · exact .inl ⟨_, by omega, rfl⟩
    · exact ih later

/-- The usual form has no blanks. -/
theorem isBlank_of_mem_encode_standard {bytes : List UInt8} {c : Char}
    (member : c ∈ standard.encode bytes) : Text.isBlank c = false := by
  have digits : ∀ n < 64, Text.isBlank (standard.digit n) = false := by decide
  obtain ⟨n, small, rfl⟩ | rfl := Form.mem_encode member
  · exact digits n small
  · decide

end Base64

namespace Upload

/-- Base64 text with blanks around it holds the archive of its bytes. -/
theorem archive_base64 (bytes : List UInt8) {before after : String}
    (blankBefore : ∀ c ∈ before.toList, Text.isBlank c = true)
    (blankAfter : ∀ c ∈ after.toList, Text.isBlank c = true) :
    (base64 (before ++ String.ofList (Base64.standard.encode bytes) ++ after)).archive =
      (Upload.bytes bytes).archive := by
  rw [archive, archive, Archive.ofBase64, String.toList_append, String.toList_append,
    String.toList_ofList, Text.trimChars_around blankBefore
      (fun c => Base64.isBlank_of_mem_encode_standard) blankAfter,
    Base64.Form.decode?_encode Base64.Form.isUsable_standard]

/-- Text that is not the written form of any bytes holds no archive. -/
theorem archive_of_not_base64 {content : String}
    (unwritten : ∀ bytes, Text.trim content ≠ String.ofList (Base64.standard.encode bytes)) :
    (base64 content).archive = .error .invalidBase64 := by
  rw [archive, Archive.ofBase64]
  cases decoded : Base64.standard.decode? (Text.trimChars content.toList) with
  | none => rfl
  | some bytes =>
    have written := (Base64.Form.decode?_eq_some_iff Base64.Form.isUsable_standard).1 decoded
    exact absurd (congrArg String.ofList written) (unwritten bytes)

end Upload

namespace Service

variable {surroundings : Surroundings} {service : Service} {id : String} {kind : DatasetKind}

/-- Only the archive of an upload matters when it is added. -/
theorem add_congr {left right : Upload} (same : left.archive = right.archive) :
    service.add surroundings id kind left = service.add surroundings id kind right := by
  simp only [add, ingest, same]

/-- An upload without an archive is refused after the checks of the id, and nothing changes. -/
theorem add_of_archive_error {upload : Upload} {error : IngestError}
    (failed : upload.archive = .error error) :
    service.add surroundings id kind upload =
      (service, (checkId id).bind fun _ => (service.checkNew id).bind fun _ =>
        .error (.upload error)) := by
  rw [add]
  cases checkId id with
  | error fault => rfl
  | ok _ =>
    cases service.checkNew id with
    | error fault => rfl
    | ok _ =>
      simp only [ingest, failed]
      rfl

/-- The service does the same with base64 text, whatever blanks stand around it, as with the bytes
that it is the written form of: the answer and the service afterwards are the same. A text that is
not, apart from blanks around it, the written form of any bytes is refused for this, after the
checks of the id, and the service stays as it was. -/
theorem add_base64 (surroundings : Surroundings) (service : Service) (id : String)
    (kind : DatasetKind) :
    (∀ (bytes : List UInt8) (before after : String),
      (∀ c ∈ before.toList, Text.isBlank c = true) → (∀ c ∈ after.toList, Text.isBlank c = true) →
      service.add surroundings id kind
          (.base64 (before ++ String.ofList (Base64.standard.encode bytes) ++ after)) =
        service.add surroundings id kind (.bytes bytes)) ∧
    ∀ content : String,
      (∀ bytes, Text.trim content ≠ String.ofList (Base64.standard.encode bytes)) →
      service.add surroundings id kind (.base64 content) =
        (service, (checkId id).bind fun _ => (service.checkNew id).bind fun _ =>
          .error (.upload .invalidBase64)) :=
  ⟨fun bytes _ _ blankBefore blankAfter =>
    add_congr (Upload.archive_base64 bytes blankBefore blankAfter),
    fun _ unwritten => add_of_archive_error (Upload.archive_of_not_base64 unwritten)⟩

/-- Bytes that are no archive are refused alike in both forms, and a text without its padding is
refused as no base64. -/
theorem add_base64_unpadded :
    let surroundings : Surroundings := ⟨Device.sound, fun _ => .error ""⟩
    let service := onStore (.inMemory []) 5000
    service.add surroundings "courses" .sections (.base64 " \nYQ==\t") =
        service.add surroundings "courses" .sections (.bytes [97]) ∧
      service.add surroundings "courses" .sections (.base64 "YQ") =
        (service, .error (.upload .invalidBase64)) := by
  intro surroundings service
  obtain ⟨written, unwritten⟩ := add_base64 surroundings service "courses" .sections
  refine ⟨written [97] " \n" "\t" (by simp [Text.isBlank]) (by simp [Text.isBlank]),
    unwritten "YQ" fun bytes same => ?_⟩
  have read := Base64.Form.decode?_encode Base64.Form.isUsable_standard bytes
  have digits : Base64.standard.encode bytes = ['Y', 'Q'] := (String.ofList_injective same).symm
  rw [digits] at read
  cases read

end Service
end Campus
