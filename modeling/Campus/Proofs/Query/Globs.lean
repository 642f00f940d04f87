import Campus.Proofs.Query.Patterns
/-!
# Patterns as globs

A literal is a glob: an asterisk stands for any text and every other character for itself. A pattern
is kept by its shape and matched by looking for its text at the start, at the end or anywhere; it
accepts exactly the texts that fit the glob it was read from.
-/

namespace Campus.Pattern

/-- Characters fit a glob when every asterisk is replaced by some characters and nothing else
changes. -/
inductive Globs : List Char → List Char → Prop
  | nil : Globs [] []
  | character {c : Char} {glob text : List Char} (plain : c ≠ '*') (fits : Globs glob text) :
    Globs (c :: glob) (c :: text)
  | asterisk (replacement : List Char) {glob text : List Char} (fits : Globs glob text) :
    Globs ('*' :: glob) (replacement ++ text)

/-- Only the empty text fits the empty glob. -/
theorem globs_nil_iff {text : List Char} : Globs [] text ↔ text = [] := by
  constructor
  · intro fits
    cases fits
    rfl
  · rintro rfl
    exact .nil

/-- After an asterisk, some end of the text fits the rest of the glob. -/
theorem globs_asterisk_iff {glob text : List Char} :
    Globs ('*' :: glob) text ↔ ∃ rest, rest <:+ text ∧ Globs glob rest := by
  constructor
  · intro fits
    cases fits with
    | character plain => exact absurd rfl plain
    | asterisk replacement fits => exact ⟨_, List.suffix_append _ _, fits⟩
  · rintro ⟨rest, ⟨replacement, rfl⟩, fits⟩
    exact .asterisk replacement fits

/-- Characters without an asterisk stand for themselves in front of the rest of the glob. -/
theorem globs_append_iff {front glob text : List Char} (absent : '*' ∉ front) :
    Globs (front ++ glob) text ↔ ∃ rest, text = front ++ rest ∧ Globs glob rest := by
  induction front generalizing text with
  | nil => simp
  | cons c others ih =>
    have plain : c ≠ '*' := fun same => absent (same ▸ List.mem_cons_self)
    have absentRest : '*' ∉ others := fun member => absent (List.mem_cons_of_mem _ member)
    constructor
    · intro fits
      cases fits with
      | character _ fits =>
        obtain ⟨rest, rfl, fitsRest⟩ := (ih absentRest).1 fits
        exact ⟨rest, rfl, fitsRest⟩
      | asterisk => exact absurd rfl plain
    · rintro ⟨rest, rfl, fitsRest⟩
      exact .character plain ((ih absentRest).2 ⟨rest, rfl, fitsRest⟩)

/-- A glob without an asterisk is fitted by its own text only. -/
theorem globs_plain_iff {glob text : List Char} (absent : '*' ∉ glob) :
    Globs glob text ↔ text = glob := by
  have split : Globs (glob ++ []) text ↔ _ := globs_append_iff absent
  simp only [List.append_nil, globs_nil_iff, exists_eq_right] at split
  exact split

/-- Every text fits a single asterisk. -/
theorem globs_singleton (text : List Char) : Globs ['*'] text :=
  globs_asterisk_iff.2 ⟨[], List.nil_suffix, .nil⟩

/-- One list of characters occurs in another when it stands between two others in it. -/
theorem occursIn_iff {part text : List Char} : occursIn part text = true ↔ part <:+: text := by
  induction text with
  | nil => simp [occursIn]
  | cons c rest ih =>
    rw [occursIn, Bool.or_eq_true, List.isPrefixOf_iff_prefix, ih, List.infix_cons_iff]

/-- A pattern in normal form accepts the texts that fit its literal. -/
theorem accepts_iff_globs_literal {pattern : Pattern} (normal : pattern.IsNormal) (value : String) :
    pattern.accepts value = true ↔ Globs pattern.literal.toList value.toList := by
  cases pattern with
  | anything => exact iff_of_true rfl (globs_singleton _)
  | containing text =>
    have absent := normal.1
    show occursIn text.toList value.toList = true ↔ _
    have literal : (containing text).literal.toList = '*' :: (text.toList ++ ['*']) := by
      simp [Pattern.literal]
    rw [occursIn_iff, literal, globs_asterisk_iff]
    constructor
    · rintro ⟨front, back, same⟩
      refine ⟨text.toList ++ back, ⟨front, by rw [← List.append_assoc, same]⟩, ?_⟩
      exact (globs_append_iff absent).2 ⟨back, rfl, globs_singleton back⟩
    · rintro ⟨rest, ⟨front, same⟩, fits⟩
      obtain ⟨back, rfl, _⟩ := (globs_append_iff absent).1 fits
      exact ⟨front, back, by rw [List.append_assoc, same]⟩
  | startingWith text =>
    show text.toList.isPrefixOf value.toList = true ↔ _
    have literal : (startingWith text).literal.toList = text.toList ++ ['*'] := by
      simp [Pattern.literal]
    rw [List.isPrefixOf_iff_prefix, literal, globs_append_iff normal.1]
    constructor
    · rintro ⟨back, same⟩
      exact ⟨back, same.symm, globs_singleton back⟩
    · rintro ⟨back, same, _⟩
      exact ⟨back, same.symm⟩
  | endingWith text =>
    show text.toList.isSuffixOf value.toList = true ↔ _
    have literal : (endingWith text).literal.toList = '*' :: text.toList := by
      simp [Pattern.literal]
    rw [List.isSuffixOf_iff_suffix, literal, globs_asterisk_iff]
    simp only [globs_plain_iff normal.1, exists_eq_right]
  | exactly text =>
    show (value == text) = true ↔ _
    have literal : (exactly text).literal.toList = text.toList := rfl
    rw [literal, globs_plain_iff normal, beq_iff_eq, String.toList_inj]

/-- A literal is read as a pattern that accepts the texts that fit the literal. -/
theorem accepts_iff_globs {literal : String} {pattern : Pattern}
    (read : ofLiteral literal = .ok pattern) (value : String) :
    pattern.accepts value = true ↔ Globs literal.toList value.toList := by
  obtain ⟨normal, spelled⟩ := ofLiteral_eq_ok_iff.1 read
  rcases spelled with rfl | ⟨rfl, rfl⟩
  · exact accepts_iff_globs_literal normal value
  · have fits : Globs ['*', '*'] value.toList :=
      globs_asterisk_iff.2 ⟨value.toList, List.suffix_refl _, globs_singleton _⟩
    exact iff_of_true rfl fits

end Campus.Pattern
