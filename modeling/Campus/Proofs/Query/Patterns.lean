import Campus.Query.Pattern
/-!
# Pattern literals

A literal is a pattern exactly when its asterisks stand at its ends. Reading gives patterns in a
normal form, where the text between the asterisks has none itself and is not empty beside one. A
pattern in normal form is read back from its own literal; apart from these literals only the double
asterisk is read, as the pattern that accepts anything.
-/

namespace Campus.Pattern

/-- Asterisks stand only as the first or the last character. -/
def AsterisksAtEnds (literal : String) : Prop :=
  ∀ i, literal.toList[i]? = some '*' → i = 0 ∨ i + 1 = literal.toList.length

/-- No asterisk is part of the text, and a text beside an asterisk is not empty. -/
def IsNormal : Pattern → Prop
  | anything => True
  | containing text | startingWith text | endingWith text => '*' ∉ text.toList ∧ text ≠ ""
  | exactly text => '*' ∉ text.toList

/-- The literals that are read as a pattern: its own, and for any text the double asterisk. -/
def IsLiteralOf (literal : String) (pattern : Pattern) : Prop :=
  literal = pattern.literal ∨ (literal = "**" ∧ pattern = anything)

/-- A text made of characters is empty only if there are none. -/
theorem ofList_ne_empty {chars : List Char} (nonEmpty : chars ≠ []) : String.ofList chars ≠ "" := by
  intro empty
  exact nonEmpty (by simpa using congrArg String.toList empty)

/-- Reading gives a pattern in normal form, of which it has read a literal. -/
theorem ofLiteral_sound {literal : String} {pattern : Pattern}
    (read : ofLiteral literal = .ok pattern) : pattern.IsNormal ∧ IsLiteralOf literal pattern := by
  unfold ofLiteral at read
  dsimp only at read
  have same : literal = String.ofList literal.toList := String.ofList_toList.symm
  generalize literal.toList = chars at read same
  subst same
  split at read
  · cases read
  split at read
  · next only =>
    cases read
    refine ⟨trivial, ?_⟩
    rcases only with rfl | rfl
    · exact Or.inl rfl
    · exact Or.inr ⟨rfl, rfl⟩
  next several =>
  obtain ⟨notOne, notTwo⟩ := not_or.1 several
  cases leads : chars.head? == some '*' <;> cases trails : chars.getLast? == some '*' <;>
    simp only [leads, trails, Bool.false_eq_true, ↓reduceIte] at read <;>
    split at read <;> cases read <;> rename_i clean
  case false.false =>
    exact ⟨by simpa [IsNormal] using clean, Or.inl rfl⟩
  case false.true =>
    obtain ⟨inner, rfl⟩ := List.getLast?_eq_some_iff.1 (eq_of_beq trails)
    simp only [List.dropLast_concat] at clean ⊢
    have nonEmpty : inner ≠ [] := by
      rintro rfl
      exact notOne rfl
    exact ⟨⟨by simpa using clean, ofList_ne_empty nonEmpty⟩, Or.inl (by simp [literal])⟩
  case true.false =>
    obtain ⟨inner, rfl⟩ := List.head?_eq_some_iff.1 (eq_of_beq leads)
    simp only [List.tail_cons] at clean ⊢
    have nonEmpty : inner ≠ [] := by
      rintro rfl
      exact notOne rfl
    refine ⟨⟨by simpa using clean, ofList_ne_empty nonEmpty⟩, Or.inl ?_⟩
    apply String.toList_inj.1
    simp [literal]
  case true.true =>
    obtain ⟨tail, rfl⟩ := List.head?_eq_some_iff.1 (eq_of_beq leads)
    have tailNonEmpty : tail ≠ [] := by
      rintro rfl
      exact notOne rfl
    have last := eq_of_beq trails
    rw [List.getLast?_cons_of_ne_nil tailNonEmpty] at last
    obtain ⟨inner, rfl⟩ := List.getLast?_eq_some_iff.1 last
    simp only [List.tail_cons, List.dropLast_concat] at clean ⊢
    have nonEmpty : inner ≠ [] := by
      rintro rfl
      exact notTwo rfl
    refine ⟨⟨by simpa using clean, ofList_ne_empty nonEmpty⟩, Or.inl ?_⟩
    apply String.toList_inj.1
    simp [literal]

/-- The pattern of a text with or without an asterisk on either side. -/
def ofFrame (leads trails : Bool) (text : String) : Pattern :=
  match leads, trails with
  | true, true => containing text
  | true, false => endingWith text
  | false, true => startingWith text
  | false, false => exactly text

/-- An asterisk or nothing. -/
def asterisk (stands : Bool) : List Char := if stands then ['*'] else []

/-- A text without asterisks is read as the pattern of the asterisks put around it. -/
theorem ofLiteral_frame (leads trails : Bool) {inner : List Char} (absent : '*' ∉ inner)
    (nonEmpty : inner ≠ []) :
    ofLiteral (String.ofList (asterisk leads ++ inner ++ asterisk trails)) =
      .ok (ofFrame leads trails (String.ofList inner)) := by
  obtain ⟨first, rest, startEq⟩ := List.exists_cons_of_ne_nil nonEmpty
  obtain ⟨init, last, endEq⟩ := List.eq_nil_or_concat inner |>.resolve_left nonEmpty
  have firstDiffers : first ≠ '*' := fun same => absent (by simp [startEq, same])
  have lastDiffers : last ≠ '*' := fun same => absent (by simp [endEq, same])
  have count : inner.count '*' = 0 := List.count_eq_zero_of_not_mem absent
  have head : ((asterisk leads ++ inner ++ asterisk trails).head? == some '*') = leads := by
    cases leads <;> simp [asterisk, startEq, firstDiffers]
  have back : ((asterisk leads ++ inner ++ asterisk trails).getLast? == some '*') = trails := by
    cases trails <;> simp [asterisk, endEq, lastDiffers]
  have few : ¬2 < (asterisk leads ++ inner ++ asterisk trails).count '*' := by
    cases leads <;> cases trails <;> simp [asterisk, count]
  have several : ¬(asterisk leads ++ inner ++ asterisk trails = ['*'] ∨
      asterisk leads ++ inner ++ asterisk trails = ['*', '*']) := by
    cases leads <;> cases trails <;> simp [asterisk, startEq, firstDiffers]
  simp only [ofLiteral, String.toList_ofList, few, several, head, back, ↓reduceIte]
  cases leads <;> cases trails <;> simp [asterisk, absent, ofFrame]

/-- A pattern in normal form is read from each of its literals. -/
theorem ofLiteral_complete {literal : String} {pattern : Pattern} (normal : pattern.IsNormal)
    (spelled : IsLiteralOf literal pattern) : ofLiteral literal = .ok pattern := by
  have framed (leads trails : Bool) (text : String) (absent : '*' ∉ text.toList)
      (nonEmpty : text ≠ "") :
      ofLiteral (String.ofList (asterisk leads ++ text.toList ++ asterisk trails)) =
        .ok (ofFrame leads trails text) := by
    have read := ofLiteral_frame leads trails absent (by simpa using nonEmpty)
    rwa [String.ofList_toList] at read
  rcases spelled with rfl | ⟨rfl, rfl⟩
  · cases pattern with
    | anything => rfl
    | containing text =>
      have read := framed true true text normal.1 normal.2
      rwa [show String.ofList (asterisk true ++ text.toList ++ asterisk true) =
        "*" ++ text ++ "*" by apply String.toList_inj.1; simp [asterisk]] at read
    | startingWith text =>
      have read := framed false true text normal.1 normal.2
      rwa [show String.ofList (asterisk false ++ text.toList ++ asterisk true) =
        text ++ "*" by apply String.toList_inj.1; simp [asterisk]] at read
    | endingWith text =>
      have read := framed true false text normal.1 normal.2
      rwa [show String.ofList (asterisk true ++ text.toList ++ asterisk false) =
        "*" ++ text by apply String.toList_inj.1; simp [asterisk]] at read
    | exactly text =>
      by_cases nonEmpty : text = ""
      · subst nonEmpty
        rfl
      · have read := framed false false text normal nonEmpty
        rwa [show String.ofList (asterisk false ++ text.toList ++ asterisk false) =
          text by apply String.toList_inj.1; simp [asterisk]] at read
  · rfl

/-- A literal is read as a pattern exactly when it is one of its literals in normal form. -/
theorem ofLiteral_eq_ok_iff {literal : String} {pattern : Pattern} :
    ofLiteral literal = .ok pattern ↔ pattern.IsNormal ∧ IsLiteralOf literal pattern :=
  ⟨ofLiteral_sound, fun ⟨normal, spelled⟩ => ofLiteral_complete normal spelled⟩

/-- Asterisks put around a text without any stand at the ends. -/
theorem asterisksAtEnds_frame (leads trails : Bool) {inner : List Char} (absent : '*' ∉ inner)
    {i : Nat} (stands : (asterisk leads ++ inner ++ asterisk trails)[i]? = some '*') :
    i = 0 ∨ i + 1 = (asterisk leads ++ inner ++ asterisk trails).length := by
  have notInner : ∀ j, inner[j]? ≠ some '*' := fun j found => absent (List.mem_of_getElem? found)
  cases leads <;> cases trails <;>
    simp only [asterisk, ↓reduceIte, Bool.false_eq_true, List.nil_append, List.append_nil,
      List.cons_append, List.length_cons, List.length_append] at stands ⊢
  · exact absurd stands (notInner i)
  · by_cases inside : i < inner.length
    · rw [List.getElem?_append_left inside] at stands
      exact absurd stands (notInner i)
    · have bound := (List.getElem?_eq_some_iff.1 stands).1
      simp at bound ⊢
      omega
  · cases i with
    | zero => exact Or.inl rfl
    | succ j => exact absurd stands (notInner j)
  · cases i with
    | zero => exact Or.inl rfl
    | succ j =>
      by_cases inside : j < inner.length
      · rw [List.getElem?_cons_succ, List.getElem?_append_left inside] at stands
        exact absurd stands (notInner j)
      · have bound := (List.getElem?_eq_some_iff.1 stands).1
        simp at bound ⊢
        omega

/-- Characters with asterisks only at the ends are a single asterisk or a text between asterisks. -/
theorem exists_frame {chars : List Char}
    (ends : ∀ i, chars[i]? = some '*' → i = 0 ∨ i + 1 = chars.length) :
    chars = ['*'] ∨ ∃ leads trails inner,
      '*' ∉ inner ∧ chars = asterisk leads ++ inner ++ asterisk trails := by
  cases chars with
  | nil => exact Or.inr ⟨false, false, [], by simp, rfl⟩
  | cons first rest =>
    rcases List.eq_nil_or_concat rest with rfl | ⟨middle, last, rfl⟩
    · by_cases star : first = '*'
      · exact Or.inl (by rw [star])
      · exact Or.inr ⟨false, false, [first], by simpa using Ne.symm star, rfl⟩
    · right
      have absent : '*' ∉ middle := by
        intro member
        obtain ⟨j, found⟩ := List.mem_iff_getElem?.1 member
        have inside := (List.getElem?_eq_some_iff.1 found).1
        have stands : (first :: middle.concat last)[j + 1]? = some '*' := by
          rw [List.getElem?_cons_succ, List.concat_eq_append, List.getElem?_append_left inside,
            found]
        have place := ends (j + 1) stands
        simp at place
        omega
      by_cases starts : first = '*' <;> by_cases stops : last = '*'
      · exact ⟨true, true, middle, absent, by simp [asterisk, starts, stops]⟩
      · exact ⟨true, false, middle ++ [last], by simp [absent, Ne.symm stops],
          by simp [asterisk, starts]⟩
      · exact ⟨false, true, first :: middle, by simp [absent, Ne.symm starts],
          by simp [asterisk, stops]⟩
      · exact ⟨false, false, first :: middle ++ [last],
          by simp [absent, Ne.symm starts, Ne.symm stops], by simp [asterisk]⟩

/-- A literal is a pattern exactly when its asterisks stand at its ends. -/
theorem exists_ofLiteral_iff {literal : String} :
    (∃ pattern, ofLiteral literal = .ok pattern) ↔ AsterisksAtEnds literal := by
  constructor
  · rintro ⟨pattern, read⟩
    obtain ⟨normal, spelled⟩ := ofLiteral_sound read
    have framed (leads trails : Bool) {text : String} (absent : '*' ∉ text.toList)
        (same : literal.toList = asterisk leads ++ text.toList ++ asterisk trails) :
        AsterisksAtEnds literal := by
      intro i stands
      rw [same] at stands ⊢
      exact asterisksAtEnds_frame leads trails absent stands
    rcases spelled with rfl | ⟨rfl, rfl⟩
    · cases pattern with
      | anything =>
        exact framed true false (show '*' ∉ "".toList by simp) (by simp [Pattern.literal, asterisk])
      | containing text => exact framed true true normal.1 (by simp [Pattern.literal, asterisk])
      | startingWith text => exact framed false true normal.1 (by simp [Pattern.literal, asterisk])
      | endingWith text => exact framed true false normal.1 (by simp [Pattern.literal, asterisk])
      | exactly text => exact framed false false normal (by simp [Pattern.literal, asterisk])
    · exact framed true true (show '*' ∉ "".toList by simp) (by simp [asterisk])
  · intro ends
    rcases exists_frame ends with star | ⟨leads, trails, inner, absent, same⟩
    · have literal_eq : literal = anything.literal :=
        String.toList_inj.1 (by simp [star, Pattern.literal])
      exact ⟨anything, ofLiteral_complete trivial (Or.inl literal_eq)⟩
    · by_cases nonEmpty : inner = []
      · subst nonEmpty
        have literal_eq : literal = String.ofList (asterisk leads ++ asterisk trails) := by
          apply String.toList_inj.1
          simpa using same
        rw [literal_eq]
        cases leads <;> cases trails
        · exact ⟨_, rfl⟩
        · exact ⟨_, rfl⟩
        · exact ⟨_, rfl⟩
        · exact ⟨_, rfl⟩
      · have read := ofLiteral_frame leads trails absent nonEmpty
        rw [← same, String.ofList_toList] at read
        exact ⟨_, read⟩

end Campus.Pattern
