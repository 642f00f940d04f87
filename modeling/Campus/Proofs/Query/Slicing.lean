import Campus.Proofs.Data.Bytes
import Campus.Proofs.Query.Globs
/-!
# Pattern literals cut by byte positions

A literal can be cut at byte positions: its text begins behind the first byte if that is an asterisk
and ends before the last one if that is an asterisk. A part of a text between two positions exists
only if the positions are in order, within the text and between characters, so each cut may fail.
None does: an asterisk is a single byte and the literal of one asterisk is not cut. So cutting reads
every literal as it is read by characters.
-/

namespace Campus

namespace Bytes

/-- A position among the bytes of a text stands between characters: at the end, or before a byte
that continues none. -/
def isBoundary (bytes : List UInt8) (position : Nat) : Bool :=
  position == bytes.length || bytes[position]?.any fun b => !isContinuation b

/-- The part of a text between two byte positions, if it exists. -/
def slice? (text : String) (start stop : Nat) : Option String :=
  let bytes := ofText text
  if start ≤ stop && isBoundary bytes start && isBoundary bytes stop then
    text? ((bytes.drop start).take (stop - start))
  else none

/-- The first byte of a character continues none. -/
theorem isContinuation_of_utf8EncodeChar {c : Char} {first : UInt8} {more : List UInt8}
    (encoded : String.utf8EncodeChar c = first :: more) : isContinuation first = false := by
  have bound := val_toNat_lt c
  have outside {n : Nat} (fits : n < 256) (apart : n < 0x80 ∨ 0xC0 ≤ n) :
      isContinuation (UInt8.ofNat n) = false := by
    rw [isContinuation, Bool.and_eq_false_iff, decide_eq_false_iff_not, decide_eq_false_iff_not,
      UInt8.le_iff_toNat_le, UInt8.le_iff_toNat_le, UInt8.toNat_ofNat', Nat.mod_eq_of_lt fits]
    have low : (0x80 : UInt8).toNat = 0x80 := rfl
    have high : (0xBF : UInt8).toNat = 0xBF := rfl
    omega
  unfold String.utf8EncodeChar at encoded
  generalize c.val.toNat = n at encoded bound
  dsimp only at encoded
  -- One case for each number of bytes.
  repeat' split at encoded
  all_goals
    cases encoded
    apply outside
    · omega
    · omega

/-- The end of the front of a text stands between characters. -/
theorem isBoundary_append (front back : String) :
    isBoundary (ofText (front ++ back)) (ofText front).length = true := by
  rw [ofText_append, isBoundary]
  cases chars : back.toList with
  | nil =>
    have empty : ofText back = [] := by rw [ofText_eq_flatMap, chars]; rfl
    rw [empty, List.append_nil, beq_self_eq_true, Bool.true_or]
  | cons c rest =>
    obtain ⟨first, more, encoded⟩ :=
      List.exists_cons_of_ne_nil (String.utf8EncodeChar_ne_nil (c := c))
    have bytes : ofText back = first :: (more ++ rest.flatMap String.utf8EncodeChar) := by
      rw [ofText_eq_flatMap, chars, List.flatMap_cons, encoded, List.cons_append]
    rw [bytes, List.getElem?_append_right (Nat.le_refl _), Nat.sub_self, List.getElem?_cons_zero,
      Option.any_some, isContinuation_of_utf8EncodeChar encoded, Bool.not_false, Bool.or_true]

/-- A text between two others is cut out by its byte positions. -/
theorem slice?_append (front inner back : String) :
    slice? (front ++ inner ++ back) (ofText front).length
      ((ofText front).length + (ofText inner).length) = some inner := by
  have start := isBoundary_append front (inner ++ back)
  have stop := isBoundary_append (front ++ inner) back
  rw [← String.append_assoc] at start
  rw [ofText_append front inner, List.length_append] at stop
  rw [slice?, start, stop, Nat.add_sub_cancel_left]
  have ordered : (ofText front).length ≤ (ofText front).length + (ofText inner).length :=
    Nat.le_add_right _ _
  simp only [ordered, decide_true, Bool.and_self, ↓reduceIte]
  rw [ofText_append, ofText_append, List.append_assoc, List.drop_left, List.take_left, text?_ofText]

end Bytes

namespace Pattern

/-- A literal read by cutting it at byte positions; there is no outcome if a cut fails. -/
def bySlicing? (literal : String) : Option (Except Fault Pattern) :=
  let chars := literal.toList
  if 2 < chars.count '*' then some (.error (.tooMany literal))
  else if literal = "*" ∨ literal = "**" then some (.ok .anything)
  else
    let leads := chars.head? == some '*'
    let trails := chars.getLast? == some '*'
    let size := (Bytes.ofText literal).length
    let start := if leads then 1 else 0
    let behind := if trails then 1 else 0
    if size < behind then none
    else (Bytes.slice? literal start (size - behind)).map fun inner =>
      if inner.toList.contains '*' then .error (.inside literal)
      else .ok (ofFrame leads trails inner)

/-- What stands between the asterisks at the ends. -/
def between (leads trails : Bool) (chars : List Char) : List Char :=
  let fromStart := if leads then chars.tail else chars
  if trails then fromStart.dropLast else fromStart

/-- Unless they are a single asterisk, characters are what stands between the asterisks at their
ends, with these asterisks around it. -/
theorem frame_between {chars : List Char} {leads trails : Bool} (notOne : chars ≠ ['*'])
    (start : (chars.head? == some '*') = leads) (stop : (chars.getLast? == some '*') = trails) :
    asterisk leads ++ between leads trails chars ++ asterisk trails = chars := by
  cases leads with
  | false =>
    cases trails with
    | false => simp [asterisk, between]
    | true =>
      obtain ⟨inner, rfl⟩ := List.getLast?_eq_some_iff.1 (eq_of_beq stop)
      simp [asterisk, between]
  | true =>
    obtain ⟨rest, rfl⟩ := List.head?_eq_some_iff.1 (eq_of_beq start)
    cases trails with
    | false => simp [asterisk, between]
    | true =>
      have nonEmpty : rest ≠ [] := fun empty => notOne (by rw [empty])
      have last := eq_of_beq stop
      rw [List.getLast?_cons_of_ne_nil nonEmpty] at last
      obtain ⟨inner, rfl⟩ := List.getLast?_eq_some_iff.1 last
      simp [asterisk, between]

/-- The bytes of an asterisk or nothing. -/
theorem length_ofText_asterisk (stands : Bool) :
    (Bytes.ofText (String.ofList (asterisk stands))).length = if stands then 1 else 0 := by
  cases stands <;> decide

/-- The bytes of characters with or without an asterisk on either side. -/
theorem length_ofText_frame (leads trails : Bool) (inner : List Char) :
    (Bytes.ofText (String.ofList (asterisk leads ++ inner ++ asterisk trails))).length =
      (if leads then 1 else 0) + (Bytes.ofText (String.ofList inner)).length +
        if trails then 1 else 0 := by
  rw [String.ofList_append, String.ofList_append, Bytes.ofText_append, Bytes.ofText_append,
    List.length_append, List.length_append, length_ofText_asterisk, length_ofText_asterisk]

/-- The characters between the asterisks of a literal are cut out by byte positions. -/
theorem slice?_frame (leads trails : Bool) (inner : List Char) :
    Bytes.slice? (String.ofList (asterisk leads ++ inner ++ asterisk trails))
      (if leads then 1 else 0)
      ((Bytes.ofText (String.ofList (asterisk leads ++ inner ++ asterisk trails))).length -
        if trails then 1 else 0) = some (String.ofList inner) := by
  have cut := Bytes.slice?_append (String.ofList (asterisk leads)) (String.ofList inner)
    (String.ofList (asterisk trails))
  rw [length_ofText_asterisk, ← String.ofList_append, ← String.ofList_append] at cut
  rwa [length_ofText_frame, Nat.add_sub_cancel]

/-- Cutting by bytes never fails and reads a literal as it is read by characters. -/
theorem bySlicing?_eq_some (literal : String) : bySlicing? literal = some (ofLiteral literal) := by
  have one : literal = "*" ↔ literal.toList = ['*'] := String.toList_inj.symm
  have two : literal = "**" ↔ literal.toList = ['*', '*'] := String.toList_inj.symm
  by_cases many : 2 < literal.toList.count '*'
  · simp only [bySlicing?, ofLiteral, many, ↓reduceIte]
  by_cases alone : literal.toList = ['*'] ∨ literal.toList = ['*', '*']
  · simp only [bySlicing?, ofLiteral, one, two, many, alone, ↓reduceIte]
  have notOne : literal.toList ≠ ['*'] := fun same => alone (.inl same)
  simp only [bySlicing?, ofLiteral, one, two, many, alone, ↓reduceIte]
  generalize start : (literal.toList.head? == some '*') = leads
  generalize stop : (literal.toList.getLast? == some '*') = trails
  have framed := frame_between notOne start stop
  have size := length_ofText_frame leads trails (between leads trails literal.toList)
  have cut := slice?_frame leads trails (between leads trails literal.toList)
  rw [framed, String.ofList_toList] at size cut
  have fits : ¬(Bytes.ofText literal).length < if trails then 1 else 0 := by omega
  rw [if_neg fits, cut, Option.map_some, String.toList_ofList]
  rfl

/-- For every literal: cutting it at byte positions never fails and gives what reading it by
characters gives; it is a pattern exactly if asterisks stand only at its ends; and then the pattern
accepts exactly the texts that fit the literal as a glob, where an asterisk stands for any text and
every other character for itself. -/
theorem ofLiteral_isGlob (literal : String) :
    bySlicing? literal = some (ofLiteral literal) ∧
      ((∃ pattern, ofLiteral literal = .ok pattern) ↔ AsterisksAtEnds literal) ∧
      ∀ pattern, ofLiteral literal = .ok pattern → ∀ value : String,
        pattern.accepts value = true ↔ Globs literal.toList value.toList :=
  ⟨bySlicing?_eq_some literal, exists_ofLiteral_iff, fun _ read => accepts_iff_globs read⟩

/-- A literal whose text has a character of two bytes next to its asterisk. -/
theorem ofLiteral_isGlob_accented :
    ofLiteral "*é" = .ok (.endingWith "é") ∧ bySlicing? "*é" = some (.ok (.endingWith "é")) ∧
      AsterisksAtEnds "*é" ∧ Globs ['*', 'é'] ['c', 'a', 'f', 'é'] ∧
      ¬Globs ['*', 'é'] ['c', 'a', 'f', 'e'] := by
  obtain ⟨cut, reads, matching⟩ := ofLiteral_isGlob "*é"
  have read : ofLiteral "*é" = .ok (.endingWith "é") := rfl
  have fitting := matching _ read
  refine ⟨read, by rw [cut, read], reads.1 ⟨_, read⟩, ?_, ?_⟩
  · exact (fitting "café").1 (by decide)
  · intro fits
    have accepted := (fitting "cafe").2 fits
    revert accepted
    decide

end Pattern
end Campus
