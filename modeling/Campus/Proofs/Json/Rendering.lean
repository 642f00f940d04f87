import Campus.Proofs.Json.Lexing
import Campus.Proofs.Json.PrintedNumbers
/-!
# The tokens of printed documents

A printed document is scanned to the tokens that its structure gives, each number to what its
printed form is read as. Stretches of printed bytes are scanned wherever they stand, as long as what
follows does not continue a number, and punctuation never does.
-/

namespace Campus

/-- A document that has a printed form: all its numbers have one. -/
inductive Json.IsWritable : Json → Prop
  | null : IsWritable .null
  | bool (value : Bool) : IsWritable (.bool value)
  | number {value : JsonNumber} (writable : value.IsWritable) : IsWritable (.number value)
  | text (value : String) : IsWritable (.text value)
  | array {items : List Json} (each : ∀ item ∈ items, item.IsWritable) : IsWritable (.array items)
  | object {members : List (String × Json)} (each : ∀ member ∈ members, member.2.IsWritable) :
    IsWritable (.object members)

namespace Json

mutual

/-- The tokens that a document is printed as. -/
def tokens : Json → List Token
  | .null => [.null]
  | .bool value => [.bool value]
  | .number value => [.number value.reread?]
  | .text value => [.text (some value)]
  | .array items => .openArray :: (itemTokens items ++ [.closeArray])
  | .object members => .openObject :: (memberTokens members ++ [.closeObject])

/-- The tokens of items with commas between them. -/
def itemTokens : List Json → List Token
  | [] => []
  | [item] => tokens item
  | item :: rest => tokens item ++ .comma :: itemTokens rest

/-- The tokens of members with commas between them. -/
def memberTokens : List (String × Json) → List Token
  | [] => []
  | [(key, value)] => .text (some key) :: .colon :: tokens value
  | (key, value) :: rest =>
    .text (some key) :: .colon :: (tokens value ++ .comma :: memberTokens rest)

end

namespace Token

/-- Bytes are scanned to tokens, whatever was found before and unless what follows continues a
number; enough fuel is left for what follows. -/
def Scans (bytes : List UInt8) (tokens : List Token) : Prop :=
  ∀ found rest fuel, EndsNumber rest → (bytes ++ rest).length ≤ fuel →
    ∃ left, rest.length ≤ left ∧
      scanAll found fuel (bytes ++ rest) = scanAll (tokens.reverse ++ found) left rest

/-- A byte that is neither a digit nor a sign of a number ends a number. -/
theorem endsNumber_cons {b : UInt8} (notDigit : isDigit b = false) (notPoint : b ≠ ascii '.')
    (notLower : b ≠ ascii 'e') (notUpper : b ≠ ascii 'E') (rest : List UInt8) :
    EndsNumber (b :: rest) := by
  rintro _ ⟨rfl⟩
  exact ⟨notDigit, notPoint, notLower, notUpper⟩

variable {bytes otherBytes : List UInt8} {tokens otherTokens : List Token}

/-- Nothing is scanned to no tokens. -/
theorem scans_nil : Scans [] [] := fun _ _ fuel _ enough => ⟨fuel, enough, rfl⟩

/-- Bytes one after another are scanned to tokens one after another, if the later bytes end a
number. -/
theorem scans_append (first : Scans bytes tokens) (second : Scans otherBytes otherTokens)
    (ends : ∀ rest, EndsNumber rest → EndsNumber (otherBytes ++ rest)) :
    Scans (bytes ++ otherBytes) (tokens ++ otherTokens) := by
  intro found rest fuel stops enough
  rw [List.append_assoc] at enough ⊢
  obtain ⟨middle, plenty, scannedFirst⟩ := first found _ fuel (ends rest stops) enough
  obtain ⟨left, most, scannedSecond⟩ := second (tokens.reverse ++ found) rest middle stops plenty
  refine ⟨left, most, ?_⟩
  rw [scannedFirst, scannedSecond, List.reverse_append, List.append_assoc]

/-- The bytes of one token are scanned to it. -/
theorem scans_single {b : UInt8} {tail : List UInt8} {token : Token} (visible : isBlank b = false)
    (scanned : ∀ rest, EndsNumber rest → scanOne b (tail ++ rest) = some (token, rest)) :
    Scans (b :: tail) [token] := by
  intro found rest fuel stops enough
  cases fuel with
  | zero => simp at enough
  | succ fuel =>
    rw [List.cons_append] at enough ⊢
    refine ⟨fuel, ?_, ?_⟩
    · simp only [List.length_cons, List.length_append] at enough
      omega
    · rw [scanAll, if_neg (by simp [visible]), scanned rest stops]
      rfl

/-- A byte that is a token of its own, before other tokens. -/
theorem scans_cons {b : UInt8} {token : Token} (visible : isBlank b = false)
    (scanned : ∀ rest, scanOne b rest = some (token, rest)) (rest : Scans bytes tokens) :
    Scans (b :: bytes) (token :: tokens) := by
  intro found others fuel stops enough
  cases fuel with
  | zero => simp at enough
  | succ fuel =>
    rw [List.cons_append] at enough ⊢
    obtain ⟨left, most, scannedRest⟩ := rest (token :: found) others fuel stops
      (Nat.le_of_succ_le_succ enough)
    refine ⟨left, most, ?_⟩
    rw [scanAll, if_neg (by simp [visible]), scanned]
    simp only [scannedRest, List.reverse_cons, List.append_assoc, List.singleton_append]

/-- A comma before other tokens. -/
theorem scans_comma (rest : Scans bytes tokens) :
    Scans (ascii ',' :: bytes) (.comma :: tokens) :=
  scans_cons (by decide) (fun _ => rfl) rest

/-- A colon before other tokens. -/
theorem scans_colon (rest : Scans bytes tokens) :
    Scans (ascii ':' :: bytes) (.colon :: tokens) :=
  scans_cons (by decide) (fun _ => rfl) rest

/-- A quoted text is scanned to it. -/
theorem scans_quote (text : String) : Scans (Bytes.ofText (quote text)) [.text (some text)] := by
  obtain ⟨tail, bytes, scanned⟩ := scanOne_quote text
  rw [bytes]
  exact scans_single (by decide) fun rest _ => scanned rest

/-- A printed number is scanned to what it is read as. -/
theorem scans_numberText {n : JsonNumber} (writable : n.IsWritable) :
    Scans (Bytes.ofText (numberText n)) [.number n.reread?] := by
  obtain ⟨first, tail, bytes, visible, scanned⟩ := JsonNumber.scansNumber_numberText writable
  rw [bytes]
  exact scans_single visible scanned

/-- A word is scanned to its token. -/
theorem scans_word {first : Char} {letters : List Char} {token : Token}
    (visible : isBlank (ascii first) = false)
    (word : ∀ rest, scanOne (ascii first) rest = scanWord token letters rest) :
    Scans ((first :: letters).map ascii) [token] := by
  refine scans_single visible fun rest _ => ?_
  rw [word, scanWord_append]

end Token

open Token

/-- The bytes of printed items are scanned to their tokens when those of each item are. -/
theorem scans_renderItems {items : List Json}
    (each : ∀ item ∈ items, Scans (Bytes.ofText item.render) item.tokens) :
    Scans (Bytes.ofText (renderItems items)) (itemTokens items) := by
  induction items with
  | nil => exact scans_nil
  | cons item rest ih =>
    have first := each item List.mem_cons_self
    cases rest with
    | nil => exact first
    | cons next others =>
      have later := ih fun other member => each other (List.mem_cons_of_mem _ member)
      have comma : Bytes.ofText "," = [ascii ','] := by decide
      rw [renderItems, itemTokens, Bytes.ofText_append, Bytes.ofText_append, comma,
        List.append_assoc]
      · exact scans_append first (scans_comma later) fun rest _ =>
          endsNumber_cons (by decide) (by decide) (by decide) (by decide) _
      · exact List.cons_ne_nil _ _
      · exact List.cons_ne_nil _ _

/-- The bytes of printed members are scanned to their tokens when those of each value are. -/
theorem scans_renderMembers {members : List (String × Json)}
    (each : ∀ member ∈ members, Scans (Bytes.ofText member.2.render) member.2.tokens) :
    Scans (Bytes.ofText (renderMembers members)) (memberTokens members) := by
  have colon : Bytes.ofText ":" = [ascii ':'] := by decide
  have comma : Bytes.ofText "," = [ascii ','] := by decide
  induction members with
  | nil => exact scans_nil
  | cons member rest ih =>
    obtain ⟨key, value⟩ := member
    have first := each (key, value) List.mem_cons_self
    have keyed {bytes : List UInt8} {tokens : List Token} (after : Scans bytes tokens) :
        Scans (Bytes.ofText (quote key) ++ ascii ':' :: bytes)
          (.text (some key) :: .colon :: tokens) :=
      scans_append (scans_quote key) (scans_colon after) fun rest _ =>
        endsNumber_cons (by decide) (by decide) (by decide) (by decide) _
    cases rest with
    | nil =>
      rw [renderMembers, memberTokens, Bytes.ofText_append, Bytes.ofText_append, colon,
        List.append_assoc]
      exact keyed first
    | cons next others =>
      have later := ih fun other member => each other (List.mem_cons_of_mem _ member)
      have joined := scans_append first (scans_comma later) fun rest _ =>
        endsNumber_cons (by decide) (by decide) (by decide) (by decide) _
      rw [renderMembers, memberTokens, Bytes.ofText_append, Bytes.ofText_append,
        Bytes.ofText_append, Bytes.ofText_append, colon, comma, List.append_assoc,
        List.append_assoc, List.append_assoc]
      · exact keyed joined
      · exact List.cons_ne_nil _ _
      · exact List.cons_ne_nil _ _

/-- The bytes of a printed document are scanned to its tokens. -/
theorem scans_render {doc : Json} (writable : doc.IsWritable) :
    Scans (Bytes.ofText doc.render) doc.tokens := by
  induction writable with
  | null =>
    have bytes : Bytes.ofText "null" = ['n', 'u', 'l', 'l'].map ascii := by decide
    rw [render, tokens, bytes]
    exact scans_word (by decide) fun _ => rfl
  | bool value =>
    have yes : Bytes.ofText "true" = ['t', 'r', 'u', 'e'].map ascii := by decide
    have no : Bytes.ofText "false" = ['f', 'a', 'l', 's', 'e'].map ascii := by decide
    cases value
    · rw [render, tokens, no]
      exact scans_word (by decide) fun _ => rfl
    · rw [render, tokens, yes]
      exact scans_word (by decide) fun _ => rfl
  | number writable =>
    rw [render, tokens]
    exact scans_numberText writable
  | text value =>
    rw [render, tokens]
    exact scans_quote value
  | array _ ih =>
    have opening : Bytes.ofText "[" = [ascii '['] := by decide
    have closing : Bytes.ofText "]" = [ascii ']'] := by decide
    rw [render, tokens, Bytes.ofText_append, Bytes.ofText_append, opening, closing,
      List.append_assoc, List.singleton_append]
    refine scans_cons (by decide) (fun _ => rfl) (scans_append (scans_renderItems ih)
      (scans_cons (by decide) (fun _ => rfl) scans_nil) fun rest _ => ?_)
    exact endsNumber_cons (by decide) (by decide) (by decide) (by decide) _
  | object _ ih =>
    have opening : Bytes.ofText "\x7b" = [0x7B] := by decide
    have closing : Bytes.ofText "\x7d" = [0x7D] := by decide
    rw [render, tokens, Bytes.ofText_append, Bytes.ofText_append, opening, closing,
      List.append_assoc, List.singleton_append]
    refine scans_cons (by decide) (fun _ => rfl) (scans_append (scans_renderMembers ih)
      (scans_cons (by decide) (fun _ => rfl) scans_nil) fun rest _ => ?_)
    exact endsNumber_cons (by decide) (by decide) (by decide) (by decide) _

/-- Where bytes are scanned to tokens, nothing else is found in them. -/
theorem scan_of_scans {bytes : List UInt8} {tokens : List Token} (scans : Scans bytes tokens) :
    scan bytes = some tokens := by
  obtain ⟨left, _, scanned⟩ := scans [] [] bytes.length (by rintro b ⟨⟩) (by rw [List.append_nil])
  rw [List.append_nil] at scanned
  rw [scan, scanned, scanAll, List.append_nil, List.reverse_reverse]

end Json
end Campus
