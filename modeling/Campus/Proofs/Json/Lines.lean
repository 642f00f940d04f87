import Campus.Json.Printer
import Campus.Proofs.Number.Texts
/-!
# Documents on one line

A printed document has no control character in it, because texts escape theirs and nothing else has
any. So a document and a line feed after it are exactly one line.
-/

namespace Campus.Json

/-- Characters without controls among them. -/
def ArePrintable (chars : List Char) : Prop := (chars.all fun c => 0x20 ≤ c.toNat) = true

/-- A text without controls. -/
def IsPrintable (text : String) : Prop := ArePrintable text.toList

/-- Whether there are controls can be computed. -/
instance (chars : List Char) : Decidable (ArePrintable chars) :=
  inferInstanceAs (Decidable (_ = true))

/-- Whether a text has controls can be computed. -/
instance (text : String) : Decidable (IsPrintable text) :=
  inferInstanceAs (Decidable (ArePrintable _))

variable {chars others : List Char} {text other : String}

/-- Each of the characters is none of the controls. -/
theorem arePrintable_iff : ArePrintable chars ↔ ∀ c ∈ chars, 0x20 ≤ c.toNat := by
  simp only [ArePrintable, List.all_eq_true, decide_eq_true_eq]

/-- A text without controls has no line feed. -/
theorem IsPrintable.newline_notMem (printable : IsPrintable text) : '\n' ∉ text.toList := by
  intro member
  have large := arePrintable_iff.1 printable '\n' member
  exact absurd large (by decide)

/-- Characters one after another have controls where one of them has. -/
theorem arePrintable_append_iff :
    ArePrintable (chars ++ others) ↔ ArePrintable chars ∧ ArePrintable others := by
  rw [ArePrintable, List.all_append, Bool.and_eq_true, ArePrintable, ArePrintable]

/-- Characters one after another. -/
theorem ArePrintable.append (front : ArePrintable chars) (back : ArePrintable others) :
    ArePrintable (chars ++ others) := arePrintable_append_iff.2 ⟨front, back⟩

/-- Texts one after another. -/
theorem IsPrintable.append (front : IsPrintable text) (back : IsPrintable other) :
    IsPrintable (text ++ other) := by
  rw [IsPrintable, String.toList_append]
  exact ArePrintable.append front back

/-- Either of two texts without controls has none. -/
theorem IsPrintable.ite {p : Prop} [Decidable p] (left : IsPrintable text)
    (right : IsPrintable other) : IsPrintable (if p then text else other) := by
  split <;> assumption

/-- Digits are no controls. -/
theorem arePrintable_of_digits (digits : ∀ c ∈ chars, c.isDigit = true) : ArePrintable chars := by
  refine arePrintable_iff.2 fun c member => ?_
  have digit := digits c member
  simp only [Char.isDigit, Bool.and_eq_true, decide_eq_true_eq] at digit
  have lower : 48 ≤ c.toNat := digit.1
  omega

/-- The digits of a number are no controls. -/
theorem arePrintable_toDigits (n : Nat) : ArePrintable (Nat.toDigits 10 n) :=
  arePrintable_of_digits Token.isDigit_of_mem_toDigits

/-- A natural number is written without controls. -/
theorem isPrintable_natural (n : Nat) : IsPrintable (toString n) := by
  have chars : (toString n).toList = Nat.toDigits 10 n := String.toList_ofList
  rw [IsPrintable, chars]
  exact arePrintable_toDigits n

/-- An integer is written without controls. -/
theorem isPrintable_integer (n : Int) : IsPrintable (toString n) := by
  cases n with
  | ofNat n => exact isPrintable_natural n
  | negSucc n =>
    have sign : IsPrintable "-" := by decide
    exact sign.append (isPrintable_natural (n + 1))

/-- A numeral is written without controls. -/
theorem isPrintable_plain (n : Numeral) : IsPrintable n.plain := by
  obtain ⟨whole, places, plain, areDigits, -⟩ := n.exists_plain_eq
  have wholeDigits := arePrintable_of_digits fun c member =>
    areDigits c (List.mem_append_left places member)
  have placeDigits := arePrintable_of_digits fun c member =>
    areDigits c (List.mem_append_right whole member)
  rw [IsPrintable, plain, pointed]
  refine wholeDigits.append ?_
  split
  · rfl
  · have point : ArePrintable ['.'] := by decide
    exact point.append placeDigits

/-- A numeral is written with an exponent without controls. -/
theorem isPrintable_scientific (n : Numeral) : IsPrintable n.scientific := by
  have digits := arePrintable_toDigits n.digits
  have point : ArePrintable ['.'] := by decide
  have sign (power : Int) : IsPrintable (if power < 0 then "-" else "+") := by
    split <;> decide
  have mark : IsPrintable "e" := by decide
  unfold Numeral.scientific
  dsimp only
  refine ((IsPrintable.append ?_ mark).append (sign _)).append (isPrintable_natural _)
  rw [IsPrintable, String.toList_ofList]
  split
  · decide
  · next single =>
    rw [single] at digits
    exact digits
  · next first rest _ several =>
    rw [several] at digits
    rw [← List.singleton_append, arePrintable_append_iff] at digits
    exact digits.1.append (point.append digits.2)

/-- A real number is printed without controls. -/
theorem isPrintable_realText (x : Binary64) : IsPrintable (realText x) := by
  have minus : IsPrintable "-" := by decide
  have zero : IsPrintable ".0" := by decide
  have null : IsPrintable "null" := by decide
  have plain := isPrintable_plain (x.shortest .even)
  have scientific := isPrintable_scientific (x.shortest .even)
  unfold realText
  dsimp only
  exact .ite (.ite (minus.append (.ite (.ite (plain.append zero) plain) scientific))
    (.ite (.ite (plain.append zero) plain) scientific)) null

/-- A number is printed without controls. -/
theorem isPrintable_numberText (n : JsonNumber) : IsPrintable (numberText n) := by
  cases n with
  | integer value => exact isPrintable_integer value
  | real value => exact isPrintable_realText value

/-- An escaped character is no control. -/
theorem arePrintable_escape (c : Char) : ArePrintable (escape c) := by
  have digits : ∀ n < 32,
      ArePrintable ['\\', 'u', '0', '0', hexDigit (n / 16), hexDigit (n % 16)] := by
    decide
  unfold escape
  repeat' split
  any_goals decide
  · next control => exact digits _ control
  · next large => exact arePrintable_iff.2 (List.forall_mem_singleton.2 (not_lt.1 large))

/-- A quoted text has no controls. -/
theorem isPrintable_quote (text : String) : IsPrintable (quote text) := by
  have mark : IsPrintable "\"" := by decide
  have body : IsPrintable (String.ofList (text.toList.flatMap escape)) := by
    rw [IsPrintable, String.toList_ofList, arePrintable_iff]
    intro c member
    obtain ⟨source, -, written⟩ := List.mem_flatMap.1 member
    exact arePrintable_iff.1 (arePrintable_escape source) c written
  exact (mark.append body).append mark

mutual

/-- A printed document has no controls. -/
theorem isPrintable_render : ∀ doc : Json, IsPrintable doc.render
  | .null => by decide
  | .bool true => by decide
  | .bool false => by decide
  | .number value => isPrintable_numberText value
  | .text value => isPrintable_quote value
  | .array items => by
    have opening : IsPrintable "[" := by decide
    have closing : IsPrintable "]" := by decide
    exact (opening.append (isPrintable_renderItems items)).append closing
  | .object members => by
    have opening : IsPrintable "\x7b" := by decide
    have closing : IsPrintable "\x7d" := by decide
    exact (opening.append (isPrintable_renderMembers members)).append closing

/-- Printed items have no controls. -/
theorem isPrintable_renderItems : ∀ items : List Json, IsPrintable (renderItems items)
  | [] => by decide
  | [item] => isPrintable_render item
  | item :: next :: rest => by
    have comma : IsPrintable "," := by decide
    exact ((isPrintable_render item).append comma).append (isPrintable_renderItems (next :: rest))

/-- Printed members have no controls. -/
theorem isPrintable_renderMembers :
    ∀ members : List (String × Json), IsPrintable (renderMembers members)
  | [] => by decide
  | [(key, value)] => by
    have colon : IsPrintable ":" := by decide
    exact ((isPrintable_quote key).append colon).append (isPrintable_render value)
  | (key, value) :: next :: rest => by
    have colon : IsPrintable ":" := by decide
    have comma : IsPrintable "," := by decide
    exact ((((isPrintable_quote key).append colon).append (isPrintable_render value)).append
      comma).append (isPrintable_renderMembers (next :: rest))

end

end Campus.Json
