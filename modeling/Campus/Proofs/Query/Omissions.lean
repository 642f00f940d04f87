import Campus.Proofs.Number.Overflow
import Campus.Proofs.Query.Extremes
import Campus.Proofs.Query.Sums
/-!
# Aggregates that are left out

A count is never left out, and a maximum or a minimum only if no record has a number under the
target. A sum or a mean is left out in one more case: when some number is not finite, or its text is
beyond all decimals, or the sum so far is. This cannot happen as long as the sizes of the texts, and
a unit for each of them that rounding may add, come to less than `2 ^ 96`.
-/

namespace Campus

/-- The decimal zero is zero. -/
theorem Decimal.value_zero : Decimal.zero.value = 0 := by
  simp [Decimal.value, Decimal.zero]

namespace Aggregate

open Decimal (Beyond)

variable {running total : Decimal} {x : Binary64} {numbers taken rest : List Binary64}

/-- Add the decimals of numbers to a running sum. -/
def accumulate (running : Decimal) (numbers : List Binary64) : Option Decimal :=
  numbers.foldlM (fun total number => do total.add? (← Decimal.ofBinary64? number)) running

/-- A number stops a running sum when it is not finite, or its text is beyond all decimals, or the
sum with its decimal is. -/
def Stops (running : Decimal) (x : Binary64) : Prop :=
  x.isFinite = false ∨ Beyond (textValue x.display) ∨
    ∃ a, Decimal.ofBinary64? x = some a ∧ Beyond (running.value + a.value)

/-- The decimal sum of numbers is given up at some of them. -/
def Overflows (numbers : List Binary64) : Prop :=
  ∃ taken x rest running, numbers = taken ++ x :: rest ∧
    accumulate .zero taken = some running ∧ Stops running x

/-- Numbers are added one after the other. -/
theorem accumulate_cons (running : Decimal) (x : Binary64) (rest : List Binary64) :
    accumulate running (x :: rest) =
      ((Decimal.ofBinary64? x).bind running.add?).bind fun total => accumulate total rest := by
  rw [accumulate, List.foldlM_cons]
  rfl

/-- Numbers may be added in two parts. -/
theorem accumulate_append (running : Decimal) (taken rest : List Binary64) :
    accumulate running (taken ++ rest) =
      (accumulate running taken).bind fun total => accumulate total rest := by
  rw [accumulate, List.foldlM_append]
  rfl

/-- A number has no decimal exactly if it is not finite or its text is beyond all decimals. -/
theorem ofBinary64?_eq_none_iff :
    Decimal.ofBinary64? x = none ↔ x.isFinite = false ∨ Beyond (textValue x.display) := by
  cases finite : x.isFinite with
  | false =>
    rw [Decimal.ofBinary64?, finite]
    simp
  | true =>
    rw [(Decimal.approximates_ofBinary64? finite).none_iff]
    simp

/-- One number is not added exactly if it stops the running sum. -/
theorem bind_add?_eq_none_iff :
    (Decimal.ofBinary64? x).bind running.add? = none ↔ Stops running x := by
  rw [Stops, ← or_assoc, ← ofBinary64?_eq_none_iff]
  cases spelled : Decimal.ofBinary64? x with
  | none => simp
  | some a => simp [(Decimal.approximates_add? running a).none_iff]

/-- Numbers are not added exactly if one of them stops the sum of those before it. -/
theorem accumulate_eq_none_iff :
    accumulate running numbers = none ↔ ∃ taken x rest reached, numbers = taken ++ x :: rest ∧
      accumulate running taken = some reached ∧ Stops reached x := by
  constructor
  · intro refused
    induction numbers generalizing running with
    | nil => cases refused
    | cons x rest ih =>
      -- the first number that cannot be added is the one that stops the sum
      cases added : (Decimal.ofBinary64? x).bind running.add? with
      | none => exact ⟨[], x, rest, running, rfl, rfl, bind_add?_eq_none_iff.1 added⟩
      | some next =>
        rw [accumulate_cons, added] at refused
        obtain ⟨taken, y, others, reached, rfl, summed, stops⟩ := ih refused
        refine ⟨x :: taken, y, others, reached, rfl, ?_, stops⟩
        rw [accumulate_cons, added]
        exact summed
  · rintro ⟨taken, x, rest, reached, rfl, summed, stops⟩
    rw [accumulate_append, summed, Option.bind_some, accumulate_cons, bind_add?_eq_none_iff.2 stops,
      Option.bind_none]

/-- A decimal sum is missing exactly if there are no numbers or it overflows. -/
theorem decimalSum?_eq_none_iff :
    decimalSum? numbers = none ↔ numbers = [] ∨ Overflows numbers := by
  rw [Overflows, ← accumulate_eq_none_iff]
  cases numbers with
  | nil => simp [decimalSum?]
  | cons x rest => simp [decimalSum?, accumulate]

/-- A sum overflows if the later numbers cannot be added to the sum of the earlier ones. -/
theorem overflows_append (refused : ∀ running, accumulate .zero taken = some running →
    accumulate running rest = none) : Overflows (taken ++ rest) := by
  rw [Overflows, ← accumulate_eq_none_iff, accumulate_append]
  cases summed : accumulate .zero taken with
  | none => rfl
  | some running => exact refused running summed

/-- A number that is not finite or whose text is beyond all decimals makes a sum overflow wherever
it stands. -/
theorem overflows_of_mem (member : x ∈ numbers)
    (unfit : x.isFinite = false ∨ Beyond (textValue x.display)) : Overflows numbers := by
  obtain ⟨taken, rest, rfl⟩ := List.append_of_mem member
  refine overflows_append fun running _ => ?_
  have stops : Stops running x := unfit.imp_right .inl
  rw [accumulate_cons, bind_add?_eq_none_iff.2 stops, Option.bind_none]

/-- A sum of finite numbers is off by at most a unit for each of them. -/
theorem abs_accumulate_sub_le (finite : ∀ x ∈ numbers, x.isFinite = true)
    (summed : accumulate running numbers = some total) :
    |total.value - (running.value + exactSum numbers)| ≤ numbers.length := by
  induction numbers generalizing running with
  | nil =>
    cases summed
    simp [exactSum]
  | cons x rest ih =>
    obtain ⟨first, later⟩ := List.forall_mem_cons.1 finite
    rw [accumulate_cons] at summed
    obtain ⟨next, added, summed⟩ := Option.bind_eq_some_iff.1 summed
    obtain ⟨a, spelled, added⟩ := Option.bind_eq_some_iff.1 added
    have entered := (Decimal.approximates_ofBinary64? first).near a spelled
    have rounded := (Decimal.approximates_add? running a).near next added
    have others := ih later summed
    rw [exactSum_cons, List.length_cons, Nat.cast_add, Nat.cast_one]
    rw [abs_le] at entered rounded others ⊢
    constructor <;> linarith

/-- The sizes of the texts of numbers, added up. -/
def totalSize (numbers : List Binary64) : ℚ := (numbers.map fun x => |textValue x.display|).sum

/-- The exact sum is at most as large. -/
theorem abs_exactSum_le_totalSize (numbers : List Binary64) :
    |exactSum numbers| ≤ totalSize numbers := by
  induction numbers with
  | nil => simp [exactSum, totalSize]
  | cons x rest ih =>
    rw [exactSum_cons, totalSize, List.map_cons, List.sum_cons]
    exact (abs_add_le _ _).trans (add_le_add_right ih _)

/-- No size is negative, and neither is their sum. -/
theorem totalSize_nonneg (numbers : List Binary64) : 0 ≤ totalSize numbers :=
  (abs_nonneg _).trans (abs_exactSum_le_totalSize numbers)

/-- A sum overflows when the exact sum of the first numbers is above `2 ^ 96` by their count. -/
theorem overflows_of_le (large : 2 ^ 96 + taken.length ≤ |exactSum taken|) :
    Overflows (taken ++ rest) := by
  by_cases finite : ∀ x ∈ taken, x.isFinite = true
  · refine overflows_append fun running summed => ?_
    have near := abs_accumulate_sub_le finite summed
    rw [Decimal.value_zero, zero_add, abs_sub_comm] at near
    have apart := abs_sub_abs_le_abs_sub (exactSum taken) running.value
    have small := running.abs_value_le
    linarith
  · push Not at finite
    obtain ⟨x, member, infinite⟩ := finite
    exact overflows_of_mem (List.mem_append_left _ member) (.inl (Bool.eq_false_iff.2 infinite))

/-- A sum of finite numbers does not overflow if their sizes and their count add up to less than
`2 ^ 96`. -/
theorem not_overflows_of_lt (finite : ∀ x ∈ numbers, x.isFinite = true)
    (small : totalSize numbers + numbers.length < 2 ^ 96) : ¬Overflows numbers := by
  rintro ⟨taken, x, rest, running, rfl, summed, stops⟩
  obtain ⟨finiteTaken, finiteX, -⟩ : (∀ x ∈ taken, x.isFinite = true) ∧ x.isFinite = true ∧
      ∀ x ∈ rest, x.isFinite = true := by
    simpa only [List.forall_mem_append, List.forall_mem_cons] using finite
  have sizeTaken := totalSize_nonneg taken
  have sizeRest := totalSize_nonneg rest
  have parts : totalSize (taken ++ x :: rest) =
      totalSize taken + (|textValue x.display| + totalSize rest) := by
    simp [totalSize]
  have count : ((taken ++ x :: rest).length : ℚ) = taken.length + (rest.length + 1) := by simp
  have countTaken : (0 : ℚ) ≤ taken.length := Nat.cast_nonneg _
  have countRest : (0 : ℚ) ≤ rest.length := Nat.cast_nonneg _
  have reached : |running.value| ≤ totalSize taken + taken.length := by
    have near := abs_accumulate_sub_le finiteTaken summed
    rw [Decimal.value_zero, zero_add] at near
    have size := abs_exactSum_le_totalSize taken
    have apart := abs_sub_abs_le_abs_sub running.value (exactSum taken)
    linarith
  rw [count] at small
  rcases stops with infinite | large | ⟨a, spelled, large⟩
  · exact Bool.false_ne_true (infinite.symm.trans finiteX)
  · unfold Beyond at large
    linarith
  · have near := (Decimal.approximates_ofBinary64? finiteX).near a spelled
    have apart := abs_sub_abs_le_abs_sub a.value (textValue x.display)
    have triangle := abs_add_le running.value a.value
    unfold Beyond at large
    linarith

end Aggregate

namespace ApplyRule

open Aggregate (Overflows)

variable {name : String} {key : FieldKey} {group : List Record}

/-- A sum is left out exactly if there are no numbers or they overflow. -/
theorem value?_sum_eq_none_iff : (ApplyRule.mk name .sum key).value? group = none ↔
    Aggregate.numbers key.text group = [] ∨ Overflows (Aggregate.numbers key.text group) :=
  Option.map_eq_none_iff.trans Aggregate.decimalSum?_eq_none_iff

/-- A mean is left out exactly if the sum is: the quotient by the count always fits. -/
theorem value?_avg_eq_none_iff : (ApplyRule.mk name .avg key).value? group = none ↔
    Aggregate.numbers key.text group = [] ∨ Overflows (Aggregate.numbers key.text group) := by
  rw [← Aggregate.decimalSum?_eq_none_iff, value?]
  dsimp only
  cases summed : Aggregate.decimalSum? (Aggregate.numbers key.text group) with
  | none => simp
  | some total =>
    have several : Aggregate.numbers key.text group ≠ [] := by
      intro none
      rw [none] at summed
      cases summed
    obtain ⟨mean, divided⟩ := Option.isSome_iff_exists.1
      (total.isSome_divNat? (List.length_pos_iff.2 several))
    simp [divided]

/-- An aggregate is left out exactly if it is no count and either no record has a number under the
target, or it is a sum or a mean whose numbers overflow. They do not if all are finite and the sizes
of their texts and their count add up to less than `2 ^ 96`; they do if one of them is not finite or
its text is beyond all decimals, or if the exact sum of the first of them is above `2 ^ 96` by their
count. -/
theorem value?_eq_none_iff_overflows (rule : ApplyRule) (group : List Record) :
    let key := rule.target.text
    let numbers := Aggregate.numbers key group
    (rule.value? group = none ↔ rule.token ≠ .count ∧
      ((∀ record ∈ group, ∀ x, record.get? key ≠ some (.number x)) ∨
        (rule.token = .sum ∨ rule.token = .avg) ∧ Overflows numbers)) ∧
    ((∀ x ∈ numbers, x.isFinite = true) →
      Aggregate.totalSize numbers + numbers.length < 2 ^ 96 → ¬Overflows numbers) ∧
    (∀ x ∈ numbers, x.isFinite = false ∨ Decimal.Beyond (textValue x.display) →
      Overflows numbers) ∧
    ∀ taken rest, numbers = taken ++ rest →
      2 ^ 96 + taken.length ≤ |Aggregate.exactSum taken| → Overflows numbers := by
  intro key numbers
  refine ⟨?_, Aggregate.not_overflows_of_lt, fun x => Aggregate.overflows_of_mem, ?_⟩
  · rw [← Aggregate.numbers_eq_nil_iff]
    obtain ⟨name, token, target⟩ := rule
    cases token with
    | count => simp [value?]
    | max => simp [value?_of_max, Aggregate.reduce?_eq_none_iff, key]
    | min => simp [value?_of_min, Aggregate.reduce?_eq_none_iff, key]
    | sum => simp [value?_sum_eq_none_iff, key, numbers]
    | avg => simp [value?_avg_eq_none_iff, key, numbers]
  · rintro taken rest split large
    rw [split]
    exact Aggregate.overflows_of_le large

/-- Records with the given averages. -/
def withAverages (averages : List Binary64) : List Record :=
  averages.map fun average => (∅ : Record).insert "courses_avg" (.number average)

/-- Averages of ordinary size have a sum and a mean; an infinite one stops a sum wherever it stands,
and so does `10 ^ 30`. -/
theorem value?_withAverages :
    let average : FieldKey := ⟨"courses", .avg⟩
    let huge := (Numeral.mk 1 30).toBinary64 false
    let fair := [(Numeral.mk 705 (-1)).toBinary64 false, .ofNat 80]
    (ApplyRule.mk "total" .sum average).value? (withAverages fair) ≠ none ∧
    (ApplyRule.mk "mean" .avg average).value? (withAverages fair) ≠ none ∧
    Overflows (Aggregate.numbers average.text (withAverages (fair ++ [.infinity false]))) ∧
    (ApplyRule.mk "mean" .avg average).value? (withAverages [huge]) = none := by
  intro average huge fair
  have present : ¬∀ record ∈ withAverages fair, ∀ x, record.get? average.text ≠ some (.number x) :=
    fun absent => absent _ List.mem_cons_self _ rfl
  obtain ⟨sum, fits, _, _⟩ :=
    value?_eq_none_iff_overflows ⟨"total", .sum, average⟩ (withAverages fair)
  obtain ⟨mean, _, _, _⟩ :=
    value?_eq_none_iff_overflows ⟨"mean", .avg, average⟩ (withAverages fair)
  obtain ⟨_, _, unfit, _⟩ := value?_eq_none_iff_overflows ⟨"total", .sum, average⟩
    (withAverages (fair ++ [.infinity false]))
  obtain ⟨missing, _, _, above⟩ :=
    value?_eq_none_iff_overflows ⟨"mean", .avg, average⟩ (withAverages [huge])
  have ordinary := fits (by decide +kernel) (by decide +kernel)
  have last : .infinity false ∈
      Aggregate.numbers average.text (withAverages (fair ++ [.infinity false])) := by decide +kernel
  refine ⟨fun none => ?_, fun none => ?_, unfit _ last (.inl (by decide)), ?_⟩
  · exact (sum.1 none).2.elim present fun overflows => ordinary overflows.2
  · exact (mean.1 none).2.elim present fun overflows => ordinary overflows.2
  · exact missing.2 ⟨by decide, .inr ⟨.inr rfl, above [huge] [] rfl (by decide +kernel)⟩⟩

/-- A group whose only average is `10 ^ 30` has a largest and a smallest average, but neither a sum
nor a mean. -/
theorem value?_hugeAverage :
    let average : FieldKey := ⟨"courses", .avg⟩
    let huge := (Numeral.mk 1 30).toBinary64 false
    let group := withAverages [huge]
    (∃ record ∈ group, record.get? average.text = some (.number huge)) ∧
    (ApplyRule.mk "best" .max average).value? group = some (.number huge) ∧
    (ApplyRule.mk "worst" .min average).value? group = some (.number huge) ∧
    (ApplyRule.mk "total" .sum average).value? group = none ∧
    (ApplyRule.mk "mean" .avg average).value? group = none := by
  decide +kernel

end ApplyRule
end Campus
