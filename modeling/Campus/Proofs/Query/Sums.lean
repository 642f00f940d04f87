import Campus.Proofs.Number.Texts
import Campus.Query.Aggregate
import Mathlib.Algebra.BigOperators.Group.List.Basic
/-!
# Sums and means of decimal texts

The decimal sum of numbers below one million with few places is the exact sum of their texts, as
long as there are at most a million of them: every partial sum fits at twelve places. Its hundredths
are therefore those of the exact sum, and the hundredths of its quotient by their count are those of
the exact mean. Neither depends on the order of the records.
-/

namespace Campus

/-- What is written of a decimal depends on its hundredths only. -/
theorem Decimal.toCents_congr {a b : Decimal} (same : a.hundredths = b.hundredths) :
    a.toCents = b.toCents := by
  unfold toCents
  rw [same]

namespace Aggregate

variable {numbers : List Binary64}

/-- The exact sum of the decimal texts of numbers. -/
def exactSum (numbers : List Binary64) : ℚ := (numbers.map fun x => textValue x.display).sum

/-- The sum starts with the first text. -/
theorem exactSum_cons (x : Binary64) (rest : List Binary64) :
    exactSum (x :: rest) = textValue x.display + exactSum rest := by
  rw [exactSum, List.map_cons, List.sum_cons, exactSum]

/-- The order of the numbers does not matter to their exact sum. -/
theorem exactSum_perm {reordered : List Binary64} (same : reordered.Perm numbers) :
    exactSum reordered = exactSum numbers := (same.map _).sum_eq

/-- The exact sum of modest numbers is bounded by their count. -/
theorem abs_exactSum_le (modest : ∀ x ∈ numbers, x.IsModest) :
    |exactSum numbers| ≤ 2 ^ 20 * numbers.length := by
  induction numbers with
  | nil => simp [exactSum]
  | cons x rest ih =>
    obtain ⟨first, later⟩ := List.forall_mem_cons.1 modest
    have triangle := abs_add_le (textValue x.display) (exactSum rest)
    have one := first.abs_textValue_lt
    have others := ih later
    rw [exactSum_cons, List.length_cons]
    push_cast
    linarith

/-- Adding few modest numbers to an exact partial sum is exact. -/
theorem exists_foldlM_add? (modest : ∀ x ∈ numbers, x.IsModest) (taken : ℕ) {q : ℚ}
    {partialSum : Decimal} (exact : partialSum.Holds 12 q) (bounded : |q| ≤ 2 ^ 20 * taken)
    (few : taken + numbers.length ≤ 1000000) :
    ∃ total, numbers.foldlM (fun total number => do total.add? (← Decimal.ofBinary64? number))
        partialSum = some total ∧ total.Holds 12 (q + exactSum numbers) := by
  induction numbers generalizing taken q partialSum with
  | nil => exact ⟨partialSum, rfl, by simpa [exactSum] using exact⟩
  | cons x rest ih =>
    obtain ⟨first, later⟩ := List.forall_mem_cons.1 modest
    rw [List.length_cons] at few
    have next : |q + textValue x.display| ≤ 2 ^ 20 * (taken + 1 : ℕ) := by
      have triangle := abs_add_le q (textValue x.display)
      have small := first.abs_textValue_lt
      push_cast
      linarith
    have fits : |q + textValue x.display| * 10 ^ 12 < 2 ^ 96 := by
      have count : ((taken + 1 : ℕ) : ℚ) ≤ 1000000 := by
        exact_mod_cast (by omega : taken + 1 ≤ 1000000)
      linarith
    obtain ⟨a, spelled, holds⟩ := first.exists_ofBinary64?
    obtain ⟨sum, added, exactNext⟩ := Decimal.exists_add? exact holds fits
    obtain ⟨total, folded, exactTotal⟩ := ih later (taken + 1) exactNext next (by omega)
    refine ⟨total, ?_, ?_⟩
    · rw [List.foldlM_cons, spelled]
      simp only [Option.bind_eq_bind, Option.bind_some, added]
      exact folded
    · rwa [exactSum_cons, ← add_assoc]

/-- The decimal sum of few modest numbers is there and exact. -/
theorem exists_decimalSum? (several : numbers ≠ []) (few : numbers.length ≤ 1000000)
    (modest : ∀ x ∈ numbers, x.IsModest) :
    ∃ total, decimalSum? numbers = some total ∧ total.Holds 12 (exactSum numbers) := by
  have nothing : Decimal.zero.Holds 12 0 := ⟨by simp [Decimal.value, Decimal.zero], by decide⟩
  obtain ⟨total, folded, exact⟩ := exists_foldlM_add? modest 0 nothing (by simp) (by omega)
  rw [zero_add] at exact
  refine ⟨total, ?_, exact⟩
  cases numbers with
  | nil => exact absurd rfl several
  | cons x rest => exact folded

/-- The decimal mean of few modest numbers is there and has the hundredths of the exact mean. -/
theorem exists_mean (several : numbers ≠ []) (few : numbers.length ≤ 1000000)
    (modest : ∀ x ∈ numbers, x.IsModest) {total : Decimal}
    (exact : total.Holds 12 (exactSum numbers)) :
    ∃ mean, total.divNat? numbers.length = some mean ∧
      mean.hundredths = cents (exactSum numbers / numbers.length) := by
  obtain ⟨value, scale⟩ := exact
  have resolved : 10 ^ total.scale * numbers.length < 10 ^ 19 := by
    calc 10 ^ total.scale * numbers.length ≤ 10 ^ 12 * 1000000 :=
          Nat.mul_le_mul (Nat.pow_le_pow_right (by decide) scale) few
      _ < 10 ^ 19 := by norm_num
  have bounded : |total.value| ≤ 2 ^ 20 * numbers.length := value ▸ abs_exactSum_le modest
  rw [← value]
  exact Decimal.exists_divNat? (List.length_pos_iff.2 several) resolved bounded

end Aggregate

namespace ApplyRule

variable (name : String) {key : FieldKey} {group : List Record}

/-- The values of a sum and of a mean over a group with few numbers, all of them modest. -/
theorem exists_value?_eq (several : Aggregate.numbers key.text group ≠ [])
    (few : (Aggregate.numbers key.text group).length ≤ 1000000)
    (modest : ∀ x ∈ Aggregate.numbers key.text group, x.IsModest) :
    ∃ total mean, Aggregate.decimalSum? (Aggregate.numbers key.text group) = some total ∧
      total.divNat? (Aggregate.numbers key.text group).length = some mean ∧
      total.hundredths = cents (Aggregate.exactSum (Aggregate.numbers key.text group)) ∧
      mean.hundredths = cents (Aggregate.exactSum (Aggregate.numbers key.text group) /
        (Aggregate.numbers key.text group).length) ∧
      (ApplyRule.mk name .sum key).value? group = some (.number total.toCents) ∧
      (ApplyRule.mk name .avg key).value? group = some (.number mean.toCents) := by
  obtain ⟨total, summed, exact⟩ := Aggregate.exists_decimalSum? several few modest
  obtain ⟨mean, divided, rounded⟩ := Aggregate.exists_mean several few modest exact
  refine ⟨total, mean, summed, divided, ?_, rounded, ?_, ?_⟩
  · rw [Decimal.hundredths_eq, exact.value_eq]
  · simp [value?, summed]
  · simp [value?, summed, divided]

/-- Over a group with at most a million numbers, all of them below one million and of at most twelve
places, a sum is the exact sum of the texts and a mean is their exact mean, in hundredths with
halves away from zero; neither is left out, and neither depends on the order of the records. -/
theorem value?_of_perm (several : Aggregate.numbers key.text group ≠ [])
    (few : (Aggregate.numbers key.text group).length ≤ 1000000)
    (modest : ∀ x ∈ Aggregate.numbers key.text group, x.IsModest) {reordered : List Record}
    (same : reordered.Perm group) :
    (∃ total mean, Aggregate.decimalSum? (Aggregate.numbers key.text reordered) = some total ∧
      total.divNat? (Aggregate.numbers key.text reordered).length = some mean ∧
      total.hundredths = cents (Aggregate.exactSum (Aggregate.numbers key.text group)) ∧
      mean.hundredths = cents (Aggregate.exactSum (Aggregate.numbers key.text group) /
        (Aggregate.numbers key.text group).length) ∧
      (ApplyRule.mk name .sum key).value? reordered = some (.number total.toCents) ∧
      (ApplyRule.mk name .avg key).value? reordered = some (.number mean.toCents)) ∧
    (ApplyRule.mk name .sum key).value? reordered = (ApplyRule.mk name .sum key).value? group ∧
    (ApplyRule.mk name .avg key).value? reordered = (ApplyRule.mk name .avg key).value? group := by
  have numbers : (Aggregate.numbers key.text reordered).Perm (Aggregate.numbers key.text group) :=
    (same.filterMap _).filterMap _
  have severalReordered : Aggregate.numbers key.text reordered ≠ [] := fun none =>
    several (List.perm_nil.1 (none ▸ numbers.symm))
  obtain ⟨total, mean, summed, divided, sumCents, meanCents, sum, avg⟩ :=
    exists_value?_eq name several few modest
  obtain ⟨total', mean', summed', divided', sumCents', meanCents', sum', avg'⟩ :=
    exists_value?_eq name severalReordered
      (numbers.length_eq ▸ few) fun x member => modest x (numbers.mem_iff.1 member)
  rw [Aggregate.exactSum_perm numbers] at sumCents' meanCents'
  rw [numbers.length_eq] at meanCents'
  refine ⟨⟨total', mean', summed', divided', sumCents', meanCents', sum', avg'⟩, ?_, ?_⟩
  · rw [sum, sum', Decimal.toCents_congr (sumCents'.trans sumCents.symm)]
  · rw [avg, avg', Decimal.toCents_congr (meanCents'.trans meanCents.symm)]

/-- Three averages whose mean is below half a hundredth by a third of the last place of their texts,
among records that have a text or nothing under the key. -/
def nearHalfHundredth : List Record :=
  [.number ((Numeral.mk 5 (-3)).toBinary64 false), .text "n/a",
    .number ((Numeral.mk 5 (-3)).toBinary64 false),
    .number ((Numeral.mk 4999999999 (-12)).toBinary64 false)].map
      (fun value => (∅ : Record).insert "s_avg" value) ++ [∅]

/-- The mean is not rounded up: rounding its twenty-eight places first does not carry it to half a
hundredth. -/
theorem value?_of_perm_nearHalfHundredth :
    (Aggregate.numbers (FieldKey.mk "s" .avg).text nearHalfHundredth).map Binary64.display =
        ["0.005", "0.005", "0.004999999999"] ∧
      (∀ x ∈ Aggregate.numbers (FieldKey.mk "s" .avg).text nearHalfHundredth, x.IsModest) ∧
      ∃ mean : Decimal, mean.hundredths = 0 ∧
        (ApplyRule.mk "mean" .avg ⟨"s", .avg⟩).value? nearHalfHundredth.reverse =
          some (.number mean.toCents) := by
  have modest : ∀ x ∈ Aggregate.numbers (FieldKey.mk "s" .avg).text nearHalfHundredth,
      x.IsModest := by decide +kernel
  have exact : cents (Aggregate.exactSum
      (Aggregate.numbers (FieldKey.mk "s" .avg).text nearHalfHundredth) /
        (Aggregate.numbers (FieldKey.mk "s" .avg).text nearHalfHundredth).length) = 0 := by
    decide +kernel
  obtain ⟨⟨-, mean, -, -, -, rounded, -, avg⟩, -⟩ := value?_of_perm "mean" (by decide +kernel)
    (by decide +kernel) modest (List.reverse_perm nearHalfHundredth)
  exact ⟨by decide +kernel, modest, mean, rounded.trans exact, avg⟩

end ApplyRule

end Campus
