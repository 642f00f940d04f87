import Campus.Number.Rounding
/-!
# Decimal numerals

A numeral is a natural number of digits scaled by a power of ten. `Numeral.toBinary64` reads it as
the nearest binary64 number, and `Binary64.shortest` writes a finite number with the fewest digits
that read back, nearest to the exact value among those. The writer tries grids of powers of ten from
the coarsest down and keeps the first grid on which a neighbour of the value reads back, so reading
back is checked, not assumed; the exact expansion stands behind the search.
-/

namespace Campus

/-- The unsigned decimal number `digits * 10 ^ exponent`. -/
structure Numeral where
  /-- All digits, read as one natural number. -/
  digits : Nat
  /-- The power of ten of the last digit. -/
  exponent : Int
deriving DecidableEq, Inhabited

/-- Which of two equally near numerals is written. -/
inductive Tie
  /-- The larger one. -/
  | up
  /-- The one with an even last digit. -/
  | even
deriving DecidableEq

/-- How many decimal digits a natural number has; zero has one. -/
def digitCount (n : Nat) : Nat := (Nat.toDigits 10 n).length

namespace Numeral

/-- The power of ten just above the number. -/
def ceiling (n : Numeral) : Int := digitCount n.digits + n.exponent

/-- The nearest binary64 number of the given sign. A numeral of at least `10 ^ 310` is above every
finite number and one below `10 ^ -330` is nearest to zero, so neither is expanded. -/
def toBinary64 (negative : Bool) (n : Numeral) : Binary64 :=
  if n.digits = 0 then .ofMagnitude negative 0
  else if 310 < n.ceiling then .infinity negative
  else if n.ceiling < -330 then .ofMagnitude negative 0
  else
    .ofRatio negative (n.digits * Nat.pow 10 n.exponent.toNat) (Nat.pow 10 (-n.exponent).toNat)

/-- The digits without an exponent: zeros fill up to the decimal point on either side of it, and an
integer has no point. -/
def plain (n : Numeral) : String :=
  let digits := Nat.toDigits 10 n.digits
  if 0 ≤ n.exponent then
    String.ofList (digits ++ List.replicate n.exponent.toNat '0')
  else
    let places := (-n.exponent).toNat
    let padded := List.replicate (places + 1 - digits.length) '0' ++ digits
    let whole := padded.length - places
    String.ofList (padded.take whole ++ '.' :: padded.drop whole)

/-- One digit, a point before any further digits, and a signed power of ten. -/
def scientific (n : Numeral) : String :=
  let digits := Nat.toDigits 10 n.digits
  let power : Int := n.ceiling - 1
  let mantissa := match digits with
    | [] => []
    | [d] => [d]
    | d :: rest => d :: '.' :: rest
  String.ofList mantissa ++ "e" ++ (if power < 0 then "-" else "+") ++ toString power.natAbs

end Numeral

namespace Binary64

/-- The grid point of `10 ^ power` at or below a finite number, with the remainder and the divisor
that produced it. -/
def gridBelow (x : Binary64) (power : Int) : Nat × Nat × Nat :=
  let num := x.grains * Nat.pow 10 (-power).toNat
  let den := grainsPerOne * Nat.pow 10 power.toNat
  (num / den, num % den, den)

/-- The neighbour on one grid that reads back as the number, if there is one; of two, the nearer. -/
def onGrid? (tie : Tie) (x : Binary64) (power : Int) : Option Numeral :=
  let (below, remainder, den) := x.gridBelow power
  let low : Numeral := ⟨below, power⟩
  let high : Numeral := ⟨below + 1, power⟩
  match low.toBinary64 false == x.abs, high.toBinary64 false == x.abs with
  | false, false => none
  | true, false => some low
  | false, true => some high
  | true, true =>
    if 2 * remainder < den then some low
    else if den < 2 * remainder then some high
    else match tie with
      | .up => some high
      | .even => if below % 2 = 0 then some low else some high

/-- The first grid with a hit, from the given power of ten down over `steps` grids. -/
def searchGrids (tie : Tie) (x : Binary64) : (steps : Nat) → (power : Int) → Option Numeral
  | 0, _ => none
  | steps + 1, power =>
    match x.onGrid? tie power with
    | some n => some n
    | none => searchGrids tie x steps (power - 1)

/-- A power of ten above a finite number, from its binary length. -/
def coarsestPower (x : Binary64) : Int :=
  ((Nat.log2 x.grains : Int) - 1073) * 30103 / 100000 + 1

/-- The exact decimal expansion of a finite number's absolute value. -/
def expansion (x : Binary64) : Numeral := ⟨x.grains * Nat.pow 5 1074, -1074⟩

/-- The fewest digits that read back as the absolute value of a finite number, nearest to it among
those. -/
def shortest (tie : Tie) (x : Binary64) : Numeral :=
  if x.isZero then ⟨0, 0⟩
  else (x.searchGrids tie 24 x.coarsestPower).getD x.expansion

/-- Whatever a grid offers reads back. -/
theorem toBinary64_of_onGrid? {tie : Tie} {x : Binary64} {power : Int} {n : Numeral}
    (hit : x.onGrid? tie power = some n) : n.toBinary64 false = x.abs := by
  unfold onGrid? at hit
  dsimp only at hit
  split at hit <;> rename_i low high
  · cases hit
  · simp only [Option.some.injEq] at hit; subst hit; exact eq_of_beq low
  · simp only [Option.some.injEq] at hit; subst hit; exact eq_of_beq high
  · repeat' split at hit
    all_goals
      simp only [Option.some.injEq] at hit
      subst hit
      first
        | exact eq_of_beq low
        | exact eq_of_beq high

/-- Whatever the search finds reads back. -/
theorem toBinary64_of_searchGrids {tie : Tie} {x : Binary64} {steps : Nat} {power : Int}
    {n : Numeral} (found : x.searchGrids tie steps power = some n) :
    n.toBinary64 false = x.abs := by
  induction steps generalizing power with
  | zero => cases found
  | succ steps ih =>
    unfold searchGrids at found
    split at found
    · next hit => cases found; exact toBinary64_of_onGrid? hit
    · exact ih found

/-- Plain decimal text with the fewest digits: a minus sign for the sign bit, never an exponent. -/
def display (x : Binary64) : String :=
  if x.isNaN then "NaN"
  else
    let body := if x.isFinite then (x.shortest .up).plain else "inf"
    if x.isNegative then "-" ++ body else body

end Binary64
end Campus
