/-!
# Punycode

A label with characters beyond ASCII is written in ASCII: its own ASCII characters first, then for
every other character, in ascending order, how far the position of its insertion lies from the one
before. Distances are numbers to base thirty-six whose digits end by thresholds that adapt to the
distances seen.
-/

namespace Campus.Punycode

/-- The digit for a number below thirty-six. -/
def digit (n : Nat) : Char := if n < 26 then Char.ofNat (97 + n) else Char.ofNat (48 + (n - 26))

/-- The threshold at a place of a number. -/
def threshold (place bias : Nat) : Nat :=
  if place ≤ bias then 1 else if bias + 26 ≤ place then 26 else place - bias

/-- A threshold is never zero. -/
theorem threshold_pos (place bias : Nat) : 1 ≤ threshold place bias := by
  unfold threshold; split
  · omega
  · split <;> omega

/-- How often a distance has to be divided to be small, in steps of the base, and what is left. -/
def reduce (distance steps : Nat) : Nat × Nat :=
  if 455 < distance then reduce (distance / 35) (steps + 36) else (distance, steps)
termination_by distance
decreasing_by exact Nat.div_lt_self (by omega) (by omega)

/-- The thresholds after a distance. -/
def adapt (distance count : Nat) (isFirst : Bool) : Nat :=
  let distance := if isFirst then distance / 700 else distance / 2
  let (rest, steps) := reduce (distance + distance / count) 0
  steps + 36 * rest / (rest + 38)

/-- The digits of a distance from a place on. -/
def digits (bias place distance : Nat) : List Char :=
  let t := threshold place bias
  if distance < t then [digit distance]
  else digit (t + (distance - t) % (36 - t)) :: digits bias (place + 36) ((distance - t) / (36 - t))
termination_by distance
decreasing_by
  have positive := threshold_pos place bias
  exact Nat.lt_of_le_of_lt (Nat.div_le_self ..) (by omega)

/-- The state of writing. -/
structure Writer where
  written : List Char
  distance : Nat
  bias : Nat
  /-- How many characters have been dealt with. -/
  count : Nat

/-- Pass one character of the label while the characters of one number are inserted. -/
def pass (basic number : Nat) (w : Writer) (c : Char) : Writer :=
  if c.toNat < number then { w with distance := w.distance + 1 }
  else if c.toNat = number then
    ⟨w.written ++ digits w.bias 36 w.distance, 0, adapt w.distance (w.count + 1) (w.count == basic),
      w.count + 1⟩
  else w

/-- Insert the characters of several numbers in ascending order, from a number on. -/
def insertAll (label : List Char) (basic : Nat) : (start : Nat) → List Nat → Writer → Writer
  | _, [], w => w
  | start, number :: rest, w =>
    let w := { w with distance := w.distance + (number - start) * (w.count + 1) }
    let w := label.foldl (pass basic number) w
    insertAll label basic (number + 1) rest { w with distance := w.distance + 1 }

/-- The written form of a label. -/
def encode (label : List Char) : List Char :=
  let plain := label.filter fun c => c.toNat < 0x80
  let numbers := ((label.map Char.toNat).filter fun n => 0x80 ≤ n).eraseDups.mergeSort
  let start := if plain.isEmpty then [] else plain ++ ['-']
  (insertAll label plain.length 0x80 numbers ⟨start, 0, 72, plain.length⟩).written

end Campus.Punycode
