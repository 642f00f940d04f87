/-!
# Deflated data

Deflated data is a stream of bits, the lowest bit of each byte first, cut into blocks. A block holds
bytes as they are, or symbols of two prefix codes: one for bytes and lengths, one for distances back
into what has been written. A prefix code is given by the lengths of its words alone. Data that ends
before its last block does stands for what it has given by then; whether that is all of it shows in
its checksum.
-/

namespace Campus.Deflate

/-- Why a part of the data cannot be read. -/
inductive Flaw
  /-- The data ends inside the part. -/
  | endsEarly
  /-- The part is not well formed. -/
  | broken
deriving DecidableEq

/-- Why a block gives no more bytes. -/
inductive Stop
  /-- The data ends after these bytes. -/
  | endsEarly (written : Array UInt8)
  /-- The block is not well formed. -/
  | broken

/-- The stop of a block that has a flaw after the bytes written so far. -/
def Flaw.stop (written : Array UInt8) : Flaw → Stop
  | endsEarly => .endsEarly written
  | broken => .broken

/-- What the data gives, and the bits after it. -/
abbrev Output := Except Stop (Array UInt8 × List Bool)

/-- A part of a block after the bytes written so far. -/
def after {α : Type} (written : Array UInt8) (part : Except Flaw α) : Except Stop α :=
  part.mapError (Flaw.stop written)

/-- The bits of bytes, the lowest bit of each byte first. -/
def bits (bytes : List UInt8) : List Bool :=
  bytes.flatMap fun b => (List.range 8).map b.toNat.testBit

/-- A number of a given width, lowest bit first, and the bits after it. -/
def number : (width : Nat) → List Bool → Except Flaw (Nat × List Bool)
  | 0, bits => .ok (0, bits)
  | _ + 1, [] => .error .endsEarly
  | width + 1, bit :: bits =>
    (number width bits).map fun (high, rest) => (bit.toNat + 2 * high, rest)

/-- A prefix code with words of at most fifteen bits. Words of one length are consecutive numbers,
and shorter words come first. -/
structure Code where
  /-- How many words there are of each length from one on. -/
  counts : List Nat
  /-- The symbols in the order of their words. -/
  symbols : Array Nat

namespace Code

/-- The longest word. -/
def maxLength : Nat := 15

/-- The lengths a word can have. -/
def wordLengths : List Nat := (List.range maxLength).map (· + 1)

/-- The code in which symbol `i` has a word of the `i`-th length, and none where that is zero. -/
def ofLengths (lengths : List Nat) : Code where
  counts := wordLengths.map fun length => lengths.count length
  symbols := (wordLengths.flatMap fun length =>
    (lengths.zipIdx.filter fun entry => entry.1 = length).map Prod.snd).toArray

/-- What is left of the space of words after words of the given counts, from the shortest length on:
nothing if they do not fit. -/
def room? (room : Nat) : List Nat → Option Nat
  | [] => some room
  | count :: counts => if count ≤ 2 * room then room? (2 * room - count) counts else none

/-- Words fill their space exactly, unless there is at most one. -/
def isComplete (code : Code) : Bool :=
  match room? 1 code.counts with
  | some room => room = 0 || code.symbols.size ≤ 1
  | none => false

/-- The place of the word at the front among all words, and the bits after it. `word` holds the bits
so far, `first` the first word of the next length and `before` the number of shorter words. -/
def place (word first before : Nat) : List Nat → List Bool → Except Flaw (Nat × List Bool)
  | count :: counts, bit :: bits =>
    let word := 2 * word + bit.toNat
    let first := 2 * first
    if word < first + count then .ok (before + (word - first), bits)
    else place word (first + count) (before + count) counts bits
  | [], _ => .error .broken
  | _ :: _, [] => .error .endsEarly

/-- The symbol of the word at the front, and the bits after it. -/
def symbol (code : Code) (bits : List Bool) : Except Flaw (Nat × List Bool) := do
  let (place, rest) ← place 0 0 0 code.counts bits
  match code.symbols[place]? with
  | some symbol => .ok (symbol, rest)
  | none => .error .broken

end Code

/-- Where the lengths of a symbol start and how many more bits they take, from symbol 257 on. -/
def lengthRanges : List (Nat × Nat) :=
  [(3, 0), (4, 0), (5, 0), (6, 0), (7, 0), (8, 0), (9, 0), (10, 0), (11, 1), (13, 1), (15, 1),
    (17, 1), (19, 2), (23, 2), (27, 2), (31, 2), (35, 3), (43, 3), (51, 3), (59, 3), (67, 4), (83, 4),
    (99, 4), (115, 4), (131, 5), (163, 5), (195, 5), (227, 5), (258, 0)]

/-- Where the distances of a symbol start and how many more bits they take. -/
def distanceRanges : List (Nat × Nat) :=
  [(1, 0), (2, 0), (3, 0), (4, 0), (5, 1), (7, 1), (9, 2), (13, 2), (17, 3), (25, 3), (33, 4), (49, 4),
    (65, 5), (97, 5), (129, 6), (193, 6), (257, 7), (385, 7), (513, 8), (769, 8), (1025, 9), (1537, 9),
    (2049, 10), (3073, 10), (4097, 11), (6145, 11), (8193, 12), (12289, 12), (16385, 13), (24577, 13)]

/-- The number that a symbol of a range table and the bits after it give. -/
def ranged (ranges : List (Nat × Nat)) (symbol : Nat) (bits : List Bool) :
    Except Flaw (Nat × List Bool) :=
  match ranges[symbol]? with
  | some (start, width) =>
    (number width bits).map fun (extra, rest) => (start + extra, rest)
  | none => .error .broken

/-- Write again what stands a distance back; before the start there are zero bytes. -/
def copyBack (distance : Nat) : (length : Nat) → Array UInt8 → Array UInt8
  | 0, written => written
  | length + 1, written =>
    let byte := if distance ≤ written.size then written.getD (written.size - distance) 0 else 0
    copyBack distance length (written.push byte)

/-- The length and the distance of a copy that a symbol announces. -/
def copy (distances : Code) (symbol : Nat) (bits : List Bool) :
    Except Flaw ((Nat × Nat) × List Bool) := do
  let (length, bits) ← ranged lengthRanges (symbol - 257) bits
  let (symbol, bits) ← distances.symbol bits
  let (distance, bits) ← ranged distanceRanges symbol bits
  return ((length, distance), bits)

/-- The rest of a block of symbols; each symbol takes at least one bit, which bounds the fuel. -/
def symbols (literals distances : Code) : (fuel : Nat) → Array UInt8 → List Bool → Output
  | 0, _, _ => .error .broken
  | fuel + 1, written, bits =>
    match literals.symbol bits with
    | .error flaw => .error (flaw.stop written)
    | .ok (symbol, bits) =>
      if symbol < 256 then symbols literals distances fuel (written.push (UInt8.ofNat symbol)) bits
      else if symbol = 256 then .ok (written, bits)
      else
        match copy distances symbol bits with
        | .error flaw => .error (flaw.stop written)
        | .ok ((length, distance), bits) =>
          symbols literals distances fuel (copyBack distance length written) bits

/-- The fixed code of bytes and lengths. -/
def fixedLiterals : Code :=
  .ofLengths (List.replicate 144 8 ++ List.replicate 112 9 ++ List.replicate 24 7 ++
    List.replicate 8 8)

/-- The fixed distance code. -/
def fixedDistances : Code := .ofLengths (List.replicate 32 5)

/-- The order in which the word lengths of the length code are given. -/
def lengthOrder : List Nat := [16, 17, 18, 0, 8, 7, 9, 6, 10, 5, 11, 4, 12, 3, 13, 2, 14, 1, 15]

/-- Several numbers of one width. -/
def numbers (width : Nat) : (count : Nat) → List Bool → Except Flaw (List Nat × List Bool)
  | 0, bits => .ok ([], bits)
  | count + 1, bits => do
    let (n, bits) ← number width bits
    let (rest, bits) ← numbers width count bits
    return (n :: rest, bits)

/-- A list of word lengths, latest first, until there are `wanted`: a length by itself, the last
length three to six times again, or zeros. Each step takes a bit at least, which bounds the fuel. -/
def lengths (code : Code) (wanted : Nat) : (fuel : Nat) → List Nat → List Bool →
    Except Flaw (List Nat × List Bool)
  | 0, _, _ => .error .broken
  | fuel + 1, found, bits =>
    if wanted < found.length then .error .broken
    else if found.length = wanted then .ok (found, bits)
    else
      match code.symbol bits with
      | .error flaw => .error flaw
      | .ok (symbol, bits) =>
        if symbol < 16 then lengths code wanted fuel (symbol :: found) bits
        else
          let (width, least, value) :=
            if symbol = 16 then (2, 3, found.head?)
            else if symbol = 17 then (3, 3, some 0)
            else (7, 11, some 0)
          match value, number width bits with
          | none, _ => .error .broken
          | some _, .error flaw => .error flaw
          | some value, .ok (more, bits) =>
            lengths code wanted fuel (List.replicate (least + more) value ++ found) bits

/-- The two codes that a block brings along. -/
def codes (bits : List Bool) : Except Flaw ((Code × Code) × List Bool) := do
  let (literalCount, bits) ← number 5 bits
  let (distanceCount, bits) ← number 5 bits
  let (lengthCount, bits) ← number 4 bits
  let literalCount := literalCount + 257
  let distanceCount := distanceCount + 1
  if 286 < literalCount ∨ 30 < distanceCount then .error .broken
  let (given, bits) ← numbers 3 (lengthCount + 4) bits
  let lengthCode := Code.ofLengths
    ((List.range 19).map fun symbol => given.getD (lengthOrder.idxOf symbol) 0)
  if !lengthCode.isComplete then .error .broken
  let (found, bits) ← lengths lengthCode (literalCount + distanceCount) (bits.length + 1) [] bits
  let literals := Code.ofLengths (found.reverse.take literalCount)
  let distances := Code.ofLengths (found.reverse.drop literalCount)
  if literals.isComplete && distances.isComplete then .ok ((literals, distances), bits)
  else .error .broken

/-- Bytes as they are, as many as are wanted. -/
def plainBytes : (count : Nat) → Array UInt8 → List Bool → Output
  | 0, written, bits => .ok (written, bits)
  | count + 1, written, bits =>
    match number 8 bits with
    | .error flaw => .error (flaw.stop written)
    | .ok (n, bits) => plainBytes count (written.push (UInt8.ofNat n)) bits

/-- The count of the bytes that follow as they are: after the rest of the current byte, the count
and the count with all bits turned over. -/
def plainCount (bits : List Bool) : Except Flaw (Nat × List Bool) := do
  let (count, bits) ← number 16 (bits.drop (bits.length % 8))
  let (complement, bits) ← number 16 bits
  if count + complement = 0xFFFF then .ok (count, bits) else .error .broken

/-- The contents of one block after its three leading bits. -/
def block (form : Nat) (written : Array UInt8) (bits : List Bool) : Output :=
  match form with
  | 0 => do
    let (count, bits) ← after written (plainCount bits)
    plainBytes count written bits
  | 1 => symbols fixedLiterals fixedDistances (bits.length + 1) written bits
  | 2 => do
    let ((literals, distances), bits) ← after written (codes bits)
    symbols literals distances (bits.length + 1) written bits
  | _ => .error .broken

/-- The leading bits of a block: whether it is the last one, and its form. -/
def blockStart (bits : List Bool) : Except Flaw ((Bool × Nat) × List Bool) := do
  let (last, bits) ← number 1 bits
  let (form, bits) ← number 2 bits
  return ((last == 1, form), bits)

/-- The blocks up to the one that is marked as the last; each takes at least three bits, which
bounds the fuel. -/
def blocks : (fuel : Nat) → Array UInt8 → List Bool → Except Stop (Array UInt8)
  | 0, _, _ => .error .broken
  | fuel + 1, written, bits => do
    let ((isLast, form), bits) ← after written (blockStart bits)
    let (written, bits) ← block form written bits
    if isLast then .ok written else blocks fuel written bits

/-- The bytes that deflated data gives; what follows the last block is passed over. -/
def inflate? (bytes : List UInt8) : Option (List UInt8) :=
  let bits := bits bytes
  match blocks (bits.length + 1) #[] bits with
  | .ok written | .error (.endsEarly written) => some written.toList
  | .error .broken => none

end Campus.Deflate
