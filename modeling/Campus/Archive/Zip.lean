import Campus.Archive.Basic
import Campus.Archive.Checksum
import Campus.Archive.CodePage437
import Campus.Archive.Deflate
/-!
# Zip files

A zip file ends with a record that leads to a directory, and the directory leads to the entries.
Other data may stand before the archive, which shifts all positions by its length, and a comment
after it. A large archive has a wider end record in front of the usual one. Entries are stored or
deflated, and their checksums are verified; encryption and other methods are not read.

The writer produces stored entries.
-/

namespace Campus.Zip

/-- Why a zip file cannot be read. -/
inductive Fault
  /-- The layout is broken, or an entry is encrypted or packed by an unknown method. -/
  | layout
  /-- The data of a file is broken. -/
  | content (name : String)
deriving DecidableEq

/-- What the record in front of a file starts with. -/
def fileSignature : Nat := 0x04034B50

/-- What an entry of the directory starts with. -/
def directorySignature : Nat := 0x02014B50

/-- What the end record starts with. -/
def endSignature : Nat := 0x06054B50

/-- What the end record of a large archive starts with. -/
def largeEndSignature : Nat := 0x06064B50

/-- What the record that tells where that one is starts with. -/
def largeLocatorSignature : Nat := 0x07064B50

/-- Whether a number stands at the front. -/
def startsWith (signature : Nat) (bytes : List UInt8) : Bool :=
  Bytes.numberAt? 4 0 bytes == some signature

/-- Where the directory is. -/
structure Location where
  /-- By how much positions are shifted. -/
  shift : Nat
  /-- Where the directory starts. -/
  start : Nat
  /-- How many entries it has. -/
  count : Nat
deriving DecidableEq

/-- The length of the end record without its comment. -/
def endLength : Nat := 22

/-- The length of the longest comment. -/
def maxCommentLength : Nat := 0xFFFF

/-- The last position at which a signature can be found, among those that a condition admits. -/
def lastPosition? (signature : Nat) (admits : Nat → Bool) : (position : Nat) → Option Nat →
    List UInt8 → Option Nat
  | _, found, [] => found
  | position, found, bytes@(_ :: rest) =>
    let found := if admits position && startsWith signature bytes then some position else found
    lastPosition? signature admits (position + 1) found rest

/-- The first position in a range from which on a signature can be found. -/
def firstPosition? (signature : Nat) (last : Nat) : (position : Nat) → List UInt8 → Option Nat
  | _, [] => none
  | position, bytes@(_ :: rest) =>
    if last < position then none
    else if startsWith signature bytes then some position
    else firstPosition? signature last (position + 1) rest

/-- The place of the directory of a large archive, given where its end record would be without shift
and where the usual end record is. -/
def largeLocation? (bytes : List UInt8) (nominal endPosition : Nat) : Option Location := do
  if endPosition < 60 then none
  let position ← firstPosition? largeEndSignature (endPosition - 60) nominal (bytes.drop nominal)
  let record := bytes.drop position
  let disk ← Bytes.numberAt? 4 16 record
  let directoryDisk ← Bytes.numberAt? 4 20 record
  let count ← Bytes.numberAt? 8 32 record
  let _ ← Bytes.numberAt? 8 40 record
  let offset ← Bytes.numberAt? 8 48 record
  if disk ≠ directoryDisk then none
  let shift := position - nominal
  if 0x10000000000000000 ≤ offset + shift then none
  return ⟨shift, offset + shift, count⟩

/-- The place of the directory. -/
def location? (bytes : List UInt8) : Option Location := do
  let length := bytes.length
  let admits (position : Nat) : Bool :=
    position + endLength ≤ length && length ≤ position + endLength + maxCommentLength
  let endPosition ← lastPosition? endSignature admits 0 none bytes
  let record := bytes.drop endPosition
  let disk ← Bytes.numberAt? 2 4 record
  let directoryDisk ← Bytes.numberAt? 2 6 record
  let count ← Bytes.numberAt? 2 8 record
  let totalCount ← Bytes.numberAt? 2 10 record
  let size ← Bytes.numberAt? 4 12 record
  let offset ← Bytes.numberAt? 4 16 record
  let commentLength ← Bytes.numberAt? 2 20 record
  let _ ← Bytes.take? commentLength (record.drop endLength)
  let isTooSmall := disk = 0xFFFF ∨ directoryDisk = 0xFFFF ∨ count = 0xFFFF ∨ totalCount = 0xFFFF ∨
    size = 0xFFFFFFFF ∨ offset = 0xFFFFFFFF
  if ¬ isTooSmall ∧ disk ≠ directoryDisk then none
  let locator := bytes.drop (length - (20 + endLength + commentLength))
  if 20 + endLength + commentLength ≤ length ∧ startsWith largeLocatorSignature locator then
    let locatorDisk ← Bytes.numberAt? 4 4 locator
    let nominal ← Bytes.numberAt? 8 8 locator
    if ¬ isTooSmall ∧ disk ≠ locatorDisk then none
    largeLocation? bytes nominal endPosition
  else if endPosition < size + offset then none
  else return ⟨endPosition - size - offset, endPosition - size, count⟩

/-- An entry of the directory. -/
structure Header where
  name : String
  isEncrypted : Bool
  method : Nat
  checksum : Nat
  /-- How many bytes the data takes in the file. -/
  packedSize : Nat
  /-- Where the entry itself starts. -/
  position : Nat
deriving DecidableEq

/-- The packed size and the position of an entry, taken from the extra data of a large archive where
the directory has no room for them. The fuel is the length of the extra data. -/
def widened (unpackedSize packedSize position : Nat) : (fuel : Nat) → List UInt8 → Nat × Nat
  | 0, _ => (packedSize, position)
  | fuel + 1, extra =>
    match Bytes.numberAt? 2 0 extra, Bytes.numberAt? 2 2 extra with
    | some 1, some length =>
      let field := extra.drop 4
      let isWide (n : Nat) : Bool := n == 0xFFFFFFFF
      let skip := if isWide unpackedSize then 8 else 0
      match if isWide unpackedSize then Bytes.numberAt? 8 0 field else some unpackedSize with
      | none => (packedSize, position)
      | some unpackedSize =>
        match if isWide packedSize then Bytes.numberAt? 8 skip field else some packedSize with
        | none => (packedSize, position)
        | some packed =>
          let skip := if isWide packedSize then skip + 8 else skip
          match if isWide position then Bytes.numberAt? 8 skip field else some position with
          | none => (packed, position)
          | some place =>
            let skip := if isWide position then skip + 8 else skip
            widened unpackedSize packed place fuel (field.drop (max length skip))
    | some _, some length =>
      widened unpackedSize packedSize position fuel (extra.drop (4 + length))
    | _, _ => (packedSize, position)

/-- The directory entry at the front, and the bytes after it. -/
def header? (shift : Nat) (bytes : List UInt8) : Option (Header × List UInt8) := do
  if !startsWith directorySignature bytes then none
  let flags ← Bytes.numberAt? 2 8 bytes
  let method ← Bytes.numberAt? 2 10 bytes
  let checksum ← Bytes.numberAt? 4 16 bytes
  let packedSize ← Bytes.numberAt? 4 20 bytes
  let unpackedSize ← Bytes.numberAt? 4 24 bytes
  let nameLength ← Bytes.numberAt? 2 28 bytes
  let extraLength ← Bytes.numberAt? 2 30 bytes
  let commentLength ← Bytes.numberAt? 2 32 bytes
  let position ← Bytes.numberAt? 4 42 bytes
  let name ← Bytes.take? nameLength (bytes.drop 46)
  let extra ← Bytes.take? extraLength (bytes.drop (46 + nameLength))
  let _ ← Bytes.take? commentLength (bytes.drop (46 + nameLength + extraLength))
  let (packedSize, position) := widened unpackedSize packedSize position extra.length extra
  return ({
    name := if flags.testBit 11 then Bytes.lenientText name else CodePage437.text name
    isEncrypted := flags.testBit 0
    method, checksum, packedSize
    position := position + shift },
    bytes.drop (46 + nameLength + extraLength + commentLength))

/-- Several directory entries; each takes at least one byte, which bounds the fuel. -/
def headers? (shift : Nat) : (count fuel : Nat) → List UInt8 → Option (List Header)
  | 0, _, _ => some []
  | _ + 1, 0, _ => none
  | count + 1, fuel + 1, bytes => do
    let (header, rest) ← header? shift bytes
    let others ← headers? shift count fuel rest
    return header :: others

/-- The directory. -/
def directory? (bytes : List UInt8) : Option (List Header) := do
  let location ← location? bytes
  let directory := bytes.drop location.start
  headers? location.shift location.count directory.length directory

/-- How entries are packed. -/
inductive Method
  | stored
  | deflated

/-- The method with a given number. -/
def Method.ofNumber? : Nat → Option Method
  | 0 => some stored
  | 8 => some deflated
  | _ => none

/-- The bytes of packed data. -/
def Method.unpack? : Method → List UInt8 → Option (List UInt8)
  | stored, packed => some packed
  | deflated, packed => Deflate.inflate? packed

/-- The packed data of an entry, or what is left of it in a file that ends early. -/
def Header.packed? (header : Header) (bytes : List UInt8) : Option (List UInt8) := do
  let record := bytes.drop header.position
  if !startsWith fileSignature record then none
  let nameLength ← Bytes.numberAt? 2 26 record
  let extraLength ← Bytes.numberAt? 2 28 record
  return (record.drop (30 + nameLength + extraLength)).take header.packedSize

/-- The entry that a directory entry leads to. The data of a folder is not looked at. -/
def Header.entry (bytes : List UInt8) (header : Header) : Except Fault ArchiveEntry :=
  match header.isEncrypted, header.packed? bytes, Method.ofNumber? header.method with
  | false, some packed, some method =>
    let folder : ArchiveEntry := ⟨header.name, []⟩
    if folder.isFolder then .ok folder
    else match method.unpack? packed with
      | none => .error (.content header.name)
      | some content =>
        if (Checksum.ofBytes content).toNat = header.checksum then .ok ⟨header.name, content⟩
        else .error (.content header.name)
  | _, _, _ => .error .layout

/-- The entries of a zip file, in the order of its directory. -/
def read (bytes : List UInt8) : Except Fault (List ArchiveEntry) :=
  match directory? bytes with
  | none => .error .layout
  | some directory => directory.mapM (Header.entry bytes)

/-! ## Writing -/

/-- The fields that both records of an entry have: the version that is needed to read it, the flags
with UTF-8 names, no method, the start of the calendar, the checksum, both sizes and the length of
the name. No extra data follows. -/
def commonFields (entry : ArchiveEntry) : List UInt8 :=
  Bytes.ofNumber 2 20 ++ Bytes.ofNumber 2 (0x800) ++ Bytes.ofNumber 2 0 ++ Bytes.ofNumber 2 0 ++
    Bytes.ofNumber 2 0x21 ++ Bytes.ofNumber 4 (Checksum.ofBytes entry.content).toNat ++
    Bytes.ofNumber 4 entry.content.length ++ Bytes.ofNumber 4 entry.content.length ++
    Bytes.ofNumber 2 (Bytes.ofText entry.name).length ++ Bytes.ofNumber 2 0

/-- An entry with its data. -/
def fileRecord (entry : ArchiveEntry) : List UInt8 :=
  Bytes.ofNumber 4 fileSignature ++ commonFields entry ++ Bytes.ofText entry.name ++ entry.content

/-- The directory entry of an entry that starts at a position. -/
def directoryRecord (position : Nat) (entry : ArchiveEntry) : List UInt8 :=
  Bytes.ofNumber 4 directorySignature ++ Bytes.ofNumber 2 20 ++ commonFields entry ++
    Bytes.ofNumber 2 0 ++ Bytes.ofNumber 2 0 ++ Bytes.ofNumber 2 0 ++ Bytes.ofNumber 4 0 ++
    Bytes.ofNumber 4 position ++ Bytes.ofText entry.name

/-- The directory of entries that follow one another from a position on. -/
def directory (position : Nat) : List ArchiveEntry → List UInt8
  | [] => []
  | entry :: rest =>
    directoryRecord position entry ++ directory (position + (fileRecord entry).length) rest

/-- The end record of a directory. -/
def endRecord (count size position : Nat) : List UInt8 :=
  Bytes.ofNumber 4 endSignature ++ Bytes.ofNumber 2 0 ++ Bytes.ofNumber 2 0 ++
    Bytes.ofNumber 2 count ++ Bytes.ofNumber 2 count ++ Bytes.ofNumber 4 size ++
    Bytes.ofNumber 4 position ++ Bytes.ofNumber 2 0

/-- A zip file of entries. -/
def render (entries : List ArchiveEntry) : List UInt8 :=
  let files := entries.flatMap fileRecord
  let listing := directory 0 entries
  files ++ listing ++ endRecord entries.length listing.length files.length

end Campus.Zip
