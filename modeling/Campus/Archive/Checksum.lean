/-!
# Checksums

The cyclic redundancy check of archives: thirty-two bits, the polynomial with its bits reversed, and
all bits turned over before and after.
-/

namespace Campus.Checksum

/-- Divide out one bit. -/
def bitStep (rest : UInt32) : UInt32 :=
  if rest &&& 1 = 1 then (rest >>> 1) ^^^ 0xEDB88320 else rest >>> 1

/-- Divide out one byte. -/
def byteStep (rest : UInt32) (b : UInt8) : UInt32 :=
  (List.range 8).foldl (fun rest _ => bitStep rest) (rest ^^^ b.toUInt32)

/-- The checksum of bytes. -/
def ofBytes (bytes : List UInt8) : UInt32 := ~~~(bytes.foldl byteStep 0xFFFFFFFF)

end Campus.Checksum
