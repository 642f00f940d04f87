/-!
# Code page 437

The names of old archives are written in code page 437: ASCII below 128, and letters of European
languages, box drawings and mathematical signs above.
-/

namespace Campus.CodePage437

/-- The characters from 128 on. -/
def upperHalf : Array Char := (
  "ÇüéâäàåçêëèïîìÄÅÉæÆôöòûùÿÖÜ¢£¥₧ƒ" ++
  "áíóúñÑªº¿⌐¬½¼¡«»░▒▓│┤╡╢╖╕╣║╗╝╜╛┐" ++
  "└┴┬├─┼╞╟╚╔╩╦╠═╬╧╨╤╥╙╘╒╓╫╪┘┌█▄▌▐▀" ++
  "αßΓπΣσµτΦΘΩδ∞φε∩≡±≥≤⌠⌡÷≈°∙·√ⁿ²■\u00a0").toList.toArray

/-- The character of a byte. -/
def char (b : UInt8) : Char :=
  if b < 0x80 then Char.ofNat b.toNat else upperHalf.getD (b.toNat - 0x80) '\ufffd'

/-- The text of bytes. -/
def text (bytes : List UInt8) : String := String.ofList (bytes.map char)

end Campus.CodePage437
