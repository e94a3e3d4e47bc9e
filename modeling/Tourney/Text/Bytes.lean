/-!
# Bytes

The UTF-8 bytes of a text. Some rules look at bytes and not at characters: they count them, or want
certain ones at certain places.
-/

namespace Tourney.Text

/-- The UTF-8 bytes of a text. -/
def bytes (text : String) : List UInt8 :=
  text.toByteArray.data.toList

def isDigitByte (b : UInt8) : Bool :=
  48 ≤ b && b ≤ 57

/-- The number of bytes that characters take. -/
def byteCount (cs : List Char) : Nat :=
  (String.ofList cs).utf8ByteSize

end Tourney.Text
