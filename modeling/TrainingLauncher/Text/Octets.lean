/-
Bytes as texts: a text of octets has one character for each byte, the one of the same number. What
a small program does to a text it does to its bytes, whatever they stand for.
-/

namespace TrainingLauncher.Text

/-- Bytes as a text of octets. -/
def octets (bytes : ByteArray) : String :=
  String.ofList (bytes.data.toList.map fun byte => Char.ofNat byte.toNat)

/-- The bytes of a text of octets. -/
def ofOctets (text : String) : ByteArray :=
  text.foldl (fun bytes char => bytes.push (UInt8.ofNat char.toNat)) ByteArray.empty

/-- The octets of the bytes that stand for a text. -/
def toOctets (text : String) : String := octets text.toUTF8

/-- The text that octets stand for; octets that stand for none are left as they are. -/
def fromOctets (text : String) : String := (String.fromUTF8? (ofOctets text)).getD text

end TrainingLauncher.Text
