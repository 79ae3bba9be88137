import ContractBench.Text.Utf8

/-! # Octets

Programs of the host know bytes, not characters. A text of octets holds one character for each
byte, the one with the number of the byte, so that every row of bytes has such a text.
-/

namespace ContractBench.Octets

/-- The character for a byte. -/
def ofByte (byte : UInt8) : Char := Char.ofNat byte.toNat

/-- The byte for a character. -/
def toByte (c : Char) : UInt8 := UInt8.ofNat c.toNat

/-- The characters for some bytes. -/
def ofBytes (bytes : List UInt8) : List Char := bytes.map ofByte

/-- The bytes for some characters. -/
def toBytes (cs : List Char) : List UInt8 := cs.map toByte

/-- A text as octets. -/
def ofText (text : String) : String := String.ofList (ofBytes (Utf8.encode text))

/-- The text that octets are; what is ill-formed among them is replaced. -/
def toText (octets : String) : String := Utf8.decodeLossy (toBytes octets.toList)

/-- The number before those of the characters that stand for stray bytes. -/
def strayBase : Nat := 0x10FF00

/-- The character for a byte that is part of no character, from the end of those for private
    use. -/
def stray (byte : UInt8) : Char := Char.ofNat (strayBase + byte.toNat)

/-- Whether a character stands for a stray byte. -/
def isStray (c : Char) : Bool := strayBase ≤ c.toNat

/-- Read characters, each stray byte as one of its own; `skip` bytes still belong to the last one
    read. -/
def charactersFrom : Nat → List UInt8 → List Char
  | _, [] => []
  | skip + 1, _ :: rest => charactersFrom skip rest
  | 0, lead :: rest =>
    match Utf8.step lead rest with
    | .fault _ _ => stray lead :: charactersFrom 0 rest
    | .char c more => c :: charactersFrom more rest

/-- The characters that octets are. -/
def characters (octets : List Char) : List Char := charactersFrom 0 (toBytes octets)

/-- The characters of a text of octets, as a text. -/
def wide (octets : String) : String := String.ofList (characters octets.toList)

/-- The octets of a character. -/
def ofCharacter (c : Char) : List Char :=
  if isStray c then [Char.ofNat (c.toNat - strayBase)]
  else ofBytes (Utf8.encode (String.singleton c))

/-- The octets of characters. -/
def narrow (text : String) : String := String.ofList (text.toList.map ofCharacter).flatten

end ContractBench.Octets
