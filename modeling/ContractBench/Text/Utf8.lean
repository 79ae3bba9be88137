/-! # UTF-8

`Utf8.encode` writes characters as bytes, `Utf8.decode` reads them back strictly and says where and
why it cannot, and `Utf8.decodeLossy` puts the replacement character in place of what is wrong.
An ill-formed sequence is the longest start of a character that the bytes hold, or the one byte
that can start none.
-/

namespace ContractBench.Utf8

/-- Why bytes are not UTF-8. -/
inductive Fault where
  /-- A byte that starts no character. -/
  | badStart
  /-- A character that breaks off before a byte which cannot go on with it. -/
  | badContinuation
  /-- A character that breaks off at the end of the bytes. -/
  | cutOff
  deriving Repr, DecidableEq

/-- The words for a fault. -/
def Fault.message : Fault → String
  | .badStart => "invalid start byte"
  | .badContinuation => "invalid continuation byte"
  | .cutOff => "unexpected end of data"

/-- One step of reading: a character of some length, or an ill-formed sequence of some length. -/
inductive Step where
  /-- A character and the number of its bytes after the first. -/
  | char (c : Char) (more : Nat)
  /-- A fault and the number of its bytes after the first. -/
  | fault (reason : Fault) (more : Nat)
  deriving Repr

/-- Whether a byte continues a character. -/
def isContinuation (byte : UInt8) : Bool := 0x80 ≤ byte && byte < 0xC0

/-- The six low bits of a byte. -/
def lowBits (byte : UInt8) : Nat := byte.toNat % 64

/-- Read the second byte of a three-byte or four-byte character, which must lie in a range. -/
def inRange (low high byte : UInt8) : Bool := low ≤ byte && byte ≤ high

/-- The range of the byte after a leading byte of a three-byte or four-byte character: it keeps out
    overlong forms, surrogates and numbers beyond the last character. -/
def secondRange (lead : UInt8) : UInt8 × UInt8 :=
  if lead = 0xE0 then (0xA0, 0xBF)
  else if lead = 0xED then (0x80, 0x9F)
  else if lead = 0xF0 then (0x90, 0xBF)
  else if lead = 0xF4 then (0x80, 0x8F)
  else (0x80, 0xBF)

/-- Read one character of two bytes. -/
def stepTwo (lead : UInt8) : List UInt8 → Step
  | [] => .fault .cutOff 0
  | b :: _ =>
    if isContinuation b then .char (Char.ofNat (lead.toNat % 32 * 64 + lowBits b)) 1
    else .fault .badContinuation 0

/-- Read one character of three bytes. -/
def stepThree (lead : UInt8) : List UInt8 → Step
  | [] => .fault .cutOff 0
  | b :: rest =>
    if inRange (secondRange lead).1 (secondRange lead).2 b then
      match rest with
      | [] => .fault .cutOff 1
      | c :: _ =>
        if isContinuation c then
          .char (Char.ofNat ((lead.toNat % 16 * 64 + lowBits b) * 64 + lowBits c)) 2
        else .fault .badContinuation 1
    else .fault .badContinuation 0

/-- Read one character of four bytes. -/
def stepFour (lead : UInt8) : List UInt8 → Step
  | [] => .fault .cutOff 0
  | b :: rest =>
    if inRange (secondRange lead).1 (secondRange lead).2 b then
      match rest with
      | [] => .fault .cutOff 1
      | c :: rest =>
        if isContinuation c then
          match rest with
          | [] => .fault .cutOff 2
          | d :: _ =>
            if isContinuation d then
              .char (Char.ofNat
                (((lead.toNat % 8 * 64 + lowBits b) * 64 + lowBits c) * 64 + lowBits d)) 3
            else .fault .badContinuation 2
        else .fault .badContinuation 1
    else .fault .badContinuation 0

/-- Read the character that a byte leads. -/
def step (lead : UInt8) (rest : List UInt8) : Step :=
  if lead < 0x80 then .char (Char.ofNat lead.toNat) 0
  else if lead < 0xC2 then .fault .badStart 0
  else if lead < 0xE0 then stepTwo lead rest
  else if lead < 0xF0 then stepThree lead rest
  else if lead < 0xF5 then stepFour lead rest
  else .fault .badStart 0

/-- Bytes that are not UTF-8: the place of the first ill-formed sequence. -/
structure DecodeError where
  /-- The number of bytes before it. -/
  start : Nat
  /-- Its bytes. -/
  bytes : List UInt8
  /-- The words for what is wrong. -/
  reason : String
  deriving Repr, DecidableEq

/-- A byte as two hexadecimal digits. -/
def hexByte (byte : UInt8) : String :=
  let digit (n : Nat) : Char := if n < 10 then Char.ofNat (48 + n) else Char.ofNat (87 + n)
  String.ofList [digit (byte.toNat / 16), digit (byte.toNat % 16)]

/-- The message for bytes that are not UTF-8. -/
def DecodeError.message (e : DecodeError) : String :=
  let head := "'utf-8' codec can't decode "
  match e.bytes with
  | [byte] =>
    head ++ "byte 0x" ++ hexByte byte ++ " in position " ++ Nat.repr e.start ++ ": " ++ e.reason
  | _ =>
    head ++ "bytes in position " ++ Nat.repr e.start ++ "-" ++
      Nat.repr (e.start + e.bytes.length - 1) ++ ": " ++ e.reason

/-- Read characters from a byte offset on; `skip` bytes still belong to the last character. -/
def decodeFrom (offset : Nat) : Nat → List UInt8 → Except DecodeError (List Char)
  | _, [] => .ok []
  | skip + 1, _ :: rest => decodeFrom (offset + 1) skip rest
  | 0, lead :: rest =>
    match step lead rest with
    | .fault reason more => .error ⟨offset, lead :: rest.take more, reason.message⟩
    | .char c more => (decodeFrom (offset + 1) more rest).map (c :: ·)

/-- Read bytes as text, strictly. -/
def decode (bytes : List UInt8) : Except DecodeError String :=
  (decodeFrom 0 0 bytes).map String.ofList

/-- Read characters, with `U+FFFD` for each ill-formed sequence; `skip` bytes still belong to the
    last one read. -/
def decodeLossyFrom : Nat → List UInt8 → List Char
  | _, [] => []
  | skip + 1, _ :: rest => decodeLossyFrom skip rest
  | 0, lead :: rest =>
    match step lead rest with
    | .fault _ more => '\uFFFD' :: decodeLossyFrom more rest
    | .char c more => c :: decodeLossyFrom more rest

/-- Read bytes as text whatever they hold. -/
def decodeLossy (bytes : List UInt8) : String := String.ofList (decodeLossyFrom 0 bytes)

/-- The bytes of a text. -/
def encode (text : String) : List UInt8 := text.toList.flatMap String.utf8EncodeChar

/-- The number of bytes of a text. -/
def byteLength (text : String) : Nat := (encode text).length

end ContractBench.Utf8
