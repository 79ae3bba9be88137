/-! # Blank characters

Two classes of blank characters are in use: the white space of Unicode, which numerals may carry
around them, and that class with the four information separators, which is stripped from what the
daemon writes to its error stream.
-/

namespace ContractBench.Text

/-- White space in the sense of Unicode. -/
def isWhiteSpace (c : Char) : Bool :=
  let n := c.toNat
  (9 ≤ n && n ≤ 13) || n = 32 || n = 0x85 || n = 0xA0 || n = 0x1680 ||
    (0x2000 ≤ n && n ≤ 0x200A) || n = 0x2028 || n = 0x2029 || n = 0x202F || n = 0x205F || n = 0x3000

/-- White space or one of the information separators `U+001C` to `U+001F`. -/
def isBlank (c : Char) : Bool :=
  isWhiteSpace c || (0x1C ≤ c.toNat && c.toNat ≤ 0x1F)

/-- Drop the characters of a class from both ends. -/
def trimBy (drop : Char → Bool) (cs : List Char) : List Char :=
  ((cs.dropWhile drop).reverse.dropWhile drop).reverse

/-- A text without the blanks at its ends. -/
def strip (text : String) : String := String.ofList (trimBy isBlank text.toList)

/-- Strip one line end: a newline, and the carriage return before it. -/
def dropLineEnd (text : String) : String :=
  match text.toList.reverse with
  | '\n' :: '\r' :: rest => String.ofList rest.reverse
  | '\n' :: rest => String.ofList rest.reverse
  | _ => text

/-- The first line of a text. -/
def firstLine (text : String) : String :=
  String.ofList (text.toList.takeWhile (· ≠ '\n'))

/-- What a report says at its end, before the place where more is said. -/
def referral : String := "\n    For further information visit "

/-- Whether a text goes on somewhere with another one. -/
def holds (part : List Char) : List Char → Bool
  | [] => part.isEmpty
  | c :: rest => part.isPrefixOf (c :: rest) || holds part rest

/-- A message without the report that it quotes: its first line if it quotes one. -/
def summary (text : String) : String :=
  if holds referral.toList text.toList then firstLine text else text

end ContractBench.Text
