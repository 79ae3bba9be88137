import ContractBench.Text.Blank
import ContractBench.Text.Printable

/-! # Letters

Letters beyond those of `Char.isAlpha`, which knows 26 of them, with their upper and lower case: of
the Latin, Greek and Cyrillic alphabets case is known, of other scripts only what is a letter.
-/

namespace ContractBench.Text

/-- The closed ranges of the code points of letters beyond the first 128, in increasing order. -/
def letterRanges : List (Nat × Nat) :=
  [(0xAA, 0xAA), (0xB5, 0xB5), (0xBA, 0xBA), (0xC0, 0xD6), (0xD8, 0xF6), (0xF8, 0x2C1),
   (0x2C6, 0x2D1), (0x2E0, 0x2E4), (0x370, 0x374), (0x376, 0x377), (0x37A, 0x37D),
   (0x37F, 0x37F), (0x386, 0x386), (0x388, 0x3F5), (0x3F7, 0x481), (0x48A, 0x52F),
   (0x531, 0x556), (0x561, 0x587), (0x5D0, 0x5EA), (0x620, 0x669), (0x671, 0x6D3),
   (0x904, 0x939), (0x966, 0x96F), (0xE01, 0xE30), (0xE50, 0xE59), (0x10A0, 0x10FF),
   (0x1100, 0x1248), (0x1D00, 0x1DBF), (0x1E00, 0x1FBC), (0x2071, 0x2071), (0x207F, 0x207F),
   (0x2102, 0x2102), (0x2126, 0x2126), (0x212A, 0x212B), (0x2160, 0x2188), (0x3005, 0x3007),
   (0x3041, 0x3096), (0x309D, 0x309F), (0x30A1, 0x30FA), (0x30FC, 0x30FF), (0x3105, 0x318E),
   (0x3400, 0x4DBF), (0x4E00, 0xA48C), (0xAC00, 0xD7A3), (0xF900, 0xFAD9), (0xFF10, 0xFF19),
   (0xFF21, 0xFF3A), (0xFF41, 0xFF5A), (0xFF66, 0xFFDC), (0x10400, 0x1044F),
   (0x1D400, 0x1D7FF), (0x20000, 0x3134A)]

/-- Whether a number lies in one of some closed ranges. -/
def isInRanges (ranges : List (Nat × Nat)) (n : Nat) : Bool :=
  ranges.any fun range => range.1 ≤ n && n ≤ range.2

/-- A letter of any script. -/
def isLetter (c : Char) : Bool :=
  if c.toNat < 128 then c.isAlpha else isInRanges letterRanges c.toNat

/-- A row of letters of both cases: every code point from one to another, so far from each other or,
    where capital and small letters take turns, next to each other. -/
structure CaseRow where
  /-- The first capital letter. -/
  first : Nat
  /-- The last capital letter. -/
  last : Nat
  /-- How far behind its capital letter a small one is. -/
  distance : Nat
  /-- How far from one capital letter to the next. -/
  step : Nat
  deriving Repr, DecidableEq

/-- Whether a code point is one of the capital letters of a row. -/
def CaseRow.hasCapital (row : CaseRow) (n : Nat) : Bool :=
  row.first ≤ n && n ≤ row.last && (n - row.first) % row.step = 0

/-- The rows of letters of both cases. -/
def caseRows : List CaseRow :=
  [⟨0x41, 0x5A, 32, 1⟩, ⟨0xC0, 0xD6, 32, 1⟩, ⟨0xD8, 0xDE, 32, 1⟩, ⟨0x100, 0x12E, 1, 2⟩,
   ⟨0x132, 0x136, 1, 2⟩, ⟨0x139, 0x147, 1, 2⟩, ⟨0x14A, 0x176, 1, 2⟩, ⟨0x179, 0x17D, 1, 2⟩,
   ⟨0x1CD, 0x1DB, 1, 2⟩, ⟨0x1DE, 0x1EE, 1, 2⟩, ⟨0x1F8, 0x21E, 1, 2⟩, ⟨0x222, 0x232, 1, 2⟩,
   ⟨0x386, 0x386, 38, 1⟩, ⟨0x388, 0x38A, 37, 1⟩, ⟨0x38C, 0x38C, 64, 1⟩, ⟨0x38E, 0x38F, 63, 1⟩,
   ⟨0x391, 0x3A1, 32, 1⟩, ⟨0x3A3, 0x3AB, 32, 1⟩, ⟨0x400, 0x40F, 80, 1⟩, ⟨0x410, 0x42F, 32, 1⟩,
   ⟨0x460, 0x480, 1, 2⟩, ⟨0x48A, 0x4BE, 1, 2⟩, ⟨0x4C1, 0x4CD, 1, 2⟩, ⟨0x4D0, 0x52E, 1, 2⟩,
   ⟨0x531, 0x556, 48, 1⟩, ⟨0x1E00, 0x1E94, 1, 2⟩, ⟨0x1EA0, 0x1EFE, 1, 2⟩,
   ⟨0xFF21, 0xFF3A, 32, 1⟩]

/-- The small letters whose capital letters lie before or far behind them, with these. -/
def capitalsApart : List (Nat × Nat) :=
  [(0xB5, 0x39C), (0xFF, 0x178), (0x131, 0x49), (0x17F, 0x53), (0x3C2, 0x3A3)]

/-- The capital letter of a letter. -/
def upperCase (c : Char) : Char :=
  let n := c.toNat
  match capitalsApart.find? fun pair => pair.1 = n with
  | some (_, capital) => Char.ofNat capital
  | none =>
    match caseRows.find? fun row => row.distance ≤ n && row.hasCapital (n - row.distance) with
    | some row => Char.ofNat (n - row.distance)
    | none => c

/-- The small letter of a letter. -/
def lowerCase (c : Char) : Char :=
  let n := c.toNat
  if n = 0x178 then Char.ofNat 0xFF
  else
    match caseRows.find? fun row => row.hasCapital n with
    | some row => Char.ofNat (n + row.distance)
    | none => c

/-- Whether a character beyond the first 128 is in a class of characters. -/
def isInWideClass (name : String) (c : Char) : Bool :=
  match name with
  | "alpha" => isLetter c
  | "alnum" => isLetter c
  | "upper" => lowerCase c ≠ c
  | "lower" => upperCase c ≠ c || c = 'ß' || c = 'ĸ'
  | "space" => isWhiteSpace c && c.toNat ≠ 0xA0 && c.toNat ≠ 0x202F && c.toNat ≠ 0x2007
  | "blank" => isWhiteSpace c && c.toNat ≠ 0xA0 && c.toNat ≠ 0x202F && c.toNat ≠ 0x2007
  | "print" => isPrintable c
  | "graph" => isPrintable c
  | "punct" => isPrintable c && !isLetter c
  | "cntrl" => c.toNat < 0xA0
  | _ => false

end ContractBench.Text
