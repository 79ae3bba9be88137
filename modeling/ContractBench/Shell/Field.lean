import ContractBench.Shell.Pattern

/-! # Fields of shell scripts

What a word gives is a row of glyphs. Those that stand neither in the script itself nor in quotes
are split into fields by separators: white space separates however much of it there is, and every
other separator ends a field, even an empty one.
-/

namespace ContractBench.Shell

/-- What a word gives at one place. -/
inductive Glyph where
  /-- A character in quotes. -/
  | quoted (c : Char)
  /-- A character that stands in the script outside quotes. -/
  | literal (c : Char)
  /-- A character that was put in outside quotes. -/
  | inserted (c : Char)
  /-- Nothing, in quotes; even so there is a field. -/
  | nothing
  /-- The border between two arguments. -/
  | border
  deriving Repr, DecidableEq

namespace Glyph

/-- The character of a glyph, if it has one. -/
def char? : Glyph → Option Char
  | .quoted c => some c
  | .literal c => some c
  | .inserted c => some c
  | .nothing => none
  | .border => none

/-- The text of some glyphs. -/
def text (glyphs : List Glyph) : String := String.ofList (glyphs.filterMap char?)

/-- The characters of some glyphs, marked where they stand for themselves. -/
def marked (glyphs : List Glyph) : List Marked :=
  glyphs.filterMap fun
    | .quoted c => some (c, true)
    | .literal c => some (c, false)
    | .inserted c => some (c, false)
    | _ => none

/-- The pattern that some glyphs are. -/
def pattern (glyphs : List Glyph) : Pattern := .ofMarked (marked glyphs)

/-- The glyphs of a text in quotes. -/
def ofQuoted (text : String) : List Glyph :=
  if text.isEmpty then [.nothing] else text.toList.map .quoted

end Glyph

/-- Fields while they are split: those that are complete, the last first, the one that grows, last
    glyph first, and whether white space alone has ended the last one. -/
structure Splitting where
  /-- The complete fields. -/
  complete : List (List Glyph) := []
  /-- The field that grows. -/
  current : Option (List Glyph) := none
  /-- Whether only white space separates what comes next from the last field. -/
  afterBlank : Bool := false

namespace Splitting

/-- Whether a separator is white space. -/
def isBlank (c : Char) : Bool := c = ' ' || c = '\t' || c = '\n'

/-- Complete the growing field, if there is one. -/
def cut (fields : Splitting) (afterBlank : Bool) : Splitting :=
  match fields.current with
  | some glyphs => ⟨glyphs.reverse :: fields.complete, none, afterBlank⟩
  | none => { fields with afterBlank := fields.afterBlank && afterBlank }

/-- Add a glyph to the growing field. -/
def grow (fields : Splitting) (glyph : Glyph) : Splitting :=
  { fields with current := some (glyph :: fields.current.getD []), afterBlank := false }

/-- Add a glyph. -/
def add (separators : List Char) (fields : Splitting) (glyph : Glyph) : Splitting :=
  match glyph with
  | .inserted c =>
    if !separators.contains c then fields.grow glyph
    else if isBlank c then fields.cut true
    else if fields.current.isNone && !fields.afterBlank then
      { fields with complete := [] :: fields.complete }
    else { fields.cut false with afterBlank := false }
  | .border => fields.cut false
  | glyph => fields.grow glyph

end Splitting

/-- The fields of some glyphs. -/
def splitFields (separators : String) (glyphs : List Glyph) : List (List Glyph) :=
  ((glyphs.foldl (Splitting.add separators.toList) {}).cut false).complete.reverse

end ContractBench.Shell
