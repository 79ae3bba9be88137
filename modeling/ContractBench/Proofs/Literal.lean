import ContractBench.Json.Reader
import ContractBench.Json.Writer

/-! # String literals are read back

One step of the reader of strings for each form in which a character can be written: plain, behind
a backslash, as one escaped unit, or as the two units of a surrogate pair. The steps hold of the
strict and of the lenient reader. What is written by `Json.quote` is made of them
(`readString_quoted`).
-/

namespace ContractBench.Json

variable {strict : Bool} {start : Nat} {before rest : List Char}

/-! ## Units -/

theorem hexValue?_hexDigit {n : Nat} (small : n < 16) : hexValue? (Text.hexDigit n) = some n := by
  revert n
  decide

theorem unit?_hexDigits {n : Nat} (small : n < 0x10000) (rest : List Char) :
    ∃ a b c d, Text.hexDigits 4 n ++ rest = a :: b :: c :: d :: rest ∧ unit? a b c d = some n := by
  refine ⟨_, _, _, _, rfl, ?_⟩
  simp only [unit?, hexValue?_hexDigit (Nat.mod_lt _ (by decide : 0 < 16))]
  change some _ = some n
  congr 1
  omega

/-- A unit that leaves no half of a pair alone is taken by both readers. -/
theorem readString_unitEscape {state : StringState} {unit : Nat} (small : unit < 0x10000)
    (more : rest ≠ []) (paired : state.strands unit = false) :
    readString strict start state (unitEscape unit ++ rest) =
      readString strict start (state.pushUnit unit) rest := by
  obtain ⟨a, b, c, d, digits, read⟩ := unit?_hexDigits small rest
  rw [unitEscape, List.cons_append, List.cons_append, digits, readString.eq_3, read]
  simp [more, paired]

/-! ## Characters -/

theorem readString_escaped {c letter : Char} (notUnit : letter ≠ 'u')
    (stands : escaped? letter = some c) :
    readString strict start ⟨before, none⟩ ('\\' :: letter :: rest) =
      readString strict start ⟨c :: before, none⟩ rest := by
  rw [readString.eq_5 _ _ _ _ _ notUnit, stands]
  cases strict <;> rfl

theorem readString_plain {c : Char} (noQuote : c ≠ '"') (noEscape : c ≠ '\\')
    (noControl : ¬ c.toNat < 0x20) :
    readString strict start ⟨before, none⟩ (c :: rest) =
      readString strict start ⟨c :: before, none⟩ rest := by
  rw [readString.eq_7 _ _ _ _ _ noQuote (fun _ h => absurd h noEscape)
    (fun _ _ h => absurd h noEscape) (fun h => absurd h noEscape), if_neg noControl]
  cases strict <;> rfl

theorem readString_unit {c : Char} (more : rest ≠ []) (small : c.toNat < 0x10000) :
    readString strict start ⟨before, none⟩ (unitEscape c.toNat ++ rest) =
      readString strict start ⟨c :: before, none⟩ rest := by
  have valid : c.toNat < 0xD800 ∨ 0xDFFF < c.toNat ∧ c.toNat < 0x110000 := c.valid
  have notHigh : isHighSurrogate c.toNat = false := by simp [isHighSurrogate]; omega
  have notLow : isLowSurrogate c.toNat = false := by simp [isLowSurrogate]; omega
  rw [readString_unitEscape small more (by simp [StringState.strands, notLow])]
  simp [StringState.pushUnit, notHigh, notLow, StringState.push, StringState.settle]

/-- A character beyond the first plane is read back from its two units. -/
theorem readString_pair {c : Char} (more : rest ≠ []) (large : ¬ c.toNat < 0x10000) :
    readString strict start ⟨before, none⟩
        (unitEscape (0xD800 + (c.toNat - 0x10000) / 0x400) ++
          (unitEscape (0xDC00 + (c.toNat - 0x10000) % 0x400) ++ rest)) =
      readString strict start ⟨c :: before, none⟩ rest := by
  have valid : c.toNat < 0xD800 ∨ 0xDFFF < c.toNat ∧ c.toNat < 0x110000 := c.valid
  generalize highIs : 0xD800 + (c.toNat - 0x10000) / 0x400 = high
  generalize lowIs : 0xDC00 + (c.toNat - 0x10000) % 0x400 = low
  have isHigh : isHighSurrogate high = true := by simp [isHighSurrogate]; omega
  have highNotLow : isLowSurrogate high = false := by simp [isLowSurrogate]; omega
  have isLow : isLowSurrogate low = true := by simp [isLowSurrogate]; omega
  have lowNotHigh : isHighSurrogate low = false := by simp [isHighSurrogate]; omega
  have joined : Char.ofNat (0x10000 + (high - 0xD800) * 0x400 + (low - 0xDC00)) = c := by
    rw [show 0x10000 + (high - 0xD800) * 0x400 + (low - 0xDC00) = c.toNat by omega]
    exact Char.ofNat_toNat c
  rw [readString_unitEscape (by omega) (by simp [unitEscape])
    (by simp [StringState.strands, highNotLow])]
  simp only [StringState.pushUnit, isHigh, if_true, StringState.settle]
  rw [readString_unitEscape (by omega) more (by simp [StringState.strands, isLow])]
  simp [StringState.pushUnit, lowNotHigh, isLow, joined]

/-! ## Whole literals -/

/-- Every character is read back from the way it is written. -/
theorem readString_escapeChar (c : Char) (more : rest ≠ []) :
    readString strict start ⟨before, none⟩ (escapeChar c ++ rest) =
      readString strict start ⟨c :: before, none⟩ rest := by
  rw [escapeChar]
  -- The seven characters that are written with a letter of their own.
  iterate 7
    split
    · subst ‹c = _›
      exact readString_escaped (by decide) rfl
  split
  next noQuote noEscape _ _ _ _ _ printable =>
    exact readString_plain noQuote noEscape (by omega)
  split
  next small => exact readString_unit more small
  next large => rw [List.append_assoc, readString_pair more large]

theorem readString_quoted (s : String) :
    readString strict start ⟨before, none⟩ (s.toList.flatMap escapeChar ++ '"' :: rest) =
      .ok (String.ofList (before.reverse ++ s.toList), rest) := by
  induction s.toList generalizing before with
  | nil => simp [readString, StringState.settle]
  | cons c cs ih =>
      rw [List.flatMap_cons, List.append_assoc, readString_escapeChar c (by simp), ih]
      simp

end ContractBench.Json
