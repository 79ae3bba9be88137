import ContractBench.Contract
import ContractBench.Proofs.Literal

/-! # Contracts survive their text

The text of an entry is an object of four quoted texts. A quoted text is read back character by
character (`readString_entryChar`), an object of quoted texts member by member
(`readMembers_body`), and the four fields are then found under their names.
-/

namespace ContractBench

namespace Json

/-- Every character is read back from the way an entry writes it. -/
theorem readString_entryChar (c : Char) (start : Nat) (before : List Char) {rest : List Char}
    (more : rest ≠ []) :
    readString true start ⟨before, none⟩ (Contract.escapeChar c ++ rest) =
      readString true start ⟨c :: before, none⟩ rest := by
  rw [Contract.escapeChar]
  -- The seven characters that are written with a letter of their own.
  iterate 7
    split
    · subst ‹c = _›
      exact readString_escaped (by decide) rfl
  split
  next control => exact readString_unit more (by omega)
  next noQuote noEscape _ _ _ _ _ noControl =>
    exact readString_plain noQuote noEscape noControl

/-- The characters of a quoted text. -/
def quotedChars (s : String) : List Char := '"' :: s.toList.flatMap Contract.escapeChar ++ ['"']

theorem readString_flatMap (cs : List Char) (start : Nat) (before rest : List Char) :
    readString true start ⟨before, none⟩ (cs.flatMap Contract.escapeChar ++ '"' :: rest) =
      .ok (String.ofList (before.reverse ++ cs), rest) := by
  induction cs generalizing before with
  | nil => simp [readString, StringState.settle]
  | cons c cs ih =>
      rw [List.flatMap_cons, List.append_assoc, readString_entryChar c start before (by simp), ih]
      simp

theorem readString_entryText (s : String) (start : Nat) (rest : List Char) :
    readString true start ⟨[], none⟩ (s.toList.flatMap Contract.escapeChar ++ '"' :: rest) =
      .ok (s, rest) := by
  rw [readString_flatMap]
  simp

theorem readValue_quoted (fuel room : Nat) (s : String) (rest : List Char) :
    readValue true (fuel + 1) room (quotedChars s ++ rest) = .ok (.text s, rest) := by
  simp [quotedChars, readValue, readString_entryText]

theorem skipBlanks_quoted (s : String) (rest : List Char) :
    skipBlanks (quotedChars s ++ rest) = quotedChars s ++ rest := by
  simp [quotedChars, skipBlanks, isBlank]

theorem readKey_quoted (s : String) (rest : List Char) :
    readKey true (quotedChars s ++ ':' :: rest) = .ok (s, skipBlanks rest) := by
  simp [quotedChars, readKey, readString_entryText, skipBlanks, isBlank]

/-- An object of texts from its first member on. -/
def body : String × String → List (String × String) → List Char
  | (key, text), [] => quotedChars key ++ ':' :: (quotedChars text ++ ['}'])
  | (key, text), next :: others =>
    quotedChars key ++ ':' :: (quotedChars text ++ ',' :: body next others)

def textEntry (member : String × String) : Value × Value := (.text member.1, .text member.2)

theorem skipBlanks_body (member : String × String) (others : List (String × String))
    (rest : List Char) : skipBlanks (body member others ++ rest) = body member others ++ rest := by
  cases others <;> simp [body, skipBlanks_quoted]

theorem readMembers_last (fuel room : Nat) (before : List (Value × Value))
    (member : String × String) (rest : List Char) :
    readMembers true (fuel + 2) room before (body member [] ++ rest) =
      .ok (.ofEntries (textEntry member :: before).reverse, rest) := by
  obtain ⟨key, text⟩ := member
  simp only [body, List.append_assoc, List.cons_append, readMembers, readKey_quoted,
    skipBlanks_quoted, readValue_quoted]
  simp [skipBlanks, isBlank, textEntry]

theorem readMembers_next (fuel room : Nat) (before : List (Value × Value))
    (member next : String × String) (others : List (String × String)) (rest : List Char) :
    readMembers true (fuel + 2) room before (body member (next :: others) ++ rest) =
      readMembers true (fuel + 1) room (textEntry member :: before) (body next others ++ rest) := by
  obtain ⟨key, text⟩ := member
  have comma (tail : List Char) : skipBlanks (',' :: tail) = ',' :: tail := by
    simp [skipBlanks, isBlank]
  rw [readMembers]
  simp only [body, List.append_assoc, List.cons_append, readKey_quoted, skipBlanks_quoted,
    readValue_quoted, comma, skipBlanks_body]
  rfl

/-- An object of texts is read member by member. -/
theorem readMembers_body (fuel room : Nat) (before : List (Value × Value))
    (member : String × String) (others : List (String × String)) (rest : List Char) :
    readMembers true (fuel + others.length + 2) room before (body member others ++ rest) =
      .ok (.ofEntries (before.reverse ++ (member :: others).map textEntry), rest) := by
  induction others generalizing member before with
  | nil =>
      rw [List.length_nil, Nat.add_zero, readMembers_last]
      simp
  | cons next others ih =>
      rw [List.length_cons, ← Nat.add_assoc, readMembers_next, Nat.add_right_comm, ih]
      simp

theorem length_body (member : String × String) (others : List (String × String)) :
    others.length < (body member others).length := by
  induction others generalizing member with
  | nil =>
      simp only [body, List.length_append, List.length_cons, List.length_nil]
      omega
  | cons next others ih =>
      have shorter := ih next
      simp only [body, List.length_append, List.length_cons]
      omega

theorem readValue_body {fuel room : Nat} (roomy : room ≠ 0) (member : String × String)
    (others : List (String × String)) :
    readValue true (fuel + 1) room ('{' :: body member others) =
      readMembers true fuel room [] (body member others) := by
  have blanks := skipBlanks_body member others []
  obtain ⟨tail, first⟩ : ∃ tail, body member others = '"' :: tail := by
    cases others <;> exact ⟨_, rfl⟩
  rw [List.append_nil, first] at blanks
  rw [first, readValue.eq_4, blanks]
  exact if_pos roomy

/-- An object of texts is read as the dictionary of its members. -/
theorem readStrict?_body (member : String × String) (others : List (String × String)) :
    readStrict? (String.ofList ('{' :: body member others)) =
      some (.ofEntries ((member :: others).map textEntry)) := by
  -- There is more fuel than members.
  obtain ⟨fuel, enough⟩ : ∃ fuel, 2 * ('{' :: body member others).length + 2 =
      fuel + others.length + 2 + 1 := by
    have longer := length_body member others
    exact ⟨2 * (body member others).length + 1 - others.length, by simp; omega⟩
  have brace : skipBlanks ('{' :: body member others) = '{' :: body member others := by
    simp [skipBlanks, isBlank]
  have members := readMembers_body fuel (deepest true) [] member others []
  rw [List.append_nil] at members
  rw [readStrict?, String.toList_ofList, readDocument, enough, brace,
    readValue_body (by decide), members]
  rfl

end Json

namespace Contract

/-- The fields of a contract with their names. -/
def members (contract : Contract) : List (String × String) :=
  [("id", contract.id), ("address", contract.address), ("code_hash", contract.codeHash)]

theorem encode_eq (contract : Contract) :
    contract.encode =
      String.ofList ('{' :: Json.body ("label", contract.label) contract.members) := by
  have label : Json.quotedChars "label" = "\"label\"".toList := by decide
  have id : Json.quotedChars "id" = "\"id\"".toList := by decide
  have address : Json.quotedChars "address" = "\"address\"".toList := by decide
  have codeHash : Json.quotedChars "code_hash" = "\"code_hash\"".toList := by decide
  rw [← String.toList_inj]
  simp [encode, quote, members, Json.body, label, id, address, codeHash]
  simp [Json.quotedChars]

theorem decode_encode (contract : Contract) : decode contract.encode = .ok contract := by
  rw [decode, encode_eq, Json.readStrict?_body]
  simp [members, Json.textEntry, Value.ofEntries, Value.setEntry, Value.sameKey]
  rfl

end Contract

end ContractBench
