import ContractBench.Message
import ContractBench.Proofs.Document

/-! # Messages survive their text

What is written for a document is printable ASCII, and no space stands in it outside of a string
literal (`tight_write`). So the text of a message is safe among the arguments of the daemon and says
which message it is: `Message.encode_faithful`.
-/

namespace ContractBench

namespace Json

/-! ## The characters of a text -/

/-- The characters of a text outside of its string literals. In a literal a backslash takes the
    next character with it. -/
def outside : Bool → List Char → List Char
  | _, [] => []
  | false, c :: rest => if c = '"' then outside true rest else c :: outside false rest
  | true, '\\' :: _ :: rest => outside true rest
  | true, c :: rest => if c = '"' then outside false rest else outside true rest

/-- The characters of ASCII from the space to the tilde. -/
def PrintableAscii (c : Char) : Prop := 0x20 ≤ c.toNat ∧ c.toNat ≤ 0x7E

instance (c : Char) : Decidable (PrintableAscii c) := inferInstanceAs (Decidable (_ ∧ _))

/-- Printable characters that stay inside of the literal in which they stand. -/
structure Covered (cs : List Char) : Prop where
  printable : ∀ c ∈ cs, PrintableAscii c
  stays : ∀ rest, outside true (cs ++ rest) = outside true rest

theorem covered_nil : Covered [] := ⟨nofun, fun _ => rfl⟩

theorem Covered.append {cs ds : List Char} (h : Covered cs) (g : Covered ds) :
    Covered (cs ++ ds) where
  printable c inside := (List.mem_append.mp inside).elim (h.printable c) (g.printable c)
  stays rest := by rw [List.append_assoc, h.stays, g.stays]

theorem covered_plain {c : Char} (printable : PrintableAscii c) (noQuote : c ≠ '"')
    (noEscape : c ≠ '\\') : Covered [c] where
  printable := by simpa using printable
  stays rest := by
    rw [List.singleton_append, outside, if_neg noQuote]
    rintro d tail rfl
    contradiction

theorem covered_escaped (letter : Char) (printable : PrintableAscii letter) :
    Covered ['\\', letter] where
  printable := by
    simp only [List.forall_mem_cons]
    exact ⟨by decide, printable, nofun⟩
  stays rest := by simp [outside]

theorem covered_hexDigits (width unit : Nat) : Covered (Text.hexDigits width unit) := by
  have digit : ∀ n < 16, PrintableAscii (Text.hexDigit n) ∧ Text.hexDigit n ≠ '"' ∧
      Text.hexDigit n ≠ '\\' := by decide
  induction width generalizing unit with
  | zero => exact covered_nil
  | succ width ih =>
      obtain ⟨printable, noQuote, noEscape⟩ := digit (unit % 16) (Nat.mod_lt _ (by decide))
      exact (ih (unit / 16)).append (covered_plain printable noQuote noEscape)

theorem covered_unitEscape (unit : Nat) : Covered (unitEscape unit) :=
  (covered_escaped 'u' (by decide)).append (covered_hexDigits 4 unit)

theorem covered_escapeChar (c : Char) : Covered (escapeChar c) := by
  rw [escapeChar]
  -- The seven characters that are written with a letter of their own.
  iterate 7
    split
    · exact covered_escaped _ (by decide)
  split
  next noQuote noEscape _ _ _ _ _ printable =>
    exact covered_plain ⟨printable.1, by omega⟩ noQuote noEscape
  split
  next => exact covered_unitEscape _
  next => exact (covered_unitEscape _).append (covered_unitEscape _)

theorem covered_literal (cs : List Char) : Covered (cs.flatMap escapeChar) := by
  induction cs with
  | nil => exact covered_nil
  | cons c cs ih => exact (covered_escapeChar c).append ih

/-- Printable characters that bring no space to what is outside of literals, whatever follows. -/
structure Tight (cs : List Char) : Prop where
  printable : ∀ c ∈ cs, PrintableAscii c
  noSpace : ∀ rest, ' ' ∈ outside false (cs ++ rest) → ' ' ∈ outside false rest

theorem tight_nil : Tight [] := ⟨nofun, fun _ found => found⟩

theorem Tight.append {cs ds : List Char} (h : Tight cs) (g : Tight ds) : Tight (cs ++ ds) where
  printable c inside := (List.mem_append.mp inside).elim (h.printable c) (g.printable c)
  noSpace rest found := by
    rw [List.append_assoc] at found
    exact g.noSpace rest (h.noSpace _ found)

/-- A character that is neither a quote nor a space. -/
theorem Tight.cons {c : Char} {cs : List Char}
    (mark : PrintableAscii c ∧ c ≠ ' ' ∧ c ≠ '"') (h : Tight cs) : Tight (c :: cs) where
  printable := List.forall_mem_cons.mpr ⟨mark.1, h.printable⟩
  noSpace rest found := by
    rw [List.cons_append, outside, if_neg mark.2.2] at found
    exact h.noSpace rest (List.mem_of_ne_of_mem mark.2.1.symm found)

theorem tight_quote (s : String) : Tight (quote s).toList where
  printable := by
    have inside := (covered_literal s.toList).printable
    intro c found
    simp only [quote, String.toList_ofList, List.mem_cons, List.mem_append, List.cons_append,
      List.not_mem_nil, or_false] at found
    rcases found with rfl | found | rfl
    · decide
    · exact inside c found
    · decide
  noSpace rest found := by
    simpa [quote, outside, (covered_literal s.toList).stays] using found

theorem tight_digits (n : Nat) : Tight (Nat.toDigits 10 n) := by
  have digits : ∀ c ∈ Nat.toDigits 10 n, c.isDigit = true :=
    fun c inside => Nat.isDigit_of_mem_toDigits (by decide) (by decide) inside
  generalize Nat.toDigits 10 n = cs at digits ⊢
  induction cs with
  | nil => exact tight_nil
  | cons c cs ih =>
      refine Tight.cons ?_ (ih fun d inside => digits d (List.mem_cons_of_mem _ inside))
      have digit := digits c List.mem_cons_self
      have range := isDigit_iff.mp digit
      exact ⟨⟨by omega, by omega⟩, ne_of_isDigit digit rfl, ne_of_isDigit digit rfl⟩

theorem tight_commas {parts : List String} (each : ∀ part ∈ parts, Tight part.toList) :
    Tight (commas parts) := by
  induction parts with
  | nil => exact tight_nil
  | cons part parts ih =>
      have first := each part List.mem_cons_self
      have others := ih fun other inside => each other (List.mem_cons_of_mem _ inside)
      cases parts with
      | nil => simpa using first
      | cons next parts =>
          rw [commas_cons_cons]
          exact first.append (others.cons (by decide))

theorem tight_member {key body : String} (h : Tight body.toList) :
    Tight (member key body).toList := by
  have text := toList_member key body []
  rw [List.append_nil, List.append_nil] at text
  rw [text]
  exact (tight_quote key).append (h.cons (by decide))

theorem writeItems_each {items : List Value} {parts : List String}
    (wrote : writeItems items = .ok parts) :
    ∀ part ∈ parts, ∃ item ∈ items, write item = .ok part := by
  induction items generalizing parts with
  | nil =>
      obtain rfl := Except.ok.inj wrote
      nofun
  | cons item items ih =>
      obtain ⟨first, others, one, many, rfl⟩ := writeItems_cons wrote
      refine List.forall_mem_cons.mpr ⟨⟨item, List.mem_cons_self, one⟩, fun part inside => ?_⟩
      obtain ⟨other, among, written⟩ := ih many part inside
      exact ⟨other, List.mem_cons_of_mem _ among, written⟩

theorem writeEntries_each {entries : List (String × Value)} {parts : List String}
    (wrote : writeEntries (entries.map Value.textEntry) = .ok parts) :
    ∀ part ∈ parts, ∃ entry ∈ entries, ∃ body, write entry.2 = .ok body ∧
      part = member entry.1 body := by
  induction entries generalizing parts with
  | nil =>
      obtain rfl := Except.ok.inj wrote
      nofun
  | cons entry entries ih =>
      obtain ⟨body, others, one, many, rfl⟩ := writeEntries_cons wrote
      refine List.forall_mem_cons.mpr ⟨⟨entry, List.mem_cons_self, body, one, rfl⟩,
        fun part inside => ?_⟩
      obtain ⟨other, among, written⟩ := ih many part inside
      exact ⟨other, List.mem_cons_of_mem _ among, written⟩

theorem tight_write {depth : Nat} {v : Value} (h : v.Document depth) {s : String}
    (wrote : write v = .ok s) : Tight s.toList := by
  induction h generalizing s with
  | null =>
      obtain rfl := Except.ok.inj wrote
      iterate 4 refine Tight.cons (by decide) ?_
      exact tight_nil
  | bool b =>
      obtain rfl := Except.ok.inj wrote
      cases b with
      | true =>
          iterate 4 refine Tight.cons (by decide) ?_
          exact tight_nil
      | false =>
          iterate 5 refine Tight.cons (by decide) ?_
          exact tight_nil
  | int n =>
      rw [(writeInt_ok wrote).1]
      split
      · exact (tight_digits _).cons (by decide)
      · exact tight_digits _
  | text t =>
      obtain rfl := Except.ok.inj wrote
      exact tight_quote t
  | list each ih =>
      obtain ⟨parts, many, characters⟩ := write_list wrote
      rw [characters]
      refine Tight.cons (by decide) (Tight.append (tight_commas ?_) (tight_nil.cons (by decide)))
      intro part inside
      obtain ⟨item, among, written⟩ := writeItems_each many part inside
      exact ih item among written
  | dict distinct each ih =>
      obtain ⟨parts, many, characters⟩ := write_dict wrote
      rw [characters]
      refine Tight.cons (by decide) (Tight.append (tight_commas ?_) (tight_nil.cons (by decide)))
      intro part inside
      obtain ⟨entry, among, body, written, rfl⟩ := writeEntries_each many part inside
      exact tight_member (ih entry among written)

/-! ## Documents -/

theorem read_write {depth : Nat} {v : Value} (h : v.Document depth) (roomy : depth ≤ deepest false)
    {s : String} (wrote : write v = .ok s) : read s = .ok v := by
  obtain ⟨begins, reads⟩ := readValue_write h s wrote
  have value := reads (2 * s.toList.length + 2) (deepest false) [] (by omega) roomy ends_nil
  have noBlank := begins.skipBlanks []
  rw [List.append_nil] at value noBlank
  rw [read]
  split
  next rest marked =>
    have printable := (tight_write h wrote).printable '\uFEFF' (by simp [marked])
    exact absurd printable (by decide)
  next =>
    rw [readDocument, noBlank, value]
    rfl

end Json

namespace Message

theorem encode_document {depth : Nat} {message : Value} (h : message.Document depth) :
    encode message = (Json.write message).mapError .unwritable := by
  cases h <;> rfl

theorem write_of_encode {depth : Nat} {message : Value} (h : message.Document depth) {text : String}
    (sent : encode message = .ok text) : Json.write message = .ok text := by
  rw [encode_document h] at sent
  cases known : Json.write message with
  | error fault =>
      rw [known] at sent
      contradiction
  | ok s =>
      rw [known] at sent
      obtain rfl := Except.ok.inj sent
      rfl

/-- A message that is a document and is sent as some text is read back from it unchanged, unless
    it is nested too deep to be read at all. The text is printable and has no space outside of its
    literals, and no other document is sent as it. -/
theorem encode_faithful {depth : Nat} {message : Value} (h : message.Document depth)
    {text : String} (sent : encode message = .ok text) :
    (depth ≤ Json.deepest false → Json.read text = .ok message) ∧
      (∀ c ∈ text.toList, 0x20 ≤ c.toNat ∧ c.toNat ≤ 0x7E) ∧
      ' ' ∉ Json.outside false text.toList ∧
      ∀ deep other, Value.Document deep other → encode other = .ok text → other = message := by
  have wrote := write_of_encode h sent
  have tight := Json.tight_write h wrote
  refine ⟨fun roomy => Json.read_write h roomy wrote, tight.printable, fun found => ?_, ?_⟩
  · have ended := tight.noSpace [] (by simpa using found)
    simp [Json.outside] at ended
  · intro deep other g same
    exact Json.write_injective h g wrote (write_of_encode g same)

/-- A message with an emoji, a quote, a delete character and a line break in its literals. -/
theorem encode_greeting_faithful :
    Json.read
        "\x7b\"say\":\"\\u007f \\ud83d\\ude00\\\"\",\"to\":[-3,null,\x7b\"a\\n\":true\x7d]\x7d" =
      .ok (.dict ([("say", .text "\x7f 😀\""),
        ("to", .list [.int (-3), .null, .dict ([("a\n", .bool true)].map Value.textEntry)])].map
          Value.textEntry)) := by
  refine (encode_faithful (Value.Document.dict (by decide) ?_ : Value.Document 3 _) ?_).1
    (by decide)
  · simp only [List.forall_mem_cons]
    refine ⟨.text _, .list ?_, nofun⟩
    simp only [List.forall_mem_cons]
    refine ⟨.int _, .null, .dict (by decide) ?_, nofun⟩
    simp only [List.forall_mem_cons]
    exact ⟨.bool _, nofun⟩
  · rfl

end Message

/-! ## Nothing is sent as an empty text -/

theorem NumberLayout.write_ne_empty (layout : NumberLayout) (ds : String) (point : Int) :
    layout.write ds point ≠ "" := by
  rw [write]
  split
  · split
    · simp
    · split <;> simp
  · simp

theorem Binary64.text_ne_empty (x : Binary64) : x.text ≠ "" := by
  cases x with
  | nan => decide
  | infinite negative => cases negative <;> decide
  | finite negative units =>
      rw [text]
      split
      · simp
      · simp [NumberLayout.write_ne_empty]

theorem Json.write_ne_empty {v : Value} {s : String} (wrote : write v = .ok s) : s ≠ "" := by
  cases v with
  | null => cases wrote; decide
  | bool b => cases wrote; cases b <;> decide
  | int n =>
      have digits := (writeInt_ok wrote).1
      rintro rfl
      simp [Nat.toDigits_ne_nil] at digits
  | float x =>
      cases wrote
      cases x with
      | nan => decide
      | infinite negative => cases negative <;> decide
      | finite negative units => simp [writeFloat, Binary64.text_ne_empty]
  | text t => cases wrote; simp [quote]
  | list | tuple | dict =>
      obtain ⟨parts, -, rfl⟩ := map_eq_ok.mp wrote
      simp
  | bytes | set | record | selfList | selfDict => cases wrote

theorem Message.encode_ne_empty {message : Value} {text : String}
    (encoded : encode message = .ok text) : text ≠ "" := by
  obtain ⟨sent, -, written⟩ := bind_eq_ok.mp encoded
  exact Json.write_ne_empty (mapError_eq_ok.mp written)

end ContractBench
