import ContractBench.Proofs.Bench
import ContractBench.Proofs.Decimal
import ContractBench.Proofs.Unwritable

/-! # Messages in the grammar

The text of a message is a text of the grammar unless a floating point number is written by name.
Every other value derives from the grammar as it is written (`derives_of_write`). A name stands
outside of the strings of the text, where the grammar has none (`named_of_write`), so the two cases
exclude each other: `Message.isText_iff`.
-/

namespace ContractBench

/-- A part of a value is a floating point number that is written by name. Keys are no such parts:
    they are written as strings. -/
inductive Value.HoldsSpecial : Value → Prop where
  | nan : HoldsSpecial (.float .nan)
  | infinite (negative : Bool) : HoldsSpecial (.float (.infinite negative))
  | item {items : List Value} {item : Value} (inside : item ∈ items) (special : HoldsSpecial item) :
      HoldsSpecial (.list items)
  | tupleItem {items : List Value} {item : Value} (inside : item ∈ items)
      (special : HoldsSpecial item) : HoldsSpecial (.tuple items)
  | value {entries : List (Value × Value)} {entry : Value × Value} (inside : entry ∈ entries)
      (special : HoldsSpecial entry.2) : HoldsSpecial (.dict entries)

namespace Json

/-! ## Strings -/

theorem hexDigit_hexDigit : ∀ n < 16, HexDigit (Text.hexDigit n) := by decide

theorem chars_unitEscape (unit : Nat) {rest : List Char} (more : Chars rest) :
    Chars (unitEscape unit ++ rest) := by
  have digit (n : Nat) : HexDigit (Text.hexDigit (n % 16)) :=
    hexDigit_hexDigit _ (Nat.mod_lt _ (by decide))
  simp only [unitEscape, Text.hexDigits, List.nil_append, List.cons_append]
  apply Chars.unit _ more
  intro c inside
  simp only [List.mem_cons, List.not_mem_nil, or_false] at inside
  rcases inside with rfl | rfl | rfl | rfl <;> exact digit _

theorem chars_escapeChar (c : Char) {rest : List Char} (more : Chars rest) :
    Chars (escapeChar c ++ rest) := by
  unfold escapeChar
  -- The seven characters that are written with a letter of their own.
  iterate 7
    split
    · exact .escaped (by decide) more
  split
  next noQuote noEscape _ _ _ _ _ printable =>
    exact .unescaped printable.1 noQuote noEscape more
  split
  · exact chars_unitEscape _ more
  · simp only [List.append_assoc]
    exact chars_unitEscape _ (chars_unitEscape _ more)

theorem literal_quote (s : String) : Literal (quote s).toList := by
  have chars (cs : List Char) : Chars (cs.flatMap escapeChar) := by
    induction cs with
    | nil => exact .nil
    | cons c cs ih =>
        rw [List.flatMap_cons]
        exact chars_escapeChar c ih
  exact ⟨_, chars s.toList, by simp [quote]⟩

/-! ## Values without special numbers -/

theorem number_writeInt {n : Int} {s : String} (wrote : writeInt n = .ok s) : Number s.toList := by
  obtain ⟨characters, -⟩ := writeInt_ok wrote
  have whole : Whole (Nat.toDigits 10 n.natAbs) := by
    have same : Whole ((Nat.repr n.natAbs).toList ++ List.replicate 0 '0') := by
      apply whole_padded
      omega
    simpa using same
  have unsigned : Unsigned (Nat.toDigits 10 n.natAbs) :=
    ⟨_, [], [], whole, .inl rfl, .inl rfl, by simp⟩
  rw [characters]
  split
  · exact ⟨['-'], _, .inr rfl, unsigned, rfl⟩
  · exact ⟨[], _, .inl rfl, unsigned, rfl⟩

theorem derives_commas {part : Part} {texts : List String}
    (join : ∀ {first rest}, Derives part first → Derives part rest →
      Derives part (first ++ ',' :: rest))
    (some : texts ≠ []) (each : ∀ text ∈ texts, Derives part text.toList) :
    Derives part (commas texts) := by
  induction texts with
  | nil => exact absurd rfl some
  | cons text others ih =>
      have first := each text (.head _)
      cases others with
      | nil => simpa using first
      | cons next others =>
          rw [commas_cons_cons]
          apply join first
          apply ih
          · simp
          · intro other inside
            exact each other (.tail _ inside)

theorem blanks_nil : Blanks [] := by simp [Blanks]

theorem derives_array {texts : List String}
    (each : ∀ text ∈ texts, Derives .value text.toList) :
    Derives .value ('[' :: (commas texts ++ [']'])) := by
  by_cases none : texts = []
  · subst none
    exact .emptyArray blanks_nil
  · apply Derives.array
    apply derives_commas .items none
    intro text inside
    have item := Derives.item blanks_nil (each text inside) blanks_nil
    simpa using item

theorem derives_member (name : String) {body : String} (value : Derives .value body.toList) :
    Derives .members (member name body).toList := by
  have made := Derives.member blanks_nil (literal_quote name) blanks_nil blanks_nil value blanks_nil
  simpa [member] using made

theorem derives_object {texts : List String}
    (each : ∀ text ∈ texts, Derives .members text.toList) :
    Derives .value ('{' :: (commas texts ++ ['}'])) := by
  by_cases none : texts = []
  · subst none
    exact .emptyObject blanks_nil
  · apply Derives.object
    exact derives_commas .members none each

theorem write_items {items : List Value} {s : String} (wrote : write (.list items) = .ok s) :
    ∃ texts, s.toList = '[' :: (commas texts ++ [']']) ∧
      (∀ item ∈ items, ∃ text ∈ texts, write item = .ok text) ∧
      ∀ text ∈ texts, ∃ item ∈ items, write item = .ok text := by
  obtain ⟨texts, many, characters⟩ := write_list wrote
  rw [writeItems_eq_mapM] at many
  exact ⟨texts, characters, mapM_ok many⟩

theorem writeEntry_ok {entry : Value × Value} {text : String}
    (wrote : writeEntry entry = .ok text) :
    ∃ name body, write entry.2 = .ok body ∧ text = member name body := by
  obtain ⟨name, body, -, written, rfl⟩ := both_eq_ok.mp wrote
  exact ⟨name, body, written, rfl⟩

theorem write_entries {entries : List (Value × Value)} {s : String}
    (wrote : write (.dict entries) = .ok s) :
    ∃ texts, s.toList = '{' :: (commas texts ++ ['}']) ∧
      (∀ entry ∈ entries, ∃ name body, member name body ∈ texts ∧ write entry.2 = .ok body) ∧
      ∀ text ∈ texts, ∃ entry ∈ entries, ∃ name body,
        text = member name body ∧ write entry.2 = .ok body := by
  obtain ⟨texts, many, characters⟩ := write_dict wrote
  rw [writeEntries_eq_mapM] at many
  obtain ⟨forth, back⟩ := mapM_ok many
  refine ⟨texts, characters, ?_, ?_⟩
  · intro entry inside
    obtain ⟨text, among, written⟩ := forth entry inside
    obtain ⟨name, body, isBody, rfl⟩ := writeEntry_ok written
    exact ⟨name, body, among, isBody⟩
  · intro text inside
    obtain ⟨entry, among, written⟩ := back text inside
    obtain ⟨name, body, isBody, same⟩ := writeEntry_ok written
    exact ⟨entry, among, name, body, same, isBody⟩

theorem derives_of_write {v : Value} {s : String} (wrote : write v = .ok s)
    (plain : ¬ v.HoldsSpecial) : Derives .value s.toList := by
  induction v using Value.rec_strong generalizing s with
  | null =>
      cases wrote
      exact .null
  | bool b =>
      cases wrote
      cases b with
      | true => exact .true
      | false => exact .false
  | int n => exact .number (number_writeInt wrote)
  | float x =>
      cases wrote
      cases x with
      | nan => exact absurd .nan plain
      | infinite negative => exact absurd (.infinite negative) plain
      | finite negative units => exact .number (number_finite negative units)
  | text t =>
      cases wrote
      exact .string (literal_quote t)
  | bytes | set | record | selfList | selfDict => cases wrote
  | list items ih =>
      obtain ⟨texts, characters, -, back⟩ := write_items wrote
      rw [characters]
      apply derives_array
      intro text inside
      obtain ⟨item, among, written⟩ := back text inside
      exact ih item among written fun special => plain (.item among special)
  | tuple items ih =>
      obtain ⟨texts, characters, -, back⟩ := write_items wrote
      rw [characters]
      apply derives_array
      intro text inside
      obtain ⟨item, among, written⟩ := back text inside
      exact ih item among written fun special => plain (.tupleItem among special)
  | dict entries ih =>
      obtain ⟨texts, characters, -, back⟩ := write_entries wrote
      rw [characters]
      apply derives_object
      intro text inside
      obtain ⟨entry, among, name, body, rfl, isBody⟩ := back text inside
      apply derives_member
      exact (ih entry among).2 isBody fun special => plain (.value among special)

/-! ## Special numbers -/

theorem closed_commas {texts : List String} (each : ∀ text ∈ texts, Closed text.toList) :
    Closed (commas texts) := by
  induction texts with
  | nil => exact closed_plain (by simp [commas])
  | cons text others ih =>
      have first := each text (.head _)
      have rest := ih fun other inside => each other (.tail _ inside)
      cases others with
      | nil => simpa using first
      | cons next others =>
          rw [commas_cons_cons]
          exact first.append (rest.cons (by decide))

theorem outside_mark {c : Char} (noQuote : c ≠ '"') (cs : List Char) :
    outside false (c :: cs) = c :: outside false cs := by
  rw [outside, if_neg noQuote]

theorem shown_in_commas {texts : List String} (each : ∀ text ∈ texts, Closed text.toList)
    {text : String} (inside : text ∈ texts) {c : Char} (shown : c ∈ outside false text.toList) :
    c ∈ outside false (commas texts) := by
  induction texts with
  | nil => cases inside
  | cons first others ih =>
      have closed := each first (.head _)
      cases others with
      | nil =>
          obtain rfl := List.mem_singleton.mp inside
          simpa using shown
      | cons next others =>
          rw [commas_cons_cons, closed, outside_mark (by decide)]
          cases inside with
          | head => exact List.mem_append_left _ shown
          | tail _ inside =>
              apply List.mem_append_right
              apply List.mem_cons_of_mem
              exact ih (fun other inside => each other (.tail _ inside)) inside

theorem shown_between {c opening closing : Char} {cs : List Char} (noQuote : opening ≠ '"')
    (closed : Closed cs) (shown : c ∈ outside false cs) :
    c ∈ outside false (opening :: (cs ++ [closing])) := by
  rw [outside_mark noQuote, closed]
  exact List.mem_cons_of_mem _ (List.mem_append_left _ shown)

theorem closed_between {opening closing : Char} {cs : List Char}
    (noQuote : opening ≠ '"' ∧ closing ≠ '"') (closed : Closed cs) :
    Closed (opening :: (cs ++ [closing])) := by
  have last : Closed [closing] := closed_plain (by simpa using noQuote.2.symm)
  exact (closed.append last).cons noQuote.1

theorem outside_member (name body : String) :
    outside false (member name body).toList = ':' :: outside false body.toList := by
  have characters := toList_member name body []
  rw [List.append_nil, List.append_nil] at characters
  rw [characters, outside_literal (literal_quote name), outside_mark (by decide)]

theorem closed_member (name : String) {body : String} (closed : Closed body.toList) :
    Closed (member name body).toList := by
  have characters := toList_member name body []
  rw [List.append_nil, List.append_nil] at characters
  rw [characters]
  exact (unnamed_literal (literal_quote name)).closed.append (closed.cons (by decide))

theorem closed_of_write {v : Value} {s : String} (wrote : write v = .ok s) : Closed s.toList := by
  induction v using Value.rec_strong generalizing s with
  | null | bool | int | text =>
      apply Unnamed.closed
      apply (derives_of_write wrote _).unnamed
      intro special
      cases special
  | float x =>
      cases x with
      | finite negative units =>
          cases wrote
          exact (unnamed_number (number_finite negative units)).closed
      | nan =>
          cases wrote
          exact closed_plain (by decide)
      | infinite negative =>
          cases wrote
          cases negative <;> exact closed_plain (by decide)
  | bytes | set | record | selfList | selfDict => cases wrote
  | list items ih | tuple items ih =>
      obtain ⟨texts, characters, -, back⟩ := write_items wrote
      rw [characters]
      apply closed_between (by decide)
      apply closed_commas
      intro text inside
      obtain ⟨item, among, written⟩ := back text inside
      exact ih item among written
  | dict entries ih =>
      obtain ⟨texts, characters, -, back⟩ := write_entries wrote
      rw [characters]
      apply closed_between (by decide)
      apply closed_commas
      intro text inside
      obtain ⟨entry, among, name, body, rfl, isBody⟩ := back text inside
      exact closed_member name ((ih entry among).2 isBody)

theorem named_of_write {v : Value} (special : v.HoldsSpecial) {s : String}
    (wrote : write v = .ok s) : ∃ c ∈ outside false s.toList, c = 'N' ∨ c = 'I' := by
  induction special generalizing s with
  | nan =>
      cases wrote
      exact ⟨'N', by decide, .inl rfl⟩
  | infinite negative =>
      cases wrote
      cases negative <;> exact ⟨'I', by decide, .inr rfl⟩
  | item inside special ih | tupleItem inside special ih =>
      obtain ⟨texts, characters, forth, back⟩ := write_items wrote
      rw [characters]
      have closed (text : String) (inside : text ∈ texts) : Closed text.toList := by
        obtain ⟨item, -, written⟩ := back text inside
        exact closed_of_write written
      obtain ⟨text, among, written⟩ := forth _ inside
      obtain ⟨c, shown, name⟩ := ih written
      have listed := shown_in_commas closed among shown
      exact ⟨c, shown_between (by decide) (closed_commas closed) listed, name⟩
  | value inside special ih =>
      obtain ⟨texts, characters, forth, back⟩ := write_entries wrote
      rw [characters]
      have closed (text : String) (inside : text ∈ texts) : Closed text.toList := by
        obtain ⟨entry, -, name, body, rfl, isBody⟩ := back text inside
        exact closed_member name (closed_of_write isBody)
      obtain ⟨name, body, among, isBody⟩ := forth _ inside
      obtain ⟨c, shown, special⟩ := ih isBody
      have inMember : c ∈ outside false (member name body).toList := by
        rw [outside_member]
        exact List.mem_cons_of_mem _ shown
      have listed := shown_in_commas closed among inMember
      exact ⟨c, shown_between (by decide) (closed_commas closed) listed, special⟩

theorem isText_of_write {v : Value} {s : String} (wrote : write v = .ok s) :
    IsText s.toList ↔ ¬ v.HoldsSpecial := by
  constructor
  · intro text special
    obtain ⟨c, shown, name⟩ := named_of_write special wrote
    have unnamed := text.unnamed.unnamed c shown
    rcases name with rfl | rfl
    · exact unnamed.1 rfl
    · exact unnamed.2 rfl
  · intro plain
    exact ⟨[], s.toList, [], blanks_nil, derives_of_write wrote plain, blanks_nil, by simp⟩

end Json

namespace Message

/-- The text of a message is JSON exactly if no floating point number is written by name in it:
    none that is a part of the message, or of the plain value that a record is made into. -/
theorem isText_iff {message : Value} {text : String} (encoded : encode message = .ok text) :
    ∃ sent, plainValue message = .ok sent ∧
      (Json.IsText text.toList ↔ ¬ sent.HoldsSpecial) := by
  obtain ⟨sent, made, written⟩ := bind_eq_ok.mp encoded
  exact ⟨sent, made, Json.isText_of_write (mapError_eq_ok.mp written)⟩

/-- A reading under a key that is no number. -/
def reading : Value :=
  .dict [(.float .nan, .tuple [.float (.finite true (3 * 2 ^ 1073)), .null])]

theorem isText_reading :
    encode reading = .ok "\x7b\"NaN\":[-1.5,null]\x7d" ∧
      Json.IsText "\x7b\"NaN\":[-1.5,null]\x7d".toList := by
  have encoded : encode reading = .ok "\x7b\"NaN\":[-1.5,null]\x7d" := by decide +kernel
  obtain ⟨sent, same, grammatical⟩ := isText_iff encoded
  cases same
  refine ⟨encoded, grammatical.mpr ?_⟩
  intro special
  cases special with
  | value inside special =>
      obtain rfl := List.mem_singleton.mp inside
      cases special with
      | tupleItem inside special =>
          simp only [List.mem_cons, List.not_mem_nil, or_false] at inside
          rcases inside with rfl | rfl <;> cases special

/-- A number that is written by name makes a text that is no JSON. -/
theorem not_always_isText :
    ¬ ∀ message text, encode message = .ok text → Json.IsText text.toList := by
  intro always
  have encoded : encode (.dict [(.text "a", .float .nan)]) = .ok "\x7b\"a\":NaN\x7d" := by
    decide +kernel
  have text := always _ _ encoded
  have shown : 'N' ∈ Json.outside false "\x7b\"a\":NaN\x7d".toList := by decide
  exact (text.unnamed.unnamed 'N' shown).1 rfl

end Message

end ContractBench
