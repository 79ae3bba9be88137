import ContractBench.Proofs.Literal
import ContractBench.Proofs.Values

/-! # Documents are read back from their text

A document is a value that JSON can hold without numbers that have a fraction. It is read back from
the text that is written for it, with the keys of its dictionaries in their order
(`readValue_write`, by induction on the document), so no two documents have one text.
-/

namespace ContractBench

namespace Value

/-- The entry of a dictionary with a text for its key. -/
def textEntry (member : String × Value) : Value × Value := (.text member.1, member.2)

/-- The values of JSON without numbers that have a fraction, in which containers lie at most so
    many deep within each other. -/
inductive Document : Nat → Value → Prop where
  | null {depth} : Document depth .null
  | bool {depth} (b : Bool) : Document depth (.bool b)
  | int {depth} (n : Int) : Document depth (.int n)
  | text {depth} (s : String) : Document depth (.text s)
  | list {depth items} (each : ∀ item ∈ items, Document depth item) :
      Document (depth + 1) (.list items)
  /-- The keys of a dictionary are different texts. -/
  | dict {depth} {members : List (String × Value)} (distinct : (members.map (·.1)).Nodup)
      (each : ∀ member ∈ members, Document depth member.2) :
      Document (depth + 1) (.dict (members.map textEntry))

/-- Setting different keys one after the other leaves them in that order. -/
theorem foldl_setEntry (before members : List (String × Value))
    (distinct : ((before ++ members).map (·.1)).Nodup) :
    (members.map textEntry).foldl (fun dict entry => setEntry dict entry.1 entry.2)
      (before.map textEntry) = (before ++ members).map textEntry := by
  induction members generalizing before with
  | nil => simp
  | cons member members ih =>
      have fresh : ∀ other ∈ before, other.1 ≠ member.1 := by
        intro other inside same
        simp only [List.map_append, List.map_cons, List.nodup_append] at distinct
        exact distinct.2.2 _ (List.mem_map_of_mem inside) _ List.mem_cons_self same
      have appended : setEntry (before.map textEntry) (.text member.1) member.2 =
          (before ++ [member]).map textEntry := by
        have unknown : (before.map textEntry).any (fun entry => entry.1.sameKey (.text member.1)) =
            false := by
          simpa [textEntry, sameKey] using fresh
        simp [setEntry, unknown, textEntry]
      rw [List.map_cons, List.foldl_cons]
      change (members.map textEntry).foldl _
        (setEntry (before.map textEntry) (.text member.1) member.2) = _
      rw [appended, ih _ (by simpa using distinct)]
      simp

theorem ofEntries_textEntry {members : List (String × Value)}
    (distinct : (members.map (·.1)).Nodup) :
    ofEntries (members.map textEntry) = .dict (members.map textEntry) := by
  rw [ofEntries]
  exact congrArg Value.dict (foldl_setEntry [] members distinct)

end Value

namespace Json

/-! ## What a text begins and ends with -/

/-- What may follow a value: nothing, or the sign that ends an item or a container. -/
def Ends (rest : List Char) : Prop := ∀ c ∈ rest.head?, c = ',' ∨ c = ']' ∨ c = '}'

theorem ends_nil : Ends [] := nofun

theorem ends_cons {c : Char} {rest : List Char} (mark : c = ',' ∨ c = ']' ∨ c = '}') :
    Ends (c :: rest) := by
  intro other isHead
  obtain rfl : c = other := Option.some.inj isHead
  exact mark

/-- A text that begins with a character at which no blank is skipped and no container ends. -/
def Begins (cs : List Char) : Prop :=
  ∃ c tail, cs = c :: tail ∧ isBlank c = false ∧ c ≠ ']' ∧ c ≠ '}'

theorem Begins.skipBlanks {cs : List Char} (h : Begins cs) (rest : List Char) :
    skipBlanks (cs ++ rest) = cs ++ rest := by
  obtain ⟨c, tail, rfl, visible, -, -⟩ := h
  simp [Json.skipBlanks, visible]

theorem skipBlanks_mark {c : Char} {rest : List Char} (visible : isBlank c = false) :
    skipBlanks (c :: rest) = c :: rest := by
  simp [skipBlanks, visible]

/-! ## Whole numbers -/

theorem isDigit_iff {c : Char} : c.isDigit = true ↔ 48 ≤ c.toNat ∧ c.toNat ≤ 57 := by
  simp [Char.isDigit, UInt32.le_iff_toNat_le]

theorem ne_of_isDigit {c d : Char} (digit : c.isDigit = true) (other : d.isDigit = false) :
    c ≠ d := by
  rintro rfl
  simp [other] at digit

theorem begins_digit {c : Char} (digit : c.isDigit = true) (tail : List Char) :
    Begins (c :: tail) := by
  refine ⟨c, tail, rfl, ?_, ne_of_isDigit digit rfl, ne_of_isDigit digit rfl⟩
  simp [isBlank, ne_of_isDigit digit (d := ' ') rfl, ne_of_isDigit digit (d := '\t') rfl,
    ne_of_isDigit digit (d := '\n') rfl, ne_of_isDigit digit (d := '\r') rfl]

theorem ofDigits_toDigits (n : Nat) : Numeral.ofDigits (Nat.toDigits 10 n) = n := by
  have read := Nat.ofDigitChars_ten_toDigits (n := n)
  rwa [Nat.ofDigitChars_eq_foldl] at read

/-- Only the digits of zero begin with a zero. -/
theorem head_toDigits {n : Nat} (positive : 0 < n) : (Nat.toDigits 10 n).head? ≠ some '0' := by
  induction n using Nat.strongRecOn with
  | _ n ih =>
      rw [Nat.toDigits_eq_if (by decide)]
      split
      next small =>
        have digits : ∀ d < 10, 0 < d → [Nat.digitChar d].head? ≠ some '0' := by decide
        exact digits n small positive
      next large =>
        rw [List.head?_append, Option.or_of_isSome (by simp [Nat.toDigits_ne_nil])]
        exact ih (n / 10) (by omega) (by omega)

theorem splitWhole_digits {digits rest : List Char} (all : ∀ c ∈ digits, c.isDigit = true)
    (some : digits ≠ []) (noZero : digits.head? ≠ Option.some '0')
    (ends : ∀ c ∈ rest.head?, c.isDigit = false) :
    splitWhole (digits ++ rest) = (digits, rest) := by
  have stops : rest.takeWhile Char.isDigit = [] ∧ rest.dropWhile Char.isDigit = rest := by
    cases rest with
    | nil => exact ⟨rfl, rfl⟩
    | cons c tail => simp [ends c rfl]
  rw [splitWhole.eq_2]
  · rw [List.takeWhile_append_of_pos all, List.dropWhile_append_of_pos all, stops.1, stops.2,
      List.append_nil]
  · intro tail same
    obtain ⟨c, more, rfl⟩ := List.exists_cons_of_ne_nil some
    simp_all

theorem splitWhole_toDigits (n : Nat) {rest : List Char}
    (ends : ∀ c ∈ rest.head?, c.isDigit = false) :
    splitWhole (Nat.toDigits 10 n ++ rest) = (Nat.toDigits 10 n, rest) := by
  by_cases zero : n = 0
  · subst zero
    rw [Nat.toDigits_zero]
    rfl
  · exact splitWhole_digits
      (fun c inside => Nat.isDigit_of_mem_toDigits (by decide) (by decide) inside)
      Nat.toDigits_ne_nil (head_toDigits (Nat.pos_of_ne_zero zero)) ends

theorem readNumber_toDigits (negative : Bool) {n : Nat} {rest : List Char} (ends : Ends rest)
    (few : (Nat.toDigits 10 n).length ≤ Numeral.mostDigits) :
    readNumber false negative (Nat.toDigits 10 n ++ rest) =
      .ok (.int (Numeral.signed negative n), rest) := by
  have marks : ∀ c ∈ rest.head?, c.isDigit = false ∧ c ≠ '.' ∧ c ≠ 'e' ∧ c ≠ 'E' := by
    intro c isHead
    rcases ends c isHead with rfl | rfl | rfl <;> decide
  have noFraction : splitFraction rest = (none, rest) := by
    cases rest with
    | nil => rfl
    | cons c tail => exact splitFraction.eq_2 _ fun _ same => by simp_all
  have noExponent : splitExponent rest = (none, rest) := by
    cases rest with
    | nil => rfl
    | cons c tail => simp [splitExponent, (marks c rfl).2.2]
  rw [readNumber, splitWhole_toDigits n fun c isHead => (marks c isHead).1]
  simp [noFraction, noExponent, Nat.not_lt.mpr few, ofDigits_toDigits]

theorem readNamed?_digit {c : Char} (digit : c.isDigit = true) (rest : List Char) :
    readNamed? (c :: rest) = none ∧ readNamed? ('-' :: c :: rest) = none := by
  have other {d : Char} (noDigit : d.isDigit = false) : d ≠ c :=
    (ne_of_isDigit digit noDigit).symm
  constructor <;>
    simp [readNamed?, namedValues, other (d := 'n') rfl, other (d := 't') rfl,
      other (d := 'f') rfl, other (d := 'N') rfl, other (d := 'I') rfl, other (d := '-') rfl]

theorem digitCount_eq (n : Nat) :
    Binary64.digitCount n ≤ Numeral.mostDigits ↔
      (Nat.toDigits 10 n).length ≤ Numeral.mostDigits := by
  rw [Binary64.digitCount]
  split
  next zero => simp [zero, Nat.toDigits_zero, Numeral.mostDigits]
  next => simp [Nat.repr_eq_ofList_toDigits]

theorem begins_toDigits (n : Nat) :
    ∃ c tail, Nat.toDigits 10 n = c :: tail ∧ c.isDigit = true := by
  obtain ⟨c, tail, known⟩ := List.exists_cons_of_ne_nil (Nat.toDigits_ne_nil (b := 10) (n := n))
  have inside : c ∈ Nat.toDigits 10 n := by
    rw [known]
    exact List.mem_cons_self
  exact ⟨c, tail, known, Nat.isDigit_of_mem_toDigits (by decide) (by decide) inside⟩

/-- The characters of a whole number: a minus for one below zero, and then digits. -/
theorem toString_int (n : Int) :
    (toString n).toList = (if n < 0 then ['-'] else []) ++ Nat.toDigits 10 n.natAbs := by
  cases n with
  | ofNat n =>
      change (Nat.repr n).toList = _
      simp [Nat.repr_eq_ofList_toDigits]
  | negSucc n =>
      change ("-" ++ Nat.repr (n + 1)).toList = _
      simp [Nat.repr_eq_ofList_toDigits]

theorem writeInt_ok {n : Int} {s : String} (wrote : writeInt n = .ok s) :
    s.toList = (if n < 0 then ['-'] else []) ++ Nat.toDigits 10 n.natAbs ∧
      (Nat.toDigits 10 n.natAbs).length ≤ Numeral.mostDigits := by
  rw [writeInt] at wrote
  split at wrote
  · contradiction
  · next few =>
    obtain rfl := Except.ok.inj wrote
    exact ⟨toString_int n, (digitCount_eq _).mp (Nat.le_of_not_lt few)⟩

theorem readScalar_minus {c : Char} (digit : c.isDigit = true) (rest : List Char) :
    readScalar false ('-' :: c :: rest) = readNumber false true (c :: rest) := by
  simp [readScalar, (readNamed?_digit digit rest).2, digit]

theorem readScalar_digit {c : Char} (digit : c.isDigit = true) (rest : List Char) :
    readScalar false (c :: rest) = readNumber false false (c :: rest) := by
  rw [readScalar, (readNamed?_digit digit rest).1]
  simp [digit]
  -- What is left says that the case of a minus does not apply.
  exact fun _ _ same => absurd same (ne_of_isDigit digit rfl)

theorem readScalar_int {n : Int} {s : String} (wrote : writeInt n = .ok s) {rest : List Char}
    (ends : Ends rest) : readScalar false (s.toList ++ rest) = .ok (.int n, rest) := by
  obtain ⟨characters, few⟩ := writeInt_ok wrote
  obtain ⟨c, tail, known, digit⟩ := begins_toDigits n.natAbs
  have read (negative : Bool) := readNumber_toDigits negative ends few
  rw [characters]
  rw [known] at read ⊢
  by_cases negative : n < 0
  · have sign : Numeral.signed true n.natAbs = n := by
      change -(n.natAbs : Int) = n
      omega
    rw [if_pos negative, List.append_assoc, List.singleton_append, List.cons_append,
      readScalar_minus digit, ← List.cons_append, read, sign]
  · have sign : Numeral.signed false n.natAbs = n := by
      change (n.natAbs : Int) = n
      omega
    rw [if_neg negative, List.nil_append, List.cons_append, readScalar_digit digit,
      ← List.cons_append, read, sign]

/-! ## The text of containers -/

/-- Texts with commas between them. -/
def commas (parts : List String) : List Char := [','].intercalate (parts.map String.toList)

@[simp] theorem commas_single (part : String) : commas [part] = part.toList := by simp [commas]

@[simp] theorem commas_cons_cons (part next : String) (others : List String) :
    commas (part :: next :: others) = part.toList ++ ',' :: commas (next :: others) := by
  simp [commas]

theorem write_list {items : List Value} {s : String} (wrote : write (.list items) = .ok s) :
    ∃ parts, writeItems items = .ok parts ∧ s.toList = '[' :: (commas parts ++ [']']) := by
  obtain ⟨parts, known, rfl⟩ := map_eq_ok.mp wrote
  exact ⟨parts, known, by simp [commas]⟩

theorem write_dict {entries : List (Value × Value)} {s : String}
    (wrote : write (.dict entries) = .ok s) :
    ∃ parts, writeEntries entries = .ok parts ∧ s.toList = '{' :: (commas parts ++ ['}']) := by
  obtain ⟨parts, known, rfl⟩ := map_eq_ok.mp wrote
  exact ⟨parts, known, by simp [commas]⟩

theorem bind_ok {α β ε : Type} {result : Except ε α} {next : α → Except ε β} {b : β}
    (bound : result >>= next = .ok b) : ∃ a, result = .ok a ∧ next a = .ok b :=
  bind_eq_ok.mp bound

theorem writeItems_cons {item : Value} {items : List Value} {parts : List String}
    (wrote : writeItems (item :: items) = .ok parts) :
    ∃ first others, write item = .ok first ∧ writeItems items = .ok others ∧
      parts = first :: others := by
  obtain ⟨first, one, wrote⟩ := bind_ok wrote
  obtain ⟨others, many, rest⟩ := bind_ok wrote
  exact ⟨first, others, one, many, (Except.ok.inj rest).symm⟩

/-- The text of one member of an object. -/
def member (key body : String) : String := quote key ++ ":" ++ body

theorem writeEntries_cons {entry : String × Value} {entries : List (String × Value)}
    {parts : List String}
    (wrote : writeEntries ((entry :: entries).map Value.textEntry) = .ok parts) :
    ∃ body others, write entry.2 = .ok body ∧
      writeEntries (entries.map Value.textEntry) = .ok others ∧
      parts = member entry.1 body :: others := by
  obtain ⟨name, isText, wrote⟩ := bind_ok wrote
  obtain rfl : entry.1 = name := Except.ok.inj isText
  obtain ⟨body, one, wrote⟩ := bind_ok wrote
  obtain ⟨others, many, rest⟩ := bind_ok wrote
  exact ⟨body, others, one, many, (Except.ok.inj rest).symm⟩

theorem begins_write {depth : Nat} {v : Value} (h : v.Document depth) {s : String}
    (wrote : write v = .ok s) : Begins s.toList := by
  cases h with
  | null =>
      obtain rfl := Except.ok.inj wrote
      exact ⟨'n', _, rfl, by decide, by decide, by decide⟩
  | bool b =>
      obtain rfl := Except.ok.inj wrote
      cases b with
      | true => exact ⟨'t', _, rfl, by decide, by decide, by decide⟩
      | false => exact ⟨'f', _, rfl, by decide, by decide, by decide⟩
  | int n =>
      obtain ⟨characters, -⟩ := writeInt_ok wrote
      obtain ⟨c, tail, known, digit⟩ := begins_toDigits n.natAbs
      rw [characters, known]
      split
      · exact ⟨'-', _, rfl, by decide, by decide, by decide⟩
      · exact begins_digit digit tail
  | text s =>
      obtain rfl := Except.ok.inj wrote
      exact ⟨'"', s.toList.flatMap escapeChar ++ ['"'], by simp [quote], by decide, by decide,
        by decide⟩
  | list each =>
      obtain ⟨parts, -, characters⟩ := write_list wrote
      exact ⟨'[', _, characters, by decide, by decide, by decide⟩
  | dict distinct each =>
      obtain ⟨parts, -, characters⟩ := write_dict wrote
      exact ⟨'{', _, characters, by decide, by decide, by decide⟩

/-! ## Values -/

/-- A value is read back from its text, whatever ends the text. The fuel is enough when it is twice
    the length of the text, and the room when it is the depth of the value. -/
def Readable (depth : Nat) (v : Value) : Prop :=
  ∀ s, write v = .ok s → Begins s.toList ∧ ∀ fuel room rest, 2 * s.toList.length ≤ fuel →
    depth ≤ room → Ends rest → readValue false fuel room (s.toList ++ rest) = .ok (v, rest)

theorem Begins.commas {first : String} (h : Begins first.toList) (others : List String) :
    Begins (commas (first :: others)) := by
  cases others with
  | nil => simpa using h
  | cons next others =>
      obtain ⟨c, tail, known, marks⟩ := h
      exact ⟨c, tail ++ ',' :: Json.commas (next :: others), by simp [known], marks⟩

/-- Items are read one after the other up to the bracket that ends their list. -/
theorem readItems_write {depth : Nat} {items : List Value} (fuel room : Nat) (roomy : depth < room)
    (each : ∀ item ∈ items, Readable depth item) {parts : List String}
    (wrote : writeItems items = .ok parts) (some : items ≠ [])
    (enough : 2 * (commas parts).length + 2 ≤ fuel) (before : List Value) (rest : List Char) :
    Begins (commas parts) ∧
      readItems false fuel room before (commas parts ++ ']' :: rest) =
        .ok (.list (before.reverse ++ items), rest) := by
  induction items generalizing parts before fuel with
  | nil => contradiction
  | cons item items ih =>
      obtain ⟨first, others, one, many, rfl⟩ := writeItems_cons wrote
      obtain ⟨fuel, rfl⟩ : ∃ f, fuel = f + 1 := ⟨fuel - 1, by omega⟩
      obtain ⟨begins, here⟩ := each item List.mem_cons_self first one
      refine ⟨begins.commas others, ?_⟩
      cases items with
      | nil =>
          obtain rfl : [] = others := Except.ok.inj many
          rw [commas_single] at enough ⊢
          have read := here fuel (room - 1) (']' :: rest) (by omega) (by omega)
            (ends_cons (by simp))
          rw [readItems, read]
          simp [skipBlanks_mark (c := ']') (by decide)]
      | cons next items =>
          obtain ⟨second, more, -, -, rfl⟩ := writeItems_cons many
          rw [commas_cons_cons] at enough ⊢
          simp only [List.length_append, List.length_cons] at enough
          have read := here fuel (room - 1) (',' :: (commas (second :: more) ++ ']' :: rest))
            (by omega) (by omega) (ends_cons (by simp))
          obtain ⟨start, tail⟩ := ih fuel
            (fun other inside => each other (List.mem_cons_of_mem _ inside)) many (by simp)
            (by omega) (item :: before)
          rw [List.append_assoc, List.cons_append, readItems, read]
          simp only [skipBlanks_mark (c := ',') (by decide), start.skipBlanks, tail]
          simp

theorem toList_member (key body : String) (rest : List Char) :
    (member key body).toList ++ rest = (quote key).toList ++ ':' :: (body.toList ++ rest) := by
  simp [member]

theorem begins_member (key body : String) : Begins (member key body).toList := by
  refine ⟨'"', key.toList.flatMap escapeChar ++ '"' :: ':' :: body.toList, ?_, by decide,
    by decide, by decide⟩
  simp [member, quote]

theorem readKey_member (key : String) {body : String} (h : Begins body.toList)
    (rest : List Char) :
    readKey false ((member key body).toList ++ rest) = .ok (key, body.toList ++ rest) := by
  have colon : skipBlanks (':' :: (body.toList ++ rest)) = ':' :: (body.toList ++ rest) :=
    skipBlanks_mark (by decide)
  simp [toList_member, quote, readKey, readString_quoted, colon, h.skipBlanks]

/-- Members are read one after the other up to the brace that ends their object. -/
theorem readMembers_write {depth : Nat} {entries : List (String × Value)} (fuel room : Nat)
    (roomy : depth < room) (each : ∀ entry ∈ entries, Readable depth entry.2)
    {parts : List String} (wrote : writeEntries (entries.map Value.textEntry) = .ok parts)
    (some : entries ≠ []) (enough : 2 * (commas parts).length + 2 ≤ fuel)
    (before : List (Value × Value)) (rest : List Char) :
    Begins (commas parts) ∧
      readMembers false fuel room before (commas parts ++ '}' :: rest) =
        .ok (.ofEntries (before.reverse ++ entries.map Value.textEntry), rest) := by
  induction entries generalizing parts before fuel with
  | nil => contradiction
  | cons entry entries ih =>
      obtain ⟨body, others, one, many, rfl⟩ := writeEntries_cons wrote
      obtain ⟨fuel, rfl⟩ : ∃ f, fuel = f + 1 := ⟨fuel - 1, by omega⟩
      obtain ⟨begins, here⟩ := each entry List.mem_cons_self body one
      have shorter : body.toList.length ≤ (member entry.1 body).toList.length := by
        simp [member]
        omega
      refine ⟨(begins_member entry.1 body).commas others, ?_⟩
      cases entries with
      | nil =>
          obtain rfl : [] = others := Except.ok.inj many
          rw [commas_single] at enough ⊢
          have read := here fuel (room - 1) ('}' :: rest) (by omega) (by omega)
            (ends_cons (by simp))
          rw [readMembers, readKey_member entry.1 begins]
          simp [read, skipBlanks_mark (c := '}') (by decide), Value.textEntry]
      | cons next entries =>
          obtain ⟨second, more, -, -, rfl⟩ := writeEntries_cons many
          rw [commas_cons_cons] at enough ⊢
          simp only [List.length_append, List.length_cons] at enough
          have read := here fuel (room - 1)
            (',' :: (commas (member next.1 second :: more) ++ '}' :: rest)) (by omega) (by omega)
            (ends_cons (by simp))
          obtain ⟨start, tail⟩ := ih fuel
            (fun other inside => each other (List.mem_cons_of_mem _ inside)) many (by simp)
            (by omega) (Value.textEntry entry :: before)
          rw [List.append_assoc, List.cons_append, readMembers, readKey_member entry.1 begins]
          simp only [read, skipBlanks_mark (c := ',') (by decide), start.skipBlanks]
          rw [Value.textEntry] at tail
          simp only [tail]
          simp [Value.textEntry]

theorem readValue_scalar {c : Char} {tail : List Char} (marks : c ≠ '"' ∧ c ≠ '[' ∧ c ≠ '{')
    (fuel room : Nat) :
    readValue false (fuel + 1) room (c :: tail) = readScalar false (c :: tail) := by
  rw [readValue]
  all_goals simp [marks]

theorem digit_marks {c : Char} (digit : c.isDigit = true) : c ≠ '"' ∧ c ≠ '[' ∧ c ≠ '{' :=
  ⟨ne_of_isDigit digit rfl, ne_of_isDigit digit rfl, ne_of_isDigit digit rfl⟩

theorem readValue_list {cs : List Char} (begins : Begins cs) (rest : List Char) (fuel : Nat)
    {room : Nat} (space : room ≠ 0) :
    readValue false (fuel + 1) room ('[' :: (cs ++ rest)) =
      readItems false fuel room [] (cs ++ rest) := by
  rw [readValue, begins.skipBlanks]
  obtain ⟨c, tail, rfl, -, noBracket, -⟩ := begins
  simp [noBracket, space]

theorem readValue_dict {cs : List Char} (begins : Begins cs) (rest : List Char) (fuel : Nat)
    {room : Nat} (space : room ≠ 0) :
    readValue false (fuel + 1) room ('{' :: (cs ++ rest)) =
      readMembers false fuel room [] (cs ++ rest) := by
  rw [readValue, begins.skipBlanks]
  obtain ⟨c, tail, rfl, -, -, noBrace⟩ := begins
  simp [noBrace, space]

theorem readable_of {depth : Nat} {v : Value} (h : v.Document depth)
    (reads : ∀ s, write v = .ok s → ∀ fuel room rest, 2 * s.toList.length ≤ fuel + 1 →
      depth ≤ room → Ends rest →
        readValue false (fuel + 1) room (s.toList ++ rest) = .ok (v, rest)) :
    Readable depth v := by
  intro s wrote
  have begins := begins_write h wrote
  refine ⟨begins, fun fuel room rest enough roomy ends => ?_⟩
  obtain ⟨c, tail, known, -⟩ := begins
  obtain ⟨fuel, rfl⟩ : ∃ f, fuel = f + 1 := ⟨fuel - 1, by simp [known] at enough; omega⟩
  exact reads s wrote fuel room rest enough roomy ends

/-- A document is read back from the text that is written for it. -/
theorem readValue_write {depth : Nat} {v : Value} (h : v.Document depth) : Readable depth v := by
  induction h with
  | null =>
      refine readable_of .null fun s wrote fuel room rest _ _ _ => ?_
      obtain rfl := Except.ok.inj wrote
      exact readValue_scalar (by decide) fuel room
  | bool b =>
      refine readable_of (.bool b) fun s wrote fuel room rest _ _ _ => ?_
      obtain rfl := Except.ok.inj wrote
      cases b with
      | true => exact readValue_scalar (by decide) fuel room
      | false => exact readValue_scalar (by decide) fuel room
  | int n =>
      refine readable_of (.int n) fun s wrote fuel room rest _ _ ends => ?_
      rw [← readScalar_int wrote ends]
      obtain ⟨characters, -⟩ := writeInt_ok wrote
      obtain ⟨c, tail, known, digit⟩ := begins_toDigits n.natAbs
      rw [characters, known]
      split
      · exact readValue_scalar (by decide) fuel room
      · exact readValue_scalar (digit_marks digit) fuel room
  | text t =>
      refine readable_of (.text t) fun s wrote fuel room rest _ _ _ => ?_
      obtain rfl := Except.ok.inj wrote
      simp [quote, readValue, readString_quoted]
  | @list depth items each ih =>
      refine readable_of (.list each) fun s wrote fuel room rest enough roomy _ => ?_
      have space : room ≠ 0 := by omega
      obtain ⟨parts, many, characters⟩ := write_list wrote
      rw [characters] at enough ⊢
      simp only [List.length_cons, List.length_append, List.length_nil] at enough
      cases items with
      | nil =>
          obtain rfl : [] = parts := Except.ok.inj many
          simp [commas, readValue, skipBlanks_mark (c := ']') (by decide), space]
      | cons item items =>
          obtain ⟨begins, read⟩ := readItems_write fuel room (by omega) ih many (by simp)
            (by omega) [] rest
          rw [List.cons_append, List.append_assoc, readValue_list begins _ _ space]
          exact read
  | @dict depth entries distinct each ih =>
      refine readable_of (.dict distinct each) fun s wrote fuel room rest enough roomy _ => ?_
      have space : room ≠ 0 := by omega
      obtain ⟨parts, many, characters⟩ := write_dict wrote
      rw [characters] at enough ⊢
      simp only [List.length_cons, List.length_append, List.length_nil] at enough
      cases entries with
      | nil =>
          obtain rfl : [] = parts := Except.ok.inj many
          simp [commas, readValue, skipBlanks_mark (c := '}') (by decide), space]
      | cons entry entries =>
          obtain ⟨begins, read⟩ := readMembers_write fuel room (by omega) ih many (by simp)
            (by omega) [] rest
          rw [List.cons_append, List.append_assoc, readValue_dict begins _ _ space,
            List.singleton_append, read, List.reverse_nil, List.nil_append,
            Value.ofEntries_textEntry distinct]

/-- No two documents have one text. -/
theorem write_injective {depth other : Nat} {v w : Value} (h : v.Document depth)
    (g : w.Document other) {s : String} (one : write v = .ok s) (two : write w = .ok s) :
    w = v := by
  have first := (readValue_write h s one).2 (2 * s.toList.length) (max depth other) []
    (Nat.le_refl _) (Nat.le_max_left _ _) ends_nil
  have second := (readValue_write g s two).2 (2 * s.toList.length) (max depth other) []
    (Nat.le_refl _) (Nat.le_max_right _ _) ends_nil
  rw [first] at second
  exact (Prod.mk.inj (Except.ok.inj second)).1.symm

end Json

end ContractBench
