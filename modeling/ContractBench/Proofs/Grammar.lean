import ContractBench.Proofs.Message

/-! # The grammar of JSON

The grammar of RFC 8259, character by character: what derives from `value`, from the items of an
array and from the members of an object, each with the blanks that may stand around it. In a text
that derives from it neither `N` nor `I` stands outside of a string (`Derives.unnamed`), so `NaN`
and `Infinity` are no values.
-/

namespace ContractBench.Json

/-- `*( %x20 / %x09 / %x0A / %x0D )` -/
def Blanks (cs : List Char) : Prop := ∀ c ∈ cs, c = ' ' ∨ c = '\t' ∨ c = '\n' ∨ c = '\r'

/-- `1*DIGIT` -/
def Digits (cs : List Char) : Prop := cs ≠ [] ∧ ∀ c ∈ cs, c.isDigit = true

/-- `zero / ( digit1-9 *DIGIT )` -/
def Whole (cs : List Char) : Prop := cs = ['0'] ∨ Digits cs ∧ cs.head? ≠ some '0'

/-- `[ decimal-point 1*DIGIT ]` -/
def Fraction (cs : List Char) : Prop := cs = [] ∨ ∃ digits, Digits digits ∧ cs = '.' :: digits

/-- `[ e [ minus / plus ] 1*DIGIT ]` -/
def Exponent (cs : List Char) : Prop :=
  cs = [] ∨ ∃ e sign digits, (e = 'e' ∨ e = 'E') ∧ (sign = [] ∨ sign = ['-'] ∨ sign = ['+']) ∧
    Digits digits ∧ cs = e :: (sign ++ digits)

/-- `int [ frac ] [ exp ]` -/
def Unsigned (cs : List Char) : Prop :=
  ∃ whole fraction exponent, Whole whole ∧ Fraction fraction ∧ Exponent exponent ∧
    cs = whole ++ fraction ++ exponent

/-- `[ minus ] int [ frac ] [ exp ]` -/
def Number (cs : List Char) : Prop :=
  ∃ minus unsigned, (minus = [] ∨ minus = ['-']) ∧ Unsigned unsigned ∧ cs = minus ++ unsigned

/-- `HEXDIG`, in either case -/
def HexDigit (c : Char) : Prop :=
  '0' ≤ c ∧ c ≤ '9' ∨ 'a' ≤ c ∧ c ≤ 'f' ∨ 'A' ≤ c ∧ c ≤ 'F'

instance (c : Char) : Decidable (HexDigit c) := inferInstanceAs (Decidable (_ ∨ _ ∨ _))

/-- `*char` -/
inductive Chars : List Char → Prop where
  | nil : Chars []
  /-- `%x20-21 / %x23-5B / %x5D-10FFFF` -/
  | unescaped {c : Char} {rest : List Char} (visible : 0x20 ≤ c.toNat) (noQuote : c ≠ '"')
      (noEscape : c ≠ '\\') (more : Chars rest) : Chars (c :: rest)
  /-- A backslash and one of its eight letters. -/
  | escaped {letter : Char} {rest : List Char}
      (known : letter ∈ ['"', '\\', '/', 'b', 'f', 'n', 'r', 't']) (more : Chars rest) :
      Chars ('\\' :: letter :: rest)
  /-- `%x75 4HEXDIG` -/
  | unit {a b c d : Char} {rest : List Char}
      (hexadecimal : ∀ digit ∈ [a, b, c, d], HexDigit digit) (more : Chars rest) :
      Chars ('\\' :: 'u' :: a :: b :: c :: d :: rest)

/-- `quotation-mark *char quotation-mark` -/
def Literal (cs : List Char) : Prop := ∃ chars, Chars chars ∧ cs = '"' :: (chars ++ ['"'])

/-- What a part of a text may be. -/
inductive Part where
  | value
  | items
  | members

/-- Which characters derive from a part. -/
inductive Derives : Part → List Char → Prop where
  | null : Derives .value "null".toList
  | true : Derives .value "true".toList
  | false : Derives .value "false".toList
  | number {cs : List Char} (number : Number cs) : Derives .value cs
  | string {cs : List Char} (literal : Literal cs) : Derives .value cs
  | emptyArray {gap : List Char} (blanks : Blanks gap) : Derives .value ('[' :: (gap ++ [']']))
  | array {cs : List Char} (items : Derives .items cs) : Derives .value ('[' :: (cs ++ [']']))
  | emptyObject {gap : List Char} (blanks : Blanks gap) : Derives .value ('{' :: (gap ++ ['}']))
  | object {cs : List Char} (members : Derives .members cs) : Derives .value ('{' :: (cs ++ ['}']))
  | item {before v after : List Char} (blanks : Blanks before) (value : Derives .value v)
      (blanks' : Blanks after) : Derives .items (before ++ v ++ after)
  | items {first rest : List Char} (item : Derives .items first) (more : Derives .items rest) :
      Derives .items (first ++ ',' :: rest)
  | member {before key after gap v end' : List Char} (blanks : Blanks before) (name : Literal key)
      (blanks' : Blanks after) (gaps : Blanks gap) (value : Derives .value v)
      (gaps' : Blanks end') : Derives .members (before ++ key ++ after ++ ':' :: (gap ++ v ++ end'))
  | members {first rest : List Char} (member : Derives .members first)
      (more : Derives .members rest) : Derives .members (first ++ ',' :: rest)

/-- `ws value ws` -/
def IsText (cs : List Char) : Prop :=
  ∃ before v after, Blanks before ∧ Derives .value v ∧ Blanks after ∧ cs = before ++ v ++ after

/-! ## Outside of strings -/

/-- A text whose strings are closed: what follows it stands outside of them. -/
def Closed (cs : List Char) : Prop :=
  ∀ rest, outside false (cs ++ rest) = outside false cs ++ outside false rest

/-- A closed text outside of whose strings no name of a special number begins. -/
structure Unnamed (cs : List Char) : Prop where
  closed : Closed cs
  unnamed : ∀ c ∈ outside false cs, c ≠ 'N' ∧ c ≠ 'I'

theorem Closed.append {cs ds : List Char} (h : Closed cs) (g : Closed ds) : Closed (cs ++ ds) := by
  intro rest
  rw [List.append_assoc, h, g, h, List.append_assoc]

theorem outside_plain {cs : List Char} (plain : '"' ∉ cs) (rest : List Char) :
    outside false (cs ++ rest) = cs ++ outside false rest := by
  induction cs with
  | nil => rfl
  | cons c cs ih =>
      have noQuote : c ≠ '"' := by
        rintro rfl
        exact plain (.head _)
      rw [List.cons_append, outside, if_neg noQuote, ih fun found => plain (.tail _ found)]
      rfl

theorem outside_self {cs : List Char} (plain : '"' ∉ cs) : outside false cs = cs := by
  have added := outside_plain plain []
  simpa [outside] using added

theorem closed_plain {cs : List Char} (plain : '"' ∉ cs) : Closed cs := by
  intro rest
  rw [outside_plain plain, outside_self plain]

theorem Closed.cons {c : Char} {cs : List Char} (noQuote : c ≠ '"') (h : Closed cs) :
    Closed (c :: cs) := by
  have first : Closed [c] := closed_plain (by simpa using noQuote.symm)
  exact first.append h

theorem unnamed_plain {cs : List Char} (each : ∀ c ∈ cs, c ≠ '"' ∧ c ≠ 'N' ∧ c ≠ 'I') :
    Unnamed cs := by
  have plain : '"' ∉ cs := fun found => (each _ found).1 rfl
  constructor
  · exact closed_plain plain
  · rw [outside_self plain]
    intro c inside
    exact (each c inside).2

theorem Unnamed.append {cs ds : List Char} (h : Unnamed cs) (g : Unnamed ds) :
    Unnamed (cs ++ ds) := by
  constructor
  · exact h.closed.append g.closed
  · rw [h.closed]
    intro c inside
    rcases List.mem_append.mp inside with left | right
    · exact h.unnamed c left
    · exact g.unnamed c right

theorem Unnamed.cons {c : Char} {cs : List Char} (mark : c ≠ '"' ∧ c ≠ 'N' ∧ c ≠ 'I')
    (h : Unnamed cs) : Unnamed (c :: cs) := by
  have first : Unnamed [c] := unnamed_plain (by simpa using mark)
  exact first.append h

theorem unnamed_nil : Unnamed [] := unnamed_plain (by simp)

theorem stays_unescaped {c : Char} (noQuote : c ≠ '"') (noEscape : c ≠ '\\') (rest : List Char) :
    outside true (c :: rest) = outside true rest := by
  rw [outside, if_neg noQuote]
  rintro d tail rfl
  contradiction

theorem HexDigit.stays {c : Char} (hexadecimal : HexDigit c) : c ≠ '"' ∧ c ≠ '\\' := by
  constructor <;> rintro rfl <;> simp [HexDigit] at hexadecimal

theorem Chars.stays {cs : List Char} (chars : Chars cs) (rest : List Char) :
    outside true (cs ++ rest) = outside true rest := by
  induction chars with
  | nil => rfl
  | unescaped visible noQuote noEscape more ih =>
      rw [List.cons_append, stays_unescaped noQuote noEscape, ih]
  | escaped known more ih =>
      simp only [List.cons_append, outside]
      exact ih
  | @unit a b c d more hexadecimal chars ih =>
      obtain ⟨a₁, a₂⟩ := (hexadecimal a (by simp)).stays
      obtain ⟨b₁, b₂⟩ := (hexadecimal b (by simp)).stays
      obtain ⟨c₁, c₂⟩ := (hexadecimal c (by simp)).stays
      obtain ⟨d₁, d₂⟩ := (hexadecimal d (by simp)).stays
      simp only [List.cons_append, outside]
      rw [stays_unescaped a₁ a₂, stays_unescaped b₁ b₂, stays_unescaped c₁ c₂,
        stays_unescaped d₁ d₂, ih]

theorem outside_literal {cs : List Char} (literal : Literal cs) (rest : List Char) :
    outside false (cs ++ rest) = outside false rest := by
  obtain ⟨chars, inside, rfl⟩ := literal
  simp [outside, inside.stays]

theorem outside_literal_self {cs : List Char} (literal : Literal cs) : outside false cs = [] := by
  have added := outside_literal literal []
  simpa [outside] using added

theorem unnamed_literal {cs : List Char} (literal : Literal cs) : Unnamed cs := by
  constructor
  · intro rest
    rw [outside_literal literal, outside_literal_self literal]
    rfl
  · simp [outside_literal_self literal]

theorem unnamed_blanks {cs : List Char} (blanks : Blanks cs) : Unnamed cs := by
  apply unnamed_plain
  intro c inside
  rcases blanks c inside with rfl | rfl | rfl | rfl <;> decide

theorem unnamed_digits {cs : List Char} (digits : Digits cs) : Unnamed cs := by
  apply unnamed_plain
  intro c inside
  have digit := digits.2 c inside
  exact ⟨ne_of_isDigit digit rfl, ne_of_isDigit digit rfl, ne_of_isDigit digit rfl⟩

theorem unnamed_number {cs : List Char} (number : Number cs) : Unnamed cs := by
  obtain ⟨minus, _, sign, ⟨whole, fraction, exponent, whole', fraction', exponent', rfl⟩, rfl⟩ :=
    number
  have signed : Unnamed minus := by
    rcases sign with rfl | rfl <;> exact unnamed_plain (by simp)
  have begun : Unnamed whole := by
    rcases whole' with rfl | ⟨digits, -⟩
    · exact unnamed_plain (by simp)
    · exact unnamed_digits digits
  have parted : Unnamed fraction := by
    rcases fraction' with rfl | ⟨digits, isDigits, rfl⟩
    · exact unnamed_nil
    · exact (unnamed_digits isDigits).cons (by decide)
  have scaled : Unnamed exponent := by
    rcases exponent' with rfl | ⟨e, sign, digits, letter, sign', isDigits, rfl⟩
    · exact unnamed_nil
    · have mark : e ≠ '"' ∧ e ≠ 'N' ∧ e ≠ 'I' := by rcases letter with rfl | rfl <;> decide
      have signed : Unnamed sign := by
        rcases sign' with rfl | rfl | rfl <;> exact unnamed_plain (by simp)
      exact (signed.append (unnamed_digits isDigits)).cons mark
  exact signed.append ((begun.append parted).append scaled)

/-- No name of a special number stands outside of the strings of a text of the grammar. -/
theorem Derives.unnamed {part : Part} {cs : List Char} (derives : Derives part cs) :
    Unnamed cs := by
  induction derives with
  | null | true | false => exact unnamed_plain (by simp)
  | number number => exact unnamed_number number
  | string literal => exact unnamed_literal literal
  | emptyArray blanks | emptyObject blanks =>
      exact ((unnamed_blanks blanks).append (unnamed_nil.cons (by decide))).cons (by decide)
  | array items ih | object members ih =>
      exact (ih.append (unnamed_nil.cons (by decide))).cons (by decide)
  | item blanks value blanks' ih =>
      exact ((unnamed_blanks blanks).append ih).append (unnamed_blanks blanks')
  | items item more ih ih' | members member more ih ih' => exact ih.append (ih'.cons (by decide))
  | member blanks name blanks' gaps value gaps' ih =>
      have begun := ((unnamed_blanks blanks).append (unnamed_literal name)).append
        (unnamed_blanks blanks')
      have ended := ((unnamed_blanks gaps).append ih).append (unnamed_blanks gaps')
      exact begun.append (ended.cons (by decide))

theorem IsText.unnamed {cs : List Char} (text : IsText cs) : Unnamed cs := by
  obtain ⟨before, v, after, blanks, value, blanks', rfl⟩ := text
  exact ((unnamed_blanks blanks).append value.unnamed).append (unnamed_blanks blanks')

end ContractBench.Json
