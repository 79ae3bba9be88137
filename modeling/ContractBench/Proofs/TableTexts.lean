import ContractBench.Proofs.Literal
import ContractBench.Proofs.Tables
import Mathlib.Algebra.Group.Nat.Defs

/-! # Tables that are read, and tables that are refused

A project file with any text as its release is read back (`read_writeProject`). Three kinds of
documents are refused for their size: one with a number of too many digits, one with lists too deep
in each other, and one with a key of too many parts.
-/

namespace ContractBench.Toml

/-! ## Texts that are read -/

theorem joinLineEnds_eq {cs : List Char} (noReturn : '\r' ∉ cs) : joinLineEnds cs = cs := by
  fun_induction joinLineEnds cs with
  | case1 rest ih => simp at noReturn
  | case2 c rest _ ih =>
      rw [ih (List.not_mem_of_not_mem_cons noReturn)]
  | case3 => rfl

theorem ofHex?_hexDigits {width n : Nat} (small : n < 16 ^ width) :
    ofHex? (Text.hexDigits width n) = some n := by
  induction width generalizing n with
  | zero =>
      obtain rfl : n = 0 := by simpa using small
      rfl
  | succ width ih =>
      have head : n / 16 < 16 ^ width := by
        rw [Nat.pow_succ] at small
        exact Nat.div_lt_of_lt_mul (by omega)
      have read := ih head
      rw [ofHex?] at read
      rw [ofHex?, Text.hexDigits, List.foldl_append, read]
      simp only [List.foldl_cons, List.foldl_nil,
        Json.hexValue?_hexDigit (Nat.mod_lt n (by decide : 0 < 16)), Option.some.injEq]
      omega

/-- A character of a text on one line, in a form that is read as it. -/
def writeChar (c : Char) : List Char :=
  if c = '"' ∨ c = '\\' then ['\\', c]
  else if isControl c then Json.unitEscape c.toNat
  else [c]

theorem readEscape_unit {n : Nat} (small : n < 0xD800) (rest : List Char) :
    readEscape false ('u' :: Text.hexDigits 4 n ++ rest) = .ok ([Char.ofNat n], rest) := by
  have digits : ofHex? (Text.hexDigits 4 n) = some n := ofHex?_hexDigits (by omega)
  have four : (Text.hexDigits 4 n).length = 4 := rfl
  have taken : (Text.hexDigits 4 n ++ rest).take 4 = Text.hexDigits 4 n := List.take_left' four
  have dropped : (Text.hexDigits 4 n ++ rest).drop 4 = rest := List.drop_left' four
  have enough : ¬ (Text.hexDigits 4 n ++ rest).length < 4 := by
    rw [List.length_append, four]
    omega
  rw [List.cons_append, readEscape]
  simp [hexWidth?, taken, dropped, digits, scalar?, small, -List.length_append, enough]

theorem readBasic_writeChar (c : Char) (fuel : Nat) (before rest : List Char) :
    readBasic false (fuel + 1) before (writeChar c ++ rest) =
      readBasic false fuel (c :: before) rest := by
  rw [writeChar]
  split
  next special =>
    rcases special with rfl | rfl <;> rfl
  next plain =>
    split
    next control =>
      have small : c.toNat < 0xD800 := by
        simp only [isControl, Bool.or_eq_true, Bool.and_eq_true, decide_eq_true_eq] at control
        omega
      rw [Json.unitEscape, List.cons_append, readBasic, readEscape_unit small]
      simp
    next legal =>
      obtain ⟨noQuote, noEscape⟩ := not_or.mp plain
      rw [List.cons_append, List.nil_append, readBasic.eq_6]
      · simp [isIllegal, legal]
      · exact fun same => noQuote same
      · exact fun same => noEscape same

theorem readBasic_written (cs : List Char) {fuel : Nat} (enough : cs.length < fuel)
    (before rest : List Char) :
    readBasic false fuel before (cs.flatMap writeChar ++ '"' :: rest) =
      .ok (cs.reverse ++ before, rest) := by
  induction cs generalizing fuel before with
  | nil =>
      obtain ⟨fuel, rfl⟩ := Nat.exists_eq_add_one_of_ne_zero (Nat.ne_zero_of_lt enough)
      rfl
  | cons c cs ih =>
      obtain ⟨fuel, rfl⟩ := Nat.exists_eq_add_one_of_ne_zero (Nat.ne_zero_of_lt enough)
      have left : cs.length < fuel := by simpa using enough
      rw [List.flatMap_cons, List.append_assoc, readBasic_writeChar, ih left,
        List.reverse_cons, List.append_assoc]
      rfl

/-- A character is written as some characters, the first of which is no quote. -/
theorem begins_writeChar (c : Char) : ∃ d ds, writeChar c = d :: ds ∧ d ≠ '"' := by
  rw [writeChar]
  split
  · exact ⟨'\\', [c], rfl, by decide⟩
  next plain =>
    split
    · exact ⟨'\\', _, rfl, by decide⟩
    · exact ⟨c, [], rfl, fun same => plain (.inl same)⟩

theorem length_le_written (cs : List Char) : cs.length ≤ (cs.flatMap writeChar).length := by
  induction cs with
  | nil => exact Nat.le_refl _
  | cons c cs ih =>
      obtain ⟨d, ds, known, -⟩ := begins_writeChar c
      rw [List.flatMap_cons, known, List.length_append, List.length_cons, List.length_cons]
      omega

theorem readText_line {quote : Char} {cs : List Char} (single : ¬ [quote, quote] <+: cs) :
    readText quote (quote :: cs) = readLineText quote cs := by
  match cs with
  | [] => rfl
  | [b] => rfl
  | b :: c :: rest =>
      rw [readText, if_neg]
      rintro ⟨-, rfl, rfl⟩
      exact single ⟨rest, rfl⟩

/-- A text between quotes on one line. -/
def writeText (s : String) : List Char := '"' :: (s.toList.flatMap writeChar ++ ['"'])

theorem readText_writeText (s : String) {rest : List Char} (ends : rest.head? ≠ some '"') :
    readText '"' (writeText s ++ rest) = .ok (s, rest) := by
  have single : ¬ ['"', '"'] <+: s.toList.flatMap writeChar ++ '"' :: rest := by
    cases s.toList with
    | nil =>
        rintro ⟨after, same⟩
        obtain rfl : '"' :: after = rest := by simpa using same
        exact ends rfl
    | cons c cs =>
        obtain ⟨d, ds, known, noQuote⟩ := begins_writeChar c
        rintro ⟨after, same⟩
        simp only [List.flatMap_cons, known, List.cons_append, List.cons.injEq] at same
        exact noQuote same.1.symm
  have longer := length_le_written s.toList
  have shape : writeText s ++ rest = '"' :: (s.toList.flatMap writeChar ++ '"' :: rest) := by
    simp [writeText]
  rw [shape, readText_line single, readLineText, if_pos rfl, readBasic_written s.toList
    (by rw [List.length_append, List.length_cons]; omega)]
  simp [finish, Except.map]

/-! ## A table that is read -/

theorem return_not_mem_writeText (s : String) : '\r' ∉ writeText s := by
  have digits : ∀ n < 16, Text.hexDigit n ≠ '\r' := by decide
  have chars (c : Char) : '\r' ∉ writeChar c := by
    rw [writeChar]
    split
    next special => rcases special with rfl | rfl <;> decide
    next =>
      split
      next =>
        have digit (n : Nat) : '\r' ≠ Text.hexDigit (n % 16) :=
          (digits _ (Nat.mod_lt n (by decide))).symm
        simp [Json.unitEscape, Text.hexDigits, digit]
      next legal =>
        intro inside
        obtain rfl := List.mem_singleton.mp inside
        exact legal rfl
  simp [writeText, chars]

/-- The header of a project. -/
def projectHeader : List Char := ['[', 'p', 'r', 'o', 'j', 'e', 'c', 't', ']']

/-- What stands before the release of a project. -/
def versionSign : List Char := ['v', 'e', 'r', 's', 'i', 'o', 'n', ' ', '=', ' ']

/-- The lines of a project file that tells nothing but the release. -/
def projectLines (release : String) : List Char :=
  projectHeader ++ '\n' :: (versionSign ++ writeText release ++ ['\n'])

/-- A project file that tells nothing but the release. -/
def writeProject (release : String) : String := String.ofList (projectLines release)

/-- The draft behind the header of a project. -/
def openedProject : Draft where
  entries := [(.text "project", .dict [])]
  marks := [(["project"], .headed)]
  pending := []
  header := ["project"]

theorem readStatement_header (rest : List Char) :
    readStatement ⟨[], [], [], []⟩ (projectHeader ++ rest) = .ok (openedProject, rest) := by
  rfl

theorem readStatement_version (release : String) {rest : List Char} (ends : rest.head? ≠ some '"') :
    readStatement openedProject (versionSign ++ writeText release ++ rest) =
      .ok ({ openedProject with
        entries := [(.text "project", .dict [(.text "version", .text release)])] }, rest) := by
  have key : readKeySign (versionSign ++ writeText release ++ rest) =
      .ok (["version"], writeText release ++ rest) := rfl
  have value (fuel : Nat) : readValue (fuel + 1) 0 (writeText release ++ rest) =
      .ok (.text release, rest) := by
    have text := readText_writeText release ends
    rw [writeText, List.cons_append] at text ⊢
    rw [readValue, if_neg (by decide)]
    simp only [text]
    rfl
  change readPair openedProject (versionSign ++ writeText release ++ rest) = _
  rw [readPair, key]
  simp only [value]
  rfl

/-- A line that holds a statement and no comment. -/
theorem readLines_line {draft next : Draft} {cs rest : List Char} (fuel : Nat)
    (noSpace : skipSpaces cs = cs) (statement : readStatement draft cs = .ok (next, '\n' :: rest)) :
    readLines (fuel + 1) draft cs = readLines fuel next rest := by
  rw [readLines, noSpace, statement]
  rfl

theorem readLines_projectLines (release : String) (fuel : Nat) :
    readLines (fuel + 3) ⟨[], [], [], []⟩ (projectLines release) =
      .ok { openedProject with
        entries := [(.text "project", .dict [(.text "version", .text release)])] } := by
  have lineEnd : ['\n'].head? ≠ some '"' := by decide
  rw [projectLines, readLines_line _ rfl (readStatement_header _),
    readLines_line _ rfl (readStatement_version release lineEnd)]
  rfl

theorem read_writeProject (release : String) :
    read (writeProject release) =
      .ok [(.text "project", .dict [(.text "version", .text release)])] := by
  have noReturn : '\r' ∉ projectLines release := by
    simp [projectLines, projectHeader, versionSign, return_not_mem_writeText]
  obtain ⟨fuel, known⟩ : ∃ fuel, (projectLines release).length + 1 = fuel + 3 := by
    refine ⟨(projectLines release).length - 2, ?_⟩
    have long : 9 ≤ (projectLines release).length := by
      rw [projectLines, List.length_append]
      exact Nat.le_add_right 9 _
    omega
  rw [read, writeProject, String.toList_ofList, joinLineEnds_eq noReturn, known]
  simp only [readLines_projectLines]
  rfl

/-! ## Documents that are too large -/

section

variable {digits : List Char}

theorem readMark?_of_digits {marks : List Char} (all : ∀ c ∈ digits, c.isDigit = true)
    (noDigit : ∀ c ∈ marks, c.isDigit = false) : readMark? marks digits = none := by
  cases digits with
  | nil => rfl
  | cons c tail =>
      have digit := all c List.mem_cons_self
      have other : c ∉ marks := fun inside => by simp [noDigit c inside] at digit
      simp [readMark?, other]

/-- Digits alone are no moment. -/
theorem moment_of_digits (all : ∀ c ∈ digits, c.isDigit = true) : Moment.read? digits = none := by
  have behind (marks : List Char) {width least most : Nat} {found : Nat × List Char}
      (noDigit : ∀ c ∈ marks, c.isDigit = false)
      (read : readWithin? width least most digits = some found) : readMark? marks found.2 = none :=
    readMark?_of_digits (fun c inside => all c ((readWithin?_suffix read).subset inside)) noDigit
  have noDay : readDay? digits = none := by
    rw [readDay?]
    cases known : readWithin? 4 0 9999 digits with
    | none => rfl
    | some found => simp [behind ['-'] (by simp) known]
  have noTime : readTime? digits = none := by
    rw [readTime?, readHourMinute?]
    cases known : readWithin? 2 0 23 digits with
    | none => rfl
    | some found => simp [behind [':'] (by simp) known]
  rw [Moment.read?, noDay, noTime]
  rfl

theorem splitWhole_of_digits (all : ∀ c ∈ digits, c.isDigit = true)
    (noZero : digits.head? ≠ some '0') : splitWhole digits = (digits, []) := by
  have taken : (digits ++ []).takeWhile Char.isDigit = digits ++ [].takeWhile Char.isDigit :=
    List.takeWhile_append_of_pos all
  rw [List.takeWhile_nil, List.append_nil] at taken
  rw [splitWhole.eq_def]
  split
  · exact absurd rfl noZero
  · cases digits with
    | nil => rfl
    | cons c tail => simp [splitDigits, taken]

theorem splitSign_of_digit {c : Char} (digit : c.isDigit = true) (tail : List Char) :
    Numeral.splitSign (c :: tail) = (false, c :: tail) := by
  rw [Numeral.splitSign.eq_def]
  split
  next same => exact absurd (List.cons.inj same).1 (Json.ne_of_isDigit digit rfl)
  next same => exact absurd (List.cons.inj same).1 (Json.ne_of_isDigit digit rfl)
  next => rfl

/-- A whole number of too many digits is refused. -/
theorem readScalar_of_digits (all : ∀ c ∈ digits, c.isDigit = true)
    (noZero : digits.head? ≠ some '0') (many : Numeral.mostDigits < digits.length) :
    readScalar digits = .error (.longNumeral digits.length) := by
  have noBase : readBased? digits = none := by
    rw [readBased?.eq_def]
    split
    · exact absurd rfl noZero
    · rfl
  cases digits with
  | nil => exact absurd many (Nat.not_lt_zero _)
  | cons c tail =>
      have digit := all c List.mem_cons_self
      have other {d : Char} (noDigit : d.isDigit = false) : d ≠ c :=
        (Json.ne_of_isDigit digit noDigit).symm
      have noName :
          (namedValues.find? fun entry => entry.1.toList.isPrefixOf (c :: tail)) = none := by
        simp [namedValues, other (d := 't') rfl, other (d := 'f') rfl, other (d := 'i') rfl,
          other (d := '+') rfl, other (d := '-') rfl, other (d := 'n') rfl]
      rw [readScalar, noName, moment_of_digits all, noBase]
      simp only [readDecimal, splitSign_of_digit digit tail, splitWhole_of_digits all noZero]
      simp only [splitFraction, splitExponent, if_pos many]
      rfl

end

theorem readValue_deep {level : Nat} (deep : deepest < level) (fuel : Nat) (cs : List Char) :
    readValue (fuel + 1) level cs = .error .tooDeep := by
  rw [readValue.eq_def]
  exact if_pos deep

theorem readArray_of_error {fuel level : Nat} {before : List Value} {cs : List Char} {fault : Fault}
    (begins : skipAll cs = .ok cs) (more : cs.head? ≠ some ']')
    (failed : readValue fuel (level + 1) cs = .error fault) :
    readArray (fuel + 1) level before cs = .error fault := by
  rw [readArray, begins]
  split
  next none => contradiction
  next rest same =>
    obtain rfl := Except.ok.inj same
    exact absurd rfl more
  next same =>
    obtain rfl := Except.ok.inj same
    simp only [failed]

/-- Lists inside each other beyond the deepest are refused. -/
theorem readValue_of_openings (depth : Nat) {fuel level : Nat} (deep : deepest < level + depth)
    (enough : 2 * depth < fuel) :
    readValue fuel level (List.replicate depth '[') = .error .tooDeep := by
  induction depth generalizing fuel level with
  | zero =>
      obtain ⟨fuel, rfl⟩ := Nat.exists_eq_add_one_of_ne_zero (Nat.ne_zero_of_lt enough)
      exact readValue_deep deep fuel _
  | succ depth ih =>
      obtain ⟨fuel, rfl⟩ : ∃ more, fuel = more + 1 + 1 := ⟨fuel - 2, by omega⟩
      have begins : skipAll (List.replicate depth '[') = .ok (List.replicate depth '[') := by
        cases depth <;> rfl
      have more : (List.replicate depth '[').head? ≠ some ']' := by
        cases depth <;> simp [List.replicate_succ]
      by_cases deeper : deepest < level
      · exact readValue_deep deeper _ _
      · rw [List.replicate_succ, readValue, if_neg deeper]
        exact readArray_of_error begins more (ih (by omega) (by omega))

/-- A key of so many parts and one more. -/
def manyParts : Nat → List Char
  | 0 => ['a']
  | more + 1 => 'a' :: '.' :: manyParts more

theorem readKeyParts_manyParts (more : Nat) :
    readKeyParts more (manyParts more) = .error .longKey := by
  induction more with
  | zero => rfl
  | succ more ih =>
      have first : readKeyPart (manyParts (more + 1)) = .ok ("a", '.' :: manyParts more) := rfl
      have dot : skipSpaces ('.' :: manyParts more) = '.' :: manyParts more := rfl
      have noSpace : skipSpaces (manyParts more) = manyParts more := by cases more <;> rfl
      rw [readKeyParts, first]
      simp only [dot, noSpace, ih]
      rfl

theorem read_of_statement {cs : List Char} {fault : Fault} (noReturn : '\r' ∉ cs)
    (noSpace : skipSpaces cs = cs) (failed : readStatement ⟨[], [], [], []⟩ cs = .error fault) :
    read (String.ofList cs) = .error fault := by
  rw [read, String.toList_ofList, joinLineEnds_eq noReturn, readLines, noSpace, failed]
  rfl

theorem read_of_value {cs : List Char} {fault : Fault} (noReturn : '\r' ∉ cs)
    (noSpace : skipSpaces cs = cs) (failed : readValue (2 * cs.length + 2) 0 cs = .error fault) :
    read (String.ofList ('a' :: '=' :: cs)) = .error fault := by
  have key : readKeySign ('a' :: '=' :: cs) = .ok (["a"], cs) := by
    change Except.ok (["a"], skipSpaces cs) = _
    rw [noSpace]
  refine read_of_statement (by simpa using noReturn) rfl ?_
  change readPair ⟨[], [], [], []⟩ ('a' :: '=' :: cs) = _
  rw [readPair, key]
  simp only [failed]

theorem read_of_ones {digits : Nat} (many : Numeral.mostDigits < digits) :
    read (String.ofList ('a' :: '=' :: List.replicate digits '1')) =
      .error (.longNumeral digits) := by
  obtain ⟨digits, rfl⟩ := Nat.exists_eq_add_one_of_ne_zero (Nat.ne_zero_of_lt many)
  have all : ∀ c ∈ List.replicate (digits + 1) '1', c.isDigit = true := by
    intro c inside
    obtain rfl := List.eq_of_mem_replicate inside
    rfl
  have noZero : (List.replicate (digits + 1) '1').head? ≠ some '0' := by
    simp [List.replicate_succ]
  have refused := readScalar_of_digits all noZero (by simpa using many)
  rw [List.length_replicate] at refused
  exact read_of_value (by simp) rfl refused

theorem read_of_openings {depth : Nat} (deep : deepest < depth) :
    read (String.ofList ('a' :: '=' :: List.replicate depth '[')) = .error .tooDeep := by
  have noSpace : skipSpaces (List.replicate depth '[') = List.replicate depth '[' := by
    cases depth <;> rfl
  refine read_of_value (by simp) noSpace (readValue_of_openings depth (by omega) ?_)
  rw [List.length_replicate]
  omega

theorem read_of_manyParts : read (String.ofList (manyParts mostParts)) = .error .longKey := by
  have noReturn (more : Nat) : '\r' ∉ manyParts more := by
    induction more with
    | zero => decide
    | succ more ih => simp [manyParts, ih]
  refine read_of_statement (noReturn _) rfl ?_
  change readPair ⟨[], [], [], []⟩ (manyParts mostParts) = _
  rw [readPair, readKeySign, readKey, readKeyParts_manyParts]

end ContractBench.Toml
