import ContractBench.Failure
import ContractBench.Proofs.Document

/-! # Which texts are too large to be read

A text that is read leaves an end of itself (`Consumes`, one lemma for each reader). The same lemmas
say of each failure that speaks of size what it shows in the text: a run of more digits than a whole
number may have, or more opening brackets than containers may lie deep. A text that is not
`Oversized` in one of these ways is read, or is ill-formed.
-/

namespace ContractBench.Json

/-- Somewhere in a text stand more digits in a row than a whole number may have. -/
def LongNumeral (cs : List Char) : Prop :=
  ∃ rest, rest <:+ cs ∧ Numeral.mostDigits < (rest.takeWhile Char.isDigit).length

/-- How many brackets and braces open in a text. -/
def openings (cs : List Char) : Nat := cs.countP fun c => c = '[' || c = '{'

/-- What a failure that speaks of size says about a text in which containers may lie so deep. -/
def Excess (room : Nat) (cs : List Char) : ReadFault → Prop
  | .longNumeral _ => LongNumeral cs
  | .deepList => room < openings cs
  | .deepObject => room < openings cs
  | _ => True

/-- Reading leaves an end of the text, or fails for size only on a text that is too large. -/
def Consumes {α : Type} (room : Nat) (cs : List Char) : Reading α → Prop
  | .ok (_, rest) => rest <:+ cs
  | .error e => Excess room cs e.fault

theorem openings_le {cs ds : List Char} (inside : cs <:+ ds) : openings cs ≤ openings ds :=
  inside.sublist.countP_le

theorem Excess.mono {room : Nat} {cs ds : List Char} {fault : ReadFault} (inside : cs <:+ ds)
    (h : Excess room cs fault) : Excess room ds fault := by
  cases fault with
  | longNumeral digits =>
      obtain ⟨rest, within, long⟩ := h
      exact ⟨rest, within.trans inside, long⟩
  | deepList => exact Nat.lt_of_lt_of_le h (openings_le inside)
  | deepObject => exact Nat.lt_of_lt_of_le h (openings_le inside)
  | _ => trivial

/-- Behind an opening bracket there is room for one level less. -/
theorem Excess.cons {room : Nat} {c : Char} {cs : List Char} {fault : ReadFault}
    (opens : c = '[' ∨ c = '{') (h : Excess (room - 1) cs fault) :
    Excess room (c :: cs) fault := by
  have more : openings (c :: cs) = openings cs + 1 := by
    rcases opens with rfl | rfl <;> simp [openings]
  cases fault with
  | longNumeral digits =>
      obtain ⟨rest, within, long⟩ := h
      exact ⟨rest, within.trans (List.suffix_cons _ _), long⟩
  | deepList =>
      have deep : room - 1 < openings cs := h
      change room < openings (c :: cs)
      omega
  | deepObject =>
      have deep : room - 1 < openings cs := h
      change room < openings (c :: cs)
      omega
  | _ => trivial

theorem Consumes.mono {α : Type} {room : Nat} {cs ds : List Char} {reading : Reading α}
    (inside : cs <:+ ds) (h : Consumes room cs reading) : Consumes room ds reading := by
  cases reading with
  | ok found => exact List.IsSuffix.trans h inside
  | error e => exact Excess.mono inside h

theorem Consumes.cons {α : Type} {room : Nat} {c : Char} {cs : List Char} {reading : Reading α}
    (opens : c = '[' ∨ c = '{') (h : Consumes (room - 1) cs reading) :
    Consumes room (c :: cs) reading := by
  cases reading with
  | ok found => exact List.IsSuffix.trans h (List.suffix_cons _ _)
  | error e => exact Excess.cons opens h

/-- Where there is no room, one opening bracket is too many. -/
theorem lt_openings {c : Char} (opens : c = '[' ∨ c = '{') {room : Nat} (noRoom : ¬ room ≠ 0)
    (cs : List Char) : room < openings (c :: cs) := by
  obtain rfl : room = 0 := Decidable.not_not.mp noRoom
  rcases opens with rfl | rfl <;> simp [openings]

theorem skipBlanks_suffix (cs : List Char) : skipBlanks cs <:+ cs := List.dropWhile_suffix _

theorem suffix_of_skipBlanks {c : Char} {cs rest : List Char} (marked : skipBlanks cs = c :: rest) :
    rest <:+ cs := (List.suffix_cons c rest).trans (marked ▸ skipBlanks_suffix cs)

/-! ## Strings and numbers -/

theorem consumes_readString (room start : Nat) (state : StringState) (cs : List Char) :
    Consumes room cs (readString false start state cs) := by
  fun_induction readString false start state cs with
  | case3 state rest => exact List.suffix_cons _ _
  | case7 state a b c d tail _ unit _ _ ih => exact ih.mono ⟨['\\', 'u', a, b, c, d], rfl⟩
  | case11 state letter rest _ c _ _ ih => exact ih.mono ⟨['\\', letter], rfl⟩
  | case15 state c rest _ _ _ _ _ _ ih => exact ih.mono (List.suffix_cons _ _)
  -- In all other cases reading fails, and not for size.
  | _ => exact trivial

theorem splitFraction_suffix (cs : List Char) : (splitFraction cs).2 <:+ cs := by
  rw [splitFraction.eq_def]
  split
  next rest =>
    simp only
    split
    · exact List.suffix_refl _
    · exact (List.drop_suffix _ _).trans (List.suffix_cons _ _)
  next => exact List.suffix_refl _

theorem splitSign_suffix (cs : List Char) : (Numeral.splitSign cs).2 <:+ cs := by
  rw [Numeral.splitSign.eq_def]
  split
  · exact List.suffix_cons _ _
  · exact List.suffix_cons _ _
  · exact List.suffix_refl _

theorem splitExponent_suffix (cs : List Char) : (splitExponent cs).2 <:+ cs := by
  cases cs with
  | nil => exact List.suffix_refl _
  | cons c rest =>
      simp only [splitExponent]
      split
      · exact ((List.drop_suffix _ _).trans (splitSign_suffix rest)).trans (List.suffix_cons _ _)
      · exact List.suffix_refl _

theorem splitWhole_suffix (cs : List Char) : (splitWhole cs).2 <:+ cs := by
  rw [splitWhole.eq_def]
  split
  · exact List.suffix_cons _ _
  · exact List.dropWhile_suffix _

theorem longNumeral_of_splitWhole {cs : List Char}
    (long : Numeral.mostDigits < (splitWhole cs).1.length) : LongNumeral cs := by
  rw [splitWhole.eq_def] at long
  split at long
  · simp [Numeral.mostDigits] at long
  · exact ⟨_, List.suffix_refl _, long⟩

theorem consumes_readNumber (room : Nat) (negative : Bool) (cs : List Char) :
    Consumes room cs (readNumber false negative cs) := by
  have ending := (splitExponent_suffix _).trans
    ((splitFraction_suffix _).trans (splitWhole_suffix cs))
  simp only [readNumber, Bool.false_and, Bool.false_eq_true, if_false]
  split
  · split
    next long => exact longNumeral_of_splitWhole long
    next => exact ending
  · exact ending

theorem consumes_readScalar (room : Nat) (cs : List Char) :
    Consumes room cs (readScalar false cs) := by
  rw [readScalar.eq_def]
  split
  next found named =>
    rw [readNamed?, Option.map_eq_some_iff] at named
    obtain ⟨entry, -, rfl⟩ := named
    exact List.drop_suffix _ _
  next =>
    split
    next c rest =>
      split
      · exact (consumes_readNumber room true _).mono (List.suffix_cons _ _)
      · exact trivial
    next c rest _ =>
      split
      · exact consumes_readNumber room false _
      · exact trivial
    next => exact trivial

/-! ## Containers -/

theorem consumes_readKey (room : Nat) (cs : List Char) : Consumes room cs (readKey false cs) := by
  rw [readKey.eq_def]
  split
  next rest =>
    have literal := consumes_readString room (rest.length + 1) ⟨[], none⟩ rest
    split
    next e failed =>
      rw [failed] at literal
      exact Excess.mono (List.suffix_cons _ _) literal
    next key after read =>
      rw [read] at literal
      split
      next value colon =>
        exact (((skipBlanks_suffix value).trans (suffix_of_skipBlanks colon)).trans literal).trans
          (List.suffix_cons _ _)
      next => exact trivial
  next => exact trivial

section

variable {fuel : Nat}

theorem consumes_readValue_succ
    (items : ∀ room before cs, Consumes (room - 1) cs (readItems false fuel room before cs))
    (members : ∀ room before cs, Consumes (room - 1) cs (readMembers false fuel room before cs))
    (room : Nat) (cs : List Char) : Consumes room cs (readValue false (fuel + 1) room cs) := by
  simp only [readValue.eq_def, Bool.false_or, decide_eq_true_eq]
  split
  next rest =>
    have literal := consumes_readString room (rest.length + 1) ⟨[], none⟩ rest
    split
    next e failed =>
      rw [failed] at literal
      exact Excess.mono (List.suffix_cons _ _) literal
    next s after read =>
      rw [read] at literal
      exact List.IsSuffix.trans literal (List.suffix_cons _ _)
  next rest =>
    split
    next tail marked =>
      split
      · exact (suffix_of_skipBlanks marked).trans (List.suffix_cons _ _)
      next noRoom => exact lt_openings (.inl rfl) noRoom rest
    next =>
      split
      · exact ((items room [] _).mono (skipBlanks_suffix rest)).cons (.inl rfl)
      next noRoom => exact lt_openings (.inl rfl) noRoom rest
  next rest =>
    split
    next tail marked =>
      split
      · exact (suffix_of_skipBlanks marked).trans (List.suffix_cons _ _)
      next noRoom => exact lt_openings (.inr rfl) noRoom rest
    next =>
      split
      · exact ((members room [] _).mono (skipBlanks_suffix rest)).cons (.inr rfl)
      next noRoom => exact lt_openings (.inr rfl) noRoom rest
  next => exact consumes_readScalar room cs

theorem consumes_readItems_succ
    (value : ∀ room cs, Consumes room cs (readValue false fuel room cs))
    (items : ∀ room before cs, Consumes (room - 1) cs (readItems false fuel room before cs))
    (room : Nat) (before : List Value) (cs : List Char) :
    Consumes (room - 1) cs (readItems false (fuel + 1) room before cs) := by
  rw [readItems]
  have item := value (room - 1) cs
  split
  next e failed =>
    rw [failed] at item
    exact item
  next found rest read =>
    rw [read] at item
    split
    next after marked => exact (suffix_of_skipBlanks marked).trans item
    next after marked =>
      have next := (suffix_of_skipBlanks marked).trans item
      exact (items room (found :: before) _).mono ((skipBlanks_suffix after).trans next)
    next => exact trivial

theorem consumes_readMembers_succ
    (value : ∀ room cs, Consumes room cs (readValue false fuel room cs))
    (members : ∀ room before cs, Consumes (room - 1) cs (readMembers false fuel room before cs))
    (room : Nat) (before : List (Value × Value)) (cs : List Char) :
    Consumes (room - 1) cs (readMembers false (fuel + 1) room before cs) := by
  rw [readMembers]
  have name := consumes_readKey (room - 1) cs
  split
  next e failed =>
    rw [failed] at name
    exact name
  next key rest read =>
    rw [read] at name
    have member := value (room - 1) rest
    split
    next e failed =>
      rw [failed] at member
      exact Excess.mono name member
    next found rest read =>
      rw [read] at member
      split
      next after marked => exact ((suffix_of_skipBlanks marked).trans member).trans name
      next after marked =>
        have next := ((suffix_of_skipBlanks marked).trans member).trans name
        exact (members room _ _).mono ((skipBlanks_suffix after).trans next)
      next => exact trivial

/-- The readers of values, items and members call each other, so the induction on the fuel is one
    for the three of them. -/
theorem consumes_containers (fuel : Nat) :
    (∀ room cs, Consumes room cs (readValue false fuel room cs)) ∧
      (∀ room before cs, Consumes (room - 1) cs (readItems false fuel room before cs)) ∧
      ∀ room before cs, Consumes (room - 1) cs (readMembers false fuel room before cs) := by
  induction fuel with
  | zero => exact ⟨fun _ _ => trivial, fun _ _ _ => trivial, fun _ _ _ => trivial⟩
  | succ fuel ih =>
      obtain ⟨value, items, members⟩ := ih
      exact ⟨consumes_readValue_succ items members, consumes_readItems_succ value items,
        consumes_readMembers_succ value members⟩

end

/-! ## Documents -/

/-- A text in which more digits stand in a row than a whole number may have, or more brackets open
    than containers may lie deep. -/
def Oversized (text : String) : Prop :=
  LongNumeral text.toList ∨ deepest false < openings text.toList

theorem excess_readDocument {cs : List Char} {e : ReadError}
    (failed : readDocument false cs = .error e) : Excess (deepest false) cs e.fault := by
  have reading := (consumes_containers (2 * cs.length + 2)).1 (deepest false) (skipBlanks cs)
  rw [readDocument] at failed
  cases known : readValue false (2 * cs.length + 2) (deepest false) (skipBlanks cs) with
  | error fault =>
      rw [known] at failed reading
      obtain rfl : fault = e := Except.error.inj failed
      exact Excess.mono (skipBlanks_suffix cs) reading
  | ok found =>
      obtain ⟨value, rest⟩ := found
      rw [known] at failed
      -- Only what follows the value is refused, and not for its size.
      cases tail : skipBlanks rest with
      | nil => simp [bind, Except.bind, pure, Except.pure, tail] at failed
      | cons c more =>
          obtain rfl : _ = e := by simpa [bind, Except.bind, tail, failAt] using failed
          exact trivial

/-- A text is only refused for its size when it is too large. -/
theorem oversized_of_read {text : String} {e : ReadError} {failure : Failure}
    (failed : read text = .error e) (large : Failure.ofSize? e.fault = some failure) :
    Oversized text := by
  have excess : Excess (deepest false) text.toList e.fault := by
    rw [read] at failed
    split at failed
    · obtain rfl := Except.error.inj failed
      exact trivial
    · exact excess_readDocument failed
  revert large excess
  generalize e.fault = fault
  intro large excess
  cases fault with
  | longNumeral digits => exact .inl excess
  | deepList => exact .inr excess
  | deepObject => exact .inr excess
  | _ => contradiction

theorem readNumber_of_digits {digits : List Char} (all : ∀ c ∈ digits, c.isDigit = true)
    (noZero : digits.head? ≠ some '0') (many : Numeral.mostDigits < digits.length) :
    readNumber false false digits = failAt (.longNumeral digits.length) digits := by
  have some : digits ≠ [] := by
    rintro rfl
    exact absurd many (Nat.not_lt_zero _)
  have whole : splitWhole (digits ++ []) = (digits, []) := splitWhole_digits all some noZero nofun
  rw [List.append_nil] at whole
  simp [readNumber, whole, splitFraction, splitExponent, many]

/-- A text of too many digits, the first of which is not zero, is refused. -/
theorem read_of_digits {digits : List Char} (all : ∀ c ∈ digits, c.isDigit = true)
    (noZero : digits.head? ≠ some '0') (many : Numeral.mostDigits < digits.length) :
    read (String.ofList digits) = .error ⟨.longNumeral digits.length, digits.length⟩ := by
  have refused := readNumber_of_digits all noZero many
  cases digits with
  | nil => exact absurd many (Nat.not_lt_zero _)
  | cons c tail =>
      have digit := all c List.mem_cons_self
      have noBlank := (begins_digit digit tail).skipBlanks []
      rw [List.append_nil] at noBlank
      rw [read, String.toList_ofList]
      split
      next rest marked =>
        obtain ⟨rfl, -⟩ := List.cons.inj marked
        exact absurd digit (by decide)
      next =>
        rw [readDocument, noBlank, readValue_scalar (digit_marks digit), readScalar_digit digit,
          refused]
        rfl

end ContractBench.Json
