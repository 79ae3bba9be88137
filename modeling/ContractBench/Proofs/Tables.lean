import ContractBench.Proofs.Oversized
import ContractBench.Toml.Reader

/-! # Which tables are too large to be read

A TOML document is refused because it is ill-formed, or because it holds more than can be read. Each
reader leaves an end of its text, or fails for size only where the text shows it (`Consumes`): by a
run of too many digits, by too many opening brackets, or by too many dots.
-/

namespace ContractBench.Toml

/-- Whether a character is a digit or stands between digits. -/
def inNumeral (c : Char) : Bool := c.isDigit || c = '_'

/-- What a fault shows about a text that lies in some number of lists and tables. -/
def Excess (level : Nat) (cs : List Char) : Fault → Prop
  | .malformed => True
  | .longNumeral _ =>
    ∃ rest, rest <:+ cs ∧ Numeral.mostDigits < (rest.takeWhile inNumeral).countP Char.isDigit
  | .tooDeep => deepest < level + Json.openings cs
  | .longKey => mostParts ≤ cs.count '.'

/-- Reading leaves an end of the text, or fails for size only on a text that is too large. -/
def Consumes {α : Type} (level : Nat) (cs : List Char) : Reading α → Prop
  | .ok (_, rest) => rest <:+ cs
  | .error fault => Excess level cs fault

/-- Skipping leaves an end of the text, or the text is ill-formed. -/
def Skips (cs : List Char) : Except Fault (List Char) → Prop
  | .ok rest => rest <:+ cs
  | .error fault => fault = .malformed

section

variable {α β : Type} {level : Nat} {cs ds : List Char}

theorem Excess.mono {fault : Fault} (inside : cs <:+ ds) (h : Excess level cs fault) :
    Excess level ds fault := by
  cases fault with
  | malformed => trivial
  | longNumeral digits =>
      obtain ⟨rest, within, long⟩ := h
      exact ⟨rest, within.trans inside, long⟩
  | tooDeep =>
      have fewer := Json.openings_le inside
      change deepest < level + Json.openings cs at h
      change deepest < level + Json.openings ds
      omega
  | longKey => exact Nat.le_trans h inside.sublist.countP_le

/-- What follows an opening bracket lies one level deeper. -/
theorem Excess.cons {c : Char} {fault : Fault} (opens : c = '[' ∨ c = '{')
    (h : Excess (level + 1) cs fault) : Excess level (c :: cs) fault := by
  cases fault with
  | tooDeep =>
      have more : Json.openings (c :: cs) = Json.openings cs + 1 := by
        rcases opens with rfl | rfl <;> simp [Json.openings]
      change deepest < level + 1 + Json.openings cs at h
      change deepest < level + Json.openings (c :: cs)
      omega
  | malformed => trivial
  | longNumeral digits =>
      obtain ⟨rest, within, long⟩ := h
      exact ⟨rest, within.trans (List.suffix_cons _ _), long⟩
  | longKey => exact Nat.le_trans h (List.sublist_cons_self c cs).countP_le

theorem Consumes.mono {reading : Reading α} (inside : cs <:+ ds) (h : Consumes level cs reading) :
    Consumes level ds reading := by
  cases reading with
  | ok found => exact List.IsSuffix.trans h inside
  | error fault => exact Excess.mono inside h

theorem Consumes.cons {c : Char} {reading : Reading α} (opens : c = '[' ∨ c = '{')
    (h : Consumes (level + 1) cs reading) : Consumes level (c :: cs) reading := by
  cases reading with
  | ok found => exact List.IsSuffix.trans h (List.suffix_cons _ _)
  | error fault => exact Excess.cons opens h

theorem Consumes.map {reading : Reading α} (h : Consumes level cs reading)
    (f : α × List Char → β × List Char) (shorter : ∀ found, (f found).2 <:+ found.2) :
    Consumes level cs (reading.map f) := by
  cases reading with
  | ok found => exact (shorter found).trans h
  | error fault => exact h

theorem Consumes.of_ok {reading : Reading α} {a : α} {rest : List Char}
    (h : Consumes level cs reading) (read : reading = .ok (a, rest)) : rest <:+ cs := by
  subst read
  exact h

theorem Consumes.of_error {reading : Reading α} {fault : Fault}
    (h : Consumes level cs reading) (failed : reading = .error fault) : Excess level cs fault := by
  subst failed
  exact h

theorem Skips.of_ok {skipped : Except Fault (List Char)} {rest : List Char} (h : Skips cs skipped)
    (read : skipped = .ok rest) : rest <:+ cs := by
  subst read
  exact h

theorem Skips.of_error {skipped : Except Fault (List Char)} {fault : Fault} (h : Skips cs skipped)
    (failed : skipped = .error fault) : Excess level ds fault := by
  subst failed
  obtain rfl : fault = .malformed := h
  trivial

theorem Skips.mono {skipped : Except Fault (List Char)} (inside : cs <:+ ds)
    (h : Skips cs skipped) : Skips ds skipped := by
  cases skipped with
  | ok rest => exact List.IsSuffix.trans h inside
  | error fault => exact h

end

/-! ## White space and comments -/

theorem skipSpaces_suffix (cs : List Char) : skipSpaces cs <:+ cs := List.dropWhile_suffix _

theorem suffix_of_skipSpaces {c : Char} {cs rest : List Char} (marked : skipSpaces cs = c :: rest) :
    rest <:+ cs := (List.suffix_cons c rest).trans (marked ▸ skipSpaces_suffix cs)

theorem skips_skipComment (cs : List Char) : Skips cs (skipComment cs) := by
  rw [skipComment.eq_def]
  split
  next rest =>
    simp only
    split
    · rfl
    · exact (List.drop_suffix _ _).trans (List.suffix_cons _ _)
  next => exact List.suffix_refl _

theorem skips_skipFiller (fuel : Nat) (cs : List Char) : Skips cs (skipFiller fuel cs) := by
  induction fuel generalizing cs with
  | zero => exact List.suffix_refl _
  | succ fuel ih =>
      rw [skipFiller]
      have blanks : cs.dropWhile isSpaceOrNewline <:+ cs := List.dropWhile_suffix _
      split
      next rest marked =>
        rw [marked] at blanks
        have comment := (skips_skipComment ('#' :: rest)).mono blanks
        cases known : skipComment ('#' :: rest) with
        | error fault =>
            rw [known] at comment
            exact comment
        | ok after => exact (ih after).mono (comment.of_ok known)
      next => exact blanks

theorem skips_skipAll (cs : List Char) : Skips cs (skipAll cs) := skips_skipFiller _ cs

/-! ## Texts -/

section

variable (level : Nat)

theorem consumes_readEscape (multiline : Bool) (cs : List Char) :
    Consumes level cs (readEscape multiline cs) := by
  cases cs with
  | nil => trivial
  | cons c rest =>
      rw [readEscape]
      split
      · exact (List.dropWhile_suffix _).trans (List.suffix_cons _ _)
      split
      · split
        · exact List.nil_suffix
        next after marked =>
          exact (List.dropWhile_suffix _).trans
            ((suffix_of_skipSpaces marked).trans (List.suffix_cons _ _))
        · trivial
      split
      · split
        · split
          · trivial
          · exact (List.drop_suffix _ _).trans (List.suffix_cons _ _)
        · trivial
      · split
        · exact List.suffix_cons _ _
        · trivial

theorem consumes_readBasic (multiline : Bool) (fuel : Nat) (before cs : List Char) :
    Consumes level cs (readBasic multiline fuel before cs) := by
  fun_induction readBasic multiline fuel before cs with
  | case3 fuel before _ rest => exact ⟨['"', '"', '"'], rfl⟩
  | case4 fuel before rest _ _ ih => exact ih.mono (List.suffix_cons _ _)
  | case5 fuel before rest _ => exact List.suffix_cons _ _
  | case6 fuel before rest fault failed =>
      exact ((consumes_readEscape level multiline rest).mono (List.suffix_cons _ _)).of_error failed
  | case7 fuel before rest more after read ih =>
      exact ih.mono (((consumes_readEscape level multiline rest).of_ok read).trans
        (List.suffix_cons _ _))
  | case9 fuel before c rest _ _ _ ih => exact ih.mono (List.suffix_cons _ _)
  -- In all other cases the text is ill-formed.
  | _ => trivial

theorem consumes_readLiteral (multiline : Bool) (before cs : List Char) :
    Consumes level cs (readLiteral multiline before cs) := by
  fun_induction readLiteral multiline before cs with
  | case2 before _ rest => exact ⟨['\'', '\'', '\''], rfl⟩
  | case3 before rest _ _ ih => exact ih.mono (List.suffix_cons _ _)
  | case4 before rest _ => exact List.suffix_cons _ _
  | case6 before c rest _ _ ih => exact ih.mono (List.suffix_cons _ _)
  | _ => trivial

theorem moreQuotes_suffix (quote : Char) (before cs : List Char) :
    (moreQuotes quote before cs).2 <:+ cs := by
  fun_cases moreQuotes quote before cs with
  | case1 rest => exact ⟨[quote, quote], rfl⟩
  | case2 => exact List.suffix_cons _ _
  | case4 => exact List.suffix_cons _ _
  | _ => exact List.suffix_refl _

theorem consumes_quoted (multiline : Bool) (quote : Char) (cs : List Char) :
    Consumes level cs (if quote = '"' then readBasic multiline (cs.length + 1) [] cs
      else readLiteral multiline [] cs) := by
  split
  · exact consumes_readBasic level multiline _ [] cs
  · exact consumes_readLiteral level multiline [] cs

theorem consumes_readLineText (quote : Char) (cs : List Char) :
    Consumes level cs (readLineText quote cs) :=
  (consumes_quoted level false quote cs).map _ fun _ => List.suffix_refl _

theorem dropLineEnd_suffix (cs : List Char) :
    (match cs with
      | '\n' :: rest => rest
      | cs => cs) <:+ cs := by
  split
  · exact List.suffix_cons _ _
  · exact List.suffix_refl _

theorem consumes_readLongText (quote : Char) (cs : List Char) :
    Consumes level cs (readLongText quote cs) := by
  have text := (consumes_quoted level true quote _).mono (dropLineEnd_suffix cs)
  rw [readLongText.eq_def, finish]
  exact (text.map _ fun _ => moreQuotes_suffix quote _ _).map _ fun _ => List.suffix_refl _

theorem consumes_readText (quote : Char) (cs : List Char) :
    Consumes level cs (readText quote cs) := by
  rw [readText.eq_def]
  split
  next a b c rest =>
    split
    · exact (consumes_readLongText level quote rest).mono ⟨[a, b, c], rfl⟩
    · exact (consumes_readLineText level quote _).mono (List.suffix_cons _ _)
  next => exact (consumes_readLineText level quote _).mono (List.suffix_cons _ _)
  next => trivial

end

/-! ## Numbers and moments -/

theorem splitDigits_suffix (isDigit : Char → Bool) (fuel : Nat) (cs : List Char) :
    (splitDigits isDigit fuel cs).2 <:+ cs := by
  fun_induction splitDigits isDigit fuel cs with
  | case1 cs => exact List.suffix_refl _
  | case2 fuel cs digits c rest follow _ more after split ih =>
      have behind : c :: rest <:+ cs :=
        (List.suffix_cons '_' _).trans (follow ▸ List.drop_suffix _ _)
      rw [split] at ih
      exact ih.trans behind
  | case3 fuel cs digits c rest follow => exact follow ▸ List.drop_suffix _ _
  | case4 fuel cs digits => exact List.drop_suffix _ _

theorem takeWhile_inNumeral (cs : List Char) :
    cs.takeWhile inNumeral = cs.takeWhile Char.isDigit ++
      (cs.drop (cs.takeWhile Char.isDigit).length).takeWhile inNumeral := by
  have inside : ∀ c ∈ cs.takeWhile Char.isDigit, inNumeral c = true := by
    intro c member
    have digit : c.isDigit = true := List.all_eq_true.mp List.all_takeWhile c member
    simp [inNumeral, digit]
  rw [← List.takeWhile_append_of_pos inside,
    List.prefix_iff_eq_append.mp (List.takeWhile_prefix Char.isDigit)]

/-- The digits that are split off stand in one run of digits and underscores. -/
theorem splitDigits_le (fuel : Nat) (cs : List Char) :
    (splitDigits Char.isDigit fuel cs).1.length ≤ (cs.takeWhile inNumeral).countP Char.isDigit := by
  have first (cs : List Char) : (cs.takeWhile Char.isDigit).length =
      (cs.takeWhile Char.isDigit).countP Char.isDigit := by
    rw [eq_comm, List.countP_eq_length]
    exact fun c member => List.all_eq_true.mp List.all_takeWhile c member
  fun_induction splitDigits Char.isDigit fuel cs with
  | case1 cs => exact Nat.zero_le _
  | case2 fuel cs digits c rest follow digit more after split ih =>
      have skips : inNumeral '_' = true := rfl
      rw [split] at ih
      rw [takeWhile_inNumeral cs, List.countP_append, ← first cs]
      change (digits ++ more).length ≤
        digits.length + ((cs.drop digits.length).takeWhile inNumeral).countP Char.isDigit
      rw [follow, List.takeWhile_cons_of_pos skips, List.length_append]
      change more.length ≤ _ at ih
      have grows := (List.sublist_cons_self '_' ((c :: rest).takeWhile inNumeral)).countP_le
        (p := Char.isDigit)
      omega
  | _ =>
      rw [takeWhile_inNumeral, List.countP_append, ← first]
      exact Nat.le_add_right _ _

theorem readBased?_suffix {cs : List Char} {found : Value × List Char}
    (read : readBased? cs = some found) : found.2 <:+ cs := by
  rw [readBased?.eq_def] at read
  split at read
  next c rest =>
    split at read
    next base known =>
      simp only at read
      split at read
      · contradiction
      · obtain rfl := Option.some.inj read
        exact (splitDigits_suffix _ _ _).trans ⟨['0', c], rfl⟩
    next => contradiction
  next => contradiction

theorem splitFraction_suffix (cs : List Char) : (splitFraction cs).2 <:+ cs := by
  rw [splitFraction.eq_def]
  split
  next rest =>
    simp only
    split
    · exact List.suffix_refl _
    · exact (splitDigits_suffix _ _ _).trans (List.suffix_cons _ _)
  next => exact List.suffix_refl _

theorem splitExponent_suffix (cs : List Char) : (splitExponent cs).2 <:+ cs := by
  cases cs with
  | nil => exact List.suffix_refl _
  | cons c rest =>
      simp only [splitExponent]
      split
      · exact ((splitDigits_suffix _ _ _).trans (Json.splitSign_suffix rest)).trans
          (List.suffix_cons _ _)
      · exact List.suffix_refl _

theorem splitWhole_suffix (cs : List Char) : (splitWhole cs).2 <:+ cs := by
  rw [splitWhole.eq_def]
  split
  · exact List.suffix_cons _ _
  · exact splitDigits_suffix _ _ _

theorem excess_of_splitWhole (level : Nat) {cs : List Char}
    (long : Numeral.mostDigits < (splitWhole cs).1.length) :
    Excess level cs (.longNumeral (splitWhole cs).1.length) := by
  refine ⟨cs, List.suffix_refl _, Nat.lt_of_lt_of_le long ?_⟩
  rw [splitWhole.eq_def] at long ⊢
  split
  · simp [Numeral.mostDigits] at long
  · exact splitDigits_le _ _

theorem consumes_readDecimal (level : Nat) (cs : List Char) :
    Consumes level cs (readDecimal cs) := by
  have sign := Json.splitSign_suffix cs
  have ending := (splitExponent_suffix _).trans
    ((splitFraction_suffix _).trans ((splitWhole_suffix _).trans sign))
  simp only [readDecimal]
  split
  · trivial
  split
  · split
    next long => exact Excess.mono sign (excess_of_splitWhole level long)
    next => exact ending
  · exact ending

theorem readWithin?_suffix {width least most : Nat} {cs : List Char} {found : Nat × List Char}
    (read : readWithin? width least most cs = some found) : found.2 <:+ cs := by
  simp only [readWithin?] at read
  split at read
  · obtain rfl := Option.some.inj read
    exact List.drop_suffix _ _
  · contradiction

theorem readMark?_suffix {marks cs : List Char} {found : Char × List Char}
    (read : readMark? marks cs = some found) : found.2 <:+ cs := by
  cases cs with
  | nil => contradiction
  | cons c rest =>
      rw [readMark?] at read
      split at read
      · obtain rfl := Option.some.inj read
        exact List.suffix_cons _ _
      · contradiction

theorem readFraction_suffix (cs : List Char) : (readFraction cs).2 <:+ cs := by
  rw [readFraction]
  split
  next c rest mark =>
    simp only
    split
    · exact List.suffix_refl _
    · exact (List.drop_suffix _ _).trans (readMark?_suffix mark)
  next => exact List.suffix_refl _

theorem readSeconds_suffix (cs : List Char) : (readSeconds cs).2 <:+ cs := by
  rw [readSeconds]
  split
  next second rest read =>
    obtain ⟨mark, known, within⟩ := Option.bind_eq_some_iff.mp read
    exact (readFraction_suffix rest).trans
      ((readWithin?_suffix within).trans (readMark?_suffix known))
  next => exact List.suffix_refl _

theorem readHourMinute?_suffix {cs : List Char} {found : (Nat × Nat) × List Char}
    (read : readHourMinute? cs = some found) : found.2 <:+ cs := by
  simp only [readHourMinute?, Option.bind_eq_bind, Option.bind_eq_some_iff, Option.pure_def,
    Option.some.injEq] at read
  obtain ⟨hour, hours, colon, mark, minute, minutes, rfl⟩ := read
  exact (readWithin?_suffix minutes).trans
    ((readMark?_suffix mark).trans (readWithin?_suffix hours))

theorem readTime?_suffix {cs : List Char} {found : Time × List Char}
    (read : readTime? cs = some found) : found.2 <:+ cs := by
  simp only [readTime?, Option.bind_eq_bind, Option.bind_eq_some_iff, Option.pure_def,
    Option.some.injEq] at read
  obtain ⟨start, hours, rfl⟩ := read
  exact (readSeconds_suffix _).trans (readHourMinute?_suffix hours)

theorem readAhead_suffix (cs : List Char) : (readAhead cs).2 <:+ cs := by
  rw [readAhead]
  split
  next mark rest known =>
    split
    · exact readMark?_suffix known
    split
    next hour minute after read =>
      exact (readHourMinute?_suffix read).trans (readMark?_suffix known)
    next => exact List.suffix_refl _
  next => exact List.suffix_refl _

theorem readDay?_suffix {cs : List Char} {found : Day × List Char}
    (read : readDay? cs = some found) : found.2 <:+ cs := by
  simp only [readDay?, Option.bind_eq_bind, Option.bind_eq_some_iff, Option.pure_def,
    Option.some.injEq] at read
  obtain ⟨year, years, dash, mark, month, months, dash', mark', day, days, rfl⟩ := read
  exact (readWithin?_suffix days).trans ((readMark?_suffix mark').trans
    ((readWithin?_suffix months).trans ((readMark?_suffix mark).trans (readWithin?_suffix years))))

theorem moment_suffix {cs : List Char} {found : Moment × List Char}
    (read : Moment.read? cs = some found) : found.2 <:+ cs := by
  rw [Moment.read?] at read
  split at read
  next date rest day =>
    split at read
    next clock after time =>
      obtain ⟨mark, known, clocked⟩ := Option.bind_eq_some_iff.mp time
      obtain rfl := Option.some.inj read
      exact (readAhead_suffix after).trans ((readTime?_suffix clocked).trans
        ((readMark?_suffix known).trans (readDay?_suffix day)))
    next =>
      obtain rfl := Option.some.inj read
      exact readDay?_suffix day
  next =>
    obtain ⟨time, clocked, rfl⟩ := Option.map_eq_some_iff.mp read
    exact readTime?_suffix clocked

theorem consumes_readScalar (level : Nat) (cs : List Char) :
    Consumes level cs (readScalar cs) := by
  rw [readScalar]
  split
  next => exact List.drop_suffix _ _
  next =>
    split
    next moment rest read =>
      split
      · exact moment_suffix read
      · trivial
    next =>
      split
      next found read => exact readBased?_suffix read
      next => exact consumes_readDecimal level cs

/-! ## Keys -/

theorem consumes_readKeyPart (level : Nat) (cs : List Char) :
    Consumes level cs (readKeyPart cs) := by
  cases cs with
  | nil => trivial
  | cons c rest =>
      simp only [readKeyPart]
      split
      · exact List.drop_suffix _ _
      split
      · exact (consumes_readLineText level c rest).mono (List.suffix_cons _ _)
      · trivial

/-- Reading a key leaves an end of the text, or fails for size only on a text that is too large or
    has a dot for each part that may come. -/
def ConsumesKey (level more : Nat) (cs : List Char) : Reading KeyPath → Prop
  | .ok (_, rest) => rest <:+ cs
  | .error fault => fault = .longKey ∧ more ≤ cs.count '.' ∨ Excess level cs fault

theorem consumesKey_readKeyParts (level more : Nat) (cs : List Char) :
    ConsumesKey level more cs (readKeyParts more cs) := by
  induction more generalizing cs with
  | zero =>
      have first := consumes_readKeyPart level cs
      rw [readKeyParts]
      cases known : readKeyPart cs with
      | error fault => exact .inr (first.of_error known)
      | ok found => exact .inl ⟨rfl, Nat.zero_le _⟩
  | succ more ih =>
      have first := consumes_readKeyPart level cs
      rw [readKeyParts]
      split
      next fault failed => exact .inr (first.of_error failed)
      next part rest read =>
        have ending := first.of_ok read
        split
        next after dot =>
          have behind : '.' :: after <:+ cs := (dot ▸ skipSpaces_suffix rest).trans ending
          have inside : skipSpaces after <:+ cs :=
            (skipSpaces_suffix after).trans ((List.suffix_cons _ _).trans behind)
          have parts := ih (skipSpaces after)
          cases known : readKeyParts more (skipSpaces after) with
          | ok found =>
              rw [known] at parts
              exact List.IsSuffix.trans parts inside
          | error fault =>
              rw [known] at parts
              rcases parts with ⟨long, dots⟩ | excess
              · have fewer := (skipSpaces_suffix after).sublist.count_le '.'
                have more := behind.sublist.count_le '.'
                rw [List.count_cons_self] at more
                exact .inl ⟨long, by omega⟩
              · exact .inr (excess.mono inside)
        next => exact (skipSpaces_suffix rest).trans ending

theorem consumes_readKey (level : Nat) (cs : List Char) : Consumes level cs (readKey cs) := by
  have parts := consumesKey_readKeyParts level mostParts cs
  rw [readKey]
  cases known : readKeyParts mostParts cs with
  | ok found =>
      rw [known] at parts
      exact parts
  | error fault =>
      rw [known] at parts
      rcases parts with ⟨rfl, dots⟩ | excess
      · exact dots
      · exact excess

theorem consumes_readKeySign (level : Nat) (cs : List Char) :
    Consumes level cs (readKeySign cs) := by
  have key := consumes_readKey level cs
  rw [readKeySign]
  split
  next fault failed => exact key.of_error failed
  next path rest read =>
    exact (skipSpaces_suffix rest).trans ((List.suffix_cons _ _).trans (key.of_ok read))
  next => trivial

/-! ## Lists and tables inside a line -/

theorem InlineTable.add_error {table : InlineTable} {key : KeyPath} {value : Value} {fault : Fault}
    (failed : table.add key value = .error fault) : fault = .malformed := by
  rw [InlineTable.add] at failed
  split at failed
  · exact (Except.error.inj failed).symm
  · split at failed
    · exact (Except.error.inj failed).symm
    · contradiction

section

variable {fuel : Nat}

theorem consumes_readValue_succ
    (items : ∀ level before cs, Consumes (level + 1) cs (readArray fuel level before cs))
    (members : ∀ level table cs, Consumes (level + 1) cs (readInline fuel level table cs))
    (level : Nat) (cs : List Char) : Consumes level cs (readValue (fuel + 1) level cs) := by
  rw [readValue.eq_def]
  simp only
  split
  next deep => exact Nat.lt_of_lt_of_le deep (Nat.le_add_right _ _)
  next =>
    split
    · exact (consumes_readText level '"' _).map _ fun _ => List.suffix_refl _
    · exact (consumes_readText level '\'' _).map _ fun _ => List.suffix_refl _
    · exact (items level [] _).cons (.inl rfl)
    · exact (members level ⟨[], []⟩ _).cons (.inr rfl)
    · exact consumes_readScalar level _

theorem consumes_readArray_succ
    (value : ∀ level cs, Consumes level cs (readValue fuel level cs))
    (items : ∀ level before cs, Consumes (level + 1) cs (readArray fuel level before cs))
    (level : Nat) (before : List Value) (cs : List Char) :
    Consumes (level + 1) cs (readArray (fuel + 1) level before cs) := by
  have start := skips_skipAll cs
  rw [readArray]
  split
  next fault failed => exact start.of_error failed
  next rest skipped => exact (List.suffix_cons _ _).trans (start.of_ok skipped)
  next after _ skipped =>
    have begun := start.of_ok skipped
    have item := (value (level + 1) after).mono begun
    split
    next fault failed => exact item.of_error failed
    next found rest read =>
      have ending := item.of_ok read
      have behind := (skips_skipAll rest).mono ending
      split
      next fault failed => exact behind.of_error failed
      next more skipped => exact (List.suffix_cons _ _).trans (behind.of_ok skipped)
      next more skipped =>
        exact (items level _ more).mono ((List.suffix_cons _ _).trans (behind.of_ok skipped))
      next => trivial

theorem consumes_readInline_succ
    (value : ∀ level cs, Consumes level cs (readValue fuel level cs))
    (members : ∀ level table cs, Consumes (level + 1) cs (readInline fuel level table cs))
    (level : Nat) (table : InlineTable) (cs : List Char) :
    Consumes (level + 1) cs (readInline (fuel + 1) level table cs) := by
  have start := skips_skipAll cs
  rw [readInline]
  split
  next fault failed => exact start.of_error failed
  next rest skipped => exact (List.suffix_cons _ _).trans (start.of_ok skipped)
  next after _ skipped =>
    have key := (consumes_readKeySign (level + 1) after).mono (start.of_ok skipped)
    split
    next fault failed => exact key.of_error failed
    next path rest read =>
      have member := (value (level + 1) rest).mono (key.of_ok read)
      split
      next fault failed => exact member.of_error failed
      next found rest read =>
        have behind := (skips_skipAll rest).mono (member.of_ok read)
        split
        next fault refused =>
          obtain rfl := InlineTable.add_error refused
          trivial
        next grown added =>
          split
          next fault failed => exact behind.of_error failed
          next more skipped => exact (List.suffix_cons _ _).trans (behind.of_ok skipped)
          next more skipped =>
            exact (members level grown more).mono
              ((List.suffix_cons _ _).trans (behind.of_ok skipped))
          next => trivial

/-- The readers of values, items and members call each other, so the induction on the fuel is one
    for the three of them. -/
theorem consumes_containers (fuel : Nat) :
    (∀ level cs, Consumes level cs (readValue fuel level cs)) ∧
      (∀ level before cs, Consumes (level + 1) cs (readArray fuel level before cs)) ∧
      ∀ level table cs, Consumes (level + 1) cs (readInline fuel level table cs) := by
  induction fuel with
  | zero => exact ⟨fun _ _ => trivial, fun _ _ _ => trivial, fun _ _ _ => trivial⟩
  | succ fuel ih =>
      obtain ⟨value, items, members⟩ := ih
      exact ⟨consumes_readValue_succ items members, consumes_readArray_succ value items,
        consumes_readInline_succ value members⟩

end

/-! ## Documents -/

theorem Draft.enter_error {draft : Draft} {path : KeyPath} {entries : Option Entries}
    {fault : Fault} (failed : draft.enter path entries = .error fault) : fault = .malformed := by
  cases entries with
  | none => exact (Except.error.inj failed).symm
  | some entries => contradiction

theorem Draft.openTable_error {draft : Draft} {path : KeyPath} {fault : Fault}
    (failed : draft.openTable path = .error fault) : fault = .malformed := by
  rw [Draft.openTable] at failed
  split at failed
  · exact (Except.error.inj failed).symm
  · exact Draft.enter_error failed

theorem Draft.openItem_error {draft : Draft} {path : KeyPath} {fault : Fault}
    (failed : draft.openItem path = .error fault) : fault = .malformed := by
  rw [Draft.openItem] at failed
  split at failed
  · exact (Except.error.inj failed).symm
  · exact Draft.enter_error failed

theorem Draft.add_error {draft : Draft} {key : KeyPath} {value : Value} {fault : Fault}
    (failed : draft.add key value = .error fault) : fault = .malformed := by
  simp only [Draft.add] at failed
  split at failed
  · exact (Except.error.inj failed).symm
  · split at failed
    · exact (Except.error.inj failed).symm
    · contradiction

/-- A change of the draft is refused as ill-formed, if it is refused. -/
theorem consumes_change {cs rest : List Char} {change : Except Fault Draft}
    (refused : ∀ fault, change = .error fault → fault = .malformed) (inside : rest <:+ cs) :
    Consumes 0 cs (change.map fun draft => (draft, rest)) := by
  cases change with
  | ok draft => exact inside
  | error fault =>
      obtain rfl := refused fault rfl
      trivial

theorem consumes_readHeader (draft : Draft) (cs : List Char) :
    Consumes 0 cs (readHeader draft cs) := by
  rw [readHeader.eq_def]
  split
  next rest =>
    have key := (consumes_readKey 0 (skipSpaces rest)).mono
      ((skipSpaces_suffix rest).trans (List.suffix_cons '[' _))
    simp only
    split
    next fault failed => exact key.of_error failed
    next path after read =>
      exact consumes_change (fun _ => Draft.openItem_error)
        (List.IsSuffix.trans ⟨[']', ']'], rfl⟩ (key.of_ok read))
    next => trivial
  next =>
    have key := (consumes_readKey 0 (skipSpaces cs)).mono (skipSpaces_suffix cs)
    simp only
    split
    next fault failed => exact key.of_error failed
    next path after read =>
      exact consumes_change (fun _ => Draft.openTable_error)
        ((List.suffix_cons _ _).trans (key.of_ok read))
    next => trivial

theorem consumes_readPair (draft : Draft) (cs : List Char) :
    Consumes 0 cs (readPair draft cs) := by
  have key := consumes_readKeySign 0 cs
  rw [readPair]
  split
  next fault failed => exact key.of_error failed
  next path rest read =>
    have member := ((consumes_containers (2 * rest.length + 2)).1 0 rest).mono (key.of_ok read)
    split
    next fault failed => exact member.of_error failed
    next found after read => exact consumes_change (fun _ => Draft.add_error) (member.of_ok read)

theorem consumes_readStatement (draft : Draft) (cs : List Char) :
    Consumes 0 cs (readStatement draft cs) := by
  rw [readStatement.eq_def]
  split
  · exact List.suffix_refl _
  · exact List.suffix_refl _
  · exact List.suffix_refl _
  · exact (consumes_readHeader draft _).mono (List.suffix_cons _ _)
  · exact consumes_readPair draft _

theorem excess_readLines {fuel : Nat} {draft : Draft} {cs : List Char} {fault : Fault}
    (failed : readLines fuel draft cs = .error fault) : Excess 0 cs fault := by
  induction fuel generalizing draft cs with
  | zero => contradiction
  | succ fuel ih =>
      have statement := (consumes_readStatement draft (skipSpaces cs)).mono (skipSpaces_suffix cs)
      rw [readLines] at failed
      split at failed
      next fault refused =>
        obtain rfl := Except.error.inj failed
        exact statement.of_error refused
      next draft rest read =>
        have comment := ((skips_skipComment (skipSpaces rest)).mono (skipSpaces_suffix rest)).mono
          (statement.of_ok read)
        split at failed
        next fault refused =>
          obtain rfl := Except.error.inj failed
          exact comment.of_error refused
        next => contradiction
        next after skipped =>
          exact (ih failed).mono ((List.suffix_cons _ _).trans (comment.of_ok skipped))
        next =>
          obtain rfl := Except.error.inj failed
          trivial

/-- A document is only refused for its size when it shows it. -/
theorem excess_read {text : String} {fault : Fault} (failed : read text = .error fault) :
    Excess 0 (joinLineEnds text.toList) fault := by
  rw [read] at failed
  cases known : readLines ((joinLineEnds text.toList).length + 1) ⟨[], [], [], []⟩
      (joinLineEnds text.toList) with
  | ok draft => simp [known, Except.map] at failed
  | error refused =>
      simp only [known, Except.map] at failed
      obtain rfl := Except.error.inj failed
      exact excess_readLines known

end ContractBench.Toml
