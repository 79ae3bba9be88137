import ContractBench.Text.Utf8

/-! # Texts and their bytes

A text that is written as bytes is read back, and no other bytes are read as it (`decode_eq_ok`).
There are two facts about characters. The bytes of a character are read as that character, whatever
follows them (`step_encodeChar`), and a character is read from no other bytes (`own_of_step`).
-/

namespace ContractBench.Utf8

theorem toNat_ofNat {n : Nat} (small : n < 256) : (UInt8.ofNat n).toNat = n := by
  simp [UInt8.toNat_ofNat', Nat.mod_eq_of_lt small]

theorem isContinuation_ofNat (n : Nat) : isContinuation (UInt8.ofNat (n % 64 + 0x80)) = true := by
  have byte : (UInt8.ofNat (n % 64 + 0x80)).toNat = n % 64 + 0x80 := toNat_ofNat (by omega)
  simp only [isContinuation, Bool.and_eq_true, decide_eq_true_eq, UInt8.le_iff_toNat_le,
    UInt8.lt_iff_toNat_lt, byte]
  exact ⟨Nat.le_add_left .., show _ < 192 by omega⟩

theorem lowBits_ofNat (n : Nat) : lowBits (UInt8.ofNat (n % 64 + 0x80)) = n % 64 := by
  rw [lowBits, toNat_ofNat (by omega)]
  omega

theorem inRange_secondRange {lead second : UInt8}
    (continues : 0x80 ≤ second.toNat ∧ second.toNat ≤ 0xBF)
    (notOverlong : lead.toNat = 0xE0 → 0xA0 ≤ second.toNat)
    (noSurrogate : lead.toNat = 0xED → second.toNat ≤ 0x9F)
    (notOverlong' : lead.toNat = 0xF0 → 0x90 ≤ second.toNat)
    (notBeyond : lead.toNat = 0xF4 → second.toNat ≤ 0x8F) :
    inRange (secondRange lead).1 (secondRange lead).2 second = true := by
  have number (n : UInt8) : lead = n ↔ lead.toNat = n.toNat := UInt8.toNat_inj.symm
  simp only [inRange, secondRange, Bool.and_eq_true, decide_eq_true_eq, UInt8.le_iff_toNat_le,
    number]
  split
  · exact ⟨notOverlong ‹_›, continues.2⟩
  · split
    · exact ⟨continues.1, noSurrogate ‹_›⟩
    · split
      · exact ⟨notOverlong' ‹_›, continues.2⟩
      · split
        · exact ⟨continues.1, notBeyond ‹_›⟩
        · exact continues

/-- Which reading a leading byte calls for, in numbers. -/
theorem step_eq (lead : UInt8) (rest : List UInt8) :
    step lead rest =
      if lead.toNat < 0x80 then .char (Char.ofNat lead.toNat) 0
      else if lead.toNat < 0xC2 then .fault .badStart 0
      else if lead.toNat < 0xE0 then stepTwo lead rest
      else if lead.toNat < 0xF0 then stepThree lead rest
      else if lead.toNat < 0xF5 then stepFour lead rest
      else .fault .badStart 0 := by
  simp only [step, UInt8.lt_iff_toNat_lt]
  rfl

theorem step_one {v : Nat} (rest : List UInt8) (small : v ≤ 0x7F) :
    step (UInt8.ofNat v) rest = .char (Char.ofNat v) 0 := by
  rw [step_eq, toNat_ofNat (by omega), if_pos (by omega)]

theorem step_two {v : Nat} (rest : List UInt8) (large : 0x7F < v) (small : v ≤ 0x7FF) :
    step (UInt8.ofNat (v / 64 % 0x20 + 0xC0)) (UInt8.ofNat (v % 0x40 + 0x80) :: rest) =
      .char (Char.ofNat v) 1 := by
  have lead : (UInt8.ofNat (v / 64 % 0x20 + 0xC0)).toNat = v / 64 + 0xC0 := by
    rw [toNat_ofNat (by omega)]
    omega
  have number : (v / 64 + 0xC0) % 32 * 64 + v % 64 = v := by omega
  rw [step_eq, lead, if_neg (by omega), if_neg (by omega), if_pos (by omega)]
  simp only [stepTwo, isContinuation_ofNat v, if_true, lowBits_ofNat, lead, number]

theorem step_three {v : Nat} (rest : List UInt8) (large : 0x7FF < v) (small : v ≤ 0xFFFF)
    (noSurrogate : v < 0xD800 ∨ 0xDFFF < v) :
    step (UInt8.ofNat (v / 4096 % 0x10 + 0xE0))
      (UInt8.ofNat (v / 64 % 0x40 + 0x80) :: UInt8.ofNat (v % 0x40 + 0x80) :: rest) =
      .char (Char.ofNat v) 2 := by
  have lead : (UInt8.ofNat (v / 4096 % 0x10 + 0xE0)).toNat = v / 4096 + 0xE0 := by
    rw [toNat_ofNat (by omega)]
    omega
  have second : (UInt8.ofNat (v / 64 % 0x40 + 0x80)).toNat = v / 64 % 64 + 0x80 :=
    toNat_ofNat (by omega)
  have range : inRange (secondRange (UInt8.ofNat (v / 4096 % 0x10 + 0xE0))).1
      (secondRange (UInt8.ofNat (v / 4096 % 0x10 + 0xE0))).2
      (UInt8.ofNat (v / 64 % 0x40 + 0x80)) = true := by
    apply inRange_secondRange <;> omega
  have number : ((v / 4096 + 0xE0) % 16 * 64 + v / 64 % 64) * 64 + v % 64 = v := by omega
  rw [step_eq, lead, if_neg (by omega), if_neg (by omega), if_neg (by omega), if_pos (by omega)]
  simp only [stepThree, range, isContinuation_ofNat v, if_true, lowBits_ofNat, lead, number]

theorem step_four {v : Nat} (rest : List UInt8) (large : 0xFFFF < v) (small : v ≤ 0x10FFFF) :
    step (UInt8.ofNat (v / 262144 % 0x08 + 0xF0))
      (UInt8.ofNat (v / 4096 % 0x40 + 0x80) :: UInt8.ofNat (v / 64 % 0x40 + 0x80) ::
        UInt8.ofNat (v % 0x40 + 0x80) :: rest) =
      .char (Char.ofNat v) 3 := by
  have lead : (UInt8.ofNat (v / 262144 % 0x08 + 0xF0)).toNat = v / 262144 + 0xF0 := by
    rw [toNat_ofNat (by omega)]
    omega
  have second : (UInt8.ofNat (v / 4096 % 0x40 + 0x80)).toNat = v / 4096 % 64 + 0x80 :=
    toNat_ofNat (by omega)
  have range : inRange (secondRange (UInt8.ofNat (v / 262144 % 0x08 + 0xF0))).1
      (secondRange (UInt8.ofNat (v / 262144 % 0x08 + 0xF0))).2
      (UInt8.ofNat (v / 4096 % 0x40 + 0x80)) = true := by
    apply inRange_secondRange <;> omega
  have number : (((v / 262144 + 0xF0) % 8 * 64 + v / 4096 % 64) * 64 + v / 64 % 64) * 64 +
      v % 64 = v := by omega
  rw [step_eq, lead, if_neg (by omega), if_neg (by omega), if_neg (by omega), if_neg (by omega),
    if_pos (by omega)]
  simp only [stepFour, range, isContinuation_ofNat, if_true, lowBits_ofNat, lead, number]

/-- The bytes of a character are read as that character, whatever follows them. -/
theorem step_encodeChar (c : Char) :
    ∃ lead more, String.utf8EncodeChar c = lead :: more ∧
      ∀ rest, step lead (more ++ rest) = .char c more.length := by
  have valid : c.val.toNat < 0xD800 ∨ 0xDFFF < c.val.toNat ∧ c.val.toNat < 0x110000 := c.valid
  have same : Char.ofNat c.val.toNat = c := Char.ofNat_toNat c
  simp only [String.utf8EncodeChar]
  generalize c.val.toNat = v at valid same
  subst same
  by_cases one : v ≤ 0x7F
  · exact ⟨_, _, if_pos one, fun rest => step_one rest one⟩
  rw [if_neg one]
  by_cases two : v ≤ 0x7FF
  · exact ⟨_, _, if_pos two, fun rest => step_two rest (by omega) two⟩
  rw [if_neg two]
  by_cases three : v ≤ 0xFFFF
  · exact ⟨_, _, if_pos three, fun rest => step_three rest (by omega) three (by omega)⟩
  · exact ⟨_, _, if_neg three, fun rest => step_four rest (by omega) (by omega)⟩

/-- Bytes that still belong to the last character are passed over. -/
theorem decodeFrom_skip (offset : Nat) (more rest : List UInt8) :
    decodeFrom offset more.length (more ++ rest) = decodeFrom (offset + more.length) 0 rest := by
  induction more generalizing offset with
  | nil => rfl
  | cons byte more ih =>
      simp only [List.length_cons, List.cons_append, decodeFrom, ih]
      congr 1
      omega

theorem decodeFrom_encode (offset : Nat) (cs : List Char) :
    decodeFrom offset 0 (cs.flatMap String.utf8EncodeChar) = .ok cs := by
  induction cs generalizing offset with
  | nil => rfl
  | cons c cs ih =>
      obtain ⟨lead, more, bytes, read⟩ := step_encodeChar c
      rw [List.flatMap_cons, bytes, List.cons_append, decodeFrom, read]
      simp only [decodeFrom_skip, ih]
      rfl

/-- Every text survives its bytes. -/
theorem decode_encode (text : String) : decode (encode text) = .ok text := by
  rw [decode, encode, decodeFrom_encode]
  simp [Except.map]

theorem encode_ne_nil {text : String} (some : text ≠ "") : encode text ≠ [] := by
  intro none
  have back := decode_encode text
  rw [none] at back
  exact some (Except.ok.inj back).symm

/-! ## Nothing else is read as a text -/

/-- The bytes of the character of a number. -/
theorem encodeChar_ofNat {v : Nat} (valid : v.isValidChar) :
    String.utf8EncodeChar (Char.ofNat v) =
      if v ≤ 0x7F then [UInt8.ofNat v]
      else if v ≤ 0x7FF then
        [UInt8.ofNat (v / 64 % 0x20 + 0xC0), UInt8.ofNat (v % 0x40 + 0x80)]
      else if v ≤ 0xFFFF then
        [UInt8.ofNat (v / 4096 % 0x10 + 0xE0), UInt8.ofNat (v / 64 % 0x40 + 0x80),
          UInt8.ofNat (v % 0x40 + 0x80)]
      else
        [UInt8.ofNat (v / 262144 % 0x08 + 0xF0), UInt8.ofNat (v / 4096 % 0x40 + 0x80),
          UInt8.ofNat (v / 64 % 0x40 + 0x80), UInt8.ofNat (v % 0x40 + 0x80)] := by
  have number : (Char.ofNat v).val.toNat = v := by
    rw [Char.ofNat, dif_pos valid]
    rfl
  simp only [String.utf8EncodeChar, number]

theorem ofNat_eq (byte : UInt8) {n : Nat} (same : n = byte.toNat) : UInt8.ofNat n = byte := by
  rw [same, UInt8.ofNat_toNat]

theorem bounds_of_isContinuation {byte : UInt8} (continues : isContinuation byte = true) :
    0x80 ≤ byte.toNat ∧ byte.toNat ≤ 0xBF ∧ lowBits byte = byte.toNat - 0x80 := by
  simp only [isContinuation, Bool.and_eq_true, decide_eq_true_eq, UInt8.le_iff_toNat_le,
    UInt8.lt_iff_toNat_lt] at continues
  have least : (0x80 : UInt8).toNat = 128 := rfl
  have bound : (0xC0 : UInt8).toNat = 192 := rfl
  rw [lowBits]
  omega

/-- A second byte in its range continues a character that is neither overlong nor half of a
    surrogate pair nor beyond the last one. -/
theorem bounds_of_inRange {lead second : UInt8}
    (range : inRange (secondRange lead).1 (secondRange lead).2 second = true) :
    (0x80 ≤ second.toNat ∧ second.toNat ≤ 0xBF ∧ lowBits second = second.toNat - 0x80) ∧
      (lead.toNat = 0xE0 → 0xA0 ≤ second.toNat) ∧ (lead.toNat = 0xED → second.toNat ≤ 0x9F) ∧
      (lead.toNat = 0xF0 → 0x90 ≤ second.toNat) ∧ (lead.toNat = 0xF4 → second.toNat ≤ 0x8F) := by
  have number (n : UInt8) : lead = n ↔ lead.toNat = n.toNat := UInt8.toNat_inj.symm
  have inside (low high : UInt8) :
      inRange low high second = true ↔ low.toNat ≤ second.toNat ∧ second.toNat ≤ high.toNat := by
    simp [inRange, UInt8.le_iff_toNat_le]
  simp only [secondRange, number] at range
  rw [lowBits]
  split at range
  next first =>
    have first : lead.toNat = 0xE0 := first
    have held : 0xA0 ≤ second.toNat ∧ second.toNat ≤ 0xBF := (inside ..).mp range
    omega
  split at range
  next first =>
    have first : lead.toNat = 0xED := first
    have held : 0x80 ≤ second.toNat ∧ second.toNat ≤ 0x9F := (inside ..).mp range
    omega
  split at range
  next first =>
    have first : lead.toNat = 0xF0 := first
    have held : 0x90 ≤ second.toNat ∧ second.toNat ≤ 0xBF := (inside ..).mp range
    omega
  split at range
  next first =>
    have first : lead.toNat = 0xF4 := first
    have held : 0x80 ≤ second.toNat ∧ second.toNat ≤ 0x8F := (inside ..).mp range
    omega
  next e0 ed f0 f4 =>
    have e0 : ¬ lead.toNat = 0xE0 := e0
    have ed : ¬ lead.toNat = 0xED := ed
    have f0 : ¬ lead.toNat = 0xF0 := f0
    have f4 : ¬ lead.toNat = 0xF4 := f4
    have held : 0x80 ≤ second.toNat ∧ second.toNat ≤ 0xBF := (inside ..).mp range
    omega

variable {lead : UInt8} {rest : List UInt8} {c : Char} {more : Nat}

/-- The bytes that a step read after the first are those of its character. -/
def OwnBytes (lead : UInt8) (rest : List UInt8) (c : Char) (more : Nat) : Prop :=
  ∃ own tail, rest = own ++ tail ∧ own.length = more ∧ String.utf8EncodeChar c = lead :: own

theorem own_of_stepTwo (first : 0xC2 ≤ lead.toNat ∧ lead.toNat < 0xE0)
    (read : stepTwo lead rest = .char c more) : OwnBytes lead rest c more := by
  cases rest with
  | nil => exact nomatch read
  | cons b rest =>
      simp only [stepTwo] at read
      split at read
      next continues =>
        obtain ⟨rfl, rfl⟩ := Step.char.inj read
        obtain ⟨least, most, low⟩ := bounds_of_isContinuation continues
        refine ⟨[b], rest, rfl, rfl, ?_⟩
        rw [low, encodeChar_ofNat (.inl (by omega)), if_neg (by omega), if_pos (by omega),
          ofNat_eq lead (by omega), ofNat_eq b (by omega)]
      next => exact nomatch read

theorem own_of_stepThree (first : 0xE0 ≤ lead.toNat ∧ lead.toNat < 0xF0)
    (read : stepThree lead rest = .char c more) : OwnBytes lead rest c more := by
  unfold stepThree at read
  split at read
  next => exact nomatch read
  next b rest =>
    split at read
    next range =>
      split at read
      next => exact nomatch read
      next d rest =>
        split at read
        next continues =>
          obtain ⟨rfl, rfl⟩ := Step.char.inj read
          obtain ⟨⟨least, most, low⟩, e0, ed, -, -⟩ := bounds_of_inRange range
          obtain ⟨least', most', low'⟩ := bounds_of_isContinuation continues
          refine ⟨[b, d], rest, rfl, rfl, ?_⟩
          rw [low, low', encodeChar_ofNat (by unfold Nat.isValidChar; omega), if_neg (by omega),
            if_neg (by omega), if_pos (by omega), ofNat_eq lead (by omega),
            ofNat_eq b (by omega), ofNat_eq d (by omega)]
        next => exact nomatch read
    next => exact nomatch read

theorem own_of_stepFour (first : 0xF0 ≤ lead.toNat ∧ lead.toNat < 0xF5)
    (read : stepFour lead rest = .char c more) : OwnBytes lead rest c more := by
  unfold stepFour at read
  split at read
  next => exact nomatch read
  next b rest =>
    split at read
    next range =>
      split at read
      next => exact nomatch read
      next d rest =>
        split at read
        next continues =>
          split at read
          next => exact nomatch read
          next e rest =>
            split at read
            next continues' =>
              obtain ⟨rfl, rfl⟩ := Step.char.inj read
              obtain ⟨⟨least, most, low⟩, -, -, f0, f4⟩ := bounds_of_inRange range
              obtain ⟨least', most', low'⟩ := bounds_of_isContinuation continues
              obtain ⟨least'', most'', low''⟩ := bounds_of_isContinuation continues'
              refine ⟨[b, d, e], rest, rfl, rfl, ?_⟩
              rw [low, low', low'', encodeChar_ofNat (by unfold Nat.isValidChar; omega),
                if_neg (by omega), if_neg (by omega), if_neg (by omega),
                ofNat_eq lead (by omega), ofNat_eq b (by omega),
                ofNat_eq d (by omega), ofNat_eq e (by omega)]
            next => exact nomatch read
        next => exact nomatch read
    next => exact nomatch read

/-- A character is read from no other bytes than its own. -/
theorem own_of_step (read : step lead rest = .char c more) : OwnBytes lead rest c more := by
  rw [step_eq] at read
  split at read
  next one =>
    obtain ⟨rfl, rfl⟩ := Step.char.inj read
    refine ⟨[], rest, rfl, rfl, ?_⟩
    rw [encodeChar_ofNat (.inl (by omega)), if_pos (by omega), ofNat_eq lead rfl]
  split at read
  next => exact nomatch read
  split at read
  next => exact own_of_stepTwo (by omega) read
  split at read
  next => exact own_of_stepThree (by omega) read
  split at read
  next => exact own_of_stepFour (by omega) read
  next => exact nomatch read

theorem drop_of_decodeFrom {offset skip : Nat} {bytes : List UInt8} {cs : List Char}
    (read : decodeFrom offset skip bytes = .ok cs) :
    bytes.drop skip = cs.flatMap String.utf8EncodeChar := by
  fun_induction decodeFrom offset skip bytes generalizing cs with
  | case1 => 
      obtain rfl := Except.ok.inj read
      simp
  | case2 offset skip byte rest ih => exact ih read
  | case3 offset lead rest reason more stopped => exact nomatch read
  | case4 offset lead rest c more first ih =>
      obtain ⟨own, tail, rfl, rfl, bytes⟩ := own_of_step first
      cases others : decodeFrom (offset + 1) own.length (own ++ tail) with
      | error e => rw [others] at read; exact nomatch read
      | ok later =>
          rw [others] at read
          obtain rfl := Except.ok.inj read
          have after := ih others
          rw [List.drop_left] at after
          simp [after, bytes]

/-- Bytes are read as a text exactly if they are the bytes of the text. -/
theorem decode_eq_ok {bytes : List UInt8} {text : String} :
    decode bytes = .ok text ↔ bytes = encode text := by
  constructor
  · intro read
    rw [decode] at read
    cases decoded : decodeFrom 0 0 bytes with
    | error e => rw [decoded] at read; exact nomatch read
    | ok cs =>
        rw [decoded] at read
        obtain rfl := Except.ok.inj read
        simpa [encode] using drop_of_decodeFrom decoded
  · rintro rfl
    exact decode_encode text

end ContractBench.Utf8
