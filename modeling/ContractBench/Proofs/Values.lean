import ContractBench.Json.Writer
import ContractBench.Value.Plain

/-! # Induction on values

A value holds others in its items, entries and fields, so what is proved of all values is proved
part by part (`Value.rec_strong`). The functions that walk a list of parts give what `List.mapM`
gives: they fail with a failure of one of the parts, and otherwise each part has its result.
-/

namespace ContractBench

section Walks

variable {α β ε ε' : Type} {f : α → Except ε β} {parts : List α}

theorem mapM_error {e : ε} (failed : parts.mapM f = .error e) :
    ∃ part ∈ parts, f part = .error e := by
  induction parts with
  | nil => cases failed
  | cons part rest ih =>
      rw [List.mapM_cons] at failed
      cases first : f part with
      | error e' =>
          rw [first] at failed
          cases failed
          exact ⟨part, .head _, first⟩
      | ok b =>
          cases others : rest.mapM f with
          | error e' =>
              rw [first, others] at failed
              cases failed
              obtain ⟨other, inside, fails⟩ := ih others
              exact ⟨other, .tail _ inside, fails⟩
          | ok bs =>
              rw [first, others] at failed
              cases failed

theorem mapM_ok {results : List β} (done : parts.mapM f = .ok results) :
    (∀ part ∈ parts, ∃ result ∈ results, f part = .ok result) ∧
      ∀ result ∈ results, ∃ part ∈ parts, f part = .ok result := by
  induction parts generalizing results with
  | nil =>
      cases done
      simp
  | cons part rest ih =>
      rw [List.mapM_cons] at done
      cases first : f part with
      | error e =>
          rw [first] at done
          cases done
      | ok b =>
          cases others : rest.mapM f with
          | error e =>
              rw [first, others] at done
              cases done
          | ok bs =>
              rw [first, others] at done
              cases done
              obtain ⟨forth, back⟩ := ih others
              constructor
              · intro other inside
                cases inside with
                | head => exact ⟨b, .head _, first⟩
                | tail _ inside =>
                    obtain ⟨result, held, done⟩ := forth other inside
                    exact ⟨result, .tail _ held, done⟩
              · intro result inside
                cases inside with
                | head => exact ⟨part, .head _, first⟩
                | tail _ inside =>
                    obtain ⟨other, held, done⟩ := back result inside
                    exact ⟨other, .tail _ held, done⟩

theorem mapM_fails {part : α} (inside : part ∈ parts) (fails : ∃ e, f part = .error e) :
    ∃ e, parts.mapM f = .error e := by
  cases walked : parts.mapM f with
  | error e => exact ⟨e, rfl⟩
  | ok results =>
      obtain ⟨e, failed⟩ := fails
      obtain ⟨result, -, done⟩ := (mapM_ok walked).1 part inside
      cases failed.symm.trans done

theorem map_error {result : Except ε α} {g : α → β} {e : ε} :
    result.map g = .error e ↔ result = .error e := by
  cases result <;> simp [Except.map]

theorem map_eq_ok {result : Except ε α} {g : α → β} {b : β} :
    result.map g = .ok b ↔ ∃ a, result = .ok a ∧ g a = b := by
  cases result <;> simp [Except.map]

theorem mapError_error {result : Except ε α} {g : ε → ε'} {e : ε'} :
    result.mapError g = .error e ↔ ∃ fault, result = .error fault ∧ e = g fault := by
  rcases result with fault | a
  · change Except.error (g fault) = .error e ↔ _
    simp [eq_comm]
  · change Except.ok a = .error e ↔ _
    simp

theorem mapError_eq_ok {result : Except ε α} {g : ε → ε'} {a : α} :
    result.mapError g = .ok a ↔ result = .ok a := by
  rcases result with fault | b
  · change Except.error (g fault) = .ok a ↔ _
    simp
  · change Except.ok b = .ok a ↔ _
    simp

theorem bind_eq_ok {result : Except ε α} {next : α → Except ε β} {b : β} :
    result.bind next = .ok b ↔ ∃ a, result = .ok a ∧ next a = .ok b := by
  cases result <;> simp [Except.bind]

/-! Two results of which the first failure counts. -/

variable {γ : Type} {first : Except ε α} {second : Except ε β} {combine : α → β → γ}

theorem both_error {e : ε}
    (failed : (first.bind fun a => second.map (combine a)) = .error e) :
    first = .error e ∨ second = .error e := by
  cases first with
  | error e' =>
      cases failed
      exact .inl rfl
  | ok a => exact .inr (map_error.mp failed)

theorem both_fails (fails : (∃ e, first = .error e) ∨ ∃ e, second = .error e) :
    ∃ e, (first.bind fun a => second.map (combine a)) = .error e := by
  cases first with
  | error e => exact ⟨e, rfl⟩
  | ok a =>
      rcases fails with ⟨e, impossible⟩ | ⟨e, failed⟩
      · cases impossible
      · exact ⟨e, map_error.mpr failed⟩

theorem both_eq_ok {c : γ} : (first.bind fun a => second.map (combine a)) = .ok c ↔
    ∃ a b, first = .ok a ∧ second = .ok b ∧ combine a b = c := by
  cases first with
  | error e => simp [Except.bind]
  | ok a => simp [Except.bind, map_eq_ok]

end Walks

namespace Value

@[elab_as_elim]
theorem rec_strong {motive : Value → Prop} (null : motive .null) (bool : ∀ b, motive (.bool b))
    (int : ∀ n, motive (.int n)) (float : ∀ x, motive (.float x)) (text : ∀ s, motive (.text s))
    (bytes : ∀ bs, motive (.bytes bs))
    (list : ∀ items, (∀ item ∈ items, motive item) → motive (.list items))
    (tuple : ∀ items, (∀ item ∈ items, motive item) → motive (.tuple items))
    (set : ∀ items, (∀ item ∈ items, motive item) → motive (.set items))
    (dict : ∀ entries, (∀ entry ∈ entries, motive entry.1 ∧ motive entry.2) →
      motive (.dict entries))
    (record : ∀ title fields extras, (∀ field ∈ fields, motive field.2) →
      (∀ extra ∈ extras, motive extra.2) → motive (.record title fields extras))
    (selfList : motive .selfList) (selfDict : motive .selfDict) (v : Value) : motive v := by
  have sized (size : Nat) : ∀ v : Value, sizeOf v < size → motive v := by
    induction size with
    | zero =>
        intro v small
        omega
    | succ size ih =>
        intro v small
        cases v with
        | null => exact null
        | bool b => exact bool b
        | int n => exact int n
        | float x => exact float x
        | text s => exact text s
        | bytes bs => exact bytes bs
        | selfList => exact selfList
        | selfDict => exact selfDict
        | list items =>
            apply list
            intro item inside
            apply ih
            have smaller := List.sizeOf_lt_of_mem inside
            simp only [Value.list.sizeOf_spec] at small
            omega
        | tuple items =>
            apply tuple
            intro item inside
            apply ih
            have smaller := List.sizeOf_lt_of_mem inside
            simp only [Value.tuple.sizeOf_spec] at small
            omega
        | set items =>
            apply set
            intro item inside
            apply ih
            have smaller := List.sizeOf_lt_of_mem inside
            simp only [Value.set.sizeOf_spec] at small
            omega
        | dict entries =>
            apply dict
            rintro ⟨key, value⟩ inside
            have smaller := List.sizeOf_lt_of_mem inside
            simp only [Value.dict.sizeOf_spec] at small
            simp only [Prod.mk.sizeOf_spec] at smaller
            exact ⟨ih key (by omega), ih value (by omega)⟩
        | record title fields extras =>
            simp only [Value.record.sizeOf_spec] at small
            apply record
            · rintro ⟨name, value⟩ inside
              have smaller := List.sizeOf_lt_of_mem inside
              simp only [Prod.mk.sizeOf_spec] at smaller
              exact ih value (by omega)
            · rintro ⟨name, value⟩ inside
              have smaller := List.sizeOf_lt_of_mem inside
              simp only [Prod.mk.sizeOf_spec] at smaller
              exact ih value (by omega)
  exact sized (sizeOf v + 1) v (Nat.lt_succ_self _)

/-! ## Dictionaries that are set entry by entry -/

theorem forall_setEntry {Key Fits : Value → Prop} {entries : List (Value × Value)}
    {key value : Value} (all : ∀ entry ∈ entries, Key entry.1 ∧ Fits entry.2) (isKey : Key key)
    (fits : Fits value) : ∀ entry ∈ setEntry entries key value, Key entry.1 ∧ Fits entry.2 := by
  intro entry inside
  unfold setEntry at inside
  split at inside
  · obtain ⟨old, held, rfl⟩ := List.mem_map.mp inside
    split
    · exact ⟨(all old held).1, fits⟩
    · exact all old held
  · rcases List.mem_append.mp inside with held | last
    · exact all entry held
    · obtain rfl := List.mem_singleton.mp last
      exact ⟨isKey, fits⟩

theorem forall_ofEntries {Key Fits : Value → Prop} {members entries : List (Value × Value)}
    (all : ∀ entry ∈ members, Key entry.1 ∧ Fits entry.2)
    (made : ofEntries members = .dict entries) : ∀ entry ∈ entries, Key entry.1 ∧ Fits entry.2 := by
  have kept (before : List (Value × Value))
      (first : ∀ entry ∈ before, Key entry.1 ∧ Fits entry.2) :
      ∀ entry ∈ members.foldl (fun dict entry => setEntry dict entry.1 entry.2) before,
        Key entry.1 ∧ Fits entry.2 := by
    clear made
    induction members generalizing before with
    | nil => exact first
    | cons member rest ih =>
        obtain ⟨isKey, fits⟩ := all member (.head _)
        apply ih
        · intro entry inside
          exact all entry (.tail _ inside)
        · exact forall_setEntry first isKey fits
  cases made
  exact kept [] (by simp)

/-! ## The walks through the parts of a value -/

theorem keyTexts_eq_mapM (items : List Value) : keyTexts items = items.mapM keyText := by
  induction items with
  | nil => rfl
  | cons item rest ih => rw [keyTexts, List.mapM_cons, ih]

theorem plain_tooDeep (v : Value) : plain 0 0 v = .error .tooDeep := by
  unfold plain
  exact if_pos ⟨rfl, rfl⟩

theorem plainItems_eq_mapM (layers room : Nat) (items : List Value) :
    plainItems layers room items = items.mapM (plain layers room) := by
  induction items with
  | nil => simp [plainItems, pure, Except.pure]
  | cons item rest ih => rw [plainItems, List.mapM_cons, ih]

/-- A key and a value of a dictionary made plain. -/
def plainEntry (layers room : Nat) (entry : Value × Value) : Except PlainFault (Value × Value) :=
  (keyText entry.1).bind fun name =>
    (plain layers room entry.2).map fun first => (.text name, first)

theorem plainEntries_eq_mapM (layers room : Nat) (entries : List (Value × Value)) :
    plainEntries layers room entries = entries.mapM (plainEntry layers room) := by
  induction entries with
  | nil => simp [plainEntries, pure, Except.pure]
  | cons entry rest ih =>
      rw [plainEntries, List.mapM_cons, ih, plainEntry]
      cases keyText entry.1 <;> cases plain layers room entry.2 <;> rfl

def isNull : Value → Bool
  | .null => true
  | _ => false

theorem isNull_eq_false {v : Value} (held : v ≠ .null) : isNull v = false := by
  cases v with
  | null => exact absurd rfl held
  | _ => rfl

/-- A named value made plain. -/
def plainNamed (layers room : Nat) (name : String) (v : Value) :
    Except PlainFault (Value × Value) :=
  (plain layers room v).map fun first => (.text name, first)

theorem plainFields_eq_mapM (room : Nat) (fields : List (FieldName × Value)) :
    plainFields room fields = (fields.filter fun field => !isNull field.2).mapM fun field =>
      plainNamed field.1.layers room field.1.written field.2 := by
  induction fields with
  | nil => simp [plainFields, pure, Except.pure]
  | cons field rest ih =>
      obtain ⟨name, v⟩ := field
      by_cases absent : v = .null
      · subst absent
        rw [plainFields, ih, List.filter_cons_of_neg (by simp [isNull])]
      · have held := isNull_eq_false absent
        rw [plainFields.eq_3 _ _ _ _ absent, ih, List.filter_cons_of_pos (by simp [held]),
          List.mapM_cons, plainNamed]
        cases plain name.layers room v <;> rfl

theorem plainExtras_eq_mapM (room : Nat) (extras : List (String × Value)) :
    plainExtras room extras = (extras.filter fun extra => !isNull extra.2).mapM fun extra =>
      plainNamed 0 room extra.1 extra.2 := by
  induction extras with
  | nil => simp [plainExtras, pure, Except.pure]
  | cons extra rest ih =>
      obtain ⟨name, v⟩ := extra
      by_cases absent : v = .null
      · subst absent
        rw [plainExtras, ih, List.filter_cons_of_neg (by simp [isNull])]
      · have held := isNull_eq_false absent
        rw [plainExtras.eq_3 _ _ _ _ absent, ih, List.filter_cons_of_pos (by simp [held]),
          List.mapM_cons, plainNamed]
        cases plain 0 room v <;> rfl

theorem plain_record {layers room : Nat} (roomy : ¬ (layers = 0 ∧ room = 0)) (title : String)
    (fields : List (FieldName × Value)) (extras : List (String × Value)) :
    plain layers room (.record title fields extras) =
      (plainFields (roomBelow layers room) fields).bind fun known =>
        (plainExtras (roomBelow layers room) extras).map fun kept => .dict (known ++ kept) := by
  rw [plain, if_neg roomy]
  cases plainFields (roomBelow layers room) fields <;>
    cases plainExtras (roomBelow layers room) extras <;> rfl

end Value

namespace Json

theorem writeItems_eq_mapM (items : List Value) : writeItems items = items.mapM write := by
  induction items with
  | nil => simp [writeItems, pure, Except.pure]
  | cons item rest ih => rw [writeItems, List.mapM_cons, ih]

/-- A key and a value of a dictionary as a member of an object. -/
def writeEntry (entry : Value × Value) : Except WriteFault String :=
  (keyText entry.1).bind fun name => (write entry.2).map fun body => quote name ++ ":" ++ body

theorem writeEntries_eq_mapM (entries : List (Value × Value)) :
    writeEntries entries = entries.mapM writeEntry := by
  induction entries with
  | nil => simp [writeEntries, pure, Except.pure]
  | cons entry rest ih =>
      rw [writeEntries, List.mapM_cons, ih, writeEntry]
      cases keyText entry.1 <;> cases write entry.2 <;> rfl

end Json

end ContractBench
