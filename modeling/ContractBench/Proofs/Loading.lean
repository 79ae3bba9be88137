import ContractBench.Proofs.Registry
import ContractBench.Proofs.Values

/-! # What an entry must be

An entry is found exactly if its path leads to a file with the bytes of a text that is a JSON
object in which each field of a contract is absent or a text (`Registry.Serves`). Every other state
of the disk is one failure, which names the entry. The reader of documents gives no bytes
(`byteless_of_readValue`), so that the schema of a contract accepts nothing but texts
(`ofDocument_dict`).
-/

namespace ContractBench

namespace Value

def IsBytes : Value → Prop
  | .bytes _ => True
  | _ => False

theorem mem_of_find? {entries : List (Value × Value)} {key : String} {v : Value}
    (held : find? entries key = some v) : ∃ entry ∈ entries, entry.2 = v := by
  obtain ⟨entry, found, value⟩ := Option.map_eq_some_iff.mp held
  exact ⟨entry, List.mem_of_find?_eq_some found, value⟩

end Value

namespace Json

variable {strict : Bool} {fuel room : Nat} {cs rest : List Char} {v : Value}

theorem readItems_list {before : List Value}
    (read : readItems strict fuel room before cs = .ok (v, rest)) : ∃ items, v = .list items := by
  induction fuel generalizing before cs with
  | zero => cases read
  | succ fuel ih =>
      unfold readItems at read
      split at read
      · cases read
      · split at read
        · cases read
          exact ⟨_, rfl⟩
        · exact ih read
        · cases read

/-- What holds of every value that is read holds of the values of an object. -/
theorem readMembers_dict (Fits : Value → Prop) {before : List (Value × Value)}
    (each : ∀ {fuel room cs v rest}, readValue strict fuel room cs = .ok (v, rest) → Fits v)
    (first : ∀ entry ∈ before, Fits entry.2)
    (read : readMembers strict fuel room before cs = .ok (v, rest)) :
    ∃ entries, v = .dict entries ∧ ∀ entry ∈ entries, Fits entry.2 := by
  induction fuel generalizing before cs with
  | zero => cases read
  | succ fuel ih =>
      unfold readMembers at read
      split at read
      · cases read
      · split at read
        · cases read
        next key _ _ _ value _ known =>
          have all : ∀ entry ∈ (.text key, value) :: before, Fits entry.2 := by
            intro entry inside
            cases inside with
            | head => exact each known
            | tail _ held => exact first entry held
          split at read
          · cases read
            have fits : ∀ entry ∈ ((.text key, value) :: before).reverse,
                True ∧ Fits entry.2 := by
              intro entry inside
              exact ⟨trivial, all entry (List.mem_reverse.mp inside)⟩
            refine ⟨_, rfl, fun entry inside => ?_⟩
            exact (@Value.forall_ofEntries (fun _ => True) Fits _ _ fits rfl entry inside).2
          · exact ih all read
          · cases read

/-- A number, or a value that has a name. -/
def IsScalar : Value → Prop
  | .null => True
  | .bool _ => True
  | .int _ => True
  | .float _ => True
  | _ => False

theorem isScalar_of_readNumber {negative : Bool}
    (read : readNumber strict negative cs = .ok (v, rest)) : IsScalar v := by
  unfold readNumber at read
  dsimp only at read
  repeat' split at read
  all_goals
    cases read
    try trivial

theorem isScalar_of_readNamed? (read : readNamed? cs = some (v, rest)) : IsScalar v := by
  have all : ∀ entry ∈ namedValues, IsScalar entry.2 := by simp [namedValues, IsScalar]
  obtain ⟨entry, chosen, given⟩ := Option.map_eq_some_iff.mp read
  cases given
  exact all entry (List.mem_of_find?_eq_some chosen)

theorem isScalar_of_readScalar (read : readScalar strict cs = .ok (v, rest)) : IsScalar v := by
  unfold readScalar at read
  split at read
  next named =>
    cases read
    exact isScalar_of_readNamed? named
  next =>
    split at read
    · split at read
      · exact isScalar_of_readNumber read
      · cases read
    · split at read
      · exact isScalar_of_readNumber read
      · cases read
    · cases read

/-- What a value may be that is read. -/
inductive Shape (strict : Bool) : Value → Prop where
  | text (s : String) : Shape strict (.text s)
  | list (items : List Value) : Shape strict (.list items)
  | scalar {v : Value} (simple : IsScalar v) : Shape strict v
  | empty : Shape strict (.dict [])
  /-- An object, read member by member. -/
  | object {v : Value} {fuel room : Nat} {cs rest : List Char}
      (read : readMembers strict fuel room [] cs = .ok (v, rest)) : Shape strict v

theorem shape_of_readValue (read : readValue strict fuel room cs = .ok (v, rest)) :
    Shape strict v := by
  unfold readValue at read
  split at read
  · cases read
  · split at read
    · split at read
      · cases read
      · cases read
        exact .text _
    · split at read
      · split at read
        · cases read
          exact .list _
        · cases read
      · split at read
        · obtain ⟨items, rfl⟩ := readItems_list read
          exact .list items
        · cases read
    · split at read
      · split at read
        · cases read
          exact .empty
        · cases read
      · split at read
        · exact .object read
        · cases read
    · exact .scalar (isScalar_of_readScalar read)

theorem byteless_of_readValue (read : readValue strict fuel room cs = .ok (v, rest)) :
    ¬ v.IsBytes := by
  intro bytes
  cases shape_of_readValue read with
  | text | list | empty => exact bytes
  | scalar simple => cases v <;> first | exact bytes | exact simple
  | object read =>
      obtain ⟨entries, rfl, -⟩ := readMembers_dict (fun _ => True) (fun _ => trivial) (by simp) read
      exact bytes

theorem readDocument_ok (read : readDocument strict cs = .ok v) :
    ∃ fuel room cs rest, readValue strict fuel room cs = .ok (v, rest) := by
  unfold readDocument at read
  cases first : readValue strict (2 * cs.length + 2) (deepest strict) (skipBlanks cs) with
  | error e => rw [first] at read; cases read
  | ok part =>
      rw [first] at read
      simp only [bind, Except.bind] at read
      split at read
      · cases read
        exact ⟨_, _, _, part.2, first⟩
      · cases read

theorem readStrict?_eq_some {text : String} (read : readStrict? text = some v) :
    readDocument true text.toList = .ok v := by
  unfold readStrict? at read
  cases known : readDocument true text.toList with
  | ok document => rw [known] at read; cases read; rfl
  | error e => rw [known] at read; cases read

theorem byteless_of_readStrict? {text : String} {entries : List (Value × Value)}
    (read : readStrict? text = some (.dict entries)) : ∀ entry ∈ entries, ¬ entry.2.IsBytes := by
  obtain ⟨fuel, room, cs, rest, first⟩ := readDocument_ok (readStrict?_eq_some read)
  cases shape_of_readValue first with
  | scalar simple => exact simple.elim
  | empty => simp
  | object members =>
      obtain ⟨held, same, byteless⟩ :=
        readMembers_dict (¬ ·.IsBytes) byteless_of_readValue (by simp) members
      cases same
      exact byteless

end Json

theorem Checked.both_eq_ok {α β γ : Type} {combine : α → β → γ} {a : Checked α} {b : Checked β}
    {c : γ} :
    Checked.both combine a b = .ok c ↔ ∃ x y, a = .ok x ∧ b = .ok y ∧ combine x y = c := by
  cases a <;> cases b <;> simp [Checked.both]

theorem Checked.under_eq_ok {α : Type} {step : PathStep} {a : Checked α} {x : α} :
    Checked.under step a = .ok x ↔ a = .ok x := by
  cases a <;> simp [Checked.under]

theorem Schema.checkText_eq_ok {v : Value} {s : String} (byteless : ¬ v.IsBytes) :
    checkText false v = .ok s ↔ v = .text s := by
  cases v with
  | bytes bs => exact absurd trivial byteless
  | _ => simp [checkText, refuse]

namespace Contract

/-- What an object says for a field: a text, or nothing, for which the empty text stands. -/
def Says (entries : List (Value × Value)) (key text : String) : Prop :=
  Value.find? entries key = some (.text text) ∨ Value.find? entries key = none ∧ text = ""

/-- A contract is what an object says for the four fields. -/
structure IsIn (contract : Contract) (entries : List (Value × Value)) : Prop where
  label : Says entries "label" contract.label
  id : Says entries "id" contract.id
  address : Says entries "address" contract.address
  codeHash : Says entries "code_hash" contract.codeHash

/-- The value of a field of an object. -/
def fieldOf (entries : List (Value × Value)) (key : String) : Checked Value :=
  match Value.find? entries key with
  | some v => Checked.under (.key key) ((Schema.checkText false v).map .text)
  | none => .ok (.text "")

theorem fieldOf_eq_ok {entries : List (Value × Value)}
    (byteless : ∀ entry ∈ entries, ¬ entry.2.IsBytes) {key : String} {v : Value} :
    fieldOf entries key = .ok v ↔ ∃ text, v = .text text ∧ Says entries key text := by
  unfold fieldOf Says
  cases held : Value.find? entries key with
  | none => simp [eq_comm]
  | some value =>
      obtain ⟨entry, inside, rfl⟩ := Value.mem_of_find? held
      have accepted (text : String) := @Schema.checkText_eq_ok _ text (byteless entry inside)
      simp only [Checked.under_eq_ok, reduceCtorEq, false_and, or_false, Option.some.injEq,
        ← accepted]
      cases Schema.checkText false entry.2 <;> simp [Except.map, eq_comm]

theorem validateFields_text (entries : List (Value × Value)) (key : String)
    (others : List (FieldSpec × Schema)) :
    Schema.validateFields ((.withDefault key (.text ""), .text false) :: others) entries =
      Checked.both (fun v rest => (⟨key, key, 1⟩, v) :: rest) (fieldOf entries key)
        (Schema.validateFields others entries) := by
  rw [Schema.validateFields, fieldOf]
  simp only [FieldSpec.withDefault, Schema.source?]
  cases Value.find? entries key <;> rfl

theorem ofValue_eq_ok {v : Value} {contract : Contract} :
    ofValue v = .ok contract ↔ ∃ held, schema.validate v = .ok held ∧ ofRecord held = contract := by
  unfold ofValue Schema.accept
  cases schema.validate v <;> simp [Except.map]

/-- An object without bytes is a contract exactly if it says every field of it. -/
theorem ofDocument_dict {entries : List (Value × Value)}
    (byteless : ∀ entry ∈ entries, ¬ entry.2.IsBytes) {contract : Contract} :
    ofDocument (.dict entries) = .ok contract ↔ contract.IsIn entries := by
  have checked : schema.validate (.dict entries) =
      Checked.both (Value.record title) (Schema.validateFields
        [(.withDefault "label" (.text ""), .text false),
          (.withDefault "id" (.text ""), .text false),
          (.withDefault "address" (.text ""), .text false),
          (.withDefault "code_hash" (.text ""), .text false)] entries) (.ok []) := rfl
  have none : Schema.validateFields [] entries = .ok [] := rfl
  rw [ofDocument, ofValue_eq_ok, checked]
  simp only [validateFields_text, Checked.both_eq_ok, fieldOf_eq_ok byteless]
  constructor
  · rintro ⟨_, ⟨_, _, ⟨_, _, ⟨label, rfl, saysLabel⟩, ⟨_, _, ⟨id, rfl, saysId⟩, ⟨_, _,
      ⟨address, rfl, saysAddress⟩, ⟨_, _, ⟨codeHash, rfl, saysHash⟩, last, rfl⟩, rfl⟩, rfl⟩, rfl⟩,
      -, rfl⟩, rfl⟩
    cases none.symm.trans last
    exact ⟨saysLabel, saysId, saysAddress, saysHash⟩
  · intro told
    exact ⟨_, ⟨_, _, ⟨_, _, ⟨_, rfl, told.label⟩, ⟨_, _, ⟨_, rfl, told.id⟩, ⟨_, _,
      ⟨_, rfl, told.address⟩, ⟨_, _, ⟨_, rfl, told.codeHash⟩, none, rfl⟩, rfl⟩, rfl⟩, rfl⟩,
      rfl, rfl⟩, rfl⟩

theorem decode_eq_ok {text : String} {contract : Contract} :
    decode text = .ok contract ↔
      ∃ entries, Json.readStrict? text = some (.dict entries) ∧ contract.IsIn entries := by
  unfold decode
  cases read : Json.readStrict? text with
  | none => simp
  | some document =>
      constructor
      · intro given
        cases document with
        | dict entries =>
            exact ⟨entries, rfl, (ofDocument_dict (Json.byteless_of_readStrict? read)).mp given⟩
        | _ => cases given
      · rintro ⟨entries, same, told⟩
        cases same
        exact (ofDocument_dict (Json.byteless_of_readStrict? read)).mpr told

end Contract

namespace Registry

variable {registry : Registry} {disk : Disk} {name : String} {contract : Contract}

/-- The entry of a name holds a contract: its path leads to a file, the bytes of the file are those
    of a text, and the text is an object that says the contract. -/
def Serves (registry : Registry) (disk : Disk) (name : String) (contract : Contract) : Prop :=
  ∃ place kind text entries,
    disk.find (registry.pathOf name) = .ok (.node place (.file (Utf8.encode text) kind)) ∧
      Json.readStrict? text = some (.dict entries) ∧ contract.IsIn entries

theorem readEntry_eq_ok {bytes : List UInt8} :
    readEntry bytes = .ok contract ↔
      ∃ text, bytes = Utf8.encode text ∧ Contract.decode text = .ok contract := by
  simp only [← Utf8.decode_eq_ok]
  unfold readEntry
  cases Utf8.decode bytes with
  | error place => simp
  | ok text => simp [mapError_eq_ok]

theorem entry_eq_ok_of_bytes : registry.entry disk name = .ok contract ↔
    ∃ bytes, disk.content (registry.pathOf name) = .ok bytes ∧ readEntry bytes = .ok contract := by
  simp only [entry, bind_eq_ok, mapError_eq_ok]

theorem entry_eq_ok : registry.entry disk name = .ok contract ↔
    registry.Serves disk name contract := by
  rw [entry_eq_ok_of_bytes]
  simp only [Disk.content_eq_ok, readEntry_eq_ok, Contract.decode_eq_ok, Serves]
  constructor
  · rintro ⟨_, ⟨place, kind, leads⟩, text, rfl, entries, parsed, told⟩
    exact ⟨place, kind, text, entries, leads, parsed, told⟩
  · rintro ⟨place, kind, text, entries, leads, parsed, told⟩
    exact ⟨_, ⟨place, kind, leads⟩, text, rfl, entries, parsed, told⟩

theorem found_eq_ok : registry.found disk (some name) = .ok contract ↔
    registry.Serves disk name contract := by
  rw [← entry_eq_ok, found]
  exact mapError_eq_ok

theorem found_eq_error {failure : Failure}
    (missing : registry.found disk (some name) = .error failure) :
    ∃ fault, failure = .noEntry name (registry.pathOf name).toText fault := by
  simp only [found] at missing
  cases held : registry.entry disk name with
  | ok contract => rw [held] at missing; cases missing
  | error fault =>
      rw [held] at missing
      cases missing
      exact ⟨fault, rfl⟩

/-- Loading and looking up change nothing but the log. Without a name the load fails before it
    does anything. Under a name it gives a contract exactly if the entry holds it, and in every
    other state of the disk it fails with the name and the path. What is looked up is what is
    loaded, and no failure. -/
theorem load_exactly (registry : Registry) (name : Option String) (daemon : Daemon)
    (world : World) :
    ∃ loaded afterLoad afterLookup,
      Bench.perform (registry.load name) daemon world = (loaded, afterLoad) ∧
      world.Quiet afterLoad ∧
      (loaded = .error .unnamedEntry ↔ name = none) ∧
      (name = none → afterLoad = world) ∧
      (∀ contract, loaded = .ok contract ↔
        ∃ key, name = some key ∧ registry.Serves world.disk key contract) ∧
      (∀ key failure, name = some key → loaded = .error failure →
        ∃ fault, failure = .noEntry key (registry.pathOf key).toText fault) ∧
      Bench.perform (registry.lookup name) daemon world =
        (.ok ⟨name, loaded.toOption⟩, afterLookup) ∧
      world.Quiet afterLookup := by
  obtain ⟨afterLookup, looks, quietLookup⟩ := registry.lookup_spec name daemon world
  cases name with
  | none =>
      refine ⟨.error .unnamedEntry, world, afterLookup, rfl, .refl world, ?_, ?_, ?_, ?_, looks,
        quietLookup⟩
      · simp
      · intro unnamed
        rfl
      · simp
      · simp
  | some key =>
      obtain ⟨afterLoad, loads, quiet⟩ := registry.load_spec (some key) daemon world
      refine ⟨_, afterLoad, afterLookup, loads, quiet, ?_, ?_, ?_, ?_, looks, quietLookup⟩
      · constructor
        · intro unnamed
          obtain ⟨fault, named⟩ := found_eq_error unnamed
          cases named
        · intro unnamed
          cases unnamed
      · intro unnamed
        cases unnamed
      · intro contract
        simp [found_eq_ok]
      · intro other failure same missing
        cases same
        exact found_eq_error missing

end Registry

end ContractBench
