import ContractBench.Proofs.Respelling
import ContractBench.Proofs.Retention

/-! # Entries that no field reads

A daemon may say more than is asked for. Entries of an object that no field of the record expected
there reads can be added and removed, on every level, and the object is still read as the same
record, or refused with the same issues (`Padded.validate_eq`). A key that is unknown on one level
may be a field on another, so the schema is followed down with the document.
-/

namespace ContractBench

/-- A field reads an entry whose key is one of its names. -/
def FieldSpec.Reads (spec : FieldSpec) (key : Value) : Prop :=
  ∃ source ∈ spec.sources, key = .text source

namespace Schema

/-- The second document is the first one with entries added or removed that no field reads of the
    record expected in their place. -/
inductive Padded : Schema → Value → Value → Prop where
  | same (schema : Schema) (v : Value) : Padded schema v v
  | trans {schema : Schema} {v between v' : Value} (h : Padded schema v between)
      (h' : Padded schema between v') : Padded schema v v'
  | nullable {inner : Schema} {v v' : Value} (h : Padded inner v v') :
      Padded (.nullable inner) v v'
  | item {item : Schema} {v v' : Value} (before after : List Value) (h : Padded item v v') :
      Padded (.list item) (.list (before ++ v :: after)) (.list (before ++ v' :: after))
  | value {title : String} {fields : List (FieldSpec × Schema)} {key v v' : Value}
      (before after : List (Value × Value))
      (h : ∀ field ∈ fields, field.1.Reads key → Padded field.2 v v') :
      Padded (.record title fields false) (.dict (before ++ (key, v) :: after))
        (.dict (before ++ (key, v') :: after))
  | added {title : String} {fields : List (FieldSpec × Schema)} {key : Value} (v : Value)
      (before after : List (Value × Value)) (unknown : ∀ field ∈ fields, ¬field.1.Reads key) :
      Padded (.record title fields false) (.dict (before ++ after))
        (.dict (before ++ (key, v) :: after))
  | removed {title : String} {fields : List (FieldSpec × Schema)} {key : Value} (v : Value)
      (before after : List (Value × Value)) (unknown : ∀ field ∈ fields, ¬field.1.Reads key) :
      Padded (.record title fields false) (.dict (before ++ (key, v) :: after))
        (.dict (before ++ after))

theorem Padded.null_iff {schema : Schema} {v v' : Value} (h : Padded schema v v') :
    v' = .null ↔ v = .null := by
  induction h with
  | same => exact Iff.rfl
  | trans _ _ ih ih' => exact ih'.trans ih
  | nullable _ ih => exact ih
  | item | value | added | removed => simp

theorem validate_record_congr {title : String} {fields : List (FieldSpec × Schema)}
    {entries entries' : List (Value × Value)}
    (alike : ∀ field ∈ fields, readField entries' field = readField entries field) :
    validate (.record title fields false) (.dict entries') =
      validate (.record title fields false) (.dict entries) := by
  simp only [validate, entries?, validateFields_congr alike]
  rfl

/-- No field of a record notices an entry that none of them reads. -/
theorem readField_unknown {field : FieldSpec × Schema} {key : Value}
    (unknown : ¬field.1.Reads key) (v : Value) (before after : List (Value × Value)) :
    readField (before ++ (key, v) :: after) field = readField (before ++ after) field := by
  refine readField_congr fun source inside => ?_
  have differs : key ≠ .text source := fun same => unknown ⟨source, inside, same⟩
  rw [Value.find?_append, Value.find?_append, Value.find?_later differs]
  cases (Value.find? before source).or (Value.find? after source) with
  | none => exact .none
  | some found => exact .some rfl

/-- What a field reads may change as long as the field reads it alike. -/
theorem readField_value {field : FieldSpec × Schema} {key v v' : Value}
    (alike : field.1.Reads key → validate field.2 v' = validate field.2 v)
    (before after : List (Value × Value)) :
    readField (before ++ (key, v') :: after) field =
      readField (before ++ (key, v) :: after) field := by
  -- The field may read this entry or find another of its names before it.
  by_cases reads : field.1.Reads key
  · refine readField_congr fun source inside => ?_
    rw [Value.find?_append, Value.find?_append]
    cases Value.find? before source with
    | some found => exact .some rfl
    | none =>
        rw [Option.none_or, Option.none_or]
        by_cases here : key = .text source
        · subst here
          rw [Value.find?_here, Value.find?_here]
          exact .some (alike reads)
        · rw [Value.find?_later here, Value.find?_later here]
          cases Value.find? after source with
          | none => exact .none
          | some found => exact .some rfl
  · rw [readField_unknown reads, readField_unknown reads]

theorem Padded.validate_eq {schema : Schema} {v v' : Value} (h : Padded schema v v') :
    validate schema v' = validate schema v := by
  induction h with
  | same => rfl
  | trans _ _ ih ih' => exact ih'.trans ih
  | @nullable inner v v' h ih =>
      -- Padding neither makes a null nor takes one away, so both sides take the same branch.
      by_cases null : v = .null
      · rw [null, h.null_iff.mpr null]
      · rw [validate_nullable null, validate_nullable (mt h.null_iff.mp null), ih]
  | item before after _ ih =>
      simp only [validate, items?]
      rw [checkEach_congr]
      induction before with
      | nil => exact .cons (fun i => by rw [ih]) (List.forall₂_same.mpr fun _ _ _ => rfl)
      | cons first before more => exact .cons (fun i => rfl) more
  | value before after _ ih =>
      exact validate_record_congr fun field inside =>
        readField_value (ih field inside) before after
  | added v before after unknown =>
      exact validate_record_congr fun field inside =>
        readField_unknown (unknown field inside) v before after
  | removed v before after unknown =>
      exact validate_record_congr fun field inside =>
        (readField_unknown (unknown field inside) v before after).symm

/-- The value of one field may be padded. -/
theorem Padded.entry {title source : String} {fields : List (FieldSpec × Schema)}
    {v v' : Value} (inner : Schema) (before after : List (Value × Value))
    (known : ∀ field ∈ fields, source ∈ field.1.sources → field.2 = inner)
    (h : Padded inner v v') :
    Padded (.record title fields false) (.dict (before ++ (.text source, v) :: after))
      (.dict (before ++ (.text source, v') :: after)) := by
  refine .value before after ?_
  rintro field inside ⟨other, reads, same⟩
  obtain rfl : source = other := Value.text.inj same
  rw [known field inside reads]
  exact h

end Schema

namespace Client

/-- Entries that no field reads make no difference to what an answer is read as, to the attributes
    found in it, or to a deployment. A computation, which is no such record, keeps them all. -/
theorem unknown_entries_never_matter (client : Client) :
    (∀ (schema : Schema) (title : String) (document document' : Value),
      schema.Padded document document' →
        schema.accept title document' = schema.accept title document) ∧
    (∀ (document document' : Value) (key : String) (scan : ScanMode),
      Transaction.schema.Padded document document' →
        (Transaction.schema.accept Transaction.title document').map
            (fun tx => (Transaction.ofRecord tx).findAttribute? key scan) =
          (Transaction.schema.accept Transaction.title document).map
            fun tx => (Transaction.ofRecord tx).findAttribute? key scan) ∧
    (∀ daemon daemon', client.Rewords (fun type => type.schema.Padded) daemon daemon' →
      ∀ (plan : DeployPlan) (name : Option String) (registry : Option Registry) (world : World),
        let run := Bench.perform (client.deploy plan name registry) daemon world
        let run' := Bench.perform (client.deploy plan name registry) daemon' world
        run'.1.toOption = run.1.toOption ∧ run'.2.calls = run.2.calls) ∧
    ∀ (text : String) (entries : List (Value × Value)) (v : Value),
      Json.read text = .ok (.dict entries) →
      Computation.schema.accept Computation.title (.dict entries) = .ok v →
        (Computation.ofRecord v).HoldsAll entries := by
  have accepts (schema : Schema) (title : String) (document document' : Value)
      (padded : schema.Padded document document') :
      schema.accept title document' = schema.accept title document := by
    rw [Schema.accept, Schema.accept, padded.validate_eq]
  refine ⟨accepts, ?_, ?_, ?_⟩
  · intro document document' key scan padded
    rw [accepts _ _ _ _ padded]
  · intro daemon daemon' rewords plan name registry world run run'
    obtain ⟨results, calls, -⟩ := deploy_reworded rewords
      (fun command type asked document document' padded => padded.validate_eq) plan name registry
      world
    exact ⟨results, calls⟩
  · exact fun text entries v read accepted => Computation.keeps_everything read accepted

/-- The list of codes, in which the last one also has a note. -/
def notedDocument : Value := .list [
  .dict [(.text "id", .int 6), (.text "data_hash", .text "F6")],
  .dict [(.text "id", .int 7), (.text "data_hash", .text "F7"), (.text "note", .list [])]]

theorem padded_notedDocument :
    AnswerType.storedCodes.schema.Padded (listDocument (.int 6) (.int 7)) notedDocument := by
  refine .nullable (.item [_] [] (.added _ [_, _] [] ?_))
  simp [FieldSpec.Reads, FieldSpec.required, FieldSpec.withDefault, FieldSpec.readFrom]

/-- A code attribute that also says that it is indexed. -/
def indexedAttribute : Value := .dict
  [(.text "index", .bool true), (.text "key", .text "code_id"), (.text "value", .text "7")]

theorem padded_indexedAttribute :
    Attribute.schema.Padded (codeAttribute (.text "7")) indexedAttribute := by
  refine .added _ [] [_, _] ?_
  simp [FieldSpec.Reads, FieldSpec.withDefault, FieldSpec.writtenAs, FieldName.own]

/-- Padding an attribute pads the transaction that it is in. -/
theorem padded_storedDocument {attr attr' : Value} (padded : Attribute.schema.Padded attr attr') :
    Transaction.schema.Padded (storedDocument attr) (storedDocument attr') := by
  refine .entry (.list MessageLog.schema) [_] [] ?_ (.item [] [] ?_)
  · simp [FieldSpec.withDefault, FieldSpec.required]
  refine .entry (.list Event.schema) [] [] ?_ (.item [] [] ?_)
  · simp [FieldSpec.withDefault]
  refine .entry (.list Attribute.schema) [] [] ?_ (.item [] [] padded)
  simp [FieldSpec.withDefault]

/-- The daemon of the counter, but with the note when it is asked for the codes at the end. -/
def notingDaemon : Daemon := fun earlier call =>
  if earlier.length = 4 ∧ call.argv = counterClient.launcher.argv
      (Command.listCodes ++ counterClient.launcher.settings.outputFlags) then
    ⟨.finished ⟨some
      "[\x7b\"id\":6,\"data_hash\":\"F6\"\x7d,\x7b\"id\":7,\"data_hash\":\"F7\",\"note\":[]\x7d]",
      none, 0⟩, call.disk, .zero⟩
  else counterDaemon earlier call

theorem type_of_listCodes {command : List String} {type : AnswerType}
    (asked : Command.Deploys command type) (list : command = Command.listCodes) :
    type = .storedCodes := by
  cases asked with
  | listCodes => rfl
  | store | instantiate | transaction =>
      simp [Command.listCodes, Command.store, Command.instantiate, Command.transaction] at list

theorem notingDaemon_rewords :
    counterClient.Rewords (fun type => type.schema.Padded) counterDaemon notingDaemon := by
  intro earlier call command type asked known
  unfold notingDaemon
  split
  next last =>
    refine ⟨rfl, ?_⟩
    have list : command = Command.listCodes := by
      have same := known.symm.trans last.2
      simpa [Launcher.argv] using same
    rw [type_of_listCodes asked list]
    have listed : (counterDaemon earlier call).outcome = .finished
        ⟨some "[\x7b\"id\":6,\"data_hash\":\"F6\"\x7d,\x7b\"id\":7,\"data_hash\":\"F7\"\x7d]",
          none, 0⟩ := by
      simp [counterDaemon, Daemon.ofAnswers, Daemon.ofStream, last.1]
    rw [listed]
    refine .finished rfl ?_ ?_ padded_notedDocument
    all_goals
      cbv
  next => exact ⟨rfl, .same _⟩

/-- A computation of which the first entry is not a field. -/
def notedEntries : List (Value × Value) :=
  [(.text "note", .int 1), (.text "input", .text "x")]

theorem counter_noted :
    Transaction.schema.accept Transaction.title (storedDocument indexedAttribute) =
      Transaction.schema.accept Transaction.title (storedDocument (codeAttribute (.text "7"))) ∧
    (Transaction.schema.accept Transaction.title (storedDocument indexedAttribute)).map
        (fun tx => (Transaction.ofRecord tx).findAttribute? "code_id" .firstEvent) =
      .ok (some "7") ∧
    (Bench.perform (counterClient.deploy counterPlan none none) notingDaemon
      counterStart).1.toOption = some counterContract ∧
    ∃ v, Computation.schema.accept Computation.title (.dict notedEntries) = .ok v ∧
      (Computation.ofRecord v).HoldsAll notedEntries := by
  obtain ⟨accepts, finds, deploys, keeps⟩ := counterClient.unknown_entries_never_matter
  have stored := padded_storedDocument padded_indexedAttribute
  refine ⟨accepts _ _ _ _ stored, ?_, ?_, ?_⟩
  · rw [finds _ _ _ _ stored]
    rfl
  · rw [(deploys _ _ notingDaemon_rewords counterPlan none none counterStart).1]
    decide +kernel
  · obtain ⟨v, accepted⟩ : ∃ v, Computation.schema.accept Computation.title
        (.dict notedEntries) = .ok v := ⟨_, rfl⟩
    have read : Json.read "\x7b\"note\":1,\"input\":\"x\"\x7d" = .ok (.dict notedEntries) := by
      cbv
    exact ⟨v, accepted, keeps _ _ v read accepted⟩

end Client

end ContractBench
