import ContractBench.Proofs.Bench
import ContractBench.Proofs.Retention

/-! # What accepted settings are

Settings are accepted field by field, and each field is what its schema made of the given value, or
its default (`holds_of_readField`). So accepted settings name a program and a file, and never ask
for a negative number of anything (`accepted_usable`). One thing slips through: the interval may be
infinite, since the bound of the schema keeps out only what is below zero and what is no number
(`not_always_finite`). Of an environment no more is read than six variables.
-/

namespace ContractBench

namespace Schema

variable {given v : Value}

/-- A field holds its default, or what its schema made of the given value. -/
theorem holds_of_readField {entries : List (Value × Value)} {name : String} {default : Value}
    {schema : Schema} {P : Value → Prop} (ofDefault : P default)
    (ofGiven : ∀ given v, validate schema given = .ok v → P v)
    (read : readField entries (.withDefault name default, schema) = .ok v) : P v := by
  rw [readField, FieldSpec.withDefault, source?_own] at read
  cases held : Value.find? entries name with
  | none =>
      rw [held] at read
      cases read
      exact ofDefault
  | some given =>
      rw [held] at read
      exact ofGiven given v (Checked.under_eq_ok.mp read)

theorem text_of_validate {welcomesNumbers : Bool}
    (accepted : validate (.text welcomesNumbers) given = .ok v) : ∃ s, v = .text s := by
  obtain ⟨s, -, rfl⟩ := map_eq_ok.mp accepted
  exact ⟨s, rfl⟩

theorem nonEmpty_of_validate {welcomesNumbers : Bool}
    (accepted : validate (.nonEmpty (.text welcomesNumbers)) given = .ok v) :
    ∃ s, s ≠ "" ∧ v = .text s := by
  obtain ⟨inner, text, filled⟩ := bind_eq_ok.mp accepted
  obtain ⟨s, rfl⟩ := text_of_validate text
  by_cases empty : s = ""
  · subst empty
    cases filled
  · rw [if_neg (by simpa [isEmptyText] using empty)] at filled
    cases filled
    exact ⟨s, empty, rfl⟩

theorem forall_of_checkEach {α β : Type} {check : Nat → α → Checked β} {P : β → Prop}
    (each : ∀ i item b, check i item = .ok b → P b) {items : List α} {checked : List β} {i : Nat}
    (done : checkEach check i items = .ok checked) : ∀ b ∈ checked, P b := by
  induction items generalizing i checked with
  | nil =>
      cases done
      simp
  | cons item items ih =>
      obtain ⟨b, others, first, rest, rfl⟩ := Checked.both_eq_ok.mp done
      exact List.forall_mem_cons.mpr ⟨each i item b first, ih rest⟩

theorem texts_of_validate {welcomesNumbers : Bool}
    (accepted : validate (.list (.text welcomesNumbers)) given = .ok v) :
    ∃ texts : List String, v = .list (texts.map .text) := by
  rw [validate] at accepted
  split at accepted
  · obtain ⟨checked, done, rfl⟩ := map_eq_ok.mp accepted
    have texts : ∀ item ∈ checked, ∃ s, item = .text s :=
      forall_of_checkEach (fun i item v read => text_of_validate (Checked.under_eq_ok.mp read)) done
    refine ⟨checked.map Value.asText, congrArg Value.list ?_⟩
    rw [List.map_map, List.map_congr_left (g := id) fun item inside => ?_, List.map_id]
    obtain ⟨s, rfl⟩ := texts item inside
    rfl
  · cases accepted

theorem integer_of_validate (accepted : validate (.atLeastZero .integer) given = .ok v) :
    ∃ n : Nat, v = .int n := by
  obtain ⟨inner, integer, bounded⟩ := bind_eq_ok.mp accepted
  obtain ⟨n, -, rfl⟩ := map_eq_ok.mp integer
  by_cases below : 0 ≤ n
  · rw [if_pos (by simpa [isAtLeastZero] using below)] at bounded
    cases bounded
    exact ⟨n.toNat, by rw [Int.toNat_of_nonneg below]⟩
  · rw [if_neg (by simpa [isAtLeastZero] using below)] at bounded
    cases bounded

theorem number_of_validate (accepted : validate (.atLeastZero .number) given = .ok v) :
    ∃ x : Binary64, checkNumber given = .ok x ∧ x.isAtLeastZero = true ∧ v = .float x := by
  obtain ⟨inner, number, bounded⟩ := bind_eq_ok.mp accepted
  obtain ⟨x, checked, rfl⟩ := map_eq_ok.mp number
  split at bounded
  · cases bounded
    exact ⟨x, checked, by assumption, rfl⟩
  · cases bounded

theorem choice_of_validate {options : List String}
    (accepted : validate (.choice options) given = .ok v) : ∃ s ∈ options, v = .text s := by
  obtain ⟨s, checked, rfl⟩ := map_eq_ok.mp accepted
  cases given with
  | text t =>
      rw [checkChoice] at checked
      split at checked
      · cases checked
        exact ⟨s, List.contains_iff_mem.mp (by assumption), rfl⟩
      · cases checked
  | _ => cases checked

end Schema

namespace Settings

/-- A value that is infinite as a number: it is the infinite number, or a text that reads as it, or
    bytes that encode one. -/
def ReadsInfinite : Value → Prop
  | .float x => x = .infinite false
  | .text s => Numeral.readNumber? s = some (.infinite false)
  | .bytes bs => ∃ s, Utf8.decode bs = .ok s ∧ Numeral.readNumber? s = some (.infinite false)
  | _ => False

theorem numberOfText_infinite {s : String} :
    Schema.numberOfText s = .ok (.infinite false) ↔
      Numeral.readNumber? s = some (.infinite false) := by
  rw [Schema.numberOfText]
  cases Numeral.readNumber? s <;> simp [refuse]

/-- A whole number that is too large for a finite one is refused. -/
theorem numberOfInteger_ne_infinite (n : Int) :
    Schema.numberOfInteger n ≠ .ok (.infinite false) := by
  rw [Schema.numberOfInteger]
  generalize Binary64.ofInt n = x
  cases x <;> simp [Binary64.isFinite, refuse]

theorem checkNumber_infinite {v : Value} :
    Schema.checkNumber v = .ok (.infinite false) ↔ ReadsInfinite v := by
  cases v with
  | float x => simp [Schema.checkNumber, ReadsInfinite]
  | int n => exact iff_of_false (numberOfInteger_ne_infinite n) id
  | bool b => exact iff_of_false (numberOfInteger_ne_infinite (Value.ofBool b)) id
  | text s => exact numberOfText_infinite
  | bytes bs =>
      rw [Schema.checkNumber, bind_eq_ok]
      refine exists_congr fun s => and_congr ?_ numberOfText_infinite
      rw [Schema.decoded]
      cases Utf8.decode bs <;> simp [refuse]
  | _ => simp [Schema.checkNumber, ReadsInfinite, refuse]

/-- Among the numbers that are at least zero, only the infinite one is not finite. -/
theorem not_finite_iff {x : Binary64} (atLeastZero : x.isAtLeastZero = true) :
    x.isFinite = false ↔ x = .infinite false := by
  cases x with
  | infinite negative => cases negative <;> simp_all [Binary64.isAtLeastZero, Binary64.isFinite]
  | _ => simp_all [Binary64.isAtLeastZero, Binary64.isFinite]

/-- The interval is a number that is at least zero, and infinite only where it was given so. -/
theorem interval_of_readField {entries : List (Value × Value)} {v : Value}
    (read : Schema.readField entries
      (.withDefault "retry_interval" (.float standard.retryInterval), .atLeastZero .number) =
        .ok v) :
    ∃ x, v = .float x ∧ x.isAtLeastZero = true ∧ (x.isFinite = false ↔
      ∃ given, Value.find? entries "retry_interval" = some given ∧ ReadsInfinite given) := by
  rw [Schema.readField, FieldSpec.withDefault, Schema.source?_own] at read
  cases held : Value.find? entries "retry_interval" with
  | none =>
      rw [held] at read
      cases read
      exact ⟨standard.retryInterval, rfl, by decide +kernel, by simp; decide +kernel⟩
  | some given =>
      rw [held] at read
      obtain ⟨x, checked, atLeastZero, rfl⟩ :=
        Schema.number_of_validate (Checked.under_eq_ok.mp read)
      refine ⟨x, rfl, atLeastZero, (not_finite_iff atLeastZero).trans ?_⟩
      simp only [Option.some.injEq, exists_eq_left', ← checkNumber_infinite, checked,
        Except.ok.injEq]

/-- Settings that were accepted from the entries of a dictionary. -/
structure AcceptedFrom (entries : List (Value × Value)) (settings : Settings) : Prop where
  /-- Every field is what its schema made of the given value, and nothing is lost of it. -/
  shown : ∃ record, schema.accept title (.dict entries) = .ok record ∧
    ∀ field ∈ schema.fields,
      record.field field.1.name.name = settings.toValue.field field.1.name.name
  binary : settings.binary ≠ ""
  signFile : settings.signFile ≠ ""
  interval : settings.retryInterval.isAtLeastZero = true
  /-- The interval is infinite where it was given so, and nowhere else. -/
  infinite : settings.retryInterval.isFinite = false ↔
    ∃ given, Value.find? entries "retry_interval" = some given ∧ ReadsInfinite given

theorem acceptedFrom_of_ofValue {entries : List (Value × Value)} {settings : Settings}
    (accepted : ofValue (.dict entries) = .ok settings) : AcceptedFrom entries settings := by
  obtain ⟨record, read, rfl⟩ := map_eq_ok.mp accepted
  have checked : schema.validate (.dict entries) = Checked.both (Value.record title)
      (Schema.validateFields schema.fields entries) (.ok []) := rfl
  have validated : schema.validate (.dict entries) = .ok record := by
    rw [Schema.accept] at read
    split at read
    · cases read
      assumption
    · cases read
  obtain ⟨found, extras, readFields, -, rfl⟩ :=
    Checked.both_eq_ok.mp (checked.symm.trans validated)
  have distinct : (schema.fields.map fun field => field.1.name.name).Nodup := by decide
  have fieldRead (field : FieldSpec × Schema) (inside : field ∈ schema.fields) :=
    Schema.readField_of_validated readFields distinct inside title extras
  generalize Value.record title found extras = record at read fieldRead
  rw [schema, Schema.fields] at fieldRead
  simp only [List.forall_mem_cons] at fieldRead
  obtain ⟨binary, flags, retries, interval, folder, signFile, scan, -⟩ := fieldRead
  obtain ⟨b, named, isBinary⟩ := Schema.holds_of_readField ⟨_, by decide, rfl⟩
    (fun _ _ => Schema.nonEmpty_of_validate) binary
  obtain ⟨fs, areFlags⟩ := Schema.holds_of_readField ⟨standard.outputFlags, rfl⟩
    (fun _ _ => Schema.texts_of_validate) flags
  obtain ⟨n, isRetries⟩ := Schema.holds_of_readField ⟨standard.maxRetries, rfl⟩
    (fun _ _ => Schema.integer_of_validate) retries
  obtain ⟨x, isInterval, atLeastZero, infinite⟩ := interval_of_readField interval
  obtain ⟨f, isFolder⟩ := Schema.holds_of_readField ⟨standard.cacheDir, rfl⟩
    (fun _ _ => Schema.text_of_validate) folder
  obtain ⟨t, filed, isSignFile⟩ := Schema.holds_of_readField ⟨_, by decide, rfl⟩
    (fun _ _ => Schema.nonEmpty_of_validate) signFile
  obtain ⟨m, listed, isScan⟩ := Schema.holds_of_readField ⟨_, by decide, rfl⟩
    (fun _ _ => Schema.choice_of_validate) scan
  obtain ⟨mode, rfl⟩ : ∃ mode : ScanMode, mode.text = m := by
    rcases List.mem_pair.mp listed with rfl | rfl
    · exact ⟨.firstEvent, rfl⟩
    · exact ⟨.all, rfl⟩
  have settled : ofRecord record = ⟨b, fs, n, x, f, t, mode⟩ := by
    have isMode : ScanMode.ofText mode.text = mode := by cases mode <;> rfl
    have areTexts : (fs.map Value.text).map Value.asText = fs := by
      rw [List.map_map]
      exact List.map_id fs
    change record.field "binary" = _ at isBinary
    change record.field "output_flags" = _ at areFlags
    change record.field "max_retries" = _ at isRetries
    change record.field "retry_interval" = _ at isInterval
    change record.field "cache_dir" = _ at isFolder
    change record.field "sign_file" = _ at isSignFile
    change record.field "attribute_scan" = _ at isScan
    simp only [ofRecord, isBinary, areFlags, isRetries, isInterval, isFolder, isSignFile, isScan,
      Value.asText, Value.asList, Value.asInt?, numberOf, Option.getD_some, Int.toNat_natCast,
      areTexts, isMode]
  rw [settled]
  refine ⟨⟨record, read, ?_⟩, named, filed, atLeastZero, infinite⟩
  rw [schema, Schema.fields]
  simp only [List.forall_mem_cons]
  exact ⟨isBinary, areFlags, isRetries, isInterval, isFolder, isSignFile, isScan, by simp⟩

/-- A variable of an environment, if it is set; set to the empty text, it counts as unset. -/
def held? (environment : List (String × String)) (key : String) : Option String :=
  (environment.lookup key).filter fun text => text ≠ ""

/-- The entries that an environment gives. -/
def entriesOf (environment : List (String × String)) : List (Value × Value) :=
  (overrides environment).map fun (name, text) => (.text name, .text text)

theorem lookup_eq (environment : List (String × String)) (key : String) :
    environment.lookup key = (environment.find? fun entry => entry.1 = key).map (·.2) := by
  induction environment with
  | nil => rfl
  | cons entry rest ih =>
      by_cases here : entry.1 = key
      · rw [List.find?_cons_of_pos (by simpa using here), ← here, List.lookup_cons_self]
        rfl
      · rw [List.find?_cons_of_neg (by simpa using here), ← ih, List.lookup_cons,
          beq_false_of_ne (Ne.symm here)]

theorem overrides_eq (environment : List (String × String)) :
    overrides environment = variableNames.filterMap fun entry =>
      (held? environment entry.2).map fun text => (entry.1, text) := by
  refine List.filterMap_congr fun ⟨name, key⟩ _ => ?_
  dsimp only
  rw [held?, lookup_eq]
  cases environment.find? fun entry => entry.1 = key with
  | none => rfl
  | some entry => by_cases unset : entry.2 = "" <;> simp [unset, Option.filter]

/-- Of an environment no more is read than the variables of `variableNames`. -/
theorem overrides_congr {environment other : List (String × String)}
    (agree : ∀ entry ∈ variableNames, held? environment entry.2 = held? other entry.2) :
    overrides environment = overrides other := by
  rw [overrides_eq, overrides_eq]
  exact List.filterMap_congr fun entry inside => by rw [agree entry inside]

/-- Settings that are accepted, from a dictionary or from an environment, name a program and a file,
    and their interval is at least zero and no `nan`; it is infinite only if it was given so. An
    environment counts by its six variables alone, of which an empty one is as good as none. -/
theorem accepted_usable (entries : List (Value × Value)) (environment : List (String × String)) :
    (∀ settings, ofValue (.dict entries) = .ok settings → AcceptedFrom entries settings) ∧
    (∀ settings, ofEnvironment environment = .ok settings →
      AcceptedFrom (entriesOf environment) settings) ∧
    ∀ other, (∀ entry ∈ variableNames, held? environment entry.2 = held? other entry.2) →
      ofEnvironment environment = ofEnvironment other ∧
        overrideNotice? environment = overrideNotice? other := by
  refine ⟨fun settings => acceptedFrom_of_ofValue, fun settings => acceptedFrom_of_ofValue,
    fun other agree => ?_⟩
  rw [ofEnvironment, ofEnvironment, overrideNotice?, overrideNotice?, overrides_congr agree]
  exact ⟨rfl, rfl⟩

/-- Settings from a dictionary, and from an environment whose interval is infinite. Other and empty
    variables besides change nothing. -/
theorem infinite_interval_accepted :
    let entries := [(.text "max_retries", .text " 5 ")]
    let environment := [("SECRETCLI_RETRY_INTERVAL", "Infinity")]
    AcceptedFrom entries { standard with maxRetries := 5 } ∧
    AcceptedFrom (entriesOf environment) { standard with retryInterval := .infinite false } ∧
    ofEnvironment (("HOME", "/root") :: ("SECRETCLI_BINARY", "") :: environment) =
      .ok { standard with retryInterval := .infinite false } := by
  intro entries environment
  have accepted : ofEnvironment environment =
      .ok { standard with retryInterval := .infinite false } := by decide +kernel
  obtain ⟨fromEntries, fromEnvironment, depends⟩ := accepted_usable entries environment
  refine ⟨fromEntries _ (by decide +kernel), fromEnvironment _ accepted, ?_⟩
  rw [← accepted]
  exact (depends _ (by decide +kernel)).1.symm

/-- The environment may ask for an interval that is never over. -/
theorem not_always_finite : ¬ ∀ environment settings,
    ofEnvironment environment = .ok settings → settings.retryInterval.isFinite = true := by
  intro finite
  have accepted : ofEnvironment [("SECRETCLI_RETRY_INTERVAL", "inf")] =
      .ok { standard with retryInterval := .infinite false } := by decide +kernel
  cases finite _ _ accepted

end Settings

end ContractBench
