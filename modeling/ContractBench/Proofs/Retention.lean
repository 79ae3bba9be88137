import ContractBench.Answer
import ContractBench.Proofs.Document
import ContractBench.Proofs.Fields
import ContractBench.Proofs.Loading

/-! # Nothing of a computation is lost

The result of a computation keeps every entry of the object that it was read from: the fields hold
the values of their entries unchanged, and all other entries are kept in their order
(`Computation.keeps_everything`). This rests on what a reader of documents gives: the keys of an
object are texts that differ (`Json.read_parsed`), so that a dictionary is not rearranged when its
values are checked one by one.
-/

namespace ContractBench

namespace Value

/-- What is read of a text: objects have different texts for their keys. -/
inductive Parsed : Value → Prop where
  | scalar {v : Value} (simple : Json.IsScalar v) : Parsed v
  | text (s : String) : Parsed (.text s)
  | list {items : List Value} (each : ∀ item ∈ items, Parsed item) : Parsed (.list items)
  | dict {members : List (String × Value)} (distinct : (members.map (·.1)).Nodup)
      (each : ∀ member ∈ members, Parsed member.2) : Parsed (.dict (members.map textEntry))

theorem Parsed.of_find? {entries : List (Value × Value)} (parsed : (Value.dict entries).Parsed)
    {key : String} {v : Value} (held : find? entries key = some v) : v.Parsed := by
  obtain ⟨entry, inside, rfl⟩ := mem_of_find? held
  cases parsed with
  | scalar simple => exact simple.elim
  | dict _ each =>
      obtain ⟨member, known, rfl⟩ := List.mem_map.mp inside
      exact each member known

/-- Setting a text key keeps the keys of a dictionary different. -/
theorem setEntry_textEntry {Fits : Value → Prop} {members : List (String × Value)}
    (distinct : (members.map (·.1)).Nodup) (each : ∀ member ∈ members, Fits member.2)
    (key : String) {v : Value} (fits : Fits v) :
    ∃ after : List (String × Value),
      setEntry (members.map textEntry) (.text key) v = after.map textEntry ∧
        (after.map (·.1)).Nodup ∧ ∀ member ∈ after, Fits member.2 := by
  have held : (members.map textEntry).any (fun entry => entry.1.sameKey (.text key)) = true ↔
      key ∈ members.map (·.1) := by
    simp [textEntry, sameKey]
  by_cases known : key ∈ members.map (·.1)
  · let replaced (member : String × Value) := if member.1 = key then (member.1, v) else member
    have sameKeys (member : String × Value) : (replaced member).1 = member.1 := by
      simp only [replaced]
      split <;> rfl
    refine ⟨members.map replaced, ?_, ?_, ?_⟩
    · rw [setEntry, if_pos (held.mpr known), List.map_map, List.map_map]
      refine List.map_congr_left fun member _ => ?_
      simp only [Function.comp_apply, textEntry, sameKey, decide_eq_true_eq, replaced]
      split <;> rfl
    · rw [List.map_map]
      exact (List.map_congr_left fun member _ => sameKeys member).symm ▸ distinct
    · intro member inside
      obtain ⟨old, was, rfl⟩ := List.mem_map.mp inside
      simp only [replaced]
      split
      · exact fits
      · exact each old was
  · refine ⟨members ++ [(key, v)], ?_, ?_, ?_⟩
    · rw [setEntry, if_neg (mt held.mp known)]
      simp [textEntry]
    · rw [List.map_append, List.nodup_append]
      refine ⟨distinct, List.pairwise_singleton .., fun other inside last isLast same => ?_⟩
      obtain rfl := List.mem_singleton.mp isLast
      exact known (same ▸ inside)
    · intro member inside
      rcases List.mem_append.mp inside with was | last
      · exact each member was
      · rw [List.mem_singleton.mp last]
        exact fits

/-- However often its keys are repeated, an object gets different ones. -/
theorem ofEntries_parsed {Fits : Value → Prop} {raw : List (String × Value)}
    (each : ∀ member ∈ raw, Fits member.2) :
    ∃ members : List (String × Value),
      ofEntries (raw.map textEntry) = .dict (members.map textEntry) ∧
        (members.map (·.1)).Nodup ∧ ∀ member ∈ members, Fits member.2 := by
  -- The members that were set already have different keys, so the induction carries them along.
  suffices further : ∀ before : List (String × Value), (before.map (·.1)).Nodup →
      (∀ member ∈ before, Fits member.2) → ∃ members : List (String × Value),
        (raw.map textEntry).foldl (fun dict entry => setEntry dict entry.1 entry.2)
          (before.map textEntry) = members.map textEntry ∧
        (members.map (·.1)).Nodup ∧ ∀ member ∈ members, Fits member.2 by
    obtain ⟨members, made, rest⟩ := further [] .nil (by simp)
    exact ⟨members, congrArg Value.dict made, rest⟩
  induction raw with
  | nil => exact fun before distinct fits => ⟨before, rfl, distinct, fits⟩
  | cons member raw ih =>
      intro before distinct fits
      obtain ⟨after, set, distinct, fits⟩ :=
        setEntry_textEntry distinct fits member.1 (each member List.mem_cons_self)
      rw [List.map_cons, List.foldl_cons]
      change ∃ members, (raw.map textEntry).foldl _
        (setEntry (before.map textEntry) (.text member.1) member.2) = _ ∧ _
      rw [set]
      exact ih (fun other inside => each other (List.mem_cons_of_mem _ inside)) after distinct fits

end Value

namespace Json

variable {strict : Bool}

/-- A value, a list from some item on, and an object from some member on are read with the same
    fuel, so what they give is shown for all three at once. -/
theorem parsed_of_read (fuel : Nat) :
    (∀ {room cs v rest}, readValue strict fuel room cs = .ok (v, rest) → v.Parsed) ∧
    (∀ {room before cs v rest}, (∀ item ∈ before, item.Parsed) →
      readItems strict fuel room before cs = .ok (v, rest) → v.Parsed) ∧
    ∀ {room cs v rest} (before : List (String × Value)), (∀ member ∈ before, member.2.Parsed) →
      readMembers strict fuel room (before.map Value.textEntry) cs = .ok (v, rest) → v.Parsed := by
  induction fuel with
  | zero => exact ⟨nofun, fun _ => nofun, fun _ _ => nofun⟩
  | succ fuel ih =>
      obtain ⟨ihValue, ihItems, ihMembers⟩ := ih
      refine ⟨fun read => ?_, fun first read => ?_, fun before first read => ?_⟩
      · unfold readValue at read
        split at read
        · split at read
          · cases read
          · cases read
            exact .text _
        · split at read
          · split at read
            · cases read
              exact .list (by simp)
            · cases read
          · split at read
            · exact ihItems (by simp) read
            · cases read
        · split at read
          · split at read
            · cases read
              exact @Value.Parsed.dict [] .nil (by simp)
            · cases read
          · split at read
            · exact ihMembers [] (by simp) read
            · cases read
        · exact .scalar (isScalar_of_readScalar read)
      · unfold readItems at read
        split at read
        · cases read
        next item _ known =>
          have all := List.forall_mem_cons.mpr ⟨ihValue known, first⟩
          split at read
          · cases read
            exact .list fun other inside => all other (List.mem_reverse.mp inside)
          · exact ihItems all read
          · cases read
      · unfold readMembers at read
        split at read
        · cases read
        next key _ _ =>
          split at read
          · cases read
          next value _ known =>
            have all : ∀ member ∈ (key, value) :: before, member.2.Parsed :=
              List.forall_mem_cons.mpr ⟨ihValue known, first⟩
            split at read
            · cases read
              have fits : ∀ member ∈ ((key, value) :: before).reverse, member.2.Parsed :=
                fun member inside => all member (List.mem_reverse.mp inside)
              obtain ⟨members, made, distinct, each⟩ := Value.ofEntries_parsed fits
              rw [List.map_reverse] at made
              change (Value.ofEntries
                (((key, value) :: before).map Value.textEntry).reverse).Parsed
              rw [made]
              exact .dict distinct each
            · exact ihMembers ((key, value) :: before) all read
            · cases read

theorem read_parsed {text : String} {v : Value} (read : Json.read text = .ok v) : v.Parsed := by
  unfold Json.read at read
  split at read
  · cases read
  · obtain ⟨fuel, _, _, _, first⟩ := readDocument_ok read
    exact (parsed_of_read fuel).1 first

end Json

namespace Schema

/-- A schema that accepts a part of a document only as it is. -/
inductive Faithful : Schema → Prop where
  | any : Faithful .any
  | text : Faithful (.text false)
  | nullable {inner : Schema} (h : Faithful inner) : Faithful (.nullable inner)
  | list {item : Schema} (h : Faithful item) : Faithful (.list item)
  | dict {value : Schema} (h : Faithful value) : Faithful (.dict (.text false) value)

theorem checkEach_faithful {α : Type} {check : Nat → α → Checked α} {items checked : List α}
    {i : Nat} (same : ∀ i, ∀ item ∈ items, ∀ given, check i item = .ok given → given = item)
    (done : checkEach check i items = .ok checked) : checked = items := by
  induction items generalizing i checked with
  | nil =>
      cases done
      rfl
  | cons item items ih =>
      obtain ⟨given, others, first, rest, rfl⟩ := Checked.both_eq_ok.mp done
      rw [same i item List.mem_cons_self given first,
        ih (fun i other inside => same i other (List.mem_cons_of_mem _ inside)) rest]

theorem checkText_parsed {v : Value} (parsed : v.Parsed) {s : String}
    (accepted : checkText false v = .ok s) : v = .text s := by
  refine (checkText_eq_ok fun bytes => ?_).mp accepted
  cases parsed with
  | scalar simple => cases v <;> first | exact simple | exact bytes
  | text | list | dict => exact bytes

theorem Faithful.eq_of_validate {schema : Schema} (faithful : schema.Faithful) {v w : Value}
    (parsed : v.Parsed) (accepted : validate schema v = .ok w) : w = v := by
  induction faithful generalizing v w with
  | any =>
      cases accepted
      rfl
  | text =>
      obtain ⟨s, checked, rfl⟩ := map_eq_ok.mp accepted
      exact (checkText_parsed parsed checked).symm
  | nullable _ ih =>
      by_cases null : v = .null
      · subst null
        cases accepted
        rfl
      · rw [validate_nullable null] at accepted
        exact ih parsed accepted
  | list _ ih =>
      cases parsed with
      | scalar simple => cases v <;> first | cases accepted | exact simple.elim
      | text | dict => cases accepted
      | list each =>
          obtain ⟨checked, done, rfl⟩ := map_eq_ok.mp accepted
          refine congrArg Value.list (checkEach_faithful (fun i item inside given read => ?_) done)
          exact ih (each item inside) (Checked.under_eq_ok.mp read)
  | dict _ ih =>
      cases parsed with
      | scalar simple => cases v <;> first | cases accepted | exact simple.elim
      | text | list => cases accepted
      | @dict members distinct each =>
          obtain ⟨checked, done, rfl⟩ := map_eq_ok.mp accepted
          rw [checkEach_faithful (fun i entry inside given read => ?_) done]
          · -- The entries are set one by one again, which changes nothing with different keys.
            exact Value.ofEntries_textEntry distinct
          · obtain ⟨member, held, rfl⟩ := List.mem_map.mp inside
            obtain ⟨key, value, readKey, readValue, rfl⟩ := Checked.both_eq_ok.mp read
            have sameKey : key = .text member.1 := by
              have accepted := Checked.under_eq_ok.mp (Checked.under_eq_ok.mp readKey)
              cases accepted
              rfl
            rw [sameKey, ih (each member held) (Checked.under_eq_ok.mp readValue)]
            rfl

/-! ## Records -/

/-- The fields of a schema for records. -/
def fields : Schema → List (FieldSpec × Schema)
  | .record _ fields _ => fields
  | _ => []

variable {specs : List (FieldSpec × Schema)} {entries : List (Value × Value)}

/-- A field of an accepted record holds what was read for it. -/
theorem readField_of_validated {found : List (FieldName × Value)}
    (done : validateFields specs entries = .ok found)
    (distinct : (specs.map fun field => field.1.name.name).Nodup) {field : FieldSpec × Schema}
    (inside : field ∈ specs) (title : String) (extras : List (String × Value)) :
    readField entries field =
      .ok ((Value.record title found extras).field field.1.name.name) := by
  induction specs generalizing found with
  | nil => cases inside
  | cons first specs ih =>
      obtain ⟨v, others, readFirst, readOthers, rfl⟩ :=
        Checked.both_eq_ok.mp ((validateFields_cons ..).symm.trans done)
      rw [List.map_cons, List.nodup_cons] at distinct
      rcases List.mem_cons.mp inside with rfl | later
      · rw [readFirst]
        simp [Value.field, FieldSpec.nameOver]
      · have other : first.1.name.name ≠ field.1.name.name := fun same =>
          distinct.1 (same ▸ List.mem_map_of_mem later)
        rw [ih readOthers distinct.2 later]
        simp [Value.field, FieldSpec.nameOver, other]

theorem value_of_readField {name : String} {default : Value} {schema : Schema}
    (faithful : schema.Faithful) (parsed : (Value.dict entries).Parsed) {v : Value}
    (read : readField entries (.withDefault name default, schema) = .ok v) :
    v = (Value.find? entries name).getD default := by
  simp only [readField, FieldSpec.withDefault, source?] at read
  cases held : Value.find? entries name with
  | none =>
      rw [held] at read
      cases read
      rfl
  | some found =>
      rw [held] at read
      exact faithful.eq_of_validate (parsed.of_find? held) (Checked.under_eq_ok.mp read)

theorem ofText?_of_readField {name text : String} {v : Value}
    (read : readField entries (.withDefault name (.text text), .nullable (.text false)) = .ok v) :
    .ofText? v.asText? = v := by
  simp only [readField, FieldSpec.withDefault, source?] at read
  cases held : Value.find? entries name with
  | none =>
      rw [held] at read
      cases read
      rfl
  | some found =>
      rw [held] at read
      have accepted := Checked.under_eq_ok.mp read
      by_cases null : found = .null
      · subst null
        cases accepted
        rfl
      · rw [validate_nullable null] at accepted
        obtain ⟨s, -, rfl⟩ := map_eq_ok.mp accepted
        rfl

theorem checkExtras_textEntry (used : List String) (members : List (String × Value)) :
    checkExtras used (members.map Value.textEntry) =
      .ok (members.filter fun member => !used.contains member.1) := by
  induction members with
  | nil => rfl
  | cons member members ih =>
      rw [List.map_cons, Value.textEntry, checkExtras, ih, List.filter_cons]
      cases used.contains member.1 <;> rfl

theorem source?_own (entries : List (Value × Value)) (name : String) :
    source? entries [name] = (Value.find? entries name).map fun v => (name, v) := by
  rw [source?]
  cases Value.find? entries name <;> rfl

/-- Where each field is read from its own name alone, an entry is used exactly if it has the name of
    a field. -/
theorem contains_usedKeys (own : ∀ field ∈ specs, field.1.sources = [field.1.name.name])
    {members : List (String × Value)} {member : String × Value} (inside : member ∈ members) :
    (usedKeys (members.map Value.textEntry) specs).contains member.1 =
      (specs.map fun field => field.1.name.name).contains member.1 := by
  have there : (Value.find? (members.map Value.textEntry) member.1).isSome = true := by
    rw [Value.find?, Option.isSome_map, List.find?_isSome]
    exact ⟨_, List.mem_map_of_mem inside, by simp [Value.textEntry]⟩
  rw [Bool.eq_iff_iff, List.contains_iff_mem, List.contains_iff_mem, usedKeys, List.mem_filterMap,
    List.mem_map]
  refine exists_congr fun field => and_congr_right fun known => ?_
  rw [own field known, source?_own, Option.map_map]
  constructor
  · intro used
    obtain ⟨v, -, same⟩ := Option.map_eq_some_iff.mp used
    exact same
  · intro same
    rw [same]
    obtain ⟨v, held⟩ := Option.isSome_iff_exists.mp there
    rw [held]
    rfl

end Schema

namespace Computation

/-- Whether an entry belongs to a field. -/
def isField : Value → Bool
  | .text s => ["input", "output_data", "output_data_as_string", "output_logs", "output_error",
      "plaintext_error"].contains s
  | _ => false

/-- A result holds each entry of an object: the entries of its fields, with the defaults for those
    that are absent, and all others in their order. -/
structure HoldsAll (result : Computation) (entries : List (Value × Value)) : Prop where
  input : .ofText? result.input = (Value.find? entries "input").getD (.text "")
  outputData : .ofText? result.outputData = (Value.find? entries "output_data").getD (.text "")
  outputText :
    .ofText? result.outputText = (Value.find? entries "output_data_as_string").getD (.text "")
  outputLogs : result.outputLogs = (Value.find? entries "output_logs").getD .null
  outputError : result.outputError = (Value.find? entries "output_error").getD .null
  plaintextError :
    .ofText? result.plaintextError = (Value.find? entries "plaintext_error").getD (.text "")
  extras : result.extras.map Value.textEntry =
    entries.filter fun entry => !isField entry.1

theorem keeps_everything {text : String} {entries : List (Value × Value)} {v : Value}
    (read : Json.read text = .ok (.dict entries))
    (accepted : schema.accept title (.dict entries) = .ok v) : (ofRecord v).HoldsAll entries := by
  have parsed := Json.read_parsed read
  have checked : schema.validate (.dict entries) = Checked.both (Value.record title)
      (Schema.validateFields schema.fields entries)
      (Schema.checkExtras (Schema.usedKeys entries schema.fields) entries) := rfl
  have validated : schema.validate (.dict entries) = .ok v := by
    rw [Schema.accept] at accepted
    split at accepted
    · cases accepted
      assumption
    · cases accepted
  obtain ⟨found, extras, readFields, readExtras, rfl⟩ :=
    Checked.both_eq_ok.mp (checked.symm.trans validated)
  have distinct : (schema.fields.map fun field => field.1.name.name).Nodup := by decide
  have fieldRead (field : FieldSpec × Schema) (inside : field ∈ schema.fields) :=
    Schema.readField_of_validated readFields distinct inside title extras
  have held (name : String) (default : Value) (inner : Schema) (faithful : inner.Faithful)
      (inside : (FieldSpec.withDefault name default, inner) ∈ schema.fields) :
      (Value.record title found extras).field name = (Value.find? entries name).getD default :=
    Schema.value_of_readField faithful parsed (fieldRead _ inside)
  have optional (name : String)
      (inside : (FieldSpec.withDefault name (.text ""), .nullable (.text false)) ∈ schema.fields) :
      .ofText? ((Value.record title found extras).field name).asText? =
        (Value.find? entries name).getD (.text "") := by
    have told := Schema.ofText?_of_readField (fieldRead _ inside)
    exact told.trans (held name _ _ (.nullable .text) inside)
  refine ⟨optional _ ?_, optional _ ?_, optional _ ?_,
    held _ _ _ (.nullable (.list (.dict .any))) ?_, held _ _ _ .any ?_, optional _ ?_, ?_⟩
  iterate 6
    simp [schema, Schema.fields]
  cases parsed with
  | scalar simple => exact simple.elim
  | @dict members _ _ =>
      rw [Schema.checkExtras_textEntry] at readExtras
      obtain rfl := Except.ok.inj readExtras
      rw [List.filter_map]
      refine congrArg _ (List.filter_congr fun member inside => ?_)
      have own : ∀ field ∈ schema.fields, field.1.sources = [field.1.name.name] := by
        decide
      rw [Schema.contains_usedKeys own inside]
      rfl

end Computation

end ContractBench
