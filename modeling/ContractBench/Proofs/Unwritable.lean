import ContractBench.Message
import ContractBench.Proofs.Values

/-! # Messages without a text

Why a message has no text is said by what is in it: a part that cannot be written
(`Json.Barred`), or a part of a record that cannot be made plain (`Value.Spoiled`). The two stages
fail exactly on such parts, and what the first gives the second can write, long numerals apart
(`IsPlain.barred`). Only the second stage has the error that messages are said to have
(`Message.encode_failures`).
-/

namespace ContractBench

namespace Json

/-- A whole number has more digits than are written. -/
def IsLong (n : Int) : Prop := Numeral.mostDigits < Binary64.digitCount n.natAbs

theorem writeInt_error {n : Int} {fault : WriteFault} :
    writeInt n = .error fault ↔ IsLong n ∧ fault = .longNumeral := by
  unfold writeInt IsLong
  split
  next long => simp [long, eq_comm]
  next short => simp [short]

def IsKey : Value → Prop
  | .text _ => True
  | .int _ => True
  | .float _ => True
  | .bool _ => True
  | .null => True
  | _ => False

/-- A key cannot be written. -/
inductive BarredKey : Value → WriteFault → Prop where
  | long {n : Int} (long : IsLong n) : BarredKey (.int n) .longNumeral
  | type {key : Value} (foreign : ¬ IsKey key) : BarredKey key (.keyType (typeName key))

theorem keyText_error {key : Value} {fault : WriteFault} :
    keyText key = .error fault ↔ BarredKey key fault := by
  constructor
  · intro failed
    cases key with
    | int n =>
        obtain ⟨long, rfl⟩ := writeInt_error.mp failed
        exact .long long
    | text | float | bool | null => cases failed
    | _ =>
        cases failed
        exact .type id
  · intro barred
    cases barred with
    | long long => exact writeInt_error.mpr ⟨long, rfl⟩
    | type foreign =>
        cases key with
        | text | int | float | bool | null => exact absurd trivial foreign
        | _ => rfl

/-- A part of a value cannot be written. -/
inductive Barred : Value → WriteFault → Prop where
  | long {n : Int} (long : IsLong n) : Barred (.int n) .longNumeral
  | bytes (bs : List UInt8) : Barred (.bytes bs) (.valueType "bytes")
  | set (items : List Value) : Barred (.set items) (.valueType "set")
  | record (title : String) (fields : List (FieldName × Value)) (extras : List (String × Value)) :
      Barred (.record title fields extras) (.valueType title)
  | selfList : Barred .selfList .circular
  | selfDict : Barred .selfDict .circular
  | item {items : List Value} {item : Value} {fault : WriteFault} (inside : item ∈ items)
      (barred : Barred item fault) : Barred (.list items) fault
  | tupleItem {items : List Value} {item : Value} {fault : WriteFault} (inside : item ∈ items)
      (barred : Barred item fault) : Barred (.tuple items) fault
  | key {entries : List (Value × Value)} {entry : Value × Value} {fault : WriteFault}
      (inside : entry ∈ entries) (barred : BarredKey entry.1 fault) : Barred (.dict entries) fault
  | value {entries : List (Value × Value)} {entry : Value × Value} {fault : WriteFault}
      (inside : entry ∈ entries) (barred : Barred entry.2 fault) : Barred (.dict entries) fault

theorem barred_of_write {v : Value} {fault : WriteFault} (failed : write v = .error fault) :
    Barred v fault := by
  induction v using Value.rec_strong generalizing fault with
  | null | bool | float | text => cases failed
  | int n =>
      obtain ⟨long, rfl⟩ := writeInt_error.mp failed
      exact .long long
  | bytes bs =>
      cases failed
      exact .bytes bs
  | set items =>
      cases failed
      exact .set items
  | record title fields extras =>
      cases failed
      exact .record title fields extras
  | selfList =>
      cases failed
      exact .selfList
  | selfDict =>
      cases failed
      exact .selfDict
  | list items ih =>
      rw [write, map_error, writeItems_eq_mapM] at failed
      obtain ⟨item, inside, fails⟩ := mapM_error failed
      exact .item inside (ih item inside fails)
  | tuple items ih =>
      rw [write, map_error, writeItems_eq_mapM] at failed
      obtain ⟨item, inside, fails⟩ := mapM_error failed
      exact .tupleItem inside (ih item inside fails)
  | dict entries ih =>
      rw [write, map_error, writeEntries_eq_mapM] at failed
      obtain ⟨entry, inside, fails⟩ := mapM_error failed
      rcases both_error fails with key | value
      · exact .key inside (keyText_error.mp key)
      · exact .value inside ((ih entry inside).2 value)

theorem Barred.fails {v : Value} {fault : WriteFault} (barred : Barred v fault) :
    ∃ fault', write v = .error fault' := by
  induction barred with
  | long long => exact ⟨_, writeInt_error.mpr ⟨long, rfl⟩⟩
  | bytes | set | record | selfList | selfDict => exact ⟨_, rfl⟩
  | item inside barred ih | tupleItem inside barred ih =>
      simp only [write, map_error, writeItems_eq_mapM]
      exact mapM_fails inside ih
  | key inside barred =>
      simp only [write, map_error, writeEntries_eq_mapM]
      apply mapM_fails inside
      exact both_fails (.inl ⟨_, keyText_error.mpr barred⟩)
  | value inside barred ih =>
      simp only [write, map_error, writeEntries_eq_mapM]
      apply mapM_fails inside
      exact both_fails (.inr ih)

end Json

namespace Value

/-- A key has no text that could stand for it. -/
inductive SpoiledKey : Value → PlainFault → Prop where
  | bytes {bs : List UInt8} {place : Utf8.DecodeError}
      (undecodable : Utf8.decode bs = .error place) :
      SpoiledKey (.bytes bs) (.undecodable { place with reason := "invalid utf-8" })
  | long {n : Int} (long : Json.IsLong n) : SpoiledKey (.int n) .longNumeral
  | selfList : SpoiledKey .selfList .circular
  | selfDict : SpoiledKey .selfDict .circular
  | item {items : List Value} {item : Value} {fault : PlainFault} (inside : item ∈ items)
      (spoiled : SpoiledKey item fault) : SpoiledKey (.tuple items) fault

theorem bytesText_error {bs : List UInt8} {fault : PlainFault} :
    bytesText bs = .error fault ↔ ∃ place, Utf8.decode bs = .error place ∧
      fault = .undecodable { place with reason := "invalid utf-8" } := by
  unfold bytesText
  cases Utf8.decode bs <;> simp [eq_comm]

theorem keyText_int_error {n : Int} {fault : PlainFault} :
    keyText (.int n) = .error fault ↔ Json.IsLong n ∧ fault = .longNumeral := by
  rw [keyText, mapError_error]
  simp [Json.writeInt_error]

theorem spoiledKey_of_keyText {key : Value} {fault : PlainFault}
    (failed : keyText key = .error fault) : SpoiledKey key fault := by
  induction key using rec_strong generalizing fault with
  | bytes bs =>
      obtain ⟨place, undecodable, rfl⟩ := bytesText_error.mp failed
      exact .bytes undecodable
  | int n =>
      obtain ⟨long, rfl⟩ := keyText_int_error.mp failed
      exact .long long
  | selfList =>
      cases failed
      exact .selfList
  | selfDict =>
      cases failed
      exact .selfDict
  | tuple items ih =>
      rw [keyText, map_error, keyTexts_eq_mapM] at failed
      obtain ⟨item, inside, fails⟩ := mapM_error failed
      exact .item inside (ih item inside fails)
  | null | bool | float | text | list | set | dict | record => cases failed

theorem SpoiledKey.fails {key : Value} {fault : PlainFault} (spoiled : SpoiledKey key fault) :
    ∃ fault', keyText key = .error fault' := by
  induction spoiled with
  | bytes undecodable => exact ⟨_, bytesText_error.mpr ⟨_, undecodable, rfl⟩⟩
  | long long => exact ⟨_, keyText_int_error.mpr ⟨long, rfl⟩⟩
  | selfList | selfDict => exact ⟨_, rfl⟩
  | item inside spoiled ih =>
      simp only [keyText, map_error, keyTexts_eq_mapM]
      exact mapM_fails inside ih

/-- The items of a value that is made plain as a list. -/
def itemsOf : Value → List Value
  | .list items => items
  | .tuple items => items
  | .set items => items
  | _ => []

/-- A part of a value has no plain value, where a schema describes some layers of the value and
    below them no more than `room` values may lie within each other. -/
inductive Spoiled : Nat → Nat → Value → PlainFault → Prop where
  | tooDeep (v : Value) : Spoiled 0 0 v .tooDeep
  | bytes {layers room : Nat} {bs : List UInt8} {place : Utf8.DecodeError}
      (undecodable : Utf8.decode bs = .error place) :
      Spoiled layers room (.bytes bs) (.undecodable { place with reason := "invalid utf-8" })
  | selfList {layers room : Nat} : Spoiled layers room .selfList .circular
  | selfDict {layers room : Nat} : Spoiled layers room .selfDict .circular
  | item {layers room : Nat} {v item : Value} {fault : PlainFault} (inside : item ∈ v.itemsOf)
      (spoiled : Spoiled (layers - 1) (roomBelow layers room) item fault) :
      Spoiled layers room v fault
  | key {layers room : Nat} {entries : List (Value × Value)} {entry : Value × Value}
      {fault : PlainFault} (inside : entry ∈ entries) (spoiled : SpoiledKey entry.1 fault) :
      Spoiled layers room (.dict entries) fault
  | value {layers room : Nat} {entries : List (Value × Value)} {entry : Value × Value}
      {fault : PlainFault} (inside : entry ∈ entries)
      (spoiled : Spoiled (layers - 1) (roomBelow layers room) entry.2 fault) :
      Spoiled layers room (.dict entries) fault
  | field {layers room : Nat} {title : String} {fields : List (FieldName × Value)}
      {extras : List (String × Value)} {field : FieldName × Value} {fault : PlainFault}
      (inside : field ∈ fields) (held : field.2 ≠ .null)
      (spoiled : Spoiled field.1.layers (roomBelow layers room) field.2 fault) :
      Spoiled layers room (.record title fields extras) fault
  | extra {layers room : Nat} {title : String} {fields : List (FieldName × Value)}
      {extras : List (String × Value)} {extra : String × Value} {fault : PlainFault}
      (inside : extra ∈ extras) (held : extra.2 ≠ .null)
      (spoiled : Spoiled 0 (roomBelow layers room) extra.2 fault) :
      Spoiled layers room (.record title fields extras) fault

theorem mem_held {α : Type} {named : List (α × Value)} {part : α × Value} :
    part ∈ named.filter (fun part => !isNull part.2) ↔ part ∈ named ∧ part.2 ≠ .null := by
  have absent : isNull part.2 = false ↔ part.2 ≠ .null := by
    constructor
    · intro held same
      rw [same] at held
      cases held
    · exact isNull_eq_false
  simp [absent]

/-- A list, a tuple or a set, which are made plain alike. -/
def IsItems (v : Value) : Prop := v = .list v.itemsOf ∨ v = .tuple v.itemsOf ∨ v = .set v.itemsOf

theorem isItems_of_mem {v item : Value} (inside : item ∈ v.itemsOf) : v.IsItems := by
  cases v with
  | list => exact .inl rfl
  | tuple => exact .inr (.inl rfl)
  | set => exact .inr (.inr rfl)
  | _ => cases inside

theorem plain_items {layers room : Nat} {v : Value} (roomy : ¬ (layers = 0 ∧ room = 0))
    (isItems : v.IsItems) :
    plain layers room v =
      (v.itemsOf.mapM (plain (layers - 1) (roomBelow layers room))).map .list := by
  rw [← plainItems_eq_mapM]
  rcases isItems with same | same | same
  all_goals
    rw [same, plain, if_neg roomy]
    rfl

/-- Where nothing may lie any more, nothing is made plain and anything is spoiled. -/
theorem spoiled_of_roomy {layers room : Nat} {v : Value} {fault : PlainFault}
    (failed : plain layers room v = .error fault)
    (spoiled : ¬ (layers = 0 ∧ room = 0) → Spoiled layers room v fault) :
    Spoiled layers room v fault := by
  by_cases deep : layers = 0 ∧ room = 0
  · obtain ⟨rfl, rfl⟩ := deep
    cases (plain_tooDeep v).symm.trans failed
    exact .tooDeep v
  · exact spoiled deep

theorem spoiled_of_items {layers room : Nat} {v : Value} {fault : PlainFault}
    (failed : plain layers room v = .error fault) (roomy : ¬ (layers = 0 ∧ room = 0))
    (isItems : v.IsItems)
    (each : ∀ item ∈ v.itemsOf, ∀ {layers room : Nat} {fault : PlainFault},
      plain layers room item = .error fault → Spoiled layers room item fault) :
    Spoiled layers room v fault := by
  rw [plain_items roomy isItems, map_error] at failed
  obtain ⟨item, inside, fails⟩ := mapM_error failed
  exact .item inside (each item inside fails)

theorem spoiled_of_plain {layers room : Nat} {v : Value} {fault : PlainFault}
    (failed : plain layers room v = .error fault) : Spoiled layers room v fault := by
  induction v using rec_strong generalizing layers room fault with
    (apply spoiled_of_roomy failed; intro roomy)
  | null | bool | int | float | text =>
      unfold plain at failed
      rw [if_neg roomy] at failed
      cases failed
  | bytes bs =>
      rw [plain, if_neg roomy, map_error] at failed
      obtain ⟨place, undecodable, rfl⟩ := bytesText_error.mp failed
      exact .bytes undecodable
  | selfList =>
      rw [plain, if_neg roomy] at failed
      cases failed
      exact .selfList
  | selfDict =>
      rw [plain, if_neg roomy] at failed
      cases failed
      exact .selfDict
  | list items ih => exact spoiled_of_items failed roomy (.inl rfl) ih
  | tuple items ih => exact spoiled_of_items failed roomy (.inr (.inl rfl)) ih
  | set items ih => exact spoiled_of_items failed roomy (.inr (.inr rfl)) ih
  | dict entries ih =>
      rw [plain, if_neg roomy, map_error, plainEntries_eq_mapM] at failed
      obtain ⟨entry, inside, fails⟩ := mapM_error failed
      rcases both_error fails with key | value
      · exact .key inside (spoiledKey_of_keyText key)
      · exact .value inside ((ih entry inside).2 value)
  | record title fields extras ihFields ihExtras =>
      rw [plain_record roomy, plainFields_eq_mapM, plainExtras_eq_mapM] at failed
      rcases both_error failed with known | kept
      · obtain ⟨field, inside, fails⟩ := mapM_error known
        obtain ⟨among, held⟩ := mem_held.mp inside
        exact .field among held (ihFields field among (map_error.mp fails))
      · obtain ⟨extra, inside, fails⟩ := mapM_error kept
        obtain ⟨among, held⟩ := mem_held.mp inside
        exact .extra among held (ihExtras extra among (map_error.mp fails))

theorem plain_fails_of_roomy {layers room : Nat} {v : Value}
    (fails : ¬ (layers = 0 ∧ room = 0) → ∃ fault, plain layers room v = .error fault) :
    ∃ fault, plain layers room v = .error fault := by
  by_cases deep : layers = 0 ∧ room = 0
  · obtain ⟨rfl, rfl⟩ := deep
    exact ⟨.tooDeep, plain_tooDeep v⟩
  · exact fails deep

theorem Spoiled.fails {layers room : Nat} {v : Value} {fault : PlainFault}
    (spoiled : Spoiled layers room v fault) : ∃ fault', plain layers room v = .error fault' := by
  induction spoiled with
    (apply plain_fails_of_roomy; intro roomy)
  | tooDeep v => exact absurd ⟨rfl, rfl⟩ roomy
  | bytes undecodable =>
      simp only [plain, if_neg roomy, map_error]
      exact ⟨_, bytesText_error.mpr ⟨_, undecodable, rfl⟩⟩
  | selfList | selfDict => exact ⟨_, by rw [plain, if_neg roomy]⟩
  | item inside spoiled ih =>
      simp only [plain_items roomy (isItems_of_mem inside), map_error]
      exact mapM_fails inside ih
  | key inside spoiled =>
      simp only [plain, if_neg roomy, map_error, plainEntries_eq_mapM]
      apply mapM_fails inside
      exact both_fails (.inl spoiled.fails)
  | value inside spoiled ih =>
      simp only [plain, if_neg roomy, map_error, plainEntries_eq_mapM]
      apply mapM_fails inside
      exact both_fails (.inr ih)
  | field inside held spoiled ih =>
      rw [plain_record roomy, plainFields_eq_mapM]
      apply both_fails
      left
      apply mapM_fails (mem_held.mpr ⟨inside, held⟩)
      simpa only [plainNamed, map_error] using ih
  | extra inside held spoiled ih =>
      rw [plain_record roomy, plainExtras_eq_mapM]
      apply both_fails
      right
      apply mapM_fails (mem_held.mpr ⟨inside, held⟩)
      simpa only [plainNamed, map_error] using ih

/-- What records are made into. -/
inductive IsPlain : Value → Prop where
  | null : IsPlain .null
  | bool (b : Bool) : IsPlain (.bool b)
  | int (n : Int) : IsPlain (.int n)
  | float (x : Binary64) : IsPlain (.float x)
  | text (s : String) : IsPlain (.text s)
  | list {items : List Value} (all : ∀ item ∈ items, IsPlain item) : IsPlain (.list items)
  | dict {entries : List (Value × Value)} (named : ∀ entry ∈ entries, ∃ name, entry.1 = .text name)
      (all : ∀ entry ∈ entries, IsPlain entry.2) : IsPlain (.dict entries)

theorem isPlain_dict {entries : List (Value × Value)}
    (all : ∀ entry ∈ entries, (∃ name, entry.1 = .text name) ∧ IsPlain entry.2) :
    IsPlain (.dict entries) :=
  .dict (fun entry inside => (all entry inside).1) fun entry inside => (all entry inside).2

theorem roomy_of_plain {layers room : Nat} {v w : Value} (made : plain layers room v = .ok w) :
    ¬ (layers = 0 ∧ room = 0) := by
  rintro ⟨rfl, rfl⟩
  cases (plain_tooDeep v).symm.trans made

theorem isPlain_of_items {layers room : Nat} {v w : Value} (made : plain layers room v = .ok w)
    (isItems : v.IsItems)
    (each : ∀ item ∈ v.itemsOf, ∀ {layers room : Nat} {w : Value},
      plain layers room item = .ok w → IsPlain w) : IsPlain w := by
  rw [plain_items (roomy_of_plain made) isItems] at made
  obtain ⟨plains, walked, rfl⟩ := map_eq_ok.mp made
  apply IsPlain.list
  intro w inside
  obtain ⟨item, among, makes⟩ := (mapM_ok walked).2 w inside
  exact each item among makes

theorem isPlain_of_plain {layers room : Nat} {v w : Value} (made : plain layers room v = .ok w) :
    IsPlain w := by
  induction v using rec_strong generalizing layers room w with
    (have roomy := roomy_of_plain made)
  | null | bool | int | text =>
      unfold plain at made
      rw [if_neg roomy] at made
      cases made
      constructor
  | float x =>
      rw [plain, if_neg roomy] at made
      cases made
      split
      · exact .null
      · exact .float x
  | bytes bs =>
      rw [plain, if_neg roomy] at made
      obtain ⟨s, -, rfl⟩ := map_eq_ok.mp made
      exact .text s
  | selfList | selfDict =>
      rw [plain, if_neg roomy] at made
      cases made
  | list items ih => exact isPlain_of_items made (.inl rfl) ih
  | tuple items ih => exact isPlain_of_items made (.inr (.inl rfl)) ih
  | set items ih => exact isPlain_of_items made (.inr (.inr rfl)) ih
  | dict entries ih =>
      rw [plain, if_neg roomy, plainEntries_eq_mapM] at made
      obtain ⟨members, walked, rfl⟩ := map_eq_ok.mp made
      have all : ∀ member ∈ members, (∃ name, member.1 = .text name) ∧ IsPlain member.2 := by
        intro member inside
        obtain ⟨entry, among, makes⟩ := (mapM_ok walked).2 member inside
        obtain ⟨name, first, -, plains, rfl⟩ := both_eq_ok.mp makes
        exact ⟨⟨name, rfl⟩, (ih entry among).2 plains⟩
      apply isPlain_dict
      exact @forall_ofEntries (fun key => ∃ name, key = .text name) IsPlain _ _ all rfl
  | record title fields extras ihFields ihExtras =>
      rw [plain_record roomy, plainFields_eq_mapM, plainExtras_eq_mapM] at made
      obtain ⟨known, kept, fieldsMade, extrasMade, rfl⟩ := both_eq_ok.mp made
      apply isPlain_dict
      intro entry inside
      rcases List.mem_append.mp inside with inside | inside
      · obtain ⟨field, among, makes⟩ := (mapM_ok fieldsMade).2 entry inside
        obtain ⟨first, plains, rfl⟩ := map_eq_ok.mp makes
        have isField := (mem_held.mp among).1
        exact ⟨⟨_, rfl⟩, ihFields field isField plains⟩
      · obtain ⟨extra, among, makes⟩ := (mapM_ok extrasMade).2 entry inside
        obtain ⟨first, plains, rfl⟩ := map_eq_ok.mp makes
        have isExtra := (mem_held.mp among).1
        exact ⟨⟨_, rfl⟩, ihExtras extra isExtra plains⟩

theorem IsPlain.barred {v : Value} {fault : Json.WriteFault} (isPlain : IsPlain v)
    (barred : Json.Barred v fault) : fault = .longNumeral := by
  induction barred with
  | long long => rfl
  | bytes | set | record | selfList | selfDict | tupleItem => cases isPlain
  | item inside barred ih =>
      cases isPlain with
      | list all => exact ih (all _ inside)
  | key inside barred =>
      cases isPlain with
      | dict named all =>
          obtain ⟨name, isText⟩ := named _ inside
          rw [isText] at barred
          cases barred with
          | type foreign => exact absurd trivial foreign
  | value inside barred ih =>
      cases isPlain with
      | dict named all => exact ih (all _ inside)

/-- A record, which is made plain before it is written. -/
def IsRecord : Value → Prop
  | .record _ _ _ => True
  | _ => False

end Value

namespace Message

theorem plainValue_of_isRecord {message : Value} (isRecord : message.IsRecord) :
    plainValue message = (Value.plain 1 Value.deepest message).mapError .notPlain := by
  cases message with
  | record title fields extras => rfl
  | _ => cases isRecord

theorem plainValue_of_not {message : Value} (other : ¬ message.IsRecord) :
    plainValue message = .ok message := by
  cases message with
  | record title fields extras => exact absurd trivial other
  | _ => rfl

theorem plainValue_error {message : Value} {failure : Failure} :
    plainValue message = .error failure ↔ message.IsRecord ∧
      ∃ fault, Value.plain 1 Value.deepest message = .error fault ∧ failure = .notPlain fault := by
  by_cases isRecord : message.IsRecord
  · rw [plainValue_of_isRecord isRecord]
    simp [mapError_error, isRecord]
  · simp [plainValue_of_not isRecord, isRecord]

theorem plainValue_ok {message sent : Value} (made : plainValue message = .ok sent) :
    message.IsRecord ∧ sent.IsPlain ∨ sent = message := by
  by_cases isRecord : message.IsRecord
  · rw [plainValue_of_isRecord isRecord] at made
    cases plains : Value.plain 1 Value.deepest message with
    | error fault =>
        rw [plains] at made
        cases made
    | ok w =>
        rw [plains] at made
        cases made
        exact .inl ⟨isRecord, Value.isPlain_of_plain plains⟩
  · rw [plainValue_of_not isRecord] at made
    cases made
    exact .inr rfl

theorem encode_error {message : Value} {failure : Failure} :
    encode message = .error failure ↔ plainValue message = .error failure ∨
      ∃ sent fault, plainValue message = .ok sent ∧ Json.write sent = .error fault ∧
        failure = .unwritable fault := by
  unfold encode
  cases plainValue message with
  | error other => simp [Except.bind]
  | ok sent => simp [Except.bind, mapError_error]

/-- A message has no text for one of two reasons. A record has none exactly if a part of it has no
    plain value, and that failure is its own; any message has none exactly if a part of what is
    written for it is barred. What is written is the message itself, unless it is a record, and of a
    record only long numerals are barred. -/
theorem encode_failures (message : Value) :
    ((∃ fault, encode message = .error (.notPlain fault)) ↔
      message.IsRecord ∧ ∃ fault, message.Spoiled 1 Value.deepest fault) ∧
    ((∃ fault, encode message = .error (.unwritable fault)) ↔
      ∃ sent fault, plainValue message = .ok sent ∧ Json.Barred sent fault) ∧
    ∀ failure, encode message = .error failure →
      (∃ fault, failure = .notPlain fault ∧ message.Spoiled 1 Value.deepest fault) ∨
      ∃ sent fault, failure = .unwritable fault ∧ plainValue message = .ok sent ∧
        Json.Barred sent fault ∧ (message.IsRecord ∧ fault = .longNumeral ∨ sent = message) := by
  refine ⟨⟨?_, ?_⟩, ⟨?_, ?_⟩, ?_⟩
  · rintro ⟨fault, failed⟩
    rcases encode_error.mp failed with first | ⟨sent, other, -, -, impossible⟩
    · obtain ⟨isRecord, other, plains, -⟩ := plainValue_error.mp first
      exact ⟨isRecord, other, Value.spoiled_of_plain plains⟩
    · cases impossible
  · rintro ⟨isRecord, fault, spoiled⟩
    obtain ⟨first, fails⟩ := spoiled.fails
    exact ⟨first, encode_error.mpr (.inl (plainValue_error.mpr ⟨isRecord, first, fails, rfl⟩))⟩
  · rintro ⟨fault, failed⟩
    rcases encode_error.mp failed with first | ⟨sent, other, made, fails, -⟩
    · obtain ⟨-, other, -, impossible⟩ := plainValue_error.mp first
      cases impossible
    · exact ⟨sent, other, made, Json.barred_of_write fails⟩
  · rintro ⟨sent, fault, made, barred⟩
    obtain ⟨first, fails⟩ := barred.fails
    exact ⟨first, encode_error.mpr (.inr ⟨sent, first, made, fails, rfl⟩)⟩
  · intro failure failed
    rcases encode_error.mp failed with first | ⟨sent, fault, made, fails, rfl⟩
    · obtain ⟨-, fault, plains, rfl⟩ := plainValue_error.mp first
      exact .inl ⟨fault, rfl, Value.spoiled_of_plain plains⟩
    · have barred := Json.barred_of_write fails
      refine .inr ⟨sent, fault, rfl, made, barred, ?_⟩
      rcases plainValue_ok made with ⟨isRecord, isPlain⟩ | same
      · exact .inl ⟨isRecord, isPlain.barred barred⟩
      · exact .inr same

/-- An increment that holds a byte which no text begins with. -/
def spoiledIncrement : Value :=
  .record "Increment" [(⟨"increment", "increment", 1⟩, .dict [(.text "b", .bytes [0xFF])])] []

/-- A record can fail before it is written. -/
theorem not_only_unwritable :
    ¬ ∀ message failure, encode message = .error failure →
      ∃ fault, failure = .unwritable fault := by
  intro only
  have failed : encode spoiledIncrement =
      .error (.notPlain (.undecodable ⟨0, [0xFF], "invalid utf-8"⟩)) := rfl
  obtain ⟨fault, impossible⟩ := only spoiledIncrement _ failed
  cases impossible

end Message

end ContractBench
