import ContractBench.Schema.Validate
import Mathlib.Data.List.Forall2

/-! # A record is read field by field

Of a dictionary each field of a record sees only what is found under its own keys (`readField`), and
of a list each item is checked on its own. Two dictionaries in which the fields find alike are one
to the record (`validateFields_congr`).
-/

namespace ContractBench

theorem checkEach_congr {α β : Type} {check : Nat → α → Checked β} {items items' : List α}
    (each : List.Forall₂ (fun item item' => ∀ i, check i item' = check i item) items items')
    (i : Nat) : checkEach check i items' = checkEach check i items := by
  induction each generalizing i with
  | nil => rfl
  | cons first rest ih => rw [checkEach, checkEach, first, ih]

namespace Value

theorem find?_here (key : String) (v : Value) (rest : List (Value × Value)) :
    find? ((.text key, v) :: rest) key = some v := by
  simp [find?]

theorem find?_later {key : String} {other : Value} (differs : other ≠ .text key) (v : Value)
    (rest : List (Value × Value)) : find? ((other, v) :: rest) key = find? rest key := by
  cases other with
  | text s =>
      have ne : s ≠ key := fun same => differs (same ▸ rfl)
      simp [find?, ne]
  | _ => rfl

theorem find?_append (before after : List (Value × Value)) (key : String) :
    find? (before ++ after) key = (find? before key).or (find? after key) := by
  simp only [find?, List.find?_append, Option.map_or]

end Value

namespace Schema

variable {fields : List (FieldSpec × Schema)} {entries entries' : List (Value × Value)}

theorem validate_nullable {inner : Schema} {v : Value} (held : v ≠ .null) :
    validate (.nullable inner) v = validate inner v := by
  rw [validate]
  exact held

/-- The value of a field in a dictionary. -/
def readField (entries : List (Value × Value)) (field : FieldSpec × Schema) : Checked Value :=
  match source? entries field.1.sources with
  | some (key, v) => Checked.under (.key key) (validate field.2 v)
  | none => absentField field.1

theorem validateFields_cons (field : FieldSpec × Schema) (rest : List (FieldSpec × Schema))
    (entries : List (Value × Value)) :
    validateFields (field :: rest) entries =
      Checked.both (fun v others => (field.1.nameOver field.2, v) :: others)
        (readField entries field) (validateFields rest entries) := rfl

theorem validateFields_congr
    (alike : ∀ field ∈ fields, readField entries' field = readField entries field) :
    validateFields fields entries' = validateFields fields entries := by
  induction fields with
  | nil => rfl
  | cons field rest ih =>
      rw [validateFields_cons, validateFields_cons, alike field List.mem_cons_self,
        ih fun other inside => alike other (List.mem_cons_of_mem _ inside)]

/-- The first source of a field that two dictionaries have is the same in both. -/
theorem source?_rel {R : Value → Value → Prop} {keys : List String}
    (alike : ∀ key ∈ keys, Option.Rel R (Value.find? entries key) (Value.find? entries' key)) :
    Option.Rel (fun found found' => found'.1 = found.1 ∧ R found.2 found'.2)
      (source? entries keys) (source? entries' keys) := by
  induction keys with
  | nil => exact .none
  | cons key rest ih =>
      have here := alike key List.mem_cons_self
      unfold source?
      generalize Value.find? entries key = held at here
      generalize Value.find? entries' key = held' at here
      cases here with
      | none => exact ih fun other inside => alike other (List.mem_cons_of_mem _ inside)
      | some related => exact .some ⟨rfl, related⟩

theorem readField_congr {field : FieldSpec × Schema}
    (alike : ∀ key ∈ field.1.sources,
      Option.Rel (fun v v' => validate field.2 v' = validate field.2 v)
        (Value.find? entries key) (Value.find? entries' key)) :
    readField entries' field = readField entries field := by
  have found := source?_rel alike
  unfold readField
  generalize source? entries field.1.sources = held at found
  generalize source? entries' field.1.sources = held' at found
  cases found with
  | none => rfl
  | @some found found' same =>
      obtain ⟨key, v⟩ := found
      obtain ⟨key', v'⟩ := found'
      obtain ⟨rfl, same⟩ := same
      simp only [same]

end Schema

end ContractBench
