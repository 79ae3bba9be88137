import ContractBench.Answer
import ContractBench.Proofs.Document
import ContractBench.Proofs.Fields
import ContractBench.Proofs.Rewording
import Mathlib

/-! # Numbers and numerals

Where an answer may hold a number it may hold the numeral of that number, and the other way round:
the numeral of a whole number is read as that number (`Numeral.readInt_toString`), and a number that
stands where a text should becomes its numeral. A lenient schema asks for texts and whole numbers
only, and so does not tell two spellings of a document apart (`Lenient.validate_eq`).
-/

namespace ContractBench

namespace Numeral

theorem readShortest_digits (negative : Bool) {digits : List Char}
    (all : ∀ c ∈ digits, c.isDigit = true) (some : digits ≠ [])
    (noZero : digits.head? ≠ Option.some '0') (few : digits.length < 4300) :
    readShortest ((if negative then ['-'] else []) ++ digits) =
      .ok (signed negative (ofDigits digits)) := by
  obtain ⟨c, tail, rfl⟩ := List.exists_cons_of_ne_nil some
  have whole : (c :: tail).takeWhile Char.isDigit = c :: tail :=
    List.takeWhile_eq_self_iff.mpr all
  have notZero : c ≠ '0' := fun same => noZero (by rw [same]; rfl)
  have notMinus : c ≠ '-' := Json.ne_of_isDigit (all c List.mem_cons_self) rfl
  cases negative with
  | true =>
      have short : ¬mostDigits <
          (c :: tail).length + (('-' :: c :: tail).length - (c :: tail).length) := by
        simp only [mostDigits, List.length_cons] at few ⊢
        omega
      simp only [if_true, List.singleton_append, readShortest, whole]
      split
      · contradiction
      · simp_all
      · rw [if_neg short, if_neg (Nat.lt_irrefl _)]
  | false =>
      have short : ¬mostDigits <
          (c :: tail).length + ((c :: tail).length - (c :: tail).length) := by
        simp only [mostDigits] at few ⊢
        omega
      simp only [Bool.false_eq_true, if_false, List.nil_append]
      unfold readShortest
      split
      next sign body known =>
        obtain ⟨rfl, rfl⟩ : sign = false ∧ body = c :: tail := by
          split at known
          · simp_all
          · simpa [eq_comm] using known
        simp only [whole]
        split
        · contradiction
        · simp_all
        · rw [if_neg short, if_neg (Nat.lt_irrefl _)]

theorem readInt_toString {n : Int} (few : (toString n.natAbs).length < 4300) :
    readInt (toString n) = .ok n := by
  have short : (Nat.toDigits 10 n.natAbs).length < 4300 := by
    rwa [show toString n.natAbs = Nat.repr n.natAbs from rfl, Nat.repr_eq_ofList_toDigits,
      String.length_ofList] at few
  have read : readShortest (toString n).toList = .ok n := by
    rw [Json.toString_int]
    by_cases zero : n = 0
    · subst zero
      decide
    · have digits : ∀ c ∈ Nat.toDigits 10 n.natAbs, c.isDigit = true :=
        fun c inside => Nat.isDigit_of_mem_toDigits (by decide) (by decide) inside
      have read := readShortest_digits (decide (n < 0)) digits Nat.toDigits_ne_nil
        (Json.head_toDigits (by omega)) short
      simp only [decide_eq_true_eq] at read
      rw [read, Json.ofDigits_toDigits, signed]
      simp only [decide_eq_true_eq]
      congr 1
      split <;> omega
  rw [readInt, read]

end Numeral

/-- The entries of a key in two dictionaries that have the same keys. -/
theorem Value.find?_rel {R : Value → Value → Prop} {entries entries' : List (Value × Value)}
    (keys : entries'.map (·.1) = entries.map (·.1))
    (values : List.Forall₂ R (entries.map (·.2)) (entries'.map (·.2))) (key : String) :
    Option.Rel R (find? entries key) (find? entries' key) := by
  induction entries generalizing entries' with
  | nil =>
      obtain rfl := List.map_eq_nil_iff.mp keys
      exact .none
  | cons entry rest ih =>
      obtain ⟨⟨_, v'⟩, rest', rfl, rfl, others⟩ := List.map_eq_cons_iff.mp keys
      obtain ⟨other, v⟩ := entry
      rw [List.map_cons, List.map_cons, List.forall₂_cons] at values
      by_cases here : other = .text key
      · subst here
        rw [find?_here, find?_here]
        exact .some values.1
      · rw [find?_later here, find?_later here]
        exact ih others values.2

/-- A document in which some numbers are replaced by their numerals, and some numerals by their
    numbers, of fewer than 4300 digits. -/
inductive Value.Respelled : Value → Value → Prop where
  | same (v : Value) : Respelled v v
  | numeral {n : Int} (few : (toString n.natAbs).length < 4300) :
      Respelled (.int n) (.text (toString n))
  | number {n : Int} (few : (toString n.natAbs).length < 4300) :
      Respelled (.text (toString n)) (.int n)
  | list {items items' : List Value} (each : List.Forall₂ Respelled items items') :
      Respelled (.list items) (.list items')
  | dict {entries entries' : List (Value × Value)}
      (keys : entries'.map (·.1) = entries.map (·.1))
      (values : List.Forall₂ Respelled (entries.map (·.2)) (entries'.map (·.2))) :
      Respelled (.dict entries) (.dict entries')

namespace Schema

/-- A schema that asks for texts and whole numbers, alone or in lists and records. -/
inductive Lenient : Schema → Prop where
  | text : Lenient (.text true)
  | integer : Lenient .integer
  | nullable {inner : Schema} (h : Lenient inner) : Lenient (.nullable inner)
  | list {item : Schema} (h : Lenient item) : Lenient (.list item)
  | record {title : String} {fields : List (FieldSpec × Schema)}
      (each : ∀ field ∈ fields, Lenient field.2) : Lenient (.record title fields false)

theorem Lenient.validate_eq {schema : Schema} (lenient : schema.Lenient) {v v' : Value}
    (respelled : v.Respelled v') : schema.validate v' = schema.validate v := by
  induction lenient generalizing v v' with
  -- A number in the place of a text becomes its numeral, which is what the other side has.
  | text => cases respelled <;> rfl
  | integer =>
      cases respelled with
      | same | list | dict => rfl
      | numeral few | number few =>
          simp only [validate, checkInteger, integerOfText, Numeral.readInt_toString few]
  | nullable _ ih =>
      have inner := ih respelled
      cases respelled with
      | same => rfl
      | numeral | number | list | dict => simpa only [validate] using inner
  | list _ ih =>
      cases respelled with
      | same | numeral | number | dict => rfl
      | list each =>
          simp only [validate, items?]
          rw [checkEach_congr]
          exact each.imp fun item item' related i => by rw [ih related]
  | @record title fields _ ih =>
      cases respelled with
      | same | numeral | number | list => rfl
      | dict keys values =>
          simp only [validate, entries?]
          rw [validateFields_congr]
          · rfl
          · intro field inside
            refine readField_congr fun key _ => ?_
            have found := Value.find?_rel keys values key
            generalize Value.find? _ key = held at found ⊢
            generalize Value.find? _ key = held' at found ⊢
            cases found with
            | none => exact .none
            | some related => exact .some (ih field inside related)

theorem Lenient.accept_eq {schema : Schema} (lenient : schema.Lenient) (title : String)
    {v v' : Value} (respelled : v.Respelled v') :
    schema.accept title v' = schema.accept title v := by
  rw [accept, accept, lenient.validate_eq respelled]

end Schema

/-! ## The answers -/

theorem Broadcast.lenient : schema.Lenient := by
  refine .record ?_
  simp only [List.forall_mem_cons]
  exact ⟨.text, .nullable .text, .nullable .integer, .nullable .text, .text, .nullable .text,
    .nullable .text, nofun⟩

theorem Attribute.lenient : schema.Lenient := by
  refine .record ?_
  simp only [List.forall_mem_cons]
  exact ⟨.text, .text, nofun⟩

theorem Event.lenient : schema.Lenient := by
  refine .record ?_
  simp only [List.forall_mem_cons]
  exact ⟨.text, .list Attribute.lenient, nofun⟩

theorem MessageLog.lenient : schema.Lenient := by
  refine .record ?_
  simp only [List.forall_mem_cons]
  exact ⟨.nullable .integer, .text, .list Event.lenient, nofun⟩

theorem Transaction.lenient : schema.Lenient := by
  refine .record ?_
  simp only [List.forall_mem_cons]
  exact ⟨.text, .nullable .text, .nullable .integer, .text, .list MessageLog.lenient,
    .nullable .text, .nullable .text, nofun⟩

theorem StoredCode.lenient : schema.Lenient := by
  refine .record ?_
  simp only [List.forall_mem_cons]
  exact ⟨.integer, .text, .text, .text, .text, nofun⟩

theorem Instance.lenient : schema.Lenient := by
  refine .record ?_
  simp only [List.forall_mem_cons]
  exact ⟨.integer, .text, .text, .text, nofun⟩

theorem SigningKey.lenient : schema.Lenient := by
  refine .record ?_
  simp only [List.forall_mem_cons]
  exact ⟨.text, .text, nofun⟩

theorem Signature.lenient : schema.Lenient := by
  refine .record ?_
  simp only [List.forall_mem_cons]
  exact ⟨SigningKey.lenient, .text, nofun⟩

theorem Command.Deploys.lenient {command : List String} {type : AnswerType}
    (asked : Deploys command type) : type.schema.Lenient := by
  cases asked with
  | store | instantiate => exact Broadcast.lenient
  | transaction => exact Transaction.lenient
  | listCodes => exact .nullable (.list StoredCode.lenient)

namespace Client

/-- Numbers and numerals are interchangeable in the answers that are no computations: an answer is
    accepted as the same value, or refused with the same issues, however its numbers are spelled.
    A deployment gives the same contract whether a daemon writes numbers or numerals. -/
theorem numerals_interchangeable (client : Client) :
    (∀ schema ∈ [Broadcast.schema, Transaction.schema, StoredCode.schema, Instance.schema,
        Signature.schema, AnswerType.storedCodes.schema, AnswerType.instances.schema],
      ∀ (title : String) (document document' : Value), document.Respelled document' →
        schema.accept title document' = schema.accept title document) ∧
    ∀ daemon daemon', client.Rewords (fun _ => Value.Respelled) daemon daemon' →
      ∀ (plan : DeployPlan) (name : Option String) (registry : Option Registry) (world : World),
        (Bench.perform (client.deploy plan name registry) daemon' world).1.toOption =
          (Bench.perform (client.deploy plan name registry) daemon world).1.toOption := by
  constructor
  · intro schema inside title document document' respelled
    suffices lenient : schema.Lenient from lenient.accept_eq title respelled
    simp only [List.mem_cons, List.not_mem_nil, or_false] at inside
    rcases inside with rfl | rfl | rfl | rfl | rfl | rfl | rfl
    · exact Broadcast.lenient
    · exact Transaction.lenient
    · exact StoredCode.lenient
    · exact Instance.lenient
    · exact Signature.lenient
    · exact .nullable (.list StoredCode.lenient)
    · exact .nullable (.list Instance.lenient)
  · intro daemon daemon' rewords plan name registry world
    refine (deploy_reworded rewords ?_ plan name registry world).1
    exact fun command type asked document document' respelled =>
      asked.lenient.validate_eq respelled

/-- The daemon of the counter, but with a number for the code in the event, and with numerals for
    the codes in the list. -/
def respellingDaemon : Daemon := .ofAnswers [
  "\x7b\"txhash\":\"A\"\x7d",
  "\x7b\"txhash\":\"A\",\"logs\":[\x7b\"events\":[\x7b\"attributes\":" ++
    "[\x7b\"key\":\"code_id\",\"value\":7\x7d]\x7d]\x7d]\x7d",
  "\x7b\"txhash\":\"B\"\x7d",
  "\x7b\"txhash\":\"B\",\"logs\":[\x7b\"events\":[\x7b\"attributes\":" ++
    "[\x7b\"key\":\"contract_address\",\"value\":\"secret1\"\x7d]\x7d]\x7d]\x7d",
  "[\x7b\"id\":\"6\",\"data_hash\":\"F6\"\x7d,\x7b\"id\":\"7\",\"data_hash\":\"F7\"\x7d]"]

/-- The answers with the transaction that stored the counter, by the attribute in it. -/
def storedDocument (attr : Value) : Value := .dict [(.text "txhash", .text "A"),
  (.text "logs", .list [.dict [(.text "events", .list [.dict [(.text "attributes",
    .list [attr])]])]])]

def codeAttribute (codeId : Value) : Value :=
  .dict [(.text "key", .text "code_id"), (.text "value", codeId)]

/-- The answers with the list of codes, by their numbers. -/
def listDocument (first second : Value) : Value := .list [
  .dict [(.text "id", first), (.text "data_hash", .text "F6")],
  .dict [(.text "id", second), (.text "data_hash", .text "F7")]]

theorem respelled_numeral {n : Int} {numeral : String} (spelled : toString n = numeral)
    (few : (toString n.natAbs).length < 4300) : (Value.int n).Respelled (.text numeral) ∧
      (Value.text numeral).Respelled (.int n) := by
  subst spelled
  exact ⟨.numeral few, .number few⟩

theorem respelled_storedDocument {v v' : Value} (h : v.Respelled v') :
    (storedDocument (codeAttribute v)).Respelled (storedDocument (codeAttribute v')) := by
  have field (key : Value) {other : Value × Value} {w w' : Value} (h : w.Respelled w') :
      (Value.dict [other, (key, w)]).Respelled (.dict [other, (key, w')]) :=
    .dict rfl (.cons (.same _) (.cons h .nil))
  have only (key : Value) {w w' : Value} (h : w.Respelled w') :
      (Value.list [.dict [(key, w)]]).Respelled (.list [.dict [(key, w')]]) :=
    .list (.cons (.dict rfl (.cons h .nil)) .nil)
  exact field _ (only _ (only _ (.list (.cons (field _ h) .nil))))

theorem counter_respelled :
    Transaction.schema.accept Transaction.title (storedDocument (codeAttribute (.int 7))) =
      Transaction.schema.accept Transaction.title (storedDocument (codeAttribute (.text "7"))) ∧
    (Bench.perform (counterClient.deploy counterPlan none none) respellingDaemon
      counterStart).1.toOption = some counterContract := by
  obtain ⟨accepts, deploys⟩ := counterClient.numerals_interchangeable
  have six : toString (6 : Int) = "6" := by decide +kernel
  have seven : toString (7 : Int) = "7" := by decide +kernel
  obtain ⟨six, -⟩ := respelled_numeral six (by decide +kernel)
  obtain ⟨seven, number⟩ := respelled_numeral seven (by decide +kernel)
  have stored := respelled_storedDocument number
  have listed : (listDocument (.int 6) (.int 7)).Respelled
      (listDocument (.text "6") (.text "7")) :=
    .list (.cons (.dict rfl (.cons six (.cons (.same _) .nil)))
      (.cons (.dict rfl (.cons seven (.cons (.same _) .nil))) .nil))
  refine ⟨accepts _ (by simp) _ _ _ stored, ?_⟩
  have rewords : counterClient.Rewords (fun _ => Value.Respelled) counterDaemon
      respellingDaemon := by
    refine counterClient.rewords_ofAnswers (.cons (.inl rfl) (.cons (.inr ⟨_, _, ?_, ?_, stored⟩)
      (.cons (.inl rfl) (.cons (.inl rfl) (.cons (.inr ⟨_, _, ?_, ?_, listed⟩) .nil)))))
    all_goals
      cbv
  rw [deploys _ _ rewords]
  decide +kernel

end Client

end ContractBench
