import ContractBench.Proofs.TableTexts
import ContractBench.Proofs.Utf8
import ContractBench.Release

/-! # What a project file tells of the release

`Release.current_told` says for every content of a project file, and for none, what comes of asking
for the release. `not_every_file_tells` shows the contents on which asking fails or gives no text.
-/

namespace ContractBench.Release

/-! ## What a project file tells -/

/-- A project file is a TOML document with such entries. -/
def Reads (bytes : List UInt8) (entries : Toml.Entries) : Prop :=
  ∃ text, bytes = Utf8.encode text ∧ Toml.read text = .ok entries

/-- A project file is a TOML document that holds a value as the release of its project. -/
def Holds (bytes : List UInt8) (v : Value) : Prop :=
  ∃ entries project, Reads bytes entries ∧
    Value.find? entries "project" = some (.dict project) ∧ Value.find? project "version" = some v

/-- A project file is a text that is no TOML document, or one that has no project or whose project
    has no release. -/
inductive Silent (bytes : List UInt8) : Prop where
  | malformed {text : String} (same : bytes = Utf8.encode text)
      (refused : Toml.read text = .error .malformed) : Silent bytes
  | noProject {entries : Toml.Entries} (reads : Reads bytes entries)
      (none : Value.find? entries "project" = none) : Silent bytes
  | noRelease {entries project : Toml.Entries} (reads : Reads bytes entries)
      (found : Value.find? entries "project" = some (.dict project))
      (none : Value.find? project "version" = none) : Silent bytes

/-- A project file that cannot be asked for the release, and what comes of asking: it is no text, it
    is more than can be read, or its project is no table. -/
inductive Unusable (bytes : List UInt8) : Failure → Prop where
  | notText {place : Utf8.DecodeError} (noText : ∀ text, bytes ≠ Utf8.encode text)
      (refused : Utf8.decode bytes = .error place) : Unusable bytes (.notText place)
  | oversized {text : String} {fault : Toml.Fault} (same : bytes = Utf8.encode text)
      (refused : Toml.read text = .error fault) (large : fault ≠ .malformed)
      (shown : Toml.Excess 0 (Toml.joinLineEnds text.toList) fault) :
      Unusable bytes (.oversizedTable fault)
  | noTable {entries : Toml.Entries} {project : Value} (reads : Reads bytes entries)
      (found : Value.find? entries "project" = some project)
      (noTable : ∀ members, project ≠ .dict members) :
      Unusable bytes (.notTable (Json.typeName project))

/-- What comes of asking for the release where nothing is installed: the text that the project file
    holds, another value that counts as something, or the fixed release, unless the project file
    cannot be asked. -/
inductive Told : Option (List UInt8) → Except Failure Value → Prop where
  | absent : Told none (.ok (.text fallback))
  | release {bytes : List UInt8} {release : String} (holds : Holds bytes (.text release))
      (some : release ≠ "") : Told (.some bytes) (.ok (.text release))
  | other {bytes : List UInt8} {v : Value} (holds : Holds bytes v)
      (noText : ∀ s, v ≠ .text s) (some : isNothing v = false) : Told (.some bytes) (.ok v)
  | nothing {bytes : List UInt8} {v : Value} (holds : Holds bytes v) (none : isNothing v = true) :
      Told (.some bytes) (.ok (.text fallback))
  | silent {bytes : List UInt8} (silent : Silent bytes) :
      Told (.some bytes) (.ok (.text fallback))
  | unusable {bytes : List UInt8} {failure : Failure} (unusable : Unusable bytes failure) :
      Told (.some bytes) (.error failure)

theorem inProjectFile?_encode (text : String) :
    inProjectFile? (Utf8.encode text) = inProject? text := by
  rw [inProjectFile?, Utf8.decode_encode]

theorem inProjectFile?_of_reads {bytes : List UInt8} {entries : Toml.Entries}
    (reads : Reads bytes entries) :
    inProjectFile? bytes =
      (Value.find? entries "project").elim (.ok none) (member? "version") := by
  obtain ⟨text, rfl, read⟩ := reads
  simp only [inProjectFile?_encode, inProject?, read]
  cases Value.find? entries "project" <;> rfl

theorem current_of_holds {bytes : List UInt8} {v : Value} (holds : Holds bytes v) :
    current none (some bytes) = .ok (if isNothing v then .text fallback else v) := by
  obtain ⟨entries, project, reads, found, version⟩ := holds
  rw [current, inProjectFile?_of_reads reads, found, Option.elim_some, member?, version]
  rfl

theorem current_of_silent {bytes : List UInt8} (silent : Silent bytes) :
    current none (some bytes) = .ok (.text fallback) := by
  cases silent with
  | malformed same refused =>
      rw [current, same, inProjectFile?_encode, inProject?, refused]
      rfl
  | noProject reads absent =>
      rw [current, inProjectFile?_of_reads reads, absent]
      rfl
  | noRelease reads found absent =>
      rw [current, inProjectFile?_of_reads reads, found, Option.elim_some, member?, absent]
      rfl

theorem current_of_unusable {bytes : List UInt8} {failure : Failure}
    (unusable : Unusable bytes failure) : current none (some bytes) = .error failure := by
  cases unusable with
  | notText noText refused =>
      rw [current, inProjectFile?, refused]
      rfl
  | @oversized text fault same refused large shown =>
      rw [current, same, inProjectFile?_encode, inProject?, refused]
      cases fault with
      | malformed => exact absurd rfl large
      | _ => rfl
  | @noTable entries project reads found noTable =>
      rw [current, inProjectFile?_of_reads reads, found]
      cases project with
      | dict members => exact absurd rfl (noTable members)
      | _ => rfl

theorem current_of_told {project : Option (List UInt8)} {outcome : Except Failure Value}
    (told : Told project outcome) : current none project = outcome := by
  cases told with
  | absent => rfl
  | @release bytes release holds some =>
      have something : isNothing (.text release) = false := by simpa [isNothing] using some
      simp [current_of_holds holds, something]
  | other holds noText some => simp [current_of_holds holds, some]
  | nothing holds none => simp [current_of_holds holds, none]
  | silent silent => exact current_of_silent silent
  | unusable unusable => exact current_of_unusable unusable

/-- A project file holds a release, says nothing of it, or cannot be asked. -/
theorem holds_or_silent_or_unusable (bytes : List UInt8) :
    (∃ v, Holds bytes v) ∨ Silent bytes ∨ ∃ failure, Unusable bytes failure := by
  cases decoded : Utf8.decode bytes with
  | error place =>
      have noText (text : String) : bytes ≠ Utf8.encode text := by
        intro same
        rw [Utf8.decode_eq_ok.mpr same] at decoded
        contradiction
      exact .inr (.inr ⟨_, .notText noText decoded⟩)
  | ok text =>
      have same := Utf8.decode_eq_ok.mp decoded
      cases read : Toml.read text with
      | error fault =>
          by_cases malformed : fault = .malformed
          · subst malformed
            exact .inr (.inl (.malformed same read))
          · exact .inr (.inr ⟨_, .oversized same read malformed (Toml.excess_read read)⟩)
      | ok entries =>
          have reads : Reads bytes entries := ⟨text, same, read⟩
          cases found : Value.find? entries "project" with
          | none => exact .inr (.inl (.noProject reads found))
          | some project =>
              by_cases table : ∃ members, project = .dict members
              · obtain ⟨members, rfl⟩ := table
                cases version : Value.find? members "version" with
                | none => exact .inr (.inl (.noRelease reads found version))
                | some v => exact .inl ⟨v, entries, members, reads, found, version⟩
              · exact .inr (.inr ⟨_, .noTable reads found (not_exists.mp table)⟩)

theorem told_of_holds {bytes : List UInt8} {v : Value} (holds : Holds bytes v) :
    ∃ outcome, Told (some bytes) outcome := by
  by_cases nothing : isNothing v = true
  · exact ⟨_, .nothing holds nothing⟩
  · have something : isNothing v = false := by simpa using nothing
    by_cases text : ∃ release, v = .text release
    · obtain ⟨release, rfl⟩ := text
      exact ⟨_, .release holds (by simpa [isNothing] using something)⟩
    · exact ⟨_, .other holds (not_exists.mp text) something⟩

theorem told (project : Option (List UInt8)) : ∃ outcome, Told project outcome := by
  cases project with
  | none => exact ⟨_, .absent⟩
  | some bytes =>
      rcases holds_or_silent_or_unusable bytes with ⟨v, holds⟩ | silent | ⟨failure, unusable⟩
      · exact told_of_holds holds
      · exact ⟨_, .silent silent⟩
      · exact ⟨_, .unusable unusable⟩

/-- Where nothing is installed, the release is what the project file tells, and every text can be
    told. -/
theorem current_told (project : Option (List UInt8)) (outcome : Except Failure Value) :
    (current none project = outcome ↔ Told project outcome) ∧
      ∀ release ≠ "", current none (some (Utf8.encode (Toml.writeProject release))) =
        .ok (.text release) := by
  refine ⟨⟨?_, current_of_told⟩, ?_⟩
  · rintro rfl
    obtain ⟨outcome, told⟩ := told project
    rwa [current_of_told told]
  · intro release some
    exact current_of_told (.release
      ⟨_, _, ⟨_, rfl, Toml.read_writeProject release⟩, rfl, rfl⟩ some)

/-- A project file that is no text, is more than can be read or has no table as its project makes
    asking fail, and a release that is no text is given as it is. -/
theorem not_every_file_tells :
    let tells (text : String) := current none (some (Utf8.encode text))
    current none (some [0xFF]) = .error (.notText ⟨0, [0xFF], "invalid start byte"⟩) ∧
    tells "project = 1\n" = .error (.notTable "int") ∧
    tells "[project]\nversion = 5\n" = .ok (.int 5) ∧
    tells (String.ofList ('a' :: '=' :: List.replicate 4301 '1')) =
      .error (.oversizedTable (.longNumeral 4301)) ∧
    tells (String.ofList ('a' :: '=' :: List.replicate 401 '[')) =
      .error (.oversizedTable .tooDeep) ∧
    tells (String.ofList (Toml.manyParts 1000)) = .error (.oversizedTable .longKey) := by
  have refused {text : String} {fault : Toml.Fault} (read : Toml.read text = .error fault)
      (large : fault ≠ .malformed) :
      current none (some (Utf8.encode text)) = .error (.oversizedTable fault) :=
    current_of_unusable (.oversized rfl read large (Toml.excess_read read))
  have number : Toml.read "project = 1\n" = .ok [(.text "project", .int 1)] := by
    rw [Toml.read, String.toList_ofList]
    rfl
  have version : Toml.read "[project]\nversion = 5\n" =
      .ok [(.text "project", .dict [(.text "version", .int 5)])] := by
    rw [Toml.read, String.toList_ofList]
    rfl
  refine ⟨rfl, ?_, ?_, ?_, ?_, ?_⟩
  · exact current_of_unusable (.noTable ⟨_, rfl, number⟩ rfl (by simp))
  · exact current_of_holds ⟨_, _, ⟨_, rfl, version⟩, rfl, rfl⟩
  · exact refused (Toml.read_of_ones (by decide)) (by simp)
  · exact refused (Toml.read_of_openings (by decide)) (by simp)
  · exact refused Toml.read_of_manyParts (by simp)

end ContractBench.Release
