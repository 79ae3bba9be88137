import ContractBench.Proofs.Bench
import ContractBench.Proofs.Entry
import ContractBench.Proofs.Utf8
import ContractBench.Registry

/-! # Operations of a registry

Looking for an entry only logs, and what it gives is a function of the bytes that its path leads
to. Saving writes those bytes: an entry that was saved is found again (`found_of_saved`) until
something else changes its file, unless its path leads to a device.
-/

namespace ContractBench

namespace Registry

variable {registry : Registry} {daemon : Daemon} {world later : World}

/-- What the file of a name holds. -/
def entry (registry : Registry) (disk : Disk) (name : String) : Except EntryFault Contract :=
  ((disk.content (registry.pathOf name)).mapError fun fault =>
    .file ⟨fault, (registry.pathOf name).toText⟩).bind readEntry

/-- What is found under a name. -/
def found (registry : Registry) (disk : Disk) : Option String → Except Failure Contract
  | none => .error .unnamedEntry
  | some name =>
    (registry.entry disk name).mapError (.noEntry name (registry.pathOf name).toText)

/-- What is found is a contract, or that there is no entry to be used. -/
theorem isMiss_of_found {name : Option String} {disk : Disk} {failure : Failure}
    (missing : registry.found disk name = .error failure) : isMiss failure = true := by
  cases name with
  | none => obtain rfl := Except.error.inj missing; rfl
  | some name =>
      rw [found] at missing
      cases held : registry.entry disk name with
      | error fault =>
          rw [held] at missing
          obtain rfl := Except.error.inj missing
          rfl
      | ok contract =>
          rw [held] at missing
          exact nomatch missing

theorem found_of_bytes {disk : Disk} {name : String} {bytes : List UInt8}
    (held : disk.content (registry.pathOf name) = .ok bytes) :
    registry.found disk (some name) =
      (readEntry bytes).mapError (.noEntry name (registry.pathOf name).toText) := by
  rw [found, entry, held]
  rfl

theorem found_of_unreadable {disk : Disk} {name : String} {fault : FileFault}
    (unreadable : disk.content (registry.pathOf name) = .error fault) :
    registry.found disk (some name) = .error (.noEntry name (registry.pathOf name).toText
      (.file ⟨fault, (registry.pathOf name).toText⟩)) := by
  rw [found, entry, unreadable]
  rfl

theorem load_spec (registry : Registry) (name : Option String) (daemon : Daemon) (world : World) :
    ∃ later, Bench.perform (registry.load name) daemon world =
      (registry.found world.disk name, later) ∧ world.Quiet later := by
  cases name with
  | none => exact ⟨world, rfl, .refl world⟩
  | some name =>
      simp only [load, Bench.perform_bind, Bench.perform_tryFiles, FileOp.perform_readBytes]
      cases held : world.disk.content (registry.pathOf name) with
      | error fault =>
          rw [found_of_unreadable held]
          exact ⟨world, rfl, .refl world⟩
      | ok bytes =>
          simp only [found_of_bytes held]
          cases readEntry bytes with
          | error fault => exact ⟨world, rfl, .refl world⟩
          | ok contract => exact ⟨_, rfl, .logged ..⟩

/-- Looking for an entry never fails. -/
theorem lookup_spec (registry : Registry) (name : Option String) (daemon : Daemon)
    (world : World) :
    ∃ later, Bench.perform (registry.lookup name) daemon world =
      (.ok ⟨name, (registry.found world.disk name).toOption⟩, later) ∧ world.Quiet later := by
  obtain ⟨loaded, performed, quiet⟩ := registry.load_spec name daemon world
  simp only [lookup, Bench.perform_bind, Bench.perform_observe, performed]
  cases known : registry.found world.disk name with
  | ok contract => exact ⟨loaded, rfl, quiet⟩
  | error failure =>
      simp only [isMiss_of_found known, if_true]
      exact ⟨_, rfl, quiet.trans (.logged ..)⟩

theorem delete_eq (registry : Registry) (name : String) :
    registry.delete name = Bench.files (FileOp.removeIfThere (registry.pathOf name)) := rfl

/-! ## Saved entries -/

theorem readEntry_encode (contract : Contract) :
    readEntry (Utf8.encode contract.encode) = .ok contract := by
  rw [readEntry, Utf8.decode_encode]
  simp only [Contract.decode_encode]
  rfl

/-- The file of an entry holds a contract. -/
def HoldsEntry (registry : Registry) (name : String) (contract : Contract) (disk : Disk) : Prop :=
  disk.content (registry.pathOf name) = .ok (Utf8.encode contract.encode)

theorem found_of_holds {disk : Disk} {name : String} {contract : Contract}
    (holds : registry.HoldsEntry name contract disk) :
    registry.found disk (some name) = .ok contract := by
  rw [found_of_bytes holds, readEntry_encode]
  rfl

/-- What a save gives for what came of writing the entry. -/
def saveResult : Except FileError Unit → Except Failure Bool
  | .ok _ => .ok true
  | .error e => if e.fault = .embeddedNul then .error (.file e) else .ok false

/-- A save writes the entry, and beyond that only logs. -/
theorem save_spec (registry : Registry) (name : String) (contract : Contract) (daemon : Daemon)
    (world : World) :
    let wrote := (registry.writeEntry name contract).perform world.disk
    ∃ later, Bench.perform (registry.save name contract) daemon world =
      (saveResult wrote.1, later) ∧ (world.withDisk wrote.2).Quiet later := by
  intro wrote
  rw [save, Bench.perform_bind, Bench.perform_tryFiles]
  change ∃ later, Bench.perform (match wrote.1 with
      | .ok _ => _
      | .error e => _) daemon (world.withDisk wrote.2) = _ ∧ _
  cases wrote.1 with
  | ok done => exact ⟨_, rfl, .logged ..⟩
  | error e =>
      simp only [saveResult]
      split
      · exact ⟨_, rfl, .refl _⟩
      · exact ⟨_, rfl, .logged ..⟩

theorem save_of_written {name : String} {contract : Contract} {disk : Disk}
    (wrote : (registry.writeEntry name contract).perform world.disk = (.ok (), disk))
    (daemon : Daemon) :
    ∃ later, Bench.perform (registry.save name contract) daemon world = (.ok true, later) ∧
      (world.withDisk disk).Quiet later := by
  have spec := registry.save_spec name contract daemon world
  rwa [wrote] at spec

theorem save_of_refused {name : String} {contract : Contract} {disk : Disk} {e : FileError}
    (refused : (registry.writeEntry name contract).perform world.disk = (.error e, disk))
    (seen : e.fault ≠ .embeddedNul) (daemon : Daemon) :
    ∃ later, Bench.perform (registry.save name contract) daemon world = (.ok false, later) ∧
      (world.withDisk disk).Quiet later := by
  have spec := registry.save_spec name contract daemon world
  rw [refused] at spec
  simpa only [saveResult, if_neg seen] using spec

theorem written_of_saveResult {wrote : Except FileError Unit}
    (saved : saveResult wrote = .ok true) : wrote = .ok () := by
  cases wrote with
  | ok done => rfl
  | error e =>
      rw [saveResult] at saved
      split at saved <;> simp at saved

theorem save_true {name : String} {contract : Contract}
    (saved : Bench.perform (registry.save name contract) daemon world = (.ok true, later)) :
    (registry.writeEntry name contract).perform world.disk = (.ok (), later.disk) ∧
      (world.withDisk later.disk).Quiet later := by
  obtain ⟨after, performed, quiet⟩ := registry.save_spec name contract daemon world
  obtain ⟨result, rfl⟩ := Prod.mk.inj (saved.symm.trans performed)
  have disk : later.disk = ((registry.writeEntry name contract).perform world.disk).2 := quiet.disk
  rw [disk, ← written_of_saveResult result.symm]
  exact ⟨rfl, quiet⟩

theorem holds_of_writeEntry {name : String} {contract : Contract} {disk later : Disk}
    (wrote : (registry.writeEntry name contract).perform disk = (.ok (), later)) :
    registry.HoldsEntry name contract later ∨ later.OnDevice (registry.pathOf name) := by
  rw [writeEntry, FileOp.perform_bind] at wrote
  split at wrote
  · rw [FileOp.perform_bind] at wrote
    split at wrote
    · exact FileOp.content_of_written wrote
    · simp at wrote
  · simp at wrote

/-- An entry that was saved is in its file, unless that is a device. -/
theorem holds_of_saved {name : String} {contract : Contract}
    (saved : Bench.perform (registry.save name contract) daemon world = (.ok true, later)) :
    registry.HoldsEntry name contract later.disk ∨ later.disk.OnDevice (registry.pathOf name) :=
  holds_of_writeEntry (save_true saved).1

/-- An entry that was saved is found as long as its file is not changed. -/
theorem found_of_saved {name : String} {contract : Contract} {disk : Disk}
    (saved : Bench.perform (registry.save name contract) daemon world = (.ok true, later))
    (regular : ¬ later.disk.OnDevice (registry.pathOf name))
    (unchanged : disk.content (registry.pathOf name) = later.disk.content (registry.pathOf name)) :
    registry.found disk (some name) = .ok contract :=
  found_of_holds (unchanged.trans ((holds_of_saved saved).resolve_right regular))

end Registry

end ContractBench
