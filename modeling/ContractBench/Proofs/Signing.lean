import ContractBench.Proofs.Apart
import ContractBench.Proofs.Secrecy

/-! # The file of a document

A document that is signed is written to a file, and the daemon is called with the path of that file.
If there is no text of the document or the file cannot be opened, nothing is done at all. If there
is no room for the text the daemon is not called either, but an empty file is left behind. Otherwise
the file holds the text at every call, and is gone when the calls are over, whatever came of them
(`Client.signed_from_file`).
-/

namespace ContractBench

namespace Client

variable {client : Client} {daemon : Daemon}

/-- A command that is put to a daemon which leaves the disk alone is the same call every time. -/
theorem calls_of_attempted {command : List String} {retries : Nat} {world later : World}
    {before : List Output} {last : Ending} (leaves : daemon.LeavesDisk)
    (attempted : client.launcher.Attempted command daemon retries world before last later) :
    later.calls = List.replicate (before.length + 1)
      (world.scene.call (client.launcher.argv command)) ++ world.calls := by
  have reached := attempted.scene
  rw [Scene.reached_of_unchanged fun j _ => leaves _ _] at reached
  exact congrArg Scene.calls reached

/-- The arguments of the daemon when it signs. -/
def signingArgs (client : Client) (signer : String) : List String :=
  Command.signDocument client.settings.signFile signer ++ client.launcher.settings.outputFlags

/-- How a document was signed: its text lay in a file at a place of the disk, and the daemon was
    called with that disk, once for each output that complained and once for what ended the calls.
    Afterwards nothing is at the path, and nothing changed elsewhere. -/
structure SignedFrom (client : Client) (text signer : String) (daemon : Daemon) (begun : World)
    (place : Location) (written : Disk) (before : List Output) (last : Ending)
    (signing : Except Failure Signature × World) : Prop where
  held : ∃ kind, written.find (.ofText client.settings.signFile) =
    .ok (.node place (.file (Utf8.encode text) kind))
  trials : Trials client.launcher.settings.maxRetries before last
  acts : begun.Leads daemon (rounds (client.launcher.argv (client.signingArgs signer))
    client.launcher.settings.retryInterval (before.map .finished) last.outcome) signing.2
  calls : signing.2.calls = List.replicate (before.length + 1)
    ⟨client.launcher.argv (client.signingArgs signer), written, begun.environment⟩ ++ begun.calls
  result : signing.1 = ((client.launcher.conclusion (client.signingArgs signer) last).bind
    fun output => client.reading .signature output.answer).map .ofRecord
  gone : ∀ other, ¬ signing.2.disk.LeadsTo (.ofText client.settings.signFile) other
  others : ∀ other, other ≠ place → signing.2.disk.at? other = begun.disk.at? other

theorem signedFrom_of_written {text : String} {world : World} {place : Location} {kind : FileKind}
    (leaves : daemon.LeavesDisk) (signer : String)
    (there : (world.disk.put place (.file (Utf8.encode text) kind)).find
      (.ofText client.settings.signFile) = .ok (.node place (.file (Utf8.encode text) kind))) :
    let written := world.disk.put place (.file (Utf8.encode text) kind)
    ∃ before last, client.SignedFrom text signer daemon world place written before last
      (Bench.perform (client.signWritten signer) daemon (world.withDisk written)) := by
  intro written
  obtain ⟨before, last, ended, later, performed, attempted, quiet⟩ :=
    client.run_spec (Command.signDocument client.settings.signFile signer) .signature daemon
      (world.withDisk written)
  have unchanged := client.disk_of_run leaves
    (Command.signDocument client.settings.signFile signer) .signature (world.withDisk written)
  rw [performed] at unchanged
  have disk : later.disk = written := unchanged
  have removed : Bench.perform (client.signWritten signer) daemon (world.withDisk written) =
      (((client.launcher.conclusion (client.signingArgs signer) last).bind
        fun output => client.reading .signature output.answer).map .ofRecord,
        later.withDisk (written.erase place)) := by
    rw [perform_signWritten (by rw [performed, disk]; exact there), performed, ← disk]
    rfl
  have leads := attempted.leads.quiet quiet
  refine ⟨before, last, ?_⟩
  rw [removed]
  refine ⟨⟨kind, there⟩, attempted.trials,
    ⟨leads.acts, leads.longestWait, leads.environment, leads.sharedFolder⟩, ?_, rfl,
    Disk.find_erase there, fun other elsewhere => ?_⟩
  · exact quiet.calls.trans (calls_of_attempted leaves attempted)
  · calc (written.erase place).at? other
      _ = written.at? other := Disk.at?_erase_of_ne elsewhere
      _ = world.disk.at? other := Disk.at?_put_of_ne _ elsewhere

/-- The file of a document is there while the daemon signs it, and never afterwards. If there is no
    text of the document, or the file cannot be opened, the signature fails and nothing was done. If
    there is no room for the text it fails too, and the file is left empty. A device that takes the
    text and does not keep it is another matter. -/
theorem signed_from_file (client : Client) (leaves : daemon.LeavesDisk) (document : Value)
    (signer : String) (world : World) :
    let path := Path.ofText client.settings.signFile
    let signing := Bench.perform (client.sign document signer) daemon world
    (∀ failure, Message.encode document = .error failure → signing = (.error failure, world)) ∧
    ∀ text, Message.encode document = .ok text →
      (¬ world.disk.Writable path → ∃ e, signing = (.error (.file e), world)) ∧
      ∀ place kind, world.disk.Opens path place kind →
        (world.disk.hasRoom kind (Utf8.encode text) = false →
          signing = (.error (.file ⟨.noSpace, path.toText⟩),
            world.withDisk (world.disk.keep place kind []))) ∧
        (world.disk.hasRoom kind (Utf8.encode text) = true → kind.isRegular = true →
          ∃ before last, client.SignedFrom text signer daemon world place
            (world.disk.put place (.file (Utf8.encode text) kind)) before last signing) := by
  intro path signing
  refine ⟨fun failure refused => ?_, fun text encoded => ⟨fun unwritable => ?_, ?_⟩⟩
  · simp only [signing, sign, Bench.perform_bind, Bench.perform_ofExcept, refused]
  · obtain ⟨e, -, refused⟩ := FileOp.writeBytes_of_unwritable unwritable
    simp only [signing, perform_sign encoded, path, FileOp.writeText, refused]
    exact ⟨e, rfl⟩
  · intro place kind opens
    have wrote := FileOp.perform_writeBytes_of_opens opens (Utf8.encode text)
    constructor
    · intro full
      rw [full] at wrote
      simp only [signing, perform_sign encoded, FileOp.writeText]
      rw [wrote]
      rfl
    · intro room regular
      rw [room, Disk.keep_regular regular] at wrote
      obtain ⟨before, last, signed⟩ := signedFrom_of_written leaves signer (opens.find_put _)
      refine ⟨before, last, ?_⟩
      simp only [signing, perform_sign encoded, FileOp.writeText]
      rw [wrote]
      exact signed

/-- A daemon that complains once before it signs. -/
def slowSigner : Daemon := .ofStream 0
  (fun i =>
    if i = 0 then .finished ⟨none, some "waiting", 1⟩
    else .finished ⟨some ("\x7b\"pub_key\":\x7b\"type\":\"k\",\"value\":\"AAA=\"\x7d," ++
      "\"signature\":\"c2ln\"\x7d"), none, 0⟩)
  fun _ => .zero

def signingSlowly : Except Failure Signature × World :=
  Bench.perform (counterClient.sign (.dict []) "a") slowSigner Registry.bare

theorem signFile_counter : counterClient.settings.signFile = "tx_to_sign" := rfl

/-- The document is there at both calls, and gone when the signature is given. -/
theorem signed_slowly_from_file :
    signingSlowly.1 = .ok ⟨⟨"k", "AAA="⟩, "c2ln"⟩ ∧ signingSlowly.2.calls.length = 2 ∧
      (∀ call ∈ signingSlowly.2.calls,
        call.disk.content (.ofText "tx_to_sign") = .ok (Utf8.encode "\x7b\x7d")) ∧
      ∀ place, ¬ signingSlowly.2.disk.LeadsTo (.ofText "tx_to_sign") place := by
  have leaves : slowSigner.LeavesDisk := fun _ _ => rfl
  have encoded : Message.encode (.dict []) = .ok "\x7b\x7d" := by decide +kernel
  have opens : Registry.bare.disk.Opens (.ofText "tx_to_sign") ["tx_to_sign"] .plain :=
    .inr ⟨by decide +kernel, rfl⟩
  have run : Bench.perform (counterClient.sign (.dict []) "a") slowSigner Registry.bare =
    signingSlowly := rfl
  obtain ⟨-, signs⟩ := signed_from_file counterClient leaves (.dict []) "a" Registry.bare
  rw [signFile_counter] at signs
  obtain ⟨-, ifOpened⟩ := signs _ encoded
  obtain ⟨-, ifRoom⟩ := ifOpened _ _ opens
  obtain ⟨before, last, signed⟩ := ifRoom (by decide) rfl
  rw [run] at signed
  obtain ⟨kind, held⟩ := signed.held
  have calls := signed.calls
  have gone := signed.gone
  rw [signFile_counter] at held gone
  refine ⟨by decide +kernel, by decide +kernel, fun call inside => ?_, gone⟩
  rw [calls, List.mem_append] at inside
  rcases inside with now | earlier
  · rw [List.eq_of_mem_replicate now]
    exact Disk.content_eq_ok.mpr ⟨_, kind, held⟩
  · exact absurd earlier List.not_mem_nil

/-- A disk without room, and a device that has none. -/
def fullDisk : Disk := { Disk.ofNodes [] with full := true }

def fullDevice : Disk := .ofNodes [(["dev"], .folder), (["dev", "full"], .file [] .full)]

def deviceClient : Client :=
  .ofSettings { Settings.standard with signFile := "/dev/full" } defaultLogger

/-- A document that was begun to be written is not always removed: without room for its text the
    signature fails before the daemon is called, and what was opened stays. -/
theorem not_always_removed :
    let onDisk := Bench.perform (counterClient.sign (.dict []) "a") slowSigner (.start fullDisk [])
    let onDevice := Bench.perform (deviceClient.sign (.dict []) "a") slowSigner
      (.start fullDevice [])
    (fullDisk.find (.ofText "tx_to_sign") = .ok (.gap ["tx_to_sign"]) ∧
      onDisk.1 = .error (.file ⟨.noSpace, "tx_to_sign"⟩) ∧ onDisk.2.calls = [] ∧
      onDisk.2.disk.content (.ofText "tx_to_sign") = .ok []) ∧
    onDevice.1 = .error (.file ⟨.noSpace, "/dev/full"⟩) ∧ onDevice.2.calls = [] ∧
      onDevice.2.disk.content (.ofText "/dev/full") = .ok [] := by
  decide +kernel

end Client

end ContractBench
