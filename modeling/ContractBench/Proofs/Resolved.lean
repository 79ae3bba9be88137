import ContractBench.Proofs.Session
import ContractBench.Proofs.Steps

/-! # Only resolved contracts are served

On a disk where every file that reads as an entry holds a resolved contract this stays so, whatever
is done in a session (`OnlyResolved.after`). The property is about all files, since the name of an
entry may lead anywhere. Most operations work on files in ways that each preserve it. A signature
does not: while the daemon runs, a document lies on the disk that may read as any contract, and what
counts is that it is gone afterwards.
-/

namespace ContractBench

/-- A daemon whose runs leave the disk alone. -/
def Daemon.LeavesDisk (daemon : Daemon) : Prop :=
  ∀ earlier call, (daemon earlier call).disk = call.disk

theorem Launcher.Steps.disk_unchanged {launcher : Launcher} {α : Type} {action : Bench α}
    {daemon : Daemon} {world : World}
    (steps : launcher.Steps (fun _ op => op.Preserves (· = world.disk)) action)
    (leaves : daemon.LeavesDisk) : (Bench.perform action daemon world).2.disk = world.disk :=
  steps.preserves (fun earlier call held => (leaves earlier call).trans held) rfl

/-- Bytes that hold no entry with an unresolved contract. -/
def NoUnresolved (bytes : List UInt8) : Prop :=
  ∀ contract, Registry.readEntry bytes = .ok contract → contract.isResolved = true

/-- A disk on which every file that reads as an entry holds a resolved contract. -/
def OnlyResolved (disk : Disk) : Prop :=
  ∀ place bytes kind, disk.at? place = some (.file bytes kind) → NoUnresolved bytes

theorem noUnresolved_nil : NoUnresolved [] := by
  intro contract read
  have refused : Registry.readEntry [] =
      .error (.invalid ⟨Contract.title, [.here .invalidJson]⟩) := rfl
  rw [refused] at read
  contradiction

namespace OnlyResolved

variable {disk : Disk}

theorem put_file (h : OnlyResolved disk) (place : Location) {bytes : List UInt8} (kind : FileKind)
    (resolved : NoUnresolved bytes) : OnlyResolved (disk.put place (.file bytes kind)) := by
  intro other held runs found
  rcases Disk.file_of_put found with ⟨-, same⟩ | ⟨-, before⟩
  · obtain ⟨rfl, -⟩ := Node.file.inj same
    exact resolved
  · exact h other held runs before

theorem put_empty (h : OnlyResolved disk) (place : Location) (kind : FileKind) :
    OnlyResolved (disk.put place (.file [] kind)) := h.put_file place kind noUnresolved_nil

theorem put_folder (h : OnlyResolved disk) (place : Location) :
    OnlyResolved (disk.put place .folder) := by
  intro other bytes kind found
  rcases Disk.file_of_put found with ⟨-, same⟩ | ⟨-, before⟩
  · contradiction
  · exact h other bytes kind before

theorem erase (h : OnlyResolved disk) (place : Location) : OnlyResolved (disk.erase place) :=
  fun other bytes kind found => h other bytes kind (Disk.file_of_erase found).2

theorem of_content (h : OnlyResolved disk) {path : Path} {bytes : List UInt8}
    (held : disk.content path = .ok bytes) : NoUnresolved bytes := by
  obtain ⟨place, kind, known⟩ := Disk.content_eq_ok.mp held
  exact h place bytes kind (Disk.at?_of_found known)

end OnlyResolved

theorem noUnresolved_encode {contract : Contract} (resolved : contract.isResolved = true) :
    NoUnresolved (Utf8.encode contract.encode) := by
  intro other read
  rw [Registry.readEntry_encode] at read
  obtain rfl := Except.ok.inj read
  exact resolved

namespace Registry

variable {registry : Registry}

theorem preserves_writeEntry (name : String) {contract : Contract}
    (resolved : contract.isResolved = true) :
    (registry.writeEntry name contract).Preserves OnlyResolved := by
  refine (FileOp.preserves_ensureFolders _ fun disk place held => held.put_folder place).bind
    fun _ => (FileOp.preserves_touch _ fun disk place held => held.put_empty place .plain).bind
    fun _ => FileOp.preserves_writeBytes _ _ (fun disk place kind held => ?_)
      fun disk place kind held => held.put_empty place kind
  exact held.put_file place kind (noUnresolved_encode resolved)

theorem resolved_of_found {disk : Disk} (h : OnlyResolved disk) {name : Option String}
    {contract : Contract} (known : registry.found disk name = .ok contract) :
    contract.isResolved = true := by
  cases name with
  | none => exact nomatch known
  | some name =>
      cases held : disk.content (registry.pathOf name) with
      | error fault =>
          rw [found_of_unreadable held] at known
          contradiction
      | ok bytes =>
          rw [found_of_bytes held] at known
          cases read : readEntry bytes with
          | error fault =>
              rw [read] at known
              contradiction
          | ok stored =>
              rw [read] at known
              obtain rfl := Except.ok.inj known
              exact h.of_content held stored read

end Registry

namespace Client

variable {client : Client} {daemon : Daemon} {world : World}

theorem disk_of_run (client : Client) (leaves : daemon.LeavesDisk) (command : List String)
    (type : AnswerType) (world : World) :
    (Bench.perform (client.run command type) daemon world).2.disk = world.disk :=
  (steps_run command type).disk_unchanged leaves

theorem perform_discard {path : Path} {place : Location} {bytes : List UInt8} {kind : FileKind}
    (there : world.disk.find path = .ok (.node place (.file bytes kind))) :
    Bench.perform (discard path) daemon world =
      (.ok (), world.withDisk (world.disk.erase place)) := by
  simp only [discard, Bench.perform_bind, Bench.perform_tryFiles, FileOp.perform_remove, there,
    Bench.perform_pure]

/-- A signature leaves the disk as it was, but for the place of the document. Nothing is left there
    if the document was written, and an empty file if there was no room for it. -/
theorem disk_of_sign (leaves : daemon.LeavesDisk) (document : Value) (signer : String) :
    let later := (Bench.perform (client.sign document signer) daemon world).2.disk
    later = world.disk ∨ (∃ place kind, later = world.disk.put place (.file [] kind)) ∨
      ∃ place, later = world.disk.erase place := by
  simp only [sign, Bench.perform_bind, Bench.perform_ofExcept, Bench.perform_files,
    Bench.perform_observe]
  cases Message.encode document with
  | error failure => exact .inl rfl
  | ok text =>
      simp only [FileOp.writeText]
      generalize Path.ofText client.settings.signFile = path
      rcases wrote : (FileOp.writeBytes path (Utf8.encode text)).perform world.disk with
        ⟨e | _, written⟩
      · rcases FileOp.unwritten_cases wrote with ⟨-, -, rfl⟩ | ⟨place, kind, -, -, -, rfl⟩
        · exact .inl rfl
        · rcases world.disk.keep_cases place kind [] with same | put
          · exact .inl same
          · exact .inr (.inl ⟨place, kind, put⟩)
      · obtain ⟨place, kind, opens, -, rfl⟩ := FileOp.written_cases wrote
        obtain ⟨held, there⟩ := opens.find_keep (Utf8.encode text)
        refine .inr (.inr ⟨place, ?_⟩)
        rw [← Disk.erase_keep world.disk place kind (Utf8.encode text)]
        generalize world.disk.keep place kind (Utf8.encode text) = written at there ⊢
        have disk := disk_of_run client leaves
          (Command.signDocument client.settings.signFile signer) .signature
          (world.withDisk written)
        have done : Except.mapError Failure.file (.ok ()) = .ok () := rfl
        simp only [done]
        rcases signed : Bench.perform (client.run _ .signature) daemon (world.withDisk written) with
          ⟨result, later⟩
        rw [signed] at disk
        obtain rfl : later.disk = written := disk
        rw [perform_discard there]
        cases result <;> rfl

end Client

/-! ## Sessions -/

theorem Bench.world_of_discard {α : Type} (action : Bench α) (daemon : Daemon) (world : World) :
    (perform (discard action) daemon world).2 = (perform action daemon world).2 := by
  change (perform (_ <$> action) daemon world).2 = _
  rw [perform_map]
  rcases perform action daemon world with ⟨_ | _, _⟩ <;> rfl

namespace Operation

/-- What is saved in a session by its caller is resolved. -/
def SavesResolved : Operation → Prop
  | .save _ _ contract => contract.isResolved = true
  | _ => True

/-- One operation, whatever comes of it. -/
theorem keeps_onlyResolved {operation : Operation} (proper : operation.SavesResolved)
    {daemon : Daemon} (leaves : daemon.LeavesDisk) {world : World} (h : OnlyResolved world.disk) :
    OnlyResolved (Bench.perform operation.action daemon world).2.disk := by
  -- Every operation but a signature works on files in ways that each preserve the property.
  suffices steps : (∃ launcher : Launcher,
      launcher.Steps (fun _ op => op.Preserves OnlyResolved) operation.action) ∨
      ∃ client document signer, operation = .sign client document signer by
    rcases steps with ⟨launcher, steps⟩ | ⟨client, document, signer, rfl⟩
    · exact steps.preserves (fun earlier call held => by rwa [leaves earlier call]) h
    · change OnlyResolved
        (Bench.perform (discard (client.sign document signer)) daemon world).2.disk
      rw [Bench.world_of_discard]
      rcases Client.disk_of_sign leaves document signer with
        same | ⟨place, kind, emptied⟩ | ⟨place, erased⟩
      · rwa [same]
      · rw [emptied]
        exact h.put_empty place kind
      · rw [erased]
        exact h.erase place
  have read (path : Path) : (FileOp.readBytes path).Preserves OnlyResolved :=
    FileOp.preserves_readBytes path
  -- An operation of a registry runs no command, so any launcher will do for it.
  let idle : Launcher := ⟨.standard, Registry.logger⟩
  cases operation with
  | deploy client plan name registry =>
      exact .inl ⟨client.launcher, .ignored (Client.steps_deploy plan name registry read
        fun contract resolved given => Registry.preserves_writeEntry given resolved)⟩
  | deployUncached client plan => exact .inl ⟨_, .ignored (Client.steps_deployUncached plan)⟩
  | store client => exact .inl ⟨_, .ignored (Client.steps_store ..)⟩
  | create client => exact .inl ⟨_, .ignored (Client.steps_create ..)⟩
  | handle client => exact .inl ⟨_, .ignored (Client.steps_handle ..)⟩
  | compute client => exact .inl ⟨_, .ignored (Client.steps_compute ..)⟩
  | ask client => exact .inl ⟨_, .ignored (Client.steps_ask ..)⟩
  | run client => exact .inl ⟨_, .ignored (Client.steps_run ..)⟩
  | address client => exact .inl ⟨_, .ignored (Client.steps_address _)⟩
  | sign client document signer => exact .inr ⟨client, document, signer, rfl⟩
  | save registry name contract =>
      exact .inl ⟨idle, .ignored (Registry.steps_save name contract
        (Registry.preserves_writeEntry name proper))⟩
  | load registry name => exact .inl ⟨idle, .ignored (Registry.steps_load name read)⟩
  | lookup registry name => exact .inl ⟨idle, .ignored (Registry.steps_lookup name read)⟩
  | delete registry name =>
      exact .inl ⟨idle, .files (FileOp.preserves_removeIfThere _ fun disk place held =>
        held.erase place)⟩
  | names registry => exact .inl ⟨idle, .ignored (.files (FileOp.preserves_visibleFiles _))⟩

end Operation

theorem OnlyResolved.after {world : World} (h : OnlyResolved world.disk)
    (session : List (Daemon × Operation))
    (proper : ∀ entry ∈ session, entry.1.LeavesDisk ∧ entry.2.SavesResolved) :
    OnlyResolved (world.after session).disk := by
  induction session generalizing world with
  | nil => exact h
  | cons entry session ih =>
      obtain ⟨leaves, resolved⟩ := proper entry List.mem_cons_self
      exact ih (entry.2.keeps_onlyResolved resolved leaves h) fun other inside =>
        proper other (List.mem_cons_of_mem _ inside)

/-! ## Deployments without a call -/

def Act.isAsked : Act → Bool
  | .asked _ _ => true
  | .waited _ => false

namespace World

theorem countP_acts (world : World) (daemon : Daemon) :
    (world.acts daemon).countP Act.isAsked = world.calls.length := by
  simp only [acts, calls]
  induction world.deeds with
  | nil => rfl
  | cons deed earlier ih => cases deed <;> simp [actsIn, Act.isAsked, ih]

theorem Leads.calls_length {daemon : Daemon} {before after : World} {acts : List Act}
    (h : before.Leads daemon acts after) :
    after.calls.length = before.calls.length + acts.countP Act.isAsked := by
  rw [← after.countP_acts daemon, h.acts, List.countP_append, before.countP_acts]

end World

namespace Client

variable {client : Client} {daemon : Daemon} {world later : World}

/-- A deployment that comes to an end has called the daemon. -/
theorem deployNew_calls {plan : DeployPlan} {deployed : Deployed}
    (done : Bench.perform (client.deployNew plan) daemon world = (.ok deployed, later)) :
    world.calls.length < later.calls.length := by
  obtain ⟨flow, leads⟩ := deployNew_flow done
  have asked : 0 < flow.stored.acts.countP Act.isAsked :=
    List.countP_pos_iff.mpr ⟨_, List.mem_append_right _ List.mem_cons_self, rfl⟩
  rw [leads.calls_length]
  simp only [DeployFlow.acts, List.countP_append]
  omega

/-- A deployment that makes no call gives what the registry holds. -/
theorem found_of_deploy {plan : DeployPlan} {name : Option String} {registry : Option Registry}
    {contract : Contract}
    (done : Bench.perform (client.deploy plan name registry) daemon world = (.ok contract, later))
    (silent : later.calls = world.calls) :
    (client.registryFor registry).found world.disk name = .ok contract := by
  obtain ⟨missed, spec, quiet⟩ := (client.registryFor registry).lookup_spec name daemon world
  rw [deploy, Bench.perform_bind, spec] at done
  cases known : (client.registryFor registry).found world.disk name with
  | ok kept =>
      obtain ⟨same, -⟩ : kept = contract ∧ missed = later := by
        simpa [known, Except.toOption] using done
      rw [same]
  | error failure =>
      simp only [known, Except.toOption] at done
      obtain ⟨deployed, made, deploying, keeping⟩ := Bench.bind_ok done
      have called := deployNew_calls deploying
      have steps : client.launcher.Steps (fun _ _ => True) (do
          keep (client.registryFor registry) name plan.label deployed
          return deployed.contract) :=
        .bind (steps_keep _ _ _ _ fun _ _ => trivial) fun _ => .pure _
      have grown := (steps.calls_suffix daemon made).length_le
      rw [keeping] at grown
      rw [quiet.calls] at called
      simp only [silent] at grown
      omega

end Client

theorem Registry.found_of_looked {registry : Registry} {daemon : Daemon} {world later : World}
    {name : Option String} {looked : Lookup} {contract : Contract}
    (performed : Bench.perform (registry.lookup name) daemon world = (.ok looked, later))
    (hit : looked.contract = some contract) : registry.found world.disk name = .ok contract := by
  obtain ⟨_, spec, -⟩ := registry.lookup_spec name daemon world
  rw [performed] at spec
  obtain rfl := Except.ok.inj (Prod.mk.inj spec).1
  cases known : registry.found world.disk name with
  | error failure =>
      rw [known] at hit
      contradiction
  | ok kept =>
      rw [known] at hit
      rw [Option.some.inj hit]

namespace Client

/-- A session in which the counter is deployed, and a contract of which nothing is known is signed
    as a document. -/
def signingSession : List (Daemon × Operation) := [
  (counterDaemon, .deploy counterClient counterPlan (some "counter") none),
  (counterDaemon, .sign counterClient
    (.dict [(.text "label", .text "x"), (.text "id", .text "")]) "a")]

/-- The counter deployed again after the session. -/
def counterAgain : Except Failure Contract × World :=
  Bench.perform (counterClient.deploy counterPlan (some "counter") none) counterDaemon
    (counterStart.after signingSession)

end Client

end ContractBench
