import ContractBench.Proofs.Message
import ContractBench.Proofs.Noise
import ContractBench.Proofs.Resolved
import ContractBench.Proofs.SideBySide

/-! # Messages stay secret

Two runs of the same errand with different messages give the same result, log and wait alike and
leave the same disk, as long as the daemon has the same outcomes in store (`Errand.keeps_secret`).
The commands differ in the message alone, which comes after all the arguments that are ever named
in a log. A document that is signed is in no command: it lies in a file while the daemon runs.
-/

namespace ContractBench

/-- The records that were logged, the latest first. -/
def World.records (world : World) : List LogRecord :=
  world.deeds.filterMap fun
    | .logged record => some record
    | _ => none

/-- Two calls' arguments that differ at most in the message, the fifth argument of the program. -/
def MessageApart (text text' : String) (argv argv' : List String) : Prop :=
  argv' = argv ∨ ∃ before after, before.length = 5 ∧ argv = before ++ text :: after ∧
    argv' = before ++ text' :: after

/-- Two disks that differ at most in the text of the file that a path leads to. -/
def TextApart (path : Path) (text text' : String) (disk disk' : Disk) : Prop :=
  ∃ (begun : Disk) (place : Location) (kind : FileKind), begun.Opens path place kind ∧
    disk = begun.keep place kind (Utf8.encode text) ∧
    disk' = begun.keep place kind (Utf8.encode text')

/-- Two texts are written to the same file, or both are refused for the same reason. -/
theorem FileOp.written_alike (path : Path) (disk : Disk) {text text' : String} (some : text ≠ "")
    (some' : text' ≠ "") :
    (∃ e later, (writeText path text).perform disk = (.error e, later) ∧
      (writeText path text').perform disk = (.error e, later)) ∨
    ∃ written written', (writeText path text).perform disk = (.ok (), written) ∧
      (writeText path text').perform disk = (.ok (), written') ∧
      TextApart path text text' written written' := by
  by_cases writable : disk.Writable path
  · obtain ⟨place, kind, opens⟩ := Disk.writable_iff.mp writable
    have room := disk.hasRoom_congr kind (Utf8.encode_ne_nil some) (Utf8.encode_ne_nil some')
    rw [writeText, writeText, perform_writeBytes_of_opens opens, perform_writeBytes_of_opens opens,
      room]
    split
    · exact .inr ⟨_, _, rfl, rfl, disk, place, kind, opens, rfl, rfl⟩
    · exact .inl ⟨_, _, rfl, rfl⟩
  · obtain ⟨e, -, refused⟩ := writeBytes_of_unwritable writable
    exact .inl ⟨e, disk, refused _, refused _⟩

namespace Difference

variable {differ : Difference}

/-- A daemon that has outcomes in store counts the calls and does not look at them. -/
theorem unheeded_ofStream (begun : List Invocation) (count : Nat) (stream : Nat → Outcome)
    (elapsed : Nat → Binary64) :
    differ.Unheeded begun begun (.ofStream count stream elapsed)
      (.ofStream count stream elapsed) := by
  intro earlier earlier' call call' before now
  have length : (earlier' ++ begun).length = (earlier ++ begun).length := by
    rw [List.length_append, List.length_append, before.length_eq]
  simp only [Daemon.ofStream, length]
  exact ⟨trivial, trivial, now.disk⟩

/-- Two runs that began in one world and that only their calls can tell apart. -/
structure Indistinct {α : Type} (differ : Difference) (begun : World)
    (run run' : Except Failure α × World) : Prop where
  result : run'.1 = run.1
  disk : run'.2.disk = run.2.disk
  clock : run'.2.clock = run.2.clock
  throttle : run'.2.throttle = run.2.throttle
  deeds : ∃ added added', run.2.deeds = added ++ begun.deeds ∧
    run'.2.deeds = added' ++ begun.deeds ∧ List.Forall₂ differ.Deeds added added'

/-- Operations that take the same steps are indistinct, if no disk differs from the other. -/
theorem Paired.indistinct {α : Type} {action action' : Bench α}
    (paired : differ.Paired action action') (sameDisks : differ.disks = (· = ·)) (world : World)
    (stream : Nat → Outcome) (elapsed : Nat → Binary64) :
    let daemon := Daemon.ofStream world.calls.length stream elapsed
    differ.Indistinct world (Bench.perform action daemon world)
      (Bench.perform action' daemon world) := by
  intro daemon
  have begins : differ.Alongside world.deeds world.deeds world world :=
    ⟨by rw [sameDisks], rfl, rfl, rfl, rfl, [], [], rfl, rfl, .nil⟩
  obtain ⟨result, later⟩ :=
    paired.perform (unheeded_ofStream _ world.calls.length stream elapsed) begins
  have disk := later.disk
  rw [sameDisks] at disk
  exact ⟨result, disk.symm, later.clock, later.throttle, later.deeds⟩

end Difference

/-! ## Messages in commands -/

def Difference.ofMessages (text text' : String) : Difference := ⟨MessageApart text text', (· = ·)⟩

namespace Client

open Difference (ofMessages)

variable {client : Client} {text text' : String}

theorem paired_same (client : Client) {α : Type} {action : Bench α}
    (steps : client.launcher.Steps (fun _ _ => True) action) :
    (ofMessages text text').Paired action action := by
  refine steps.paired (fun _ => .inl rfl) fun β op _ disk disk' same => ?_
  obtain rfl : disk = disk' := same
  exact ⟨rfl, rfl⟩

/-- The message comes after the arguments that are ever named. -/
theorem paired_runJson (head rest : List String) (four : head.length = 4) :
    (ofMessages text text').Paired (client.launcher.runJson (head ++ text :: rest))
      (client.launcher.runJson (head ++ text' :: rest)) := by
  refine Difference.Namesakes.runJson ⟨.inr ⟨client.launcher.settings.binary :: head,
    rest ++ client.launcher.settings.outputFlags, ?_, ?_, ?_⟩, ?_⟩
  · rw [List.length_cons, four]
  · simp only [Launcher.argv, List.append_assoc, List.cons_append]
  · simp only [Launcher.argv, List.append_assoc, List.cons_append]
  · have named : Launcher.distinctArguments = head.length := four.symm
    rw [named, List.append_assoc, List.append_assoc, List.take_left, List.take_left]

theorem paired_run (head rest : List String) (four : head.length = 4) (type : AnswerType) :
    (ofMessages text text').Paired (client.run (head ++ text :: rest) type)
      (client.run (head ++ text' :: rest) type) :=
  .bind (paired_runJson head rest four) fun document => client.paired_same (steps_fit type document)

variable {message message' : Value} (encoded : Message.encode message = .ok text)
  (encoded' : Message.encode message' = .ok text')

include encoded encoded'

theorem paired_encode {α : Type} {send : String → Bench α}
    (paired : (ofMessages text text').Paired (send text) (send text')) :
    (ofMessages text text').Paired (Bench.ofExcept (Message.encode message) >>= send)
      (Bench.ofExcept (Message.encode message') >>= send) := by
  rw [encoded, encoded']
  exact paired

theorem paired_instantiate (contract : Contract) (label sender : String)
    (gas backend : Option String) :
    (ofMessages text text').Paired
      (client.instantiate contract message label sender gas backend)
      (client.instantiate contract message' label sender gas backend) :=
  paired_encode encoded encoded' <|
    .bind (paired_run ["tx", "compute", "instantiate", contract.id] _ rfl .broadcast) fun _ =>
      .bind (.log ..) fun _ => .pure _

theorem paired_execute (contract : Contract) (sender : String)
    (gas backend amount : Option String) :
    (ofMessages text text').Paired
      (client.execute contract message sender gas backend amount)
      (client.execute contract message' sender gas backend amount) :=
  paired_encode encoded encoded' <|
    .bind (paired_run ["tx", "compute", "execute", contract.address] _ rfl .broadcast) fun _ =>
      .bind (.log ..) fun _ => .pure _

theorem paired_ask (contract : Contract) (type : Option AnswerType) :
    (ofMessages text text').Paired (client.ask contract message type)
      (client.ask contract message' type) := by
  refine paired_encode encoded encoded' <|
    .bind (paired_runJson ["query", "compute", "query", contract.address] [] rfl) fun document => ?_
  cases type with
  | none => exact .pure document
  | some type => exact client.paired_same (steps_fit type document)

theorem paired_create (contract : Contract) (label sender : String) (gas backend : Option String) :
    (ofMessages text text').Paired
      (client.create message contract label sender gas backend)
      (client.create message' contract label sender gas backend) :=
  .bind (paired_instantiate encoded encoded' ..) fun _ => client.paired_same (steps_transaction _)

theorem paired_deployNew (plan : DeployPlan) :
    (ofMessages text text').Paired
      (client.deployNew { plan with message := message })
      (client.deployNew { plan with message := message' }) := by
  refine .bind (client.paired_same (steps_store ..)) fun _ =>
    .bind (client.paired_same (steps_transaction _)) fun storeTx =>
    .bind (client.paired_same (steps_attributeOf storeTx _ _)) fun id =>
    .bind (paired_create encoded encoded' ..) fun initTx => client.paired_same ?_
  exact .bind (steps_reportFailure initTx false) fun _ =>
    .bind (steps_attributeOf initTx _ _) fun _ => .bind steps_storedCodes fun _ => .pure _

theorem paired_deploy (plan : DeployPlan) (name : Option String) (registry : Option Registry) :
    (ofMessages text text').Paired
      (client.deploy { plan with message := message } name registry)
      (client.deploy { plan with message := message' } name registry) := by
  refine .bind (client.paired_same (Registry.steps_lookup name fun _ => trivial)) fun looked => ?_
  cases looked.contract with
  | some contract => exact .pure contract
  | none =>
      refine .bind (paired_deployNew encoded encoded' plan) fun deployed => client.paired_same ?_
      exact .bind (steps_keep _ name plan.label deployed fun _ _ => trivial) fun _ => .pure _

omit encoded encoded'

/-! ## Documents that are signed -/

/-- What is left of a signature once its document lies in its file. -/
def signWritten (client : Client) (signer : String) : Bench Signature := do
  let answer ← Bench.observe
    (client.run (Command.signDocument client.settings.signFile signer) .signature)
  discard (.ofText client.settings.signFile)
  return .ofRecord (← Bench.ofExcept answer)

theorem perform_sign {document : Value} (encoded : Message.encode document = .ok text)
    (signer : String) (daemon : Daemon) (world : World) :
    Bench.perform (client.sign document signer) daemon world =
      match (FileOp.writeText (.ofText client.settings.signFile) text).perform world.disk with
      | (.ok (), written) =>
        Bench.perform (client.signWritten signer) daemon (world.withDisk written)
      | (.error e, disk) => (.error (.file e), world.withDisk disk) := by
  have written : client.sign document signer =
      Bench.files (FileOp.writeText (.ofText client.settings.signFile) text) >>= fun _ =>
        client.signWritten signer := by
    rw [sign, encoded]
    rfl
  rw [written, Bench.perform_bind, Bench.perform_files]
  rcases (FileOp.writeText (.ofText client.settings.signFile) text).perform world.disk with
    ⟨e | _, disk⟩ <;> rfl

/-- The document is gone once the daemon ran, whatever came of it. -/
theorem perform_signWritten {signer : String} {daemon : Daemon} {world : World}
    {place : Location} {bytes : List UInt8} {kind : FileKind}
    (there : (Bench.perform (client.run (Command.signDocument client.settings.signFile signer)
      .signature) daemon world).2.disk.find (.ofText client.settings.signFile) =
        .ok (.node place (.file bytes kind))) :
    Bench.perform (client.signWritten signer) daemon world =
      let run := Bench.perform
        (client.run (Command.signDocument client.settings.signFile signer) .signature) daemon world
      (run.1.map .ofRecord, run.2.withDisk (run.2.disk.erase place)) := by
  simp only [signWritten, Bench.perform_bind, Bench.perform_observe, perform_discard there,
    Bench.perform_ofExcept]
  rcases (Bench.perform (client.run _ .signature) daemon world).1 with failure | value <;> rfl

def documentsApart (client : Client) (text text' : String) : Difference :=
  ⟨(· = ·), TextApart (.ofText client.settings.signFile) text text'⟩

theorem signWritten_indistinct (signer : String) (world : World) (stream : Nat → Outcome)
    (elapsed : Nat → Binary64) {disk disk' : Disk}
    (apart : TextApart (.ofText client.settings.signFile) text text' disk disk') :
    let daemon := Daemon.ofStream world.calls.length stream elapsed
    (client.documentsApart text text').Indistinct world
      (Bench.perform (client.signWritten signer) daemon (world.withDisk disk))
      (Bench.perform (client.signWritten signer) daemon (world.withDisk disk')) := by
  intro daemon
  have begins : (client.documentsApart text text').Alongside world.deeds world.deeds
      (world.withDisk disk) (world.withDisk disk') :=
    ⟨apart, rfl, rfl, rfl, rfl, [], [], rfl, rfl, .nil⟩
  have steps : client.launcher.Steps (fun _ _ => False)
      (client.run (Command.signDocument client.settings.signFile signer) .signature) :=
    steps_run ..
  have paired : (client.documentsApart text text').Paired
      (client.run (Command.signDocument client.settings.signFile signer) .signature)
      (client.run (Command.signDocument client.settings.signFile signer) .signature) :=
    steps.paired (fun _ => rfl) fun _ _ never => never.elim
  obtain ⟨result, later⟩ := paired.perform
    (Difference.unheeded_ofStream _ world.calls.length stream elapsed) begins
  obtain ⟨begun, place, kind, opens, disks, disks'⟩ := later.disk
  obtain ⟨_, there⟩ := opens.find_keep (Utf8.encode text)
  obtain ⟨_, there'⟩ := opens.find_keep (Utf8.encode text')
  rw [← disks] at there
  rw [← disks'] at there'
  rw [perform_signWritten there, perform_signWritten there']
  refine ⟨?_, ?_, later.clock, later.throttle, later.deeds⟩
  · exact congrArg (Except.map Signature.ofRecord) result
  · change Disk.erase _ place = Disk.erase _ place
    rw [disks, disks', Disk.erase_keep, Disk.erase_keep]

theorem sign_indistinct {document document' : Value}
    (encoded : Message.encode document = .ok text)
    (encoded' : Message.encode document' = .ok text')
    (signer : String) (world : World) (stream : Nat → Outcome) (elapsed : Nat → Binary64) :
    let daemon := Daemon.ofStream world.calls.length stream elapsed
    (client.documentsApart text text').Indistinct world
      (Bench.perform (client.sign document signer) daemon world)
      (Bench.perform (client.sign document' signer) daemon world) := by
  intro daemon
  rw [perform_sign encoded, perform_sign encoded']
  rcases FileOp.written_alike (.ofText client.settings.signFile) world.disk
      (Message.encode_ne_empty encoded) (Message.encode_ne_empty encoded') with
    ⟨e, later, refused, refused'⟩ | ⟨written, written', wrote, wrote', apart⟩
  · rw [refused, refused']
    exact ⟨rfl, rfl, rfl, rfl, [], [], rfl, rfl, .nil⟩
  · rw [wrote, wrote']
    exact signWritten_indistinct signer world stream elapsed apart

/-! ## Errands -/

/-- What a client can be given a message for. -/
inductive Errand : Type → Type where
  | instantiate (contract : Contract) (label sender : String) (gas backend : Option String) :
      Errand Broadcast
  | execute (contract : Contract) (sender : String) (gas backend amount : Option String) :
      Errand Broadcast
  | ask (contract : Contract) (type : Option AnswerType) : Errand Value
  | sign (signer : String) : Errand Signature
  | create (contract : Contract) (label sender : String) (gas backend : Option String) :
      Errand Transaction
  | compute (contract : Contract) (sender : String) (gas backend amount : Option String) :
      Errand Computation
  | handle (contract : Contract) (sender : String) (gas backend amount : Option String) :
      Errand (Computation × Transaction)
  /-- A deployment without a registry; the message takes the place of the plan's. -/
  | deployUncached (plan : DeployPlan) : Errand Contract
  | deploy (plan : DeployPlan) (name : Option String) (registry : Option Registry) :
      Errand Contract

namespace Errand

variable {α : Type}

def action (client : Client) (message : Value) : {α : Type} → Errand α → Bench α
  | _, .instantiate contract label sender gas backend =>
    client.instantiate contract message label sender gas backend
  | _, .execute contract sender gas backend amount =>
    client.execute contract message sender gas backend amount
  | _, .ask contract type => client.ask contract message type
  | _, .sign signer => client.sign message signer
  | _, .create contract label sender gas backend =>
    client.create message contract label sender gas backend
  | _, .compute contract sender gas backend amount =>
    client.compute message contract sender gas backend amount
  | _, .handle contract sender gas backend amount =>
    client.handle message contract sender gas backend amount
  | _, .deployUncached plan => client.deployUncached { plan with message := message }
  | _, .deploy plan name registry => client.deploy { plan with message := message } name registry

/-- What two runs with different messages may differ in: a document lies in a file while it is
    signed, every other message is an argument. -/
def difference (client : Client) (text text' : String) : {α : Type} → Errand α → Difference
  | _, .sign _ => client.documentsApart text text'
  | _, _ => ofMessages text text'

theorem indistinct (errand : Errand α) {message message' : Value}
    (encoded : Message.encode message = .ok text) (encoded' : Message.encode message' = .ok text')
    (world : World) (stream : Nat → Outcome) (elapsed : Nat → Binary64) :
    let daemon := Daemon.ofStream world.calls.length stream elapsed
    (errand.difference client text text').Indistinct world
      (Bench.perform (errand.action client message) daemon world)
      (Bench.perform (errand.action client message') daemon world) := by
  have alike {action action' : Bench α} (paired : (ofMessages text text').Paired action action') :=
    paired.indistinct rfl world stream elapsed
  -- Only a signature finds disks that differ; the other errands are alike step by step.
  cases errand with
  | instantiate contract label sender gas backend =>
      exact alike (paired_instantiate encoded encoded' ..)
  | execute contract sender gas backend amount =>
      exact alike (paired_execute encoded encoded' ..)
  | ask contract type => exact alike (paired_ask encoded encoded' contract type)
  | sign signer => exact sign_indistinct encoded encoded' signer world stream elapsed
  | create contract label sender gas backend =>
      exact alike (paired_create encoded encoded' ..)
  | compute contract sender gas backend amount =>
      exact alike (.bind (paired_execute encoded encoded' ..) fun _ =>
        client.paired_same (steps_computation _))
  | handle contract sender gas backend amount =>
      refine alike (.bind (paired_execute encoded encoded' ..) fun _ => client.paired_same ?_)
      exact .bind (steps_computation _) fun _ => .bind (steps_transaction _) fun tx =>
        .bind (steps_reportFailure tx true) fun _ => .pure _
  | deployUncached plan =>
      exact alike (.bind (paired_deployNew encoded encoded' plan) fun _ => .pure _)
  | deploy plan name registry => exact alike (paired_deploy encoded encoded' plan name registry)

def unlocking (key : String) : Value := .dict [(.text "key", .text key)]

end Errand

end Client

end ContractBench
