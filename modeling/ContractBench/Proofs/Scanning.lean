import ContractBench.Proofs.Deployment
import ContractBench.Proofs.Retry

/-! # Scan modes

The first event of the first log comes first among all events, so whatever is found there is found
by a full scan, and is the same. A deployment puts what it finds into its next commands. As long as
it finds something each time, the two modes therefore take the same steps in the same world
(`full_scan_extends`); where the narrow mode finds nothing, they part.
-/

namespace ContractBench

namespace Transaction

theorem visited_prefix (tx : Transaction) : tx.visited .firstEvent <+: tx.visited .all := by
  rw [visited, visited]
  cases tx.logs with
  | nil => exact List.prefix_rfl
  | cons log logs =>
      simp only [List.flatMap_cons]
      cases log.events with
      | nil => exact List.nil_prefix
      | cons event events =>
          rw [List.flatMap_cons, List.append_assoc]
          exact List.prefix_append _ _

/-- What is found in the first event is found by a full scan. -/
theorem found_of_firstEvent (tx : Transaction) {key text : String}
    (found : tx.findAttribute? key .firstEvent = some text) :
    tx.findAttribute? key .all = some text := by
  rw [findAttribute?, Option.map_eq_some_iff] at found ⊢
  obtain ⟨attr, first, value⟩ := found
  exact ⟨attr, tx.visited_prefix.find?_eq_some first, value⟩

end Transaction

/-! ## Clients that differ in their scan mode -/

def Settings.scanning (settings : Settings) (mode : ScanMode) : Settings :=
  { settings with attributeScan := mode }

def Launcher.scanning (launcher : Launcher) (mode : ScanMode) : Launcher :=
  { launcher with settings := launcher.settings.scanning mode }

/-- The client with a scan mode in its settings, and in those of its launcher. -/
def Client.scanning (client : Client) (mode : ScanMode) : Client :=
  { client with
    settings := client.settings.scanning mode
    launcher := client.launcher.scanning mode }

namespace Launcher

variable (launcher : Launcher) (mode : ScanMode)

/-- By induction on the attempts that are left; no other setting of the loop is touched. -/
theorem settle_scanning (command : List String) (left attempt : Nat) (output : Output) :
    (launcher.scanning mode).settle command left attempt output =
      launcher.settle command left attempt output := by
  induction left generalizing attempt output with
  | zero => rfl
  | succ left ih =>
      rw [settle, settle]
      simp only [ih]
      rfl

theorem runJson_scanning (args : List String) :
    (launcher.scanning mode).runJson args = launcher.runJson args := by
  have run (command : List String) :
      (launcher.scanning mode).run command = launcher.run command := by
    rw [Launcher.run, Launcher.run]
    simp only [settle_scanning]
    rfl
  rw [runJson, runJson]
  simp only [run]
  rfl

end Launcher

namespace Client

variable (client : Client) (mode : ScanMode)

theorem run_scanning (command : List String) (type : AnswerType) :
    (client.scanning mode).run command type = client.run command type := by
  rw [run, run]
  simp only [scanning, Launcher.runJson_scanning]
  rfl

theorem store_scanning (file : String) (user gas backend : Option String) :
    (client.scanning mode).store file user gas backend = client.store file user gas backend := by
  rw [store, store, run_scanning]
  rfl

theorem transaction_scanning (hash : String) :
    (client.scanning mode).transaction hash = client.transaction hash := by
  rw [transaction, transaction, run_scanning]

theorem storedCodes_scanning : (client.scanning mode).storedCodes = client.storedCodes := by
  rw [storedCodes, storedCodes, run_scanning]

theorem create_scanning (message : Value) (contract : Contract) (label sender : String)
    (gas backend : Option String) :
    (client.scanning mode).create message contract label sender gas backend =
      client.create message contract label sender gas backend := by
  simp only [create, instantiate, run_scanning, transaction_scanning]
  rfl

variable {client : Client} {daemon : Daemon} {world later : World}

/-- What the narrow mode finds the full scan finds, in the same world. -/
theorem attributeOf_all {tx : Transaction} {key step text : String} (given : text ≠ "")
    (performed : Bench.perform ((client.scanning .firstEvent).attributeOf tx key step) daemon
      world = (.ok text, later)) :
    Bench.perform ((client.scanning .all).attributeOf tx key step) daemon world =
      (.ok text, later) := by
  rw [attributeOf, show (client.scanning .firstEvent).settings.attributeScan = .firstEvent from rfl]
    at performed
  rw [attributeOf, show (client.scanning .all).settings.attributeScan = .all from rfl]
  cases found : tx.findAttribute? key .firstEvent with
  | none =>
      rw [found] at performed
      obtain ⟨rfl, -⟩ : "" = text ∧ _ = later := by simpa using performed
      contradiction
  | some value =>
      rw [found] at performed
      rw [tx.found_of_firstEvent found]
      exact performed

/-- One step after the other is the same for both modes, and each attribute that is found goes into
    the steps that follow. -/
theorem deployNew_all {plan : DeployPlan} {deployed : Deployed}
    (resolved : deployed.contract.isResolved = true)
    (performed : Bench.perform ((client.scanning .firstEvent).deployNew plan) daemon world =
      (.ok deployed, later)) :
    Bench.perform ((client.scanning .all).deployNew plan) daemon world =
      (.ok deployed, later) := by
  rw [deployNew] at performed
  obtain ⟨stored, _, storing, performed⟩ := Bench.bind_ok performed
  obtain ⟨storeTx, _, fetching, performed⟩ := Bench.bind_ok performed
  obtain ⟨id, _, numbered, performed⟩ := Bench.bind_ok performed
  obtain ⟨initTx, _, creating, performed⟩ := Bench.bind_ok performed
  obtain ⟨_, _, reporting, performed⟩ := Bench.bind_ok performed
  obtain ⟨address, _, addressed, performed⟩ := Bench.bind_ok performed
  obtain ⟨codes, _, listing, performed⟩ := Bench.bind_ok performed
  obtain ⟨rfl, rfl⟩ : _ = deployed ∧ _ = later := by simpa using performed
  obtain ⟨idKnown, addressKnown, -⟩ := (Contract.isResolved_iff _).mp resolved
  rw [store_scanning] at storing
  rw [transaction_scanning] at fetching
  rw [create_scanning] at creating
  rw [storedCodes_scanning] at listing
  have reportingAll : Bench.perform ((client.scanning .all).reportFailure initTx false) daemon _ =
      (.ok _, _) := reporting
  simp only [deployNew, Bench.perform_bind, Bench.perform_pure, store_scanning,
    transaction_scanning, create_scanning, storedCodes_scanning, storing, fetching,
    attributeOf_all idKnown numbered, creating, reportingAll,
    attributeOf_all addressKnown addressed, listing]

/-- A full scan extends the narrow one. Whatever attribute the narrow mode finds a full scan finds,
    and where a deployment gives a contract of which all is known, it gives the same contract with
    a full scan and leaves the same world: the same calls, waits, records and files. -/
theorem full_scan_extends (client : Client) (plan : DeployPlan) (name : Option String)
    (registry : Option Registry) (daemon : Daemon) (world : World) :
    (∀ (tx : Transaction) (key text : String), tx.findAttribute? key .firstEvent = some text →
      tx.findAttribute? key .all = some text) ∧
    ∀ contract later,
      Bench.perform ((client.scanning .firstEvent).deploy plan name registry) daemon world =
        (.ok contract, later) →
      contract.isResolved = true →
      Bench.perform ((client.scanning .all).deploy plan name registry) daemon world =
        (.ok contract, later) := by
  refine ⟨fun tx _ _ found => tx.found_of_firstEvent found, ?_⟩
  intro contract later performed resolved
  rw [deploy] at performed ⊢
  obtain ⟨looked, between, looking, performed⟩ := Bench.bind_ok performed
  have lookingAll : Bench.perform (((client.scanning .all).registryFor registry).lookup name) daemon
      world = (.ok looked, between) := looking
  simp only [Bench.perform_bind, lookingAll]
  cases held : looked.contract with
  | some kept =>
      rw [held] at performed
      exact performed
  | none =>
      rw [held] at performed
      obtain ⟨deployed, made, deploying, performed⟩ := Bench.bind_ok performed
      obtain ⟨kept, final, keeping, finishing⟩ := Bench.bind_ok performed
      obtain ⟨rfl, rfl⟩ : deployed.contract = contract ∧ final = later := by simpa using finishing
      have keepingAll : Bench.perform (keep ((client.scanning .all).registryFor registry) name
          plan.label deployed) daemon made = (.ok kept, final) := keeping
      simp only [Bench.perform_bind, deployNew_all resolved deploying, keepingAll,
        Bench.perform_pure]

/-- The transaction that stores the counter's code. -/
def counterStored : Transaction :=
  ⟨"A", none, none, "", [⟨none, "", [⟨"message", [⟨"code_id", "7"⟩]⟩]⟩], none, none⟩

theorem counter_scanned_fully :
    counterStored.findAttribute? "code_id" .all = some "7" ∧
    ∃ later, Bench.perform ((counterClient.scanning .all).deploy counterPlan (some "counter") none)
      counterDaemon counterStart = (.ok counterContract, later) := by
  have performed : Bench.perform ((counterClient.scanning .firstEvent).deploy counterPlan
      (some "counter") none) counterDaemon counterStart = (.ok counterContract, _) :=
    Bench.perform_eq (by decide +kernel)
  obtain ⟨found, deploys⟩ :=
    full_scan_extends counterClient counterPlan (some "counter") none counterDaemon counterStart
  exact ⟨found counterStored "code_id" "7" (by decide),
    _, deploys counterContract _ performed (by decide)⟩

end Client

end ContractBench
