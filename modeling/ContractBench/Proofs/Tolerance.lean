import ContractBench.Proofs.Agreement
import ContractBench.Proofs.Saving

/-! # Keeping does no harm

Whatever the system refuses, a save gives a flag, and a deployment whose exchanges came to an end
gives its contract. There is one exception. The system is never asked about a path that holds the
character that ends texts there, and that failure is passed on: `atNul_writeEntry` says when it
comes up while an entry is written, and `harmless_but_for_nul` what comes of it. A name with that
character is looked for without harm, so the transactions are sent before it does any
(`not_always_harmless`).
-/

namespace ContractBench

/-- A text with the character that ends texts in the system. -/
def HoldsNul (text : String) : Prop := '\x00' ∈ text.toList

instance (text : String) : Decidable (HoldsNul text) :=
  inferInstanceAs (Decidable ('\x00' ∈ text.toList))

theorem holdsNul_append (s t : String) : HoldsNul (s ++ t) ↔ HoldsNul s ∨ HoldsNul t := by
  simp [HoldsNul]

namespace Path

theorem holdsNul_toText (path : Path) :
    HoldsNul path.toText ↔ HoldsNul path.root ∨ ∃ part ∈ path.parts, HoldsNul part := by
  have joined (parts : List String) :
      HoldsNul ("/".intercalate parts) ↔ ∃ part ∈ parts, HoldsNul part := by
    induction parts with
    | nil => simp [HoldsNul]
    | cons part rest ih =>
        cases rest with
        | nil => simp
        | cons next rest =>
            have slash : ¬ HoldsNul "/" := by decide
            simp only [String.intercalate_cons_cons, holdsNul_append, ih, slash, or_false,
              List.exists_mem_cons_iff]
  rw [toText]
  split
  next here => simp [here, HoldsNul]
  next => rw [holdsNul_append, joined]

theorem mem_piecesFrom {c : Char} (apart : c ≠ '/') (piece rest : List Char) :
    (∃ name ∈ piecesFrom piece rest, c ∈ name.toList) ↔ c ∈ piece ∨ c ∈ rest := by
  fun_induction piecesFrom piece rest with
  | case1 piece => simp
  | case2 piece rest ih => simp [ih, apart]
  | case3 piece next rest noSlash ih => simp [ih, or_assoc, or_left_comm]

/-- No part is lost that holds the character. -/
theorem holdsNul_namesIn (text : String) :
    (∃ part ∈ namesIn text, HoldsNul part) ↔ HoldsNul text := by
  have pieces := mem_piecesFrom (c := '\x00') (by decide) [] text.toList
  simp only [List.not_mem_nil, false_or] at pieces
  rw [HoldsNul, ← pieces]
  constructor
  · rintro ⟨part, inside, holds⟩
    exact ⟨part, List.mem_of_mem_filter inside, holds⟩
  · rintro ⟨part, inside, holds⟩
    have kept : part ≠ "" ∧ part ≠ "." := by
      constructor <;> rintro rfl <;> simp at holds
    exact ⟨part, List.mem_filter.mpr ⟨inside, by simp [kept]⟩, holds⟩

theorem not_holdsNul_rootOf (text : String) : ¬ HoldsNul (rootOf text) := by
  rw [rootOf]
  split <;> decide

/-- A text seen from a path holds the character if the text does, or the path where it counts. -/
theorem holdsNul_join (base : Path) (text : String) :
    HoldsNul (base.join text).toText ↔
      HoldsNul text ∨ rootOf text = "" ∧ HoldsNul base.toText := by
  rw [join]
  split
  next relative =>
    simp only [holdsNul_toText, List.mem_append, or_and_right, exists_or, holdsNul_namesIn,
      relative, true_and]
    rw [← or_assoc, or_comm]
  next rooted =>
    rw [holdsNul_toText]
    simp only [ofText, holdsNul_namesIn, not_holdsNul_rootOf, rooted, false_or, false_and, or_false]

end Path

namespace Disk

theorem follow_ne_embeddedNul (disk : Disk) (base : Location) (names : List String) :
    disk.follow base names ≠ .error .embeddedNul := by
  fun_induction follow disk base names <;> simp_all

theorem find_eq_embeddedNul (disk : Disk) (path : Path) :
    disk.find path = .error .embeddedNul ↔ HoldsNul path.toText := by
  rw [find, HoldsNul]
  by_cases holds : '\x00' ∈ path.toText.toList
  · simp [holds]
  · by_cases long : longestPath < Utf8.byteLength path.toText
    · simp [holds, long]
    · simp [holds, long, follow_ne_embeddedNul]

end Disk

namespace FileOp

/-- An operation failed at the character that ends texts. -/
def AtNul {α : Type} (result : Except FileError α) : Prop :=
  ∃ e, result = .error e ∧ e.fault = .embeddedNul

@[simp] theorem atNul_ok {α : Type} (a : α) : ¬ AtNul (.ok a : Except FileError α) := by
  rintro ⟨e, impossible, -⟩
  contradiction

@[simp] theorem atNul_error {α : Type} (e : FileError) :
    AtNul (.error e : Except FileError α) ↔ e.fault = .embeddedNul := by
  simp [AtNul]

theorem atNul_ensureFolder (disk : Disk) (path : Path) :
    AtNul (perform (ensureFolder path) disk).1 ↔ HoldsNul path.toText := by
  rw [perform_ensureFolder, ← disk.find_eq_embeddedNul]
  rcases disk.find path with fault | ⟨place, _ | _⟩ | place <;> simp

theorem atNul_touch (disk : Disk) (path : Path) :
    AtNul (perform (touch path) disk).1 ↔ HoldsNul path.toText := by
  rw [perform_touch, ← disk.find_eq_embeddedNul]
  rcases disk.find path with fault | ⟨place, _ | _⟩ | place <;> simp

@[simp] theorem not_atNul_fill (disk : Disk) (path : Path) (place : Location) (kind : FileKind)
    (bytes : List UInt8) : ¬ AtNul (perform (fill path place kind bytes) disk).1 := by
  rw [perform_fill]
  split <;> simp

theorem atNul_writeText (disk : Disk) (path : Path) (text : String) :
    AtNul (perform (writeText path text) disk).1 ↔ HoldsNul path.toText := by
  rw [writeText, perform_writeBytes, ← disk.find_eq_embeddedNul]
  rcases disk.find path with fault | ⟨place, _ | _⟩ | place <;> simp

/-- The paths of the folders above hold the character only if the path does. -/
theorem holdsNul_above {root name : String} {above : List String}
    (holds : HoldsNul (Path.toText ⟨root, above.reverse⟩)) :
    HoldsNul (Path.toText ⟨root, (name :: above).reverse⟩) := by
  rw [Path.holdsNul_toText] at holds ⊢
  refine holds.imp_right fun ⟨part, inside, inPart⟩ => ⟨part, ?_, inPart⟩
  rw [List.reverse_cons]
  exact List.mem_append_left _ inside

theorem atNul_ensureFoldersFrom (disk : Disk) (root : String) (names : List String) :
    AtNul (perform (ensureFoldersFrom root names) disk).1 ↔
      HoldsNul (Path.toText ⟨root, names.reverse⟩) := by
  induction names generalizing disk with
  | nil => exact atNul_ensureFolder disk ⟨root, []⟩
  | cons name above ih =>
      have first := atNul_ensureFolder disk ⟨root, (name :: above).reverse⟩
      rw [ensureFoldersFrom, perform_tryCatch]
      rcases performed : perform (ensureFolder ⟨root, (name :: above).reverse⟩) disk with
        ⟨e | _, between⟩
      all_goals rw [performed] at first
      · simp only
        split
        next missing =>
          -- A folder that is missing has a path in order, and so have those above it.
          have spoken : ¬ HoldsNul (Path.toText ⟨root, (name :: above).reverse⟩) := by
            rw [← first, atNul_error, missing]
            decide
          have noneAbove := mt (ih between).mp (mt holdsNul_above spoken)
          rw [perform_bind]
          rcases above : perform (ensureFoldersFrom root above) between with ⟨e | _, later⟩
          · rw [above] at noneAbove
            exact iff_of_false noneAbove spoken
          · exact atNul_ensureFolder later _
        next other => exact first
      · exact first

theorem atNul_ensureFolders (disk : Disk) (path : Path) :
    AtNul (perform (ensureFolders path) disk).1 ↔ HoldsNul path.toText := by
  rw [ensureFolders, atNul_ensureFoldersFrom, List.reverse_reverse]

end FileOp

namespace Registry

open FileOp (AtNul)

theorem atNul_openFolder (registry : Registry) (disk : Disk) :
    AtNul (registry.openFolder.perform disk).1 ↔ HoldsNul registry.folder.toText := by
  have first := FileOp.atNul_ensureFolders disk registry.folder
  have lock : HoldsNul (registry.pathOf lockFile).toText ↔ HoldsNul registry.folder.toText := by
    have spoken : ¬ HoldsNul lockFile := by decide
    have relative : Path.rootOf lockFile = "" := by decide +kernel
    rw [pathOf, Path.holdsNul_join]
    simp only [spoken, relative, false_or, true_and]
  rw [openFolder, FileOp.perform_bind]
  rcases ensured : (FileOp.ensureFolders registry.folder).perform disk with ⟨e | _, made⟩
  · rwa [ensured] at first
  · exact (FileOp.atNul_touch made _).trans lock

/-- The folder has a path with the character that ends texts, or the name does and would be used:
    nothing else is in the way of the entry. -/
def CutShort (registry : Registry) (name : String) (disk : Disk) : Prop :=
  HoldsNul registry.folder.toText ∨
    HoldsNul name ∧ (registry.openFolder.perform disk).1 = .ok ()

instance (registry : Registry) (name : String) (disk : Disk) :
    Decidable (registry.CutShort name disk) :=
  inferInstanceAs (Decidable (_ ∨ _ ∧ _))

theorem atNul_writeEntry (registry : Registry) (name : String) (contract : Contract)
    (disk : Disk) :
    AtNul ((registry.writeEntry name contract).perform disk).1 ↔ registry.CutShort name disk := by
  have first := registry.atNul_openFolder disk
  rw [writeEntry_eq, FileOp.perform_bind, CutShort]
  rcases opening : registry.openFolder.perform disk with ⟨e | _, opened⟩
  all_goals rw [opening] at first
  · simpa using first
  · have spoken : ¬ HoldsNul registry.folder.toText := by simpa using first
    refine (FileOp.atNul_writeText opened _ _).trans ?_
    rw [pathOf, Path.holdsNul_join]
    simp only [spoken, and_false, and_true, false_or, or_false]

theorem saveResult_of_atNul {wrote : Except FileError Unit} (atNul : AtNul wrote) :
    ∃ e, e.fault = .embeddedNul ∧ saveResult wrote = .error (.file e) := by
  obtain ⟨e, rfl, same⟩ := atNul
  exact ⟨e, same, by rw [saveResult, if_pos same]⟩

theorem saveResult_of_not {wrote : Except FileError Unit} (seen : ¬ AtNul wrote) :
    ∃ written, saveResult wrote = .ok written := by
  cases wrote with
  | ok done => exact ⟨true, rfl⟩
  | error e =>
      rw [FileOp.atNul_error] at seen
      exact ⟨false, by rw [saveResult, if_neg seen]⟩

/-- A save fails at the character that ends texts, and otherwise gives a flag. -/
theorem save_cases (registry : Registry) (name : String) (contract : Contract) (daemon : Daemon)
    (world : World) :
    let saved := Bench.perform (registry.save name contract) daemon world
    (registry.CutShort name world.disk →
      ∃ e, e.fault = .embeddedNul ∧ saved.1 = .error (.file e)) ∧
    (¬ registry.CutShort name world.disk → ∃ written, saved.1 = .ok written) := by
  intro saved
  obtain ⟨later, performed, -⟩ := registry.save_spec name contract daemon world
  have result : saved.1 = saveResult ((registry.writeEntry name contract).perform world.disk).1 :=
    congrArg Prod.fst performed
  rw [result, ← registry.atNul_writeEntry name contract]
  exact ⟨saveResult_of_atNul, saveResult_of_not⟩

end Registry

namespace Client

/-- A contract that is to be kept, with the character that ends texts in the way. -/
def Spoiled (registry : Registry) (name : Option String) (contract : Contract) (disk : Disk) :
    Prop :=
  ∃ given, name = some given ∧ contract.isResolved = true ∧ registry.CutShort given disk

theorem keep_cases (registry : Registry) (name : Option String) (label : String)
    (deployed : Deployed) (daemon : Daemon) (world : World) :
    let kept := Bench.perform (keep registry name label deployed) daemon world
    (Spoiled registry name deployed.contract world.disk →
      ∃ e, e.fault = .embeddedNul ∧ kept.1 = .error (.file e)) ∧
    (¬ Spoiled registry name deployed.contract world.disk → kept.1 = .ok ()) := by
  intro kept
  by_cases wanted : ∃ given, name = some given ∧ deployed.contract.isResolved = true
  · obtain ⟨given, rfl, resolved⟩ := wanted
    obtain ⟨ifCut, ifNot⟩ := registry.save_cases given deployed.contract daemon world
    have spoils : Spoiled registry (some given) deployed.contract world.disk ↔
        registry.CutShort given world.disk := by simp [Spoiled, resolved]
    simp only [kept, keep_named resolved, spoils]
    refine ⟨fun cut => ?_, fun seen => ?_⟩
    · obtain ⟨e, atNul, failed⟩ := ifCut cut
      exact ⟨e, atNul, Bench.bind_failed failed⟩
    · obtain ⟨written, saved⟩ := ifNot seen
      rw [Bench.perform_bind, Bench.perform_eq saved]
      rfl
  · have notKept : name = none ∨ deployed.contract.isResolved = false := by
      cases name with
      | none => exact .inl rfl
      | some given => exact .inr (by simpa using wanted)
    obtain ⟨later, spec, -⟩ : ∃ later, Bench.perform (keep registry name label deployed) daemon
        world = (.ok (), later) ∧ world.Quiet later := keep_spec_of_not notKept daemon world
    refine ⟨fun ⟨given, named, resolved, _⟩ => absurd ⟨given, named, resolved⟩ wanted, fun _ => ?_⟩
    simp only [kept, spec]

theorem deploy_cases {client : Client} {plan : DeployPlan} {name : Option String}
    {registry : Option Registry} {daemon : Daemon} {begun missed made : World} {deployed : Deployed}
    (miss : Bench.perform ((client.registryFor registry).lookup name) daemon begun =
      (.ok ⟨name, none⟩, missed))
    (done : Bench.perform (client.deployNew plan) daemon missed = (.ok deployed, made)) :
    let deploying := Bench.perform (client.deploy plan name registry) daemon begun
    (Spoiled (client.registryFor registry) name deployed.contract made.disk →
      ∃ e, e.fault = .embeddedNul ∧ deploying.1 = .error (.file e)) ∧
    (¬ Spoiled (client.registryFor registry) name deployed.contract made.disk →
      deploying.1 = .ok deployed.contract) := by
  intro deploying
  obtain ⟨ifSpoiled, ifNot⟩ :=
    keep_cases (client.registryFor registry) name plan.label deployed daemon made
  simp only [deploying, deploy_of_exchanges miss done]
  refine ⟨fun spoiled => ?_, fun seen => ?_⟩
  · obtain ⟨e, atNul, failed⟩ := ifSpoiled spoiled
    exact ⟨e, atNul, Bench.bind_failed failed⟩
  · rw [Bench.perform_bind, Bench.perform_eq (ifNot seen)]
    rfl

/-- Keeping does no harm. A save gives a flag, and a deployment whose exchanges came to an end gives
    its contract. Only where the character that ends texts is in the path of the folder, or in a
    name that would be written to, they fail at it. -/
theorem harmless_but_for_nul (daemon : Daemon) :
    (∀ (registry : Registry) (name : String) (contract : Contract) (world : World),
      let saved := Bench.perform (registry.save name contract) daemon world
      (registry.CutShort name world.disk →
        ∃ e, e.fault = .embeddedNul ∧ saved.1 = .error (.file e)) ∧
      (¬ registry.CutShort name world.disk → ∃ written, saved.1 = .ok written)) ∧
    ∀ (client : Client) (plan : DeployPlan) (name : Option String) (registry : Option Registry)
      (begun missed made : World) (deployed : Deployed),
      Bench.perform ((client.registryFor registry).lookup name) daemon begun =
        (.ok ⟨name, none⟩, missed) →
      Bench.perform (client.deployNew plan) daemon missed = (.ok deployed, made) →
      let deploying := Bench.perform (client.deploy plan name registry) daemon begun
      (Spoiled (client.registryFor registry) name deployed.contract made.disk →
        ∃ e, e.fault = .embeddedNul ∧ deploying.1 = .error (.file e)) ∧
      (¬ Spoiled (client.registryFor registry) name deployed.contract made.disk →
        deploying.1 = .ok deployed.contract) :=
  ⟨fun registry name contract world => registry.save_cases name contract daemon world,
    fun _ _ _ _ _ _ _ _ miss done => deploy_cases miss done⟩

theorem counter_harmless :
    (Bench.perform (counterClient.deploy counterPlan (some "counter") none) counterDaemon
      counterStart).1 = .ok counterContract := by
  obtain ⟨-, deployments⟩ := harmless_but_for_nul counterDaemon
  obtain ⟨-, harmless⟩ := deployments counterClient counterPlan (some "counter") none counterStart
    counterMissed counterMade ⟨counterContract, "A", "B"⟩ counter_miss counter_done
  refine harmless ?_
  rintro ⟨given, same, -, cut⟩
  obtain rfl := Option.some.inj same
  exact absurd cut (by decide +kernel)

/-- A name that holds the character that ends texts. -/
def spoiledName : String := "counter\x00"

/-- A counter whose name holds the character is looked for and made, and then the deployment fails;
    and so does every attempt to save under that name. -/
theorem not_always_harmless :
    (¬ ∀ (registry : Registry) (name : String) (contract : Contract) (daemon : Daemon)
      (world : World), ∃ written,
        (Bench.perform (registry.save name contract) daemon world).1 = .ok written) ∧
    ¬ ∀ (client : Client) (plan : DeployPlan) (name : Option String) (registry : Option Registry)
      (daemon : Daemon) (begun missed made : World) (deployed : Deployed),
      Bench.perform ((client.registryFor registry).lookup name) daemon begun =
        (.ok ⟨name, none⟩, missed) →
      Bench.perform (client.deployNew plan) daemon missed = (.ok deployed, made) →
      (Bench.perform (client.deploy plan name registry) daemon begun).1 =
        .ok deployed.contract := by
  refine ⟨fun always => ?_, fun always => ?_⟩
  · obtain ⟨written, saved⟩ := always Registry.cache spoiledName Registry.firstContract
      Registry.idleDaemon Registry.bare
    have cut : Registry.cache.CutShort spoiledName Registry.bare.disk := by decide +kernel
    obtain ⟨e, -, fails⟩ := (Registry.cache.save_cases spoiledName Registry.firstContract
      Registry.idleDaemon Registry.bare).1 cut
    rw [saved] at fails
    cases fails
  · have miss : Bench.perform ((counterClient.registryFor none).lookup (some spoiledName))
        counterDaemon counterStart = (.ok ⟨some spoiledName, none⟩, _) :=
      Bench.perform_eq (by decide +kernel)
    have done : Bench.perform (counterClient.deployNew counterPlan) counterDaemon
        (Bench.perform ((counterClient.registryFor none).lookup (some spoiledName)) counterDaemon
          counterStart).2 = (.ok ⟨counterContract, "A", "B"⟩, _) :=
      Bench.perform_eq (by decide +kernel)
    have harmless := always _ _ _ _ _ _ _ _ _ miss done
    have fails : (Bench.perform (counterClient.deploy counterPlan (some spoiledName) none)
        counterDaemon counterStart).1 ≠ .ok counterContract := by decide +kernel
    exact fails harmless

end Client

end ContractBench
