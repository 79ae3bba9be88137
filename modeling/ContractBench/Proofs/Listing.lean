import ContractBench.Proofs.Storing

/-! # Which entries are listed

A registry whose folder starts empty keeps, after any calls, the contracts that were saved last
under their names and not deleted since (`Kept`), and finds them under any name without a slash. Of
these names it lists those that do not begin with a dot (`lists_all_but_hidden`).
-/

namespace ContractBench

namespace RegistryCall

/-- Whether a call saves or deletes under a name. -/
def touches (name : String) : RegistryCall → Bool
  | .save other _ => other = name
  | .delete other => other = name
  | _ => false

/-- Whether the name of a call, if it has one, has no slash. -/
def IsFlat (call : RegistryCall) : Prop := ∀ name, call.name? = some name → '/' ∉ name.toList

end RegistryCall

/-- Whether the answer to a call is that a contract was written. -/
def RegistryAnswer.isSaved : Except Failure RegistryAnswer → Bool
  | .ok (.saved written) => written
  | _ => false

theorem RegistryAnswer.isSaved_iff {answer : Except Failure RegistryAnswer} :
    isSaved answer = true ↔ answer = .ok (.saved true) := by
  rcases answer with failure | (written | _ | _ | _ | _)
  case ok.saved => cases written <;> simp [isSaved]
  all_goals simp [isSaved]

/-- Calls of a registry and what they gave. -/
abbrev RegistryHistory := List (RegistryCall × Except Failure RegistryAnswer)

namespace RegistryHistory

/-- The last save under a name wrote this contract, and the name was not deleted since. -/
def Kept (history : RegistryHistory) (name : String) (contract : Contract) : Prop :=
  ∃ before since, history = before ++ (.save name contract, .ok (.saved true)) :: since ∧
    ∀ entry ∈ since, entry.1.touches name = false

@[simp] theorem not_kept_nil {name : String} {contract : Contract} :
    ¬ Kept [] name contract := by
  simp [Kept]

theorem kept_cons {entry : RegistryCall × Except Failure RegistryAnswer} {rest : RegistryHistory}
    {name : String} {contract : Contract} :
    Kept (entry :: rest) name contract ↔ Kept rest name contract ∨
      entry = (.save name contract, .ok (.saved true)) ∧
        ∀ later ∈ rest, later.1.touches name = false := by
  constructor
  · rintro ⟨before, since, split, untouched⟩
    cases before with
    | nil =>
        obtain ⟨rfl, rfl⟩ := List.cons.inj split
        exact .inr ⟨rfl, untouched⟩
    | cons first before =>
        obtain ⟨rfl, rfl⟩ := List.cons.inj split
        exact .inl ⟨before, since, rfl, untouched⟩
  · rintro (⟨before, since, rfl, untouched⟩ | ⟨rfl, untouched⟩)
    · exact ⟨entry :: before, since, rfl, untouched⟩
    · exact ⟨[], rest, rfl, untouched⟩

end RegistryHistory

namespace Ledger

variable {ledger : Ledger} {entry : RegistryCall × Except Failure RegistryAnswer} {name : String}

/-- The ledger after a call that gave something. -/
def after (ledger : Ledger) (entry : RegistryCall × Except Failure RegistryAnswer) : Ledger :=
  match entry.1 with
  | .save name contract =>
    if RegistryAnswer.isSaved entry.2 then ledger.bind name contract else ledger.unbind name
  | .delete name => ledger.unbind name
  | _ => ledger

theorem after_untouched (untouched : entry.1.touches name = false) :
    ledger.after entry name = ledger name := by
  obtain ⟨call, answer⟩ := entry
  cases call with
  | save other contract =>
      have elsewhere : name ≠ other := fun same => by simp [RegistryCall.touches, same] at untouched
      simp only [after]
      split
      · exact if_neg elsewhere
      · exact if_neg elsewhere
  | delete other =>
      have elsewhere : name ≠ other := fun same => by simp [RegistryCall.touches, same] at untouched
      exact if_neg elsewhere
  | _ => rfl

theorem after_touched (touched : entry.1.touches name = true) {contract : Contract} :
    ledger.after entry name = some contract ↔
      entry = (.save name contract, .ok (.saved true)) := by
  obtain ⟨call, answer⟩ := entry
  cases call with
  | save other written =>
      obtain rfl : other = name := by simpa [RegistryCall.touches] using touched
      simp only [after, Prod.mk.injEq, RegistryCall.save.injEq, true_and,
        ← RegistryAnswer.isSaved_iff]
      split
      next saved => simp [bind, saved]
      next unsaved => simp [unbind, unsaved]
  | delete other =>
      obtain rfl : other = name := by simpa [RegistryCall.touches] using touched
      simp [after, unbind]
  | _ => contradiction

/-- The induction is on the history, whose first entry changes the ledger that the others change
    further. -/
theorem foldl_after (history : RegistryHistory) (ledger : Ledger) (name : String)
    (contract : Contract) :
    history.foldl after ledger name = some contract ↔ history.Kept name contract ∨
      ledger name = some contract ∧ ∀ entry ∈ history, entry.1.touches name = false := by
  induction history generalizing ledger with
  | nil => simp
  | cons entry rest ih =>
      rw [List.foldl_cons, ih, RegistryHistory.kept_cons, List.forall_mem_cons]
      cases touched : entry.1.touches name with
      | true => simp [after_touched touched]
      | false =>
          have other : entry ≠ (.save name contract, .ok (.saved true)) := by
            rintro rfl
            simp [RegistryCall.touches] at touched
          simp [after_untouched touched, other]

end Ledger

namespace Registry

/-- Once the folder was ensured, as far as it can be, its path leads to an empty folder or
    nowhere. -/
def Unused (registry : Registry) (disk : Disk) : Prop :=
  ∀ result made, (FileOp.ensureFolders registry.folder).perform disk = (result, made) →
    ∀ place node, made.find registry.folder = .ok (.node place node) →
      node = .folder ∧ ∀ name, made.at? (place ++ [name]) = none

theorem StartsEmpty.unused {registry : Registry} {disk : Disk} (h : registry.StartsEmpty disk) :
    registry.Unused disk := by
  obtain ⟨-, made, ensured, unused⟩ := h
  intro result made' performed place node there
  obtain ⟨rfl, rfl⟩ := Prod.mk.inj (ensured.symm.trans performed)
  obtain ⟨place', folder⟩ := FileOp.ensureFolders_ok ensured
  obtain ⟨rfl, rfl⟩ : place' = place ∧ .folder = node := by simpa [folder] using there
  exact ⟨rfl, unused place' folder⟩

end Registry

theorem Bench.perform_map_of {α β : Type} {action : Bench α} {daemon : Daemon} {world later : World}
    {result : Except Failure α} (performed : perform action daemon world = (result, later))
    (f : α → β) : perform (f <$> action) daemon world = (result.map f, later) := by
  rw [perform_map, performed]
  cases result <;> rfl

theorem FileOp.ensureFolders_of_file {disk : Disk} {path : Path} {place : Location}
    {bytes : List UInt8} {kind : FileKind}
    (there : disk.find path = .ok (.node place (.file bytes kind))) :
    ∃ e, (ensureFolders path).perform disk = (.error e, disk) := by
  rw [perform_ensureFolders, perform_ensureFolder, there]
  cases path.parts.reverse with
  | nil => exact ⟨_, rfl⟩
  | cons name above => exact ⟨_, rfl⟩

theorem FileOp.perform_visibleFiles_of_nowhere {disk : Disk} {path : Path}
    (nowhere : ∀ place node, disk.find path ≠ .ok (.node place node)) :
    (disk.find path = .error .nameTooLong →
      (visibleFiles path).perform disk = (.error ⟨.nameTooLong, path.toText⟩, disk)) ∧
    (disk.find path ≠ .error .nameTooLong → (visibleFiles path).perform disk = (.ok [], disk)) := by
  simp only [visibleFiles, perform_bind, perform_isFolder]
  rcases known : disk.find path with (_ | _ | _ | _ | _ | _) | ⟨place, node⟩ | gap
  case ok.node => exact absurd known (nowhere _ _)
  all_goals simp

namespace Registry

/-- The path of the folder leads nowhere. -/
def Nowhere (registry : Registry) (disk : Disk) : Prop :=
  ∀ place node, disk.find registry.folder ≠ .ok (.node place node)

/-- What comes of ensuring a folder: one with nothing in it, or a failure that leaves none. -/
inductive Readies (registry : Registry) (disk : Disk) : Prop where
  | opens {place made}
      (ensured : (FileOp.ensureFolders registry.folder).perform disk = (.ok (), made))
      (stores : registry.Stores .empty place made) : Readies registry disk
  | fails {e made} (failed : (FileOp.ensureFolders registry.folder).perform disk = (.error e, made))
      (still : registry.Nowhere made) : Readies registry disk

/-- The disk holds the files of a ledger under names without a slash. The ledger is empty as long as
    the folder is missing. -/
inductive Lists (registry : Registry) : Ledger → Disk → Prop where
  | present {ledger place disk} (stores : registry.Stores ledger place disk) :
      Lists registry ledger disk
  | absent {disk} (nowhere : registry.Nowhere disk) (readies : registry.Readies disk) :
      Lists registry .empty disk

/-- Where the folder is nowhere, no name without a slash leads to a file. -/
theorem Nowhere.noFile {registry : Registry} {disk : Disk} (h : registry.Nowhere disk)
    {name : String} (noSlash : '/' ∉ name.toList) (place : Location) (bytes : List UInt8)
    (kind : FileKind) :
    disk.find (registry.pathOf name) ≠ .ok (.node place (.file bytes kind)) := by
  intro there
  rw [pathOf, Path.join_of_noSlash _ noSlash] at there
  split at there
  · exact h _ _ there
  · obtain ⟨above, folder⟩ := Disk.find_above there
    exact h _ _ folder

/-- The names of a ledger are listed in increasing order, but for those that begin with a dot. The
    list fails where the path of the folder is too long, and then the ledger is empty. -/
structure Displays (registry : Registry) (ledger : Ledger) (disk : Disk) : Prop where
  refused : disk.RefusesLength registry.folder →
    (FileOp.visibleFiles registry.folder).perform disk =
      (.error ⟨.nameTooLong, registry.folder.toText⟩, disk) ∧ ledger = .empty
  listed : ¬ disk.RefusesLength registry.folder → ∃ names,
    (FileOp.visibleFiles registry.folder).perform disk = (.ok names, disk) ∧
    names.Pairwise (· < ·) ∧
    ∀ name, name ∈ names ↔ name.startsWith "." = false ∧ ledger name ≠ none

theorem Nowhere.displays {registry : Registry} {disk : Disk} (h : registry.Nowhere disk) :
    registry.Displays .empty disk := by
  obtain ⟨ifLong, ifShort⟩ := FileOp.perform_visibleFiles_of_nowhere h
  rw [Disk.find_eq_nameTooLong] at ifLong
  rw [ne_eq, Disk.find_eq_nameTooLong] at ifShort
  exact ⟨fun long => ⟨ifLong long, rfl⟩,
    fun short => ⟨[], ifShort short, .nil, by simp [Ledger.empty]⟩⟩

theorem Stores.displays {registry : Registry} {ledger : Ledger} {place : Location} {disk : Disk}
    (h : registry.Stores ledger place disk) : registry.Displays ledger disk where
  refused refused := by
    rw [← Disk.find_eq_nameTooLong, h.folder] at refused
    contradiction
  listed _ := h.list_names

/-- Behind a folder that was ensured, writing an entry binds its name, or fails, and then the name
    was not bound. -/
theorem Stores.writeEntry {registry : Registry} {ledger : Ledger} {place : Location}
    {disk made : Disk} {name : String} (h : registry.Stores ledger place made)
    (ensured : (FileOp.ensureFolders registry.folder).perform disk = (.ok (), made))
    (noSlash : '/' ∉ name.toList) (contract : Contract) :
    ∃ result later, (registry.writeEntry name contract).perform disk = (result, later) ∧
      (result = .ok () ∧ registry.Lists (ledger.bind name contract) later ∨
        (∃ e, result = .error e) ∧ registry.Lists (ledger.unbind name) later) := by
  obtain ⟨lockShort, lockLong⟩ := h.touch_lock
  simp only [Registry.writeEntry, FileOp.perform_bind, ensured]
  by_cases lockFits : registry.Fits lockFile
  · obtain ⟨locked, stores, touched⟩ := lockShort lockFits
    obtain ⟨written, refused⟩ := stores.write_entry noSlash lockFits contract
    by_cases usable : IsName name ∧ registry.Fits name
    · obtain ⟨later, stores, wrote⟩ := written usable
      exact ⟨.ok (), later, by simp only [touched, wrote], .inl ⟨rfl, .present stores⟩⟩
    · obtain ⟨e, wrote⟩ := refused usable
      have free := h.unbound fun takes : registry.Takes name => usable ⟨takes.named, takes.fits⟩
      rw [Ledger.unbind_eq_self free]
      exact ⟨.error e, locked, by simp only [touched, wrote], .inr ⟨⟨e, rfl⟩, .present stores⟩⟩
  · obtain ⟨e, touched⟩ := lockLong lockFits
    have free := h.unbound fun takes : registry.Takes name => lockFits takes.lockFits
    rw [Ledger.unbind_eq_self free]
    exact ⟨.error e, made, by simp only [touched], .inr ⟨⟨e, rfl⟩, .present h⟩⟩

namespace Lists

variable {registry : Registry} {ledger : Ledger} {disk : Disk} {name : String}

theorem of_unused (rooted : disk.Rooted) (room : disk.full = false)
    (unused : registry.Unused disk) : registry.Lists .empty disk := by
  have grows := FileOp.grows_ensureFolders disk registry.folder
  rcases performed : (FileOp.ensureFolders registry.folder).perform disk with ⟨e | _, made⟩
  · have still : registry.Nowhere made := by
      intro place node there
      obtain ⟨rfl, -⟩ := unused _ _ performed place node there
      obtain ⟨e', again⟩ := FileOp.ensureFolders_again performed
      rw [FileOp.perform_ensureFolders_of_folder there] at again
      cases again
    refine .absent (fun place node there => ?_) (.fails performed still)
    cases node with
    | folder =>
        rw [FileOp.perform_ensureFolders_of_folder there] at performed
        cases performed
    | file bytes kind =>
        -- A file is in the way, and nothing was made.
        obtain ⟨e', refused⟩ := FileOp.ensureFolders_of_file there
        obtain ⟨-, rfl⟩ := Prod.mk.inj (refused.symm.trans performed)
        exact still _ _ there
  · obtain ⟨place, folder⟩ := FileOp.ensureFolders_ok performed
    obtain ⟨-, nothing⟩ := unused _ _ performed place _ folder
    rw [performed] at grows
    have noNames : made.namesIn place = [] :=
      List.eq_nil_iff_forall_not_mem.mpr fun name => by simp [Disk.mem_namesIn, nothing]
    have stores : registry.Stores .empty place made :=
      { folder := folder
        above := (grows.rooted rooted).above (Disk.at?_of_found folder)
        shows := fun name => .inl (nothing name)
        bound := fun name bound => absurd rfl bound
        distinct := by simp [noNames]
        room := grows.full.trans room }
    rcases FileOp.find_of_ensureFolders performed with ⟨place', there⟩ | absent
    · rw [FileOp.perform_ensureFolders_of_folder there] at performed
      obtain rfl : disk = made := by simpa using performed
      exact .present stores
    · refine .absent (fun place node there => ?_) (.opens performed stores)
      rcases absent with none | ⟨gap, none⟩ <;> simp [none] at there

theorem found (h : registry.Lists ledger disk) (noSlash : '/' ∉ name.toList) :
    (registry.found disk (some name)).toOption = ledger name := by
  cases h with
  | present stores => exact stores.found noSlash
  | absent nowhere _ =>
      obtain ⟨fault, unreadable⟩ := Disk.content_of_noFile (nowhere.noFile noSlash)
      rw [found_of_unreadable unreadable]
      rfl

/-- Writing an entry binds its name, or fails, and then the name was not bound. -/
theorem writeEntry (h : registry.Lists ledger disk) (noSlash : '/' ∉ name.toList)
    (contract : Contract) :
    ∃ result later, (registry.writeEntry name contract).perform disk = (result, later) ∧
      (result = .ok () ∧ registry.Lists (ledger.bind name contract) later ∨
        (∃ e, result = .error e) ∧ registry.Lists (ledger.unbind name) later) := by
  cases h with
  | present stores =>
      have ensured := FileOp.perform_ensureFolders_of_folder stores.folder
      exact stores.writeEntry ensured noSlash contract
  | absent nowhere readies =>
      cases readies with
      | opens ensured stores => exact stores.writeEntry ensured noSlash contract
      | @fails e made failed still =>
          obtain ⟨e', again⟩ := FileOp.ensureFolders_again failed
          rw [Ledger.unbind_eq_self rfl]
          refine ⟨.error e, made, ?_, .inr ⟨⟨e, rfl⟩, .absent still (.fails again still)⟩⟩
          simp only [Registry.writeEntry, FileOp.perform_bind, failed]

theorem delete (h : registry.Lists ledger disk) (noSlash : '/' ∉ name.toList) :
    ∃ result later, (FileOp.removeIfThere (registry.pathOf name)).perform disk = (result, later) ∧
      registry.Lists (ledger.unbind name) later := by
  cases h with
  | present stores =>
      obtain ⟨result, later, removed, stores⟩ := stores.delete_entry noSlash
      exact ⟨result, later, removed, .present stores⟩
  | absent nowhere readies =>
      obtain ⟨result, removed⟩ := FileOp.removeIfThere_of_noFile (nowhere.noFile noSlash)
      rw [Ledger.unbind_eq_self rfl]
      exact ⟨result, disk, removed, .absent nowhere readies⟩

theorem displays (h : registry.Lists ledger disk) : registry.Displays ledger disk := by
  cases h with
  | present stores => exact stores.displays
  | absent nowhere _ => exact nowhere.displays

end Lists

/-- Every call leaves a disk that holds the files of the ledger after it. -/
theorem lists_step {registry : Registry} {ledger : Ledger} {world : World}
    (h : registry.Lists ledger world.disk) {call : RegistryCall} (flat : call.IsFlat)
    (daemon : Daemon) :
    ∃ answer later, Bench.perform (call.action registry) daemon world = (answer, later) ∧
      registry.Lists (ledger.after (call, answer)) later.disk := by
  cases call with
  | save name contract =>
      obtain ⟨result, disk, wrote, cases⟩ := h.writeEntry (flat name rfl) contract
      obtain ⟨later, performed, quiet⟩ := registry.save_spec name contract daemon world
      simp only [wrote] at performed quiet
      refine ⟨_, later, by rw [RegistryCall.action, Bench.perform_map_of performed], ?_⟩
      rw [show later.disk = disk from quiet.disk]
      rcases cases with ⟨rfl, bound⟩ | ⟨⟨e, rfl⟩, unbound⟩
      · exact bound
      · have refused : RegistryAnswer.isSaved ((saveResult (.error e)).map .saved) = false := by
          rw [saveResult]
          split <;> rfl
        simpa [Ledger.after, refused] using unbound
  | load name =>
      obtain ⟨later, performed, quiet⟩ := registry.load_spec (some name) daemon world
      exact ⟨_, later, by rw [RegistryCall.action, Bench.perform_map_of performed], quiet.disk ▸ h⟩
  | lookup name =>
      obtain ⟨later, performed, quiet⟩ := registry.lookup_spec (some name) daemon world
      exact ⟨_, later, by rw [RegistryCall.action, Bench.perform_map_of performed], quiet.disk ▸ h⟩
  | delete name =>
      obtain ⟨result, disk, removed, lists⟩ := h.delete (flat name rfl)
      rw [RegistryCall.action, delete_eq, Bench.perform_map_of (Bench.perform_files _ _ _), removed]
      exact ⟨_, _, rfl, lists⟩
  | names =>
      have same : (FileOp.visibleFiles registry.folder).Preserves (· = world.disk) :=
        FileOp.preserves_visibleFiles registry.folder
      rw [RegistryCall.action, Registry.names, Bench.perform_map_of (Bench.perform_files _ _ _)]
      exact ⟨_, _, rfl, (same world.disk rfl).symm ▸ h⟩

/-- The world after calls, one after the other. -/
def afterCalls (registry : Registry) (daemon : Daemon) (world : World)
    (calls : List RegistryCall) : World :=
  calls.foldl (fun world call => (Bench.perform (call.action registry) daemon world).2) world

/-- The induction is on the calls, and what carries it is that the disk holds the files of the
    ledger. -/
theorem lists_run {registry : Registry} {calls : List RegistryCall} {ledger : Ledger}
    {world : World} (h : registry.Lists ledger world.disk) (flat : ∀ call ∈ calls, call.IsFlat)
    (daemon : Daemon) :
    registry.Lists ((calls.zip (registry.answers daemon world calls)).foldl Ledger.after ledger)
      (registry.afterCalls daemon world calls).disk := by
  induction calls generalizing ledger world with
  | nil => exact h
  | cons call rest ih =>
      obtain ⟨answer, later, performed, lists⟩ := lists_step h (flat call List.mem_cons_self) daemon
      have others := ih lists fun other member => flat other (List.mem_cons_of_mem _ member)
      simp only [answers, afterCalls, List.foldl_cons, List.zip_cons_cons, performed]
      exact others

/-- On a disk with room, after any calls about names without a slash, a registry finds the contracts
    that were kept, and lists their names in increasing order, but for those that begin with a dot.
    The list fails where the path of the folder is too long, and then nothing was kept. -/
theorem lists_all_but_hidden {registry : Registry} {calls : List RegistryCall} {world : World}
    (rooted : world.disk.Rooted) (room : world.disk.full = false)
    (unused : registry.Unused world.disk)
    (flat : ∀ call ∈ calls, call.IsFlat) (daemon : Daemon) :
    let history : RegistryHistory := calls.zip (registry.answers daemon world calls)
    let later := registry.afterCalls daemon world calls
    (∀ name, '/' ∉ name.toList → ∃ contract?,
      (Bench.perform (registry.lookup (some name)) daemon later).1 = .ok ⟨some name, contract?⟩ ∧
      ∀ contract, contract? = some contract ↔ history.Kept name contract) ∧
    (later.disk.RefusesLength registry.folder →
      (Bench.perform registry.names daemon later).1 =
        .error (.file ⟨.nameTooLong, registry.folder.toText⟩) ∧
      ∀ name contract, ¬ history.Kept name contract) ∧
    (¬ later.disk.RefusesLength registry.folder → ∃ names,
      (Bench.perform registry.names daemon later).1 = .ok names ∧
      names.Pairwise (· < ·) ∧
      ∀ name, name ∈ names ↔
        name.startsWith "." = false ∧ ∃ contract, history.Kept name contract) := by
  intro history later
  have lists : registry.Lists (history.foldl Ledger.after .empty) later.disk :=
    lists_run (.of_unused rooted room unused) flat daemon
  have kept (name : String) (contract : Contract) :
      history.foldl Ledger.after .empty name = some contract ↔ history.Kept name contract := by
    simp [Ledger.foldl_after, Ledger.empty]
  obtain ⟨tooLong, short⟩ := lists.displays
  simp only [Registry.names, Bench.perform_files]
  refine ⟨fun name noSlash => ?_, fun refused => ?_, fun followed => ?_⟩
  · obtain ⟨last, performed, -⟩ := registry.lookup_spec (some name) daemon later
    rw [lists.found noSlash] at performed
    exact ⟨_, congrArg Prod.fst performed, kept name⟩
  · obtain ⟨listed, empty⟩ := tooLong refused
    rw [listed]
    refine ⟨rfl, fun name contract held => ?_⟩
    rw [← kept, empty] at held
    cases held
  · obtain ⟨names, listed, increasing, bound⟩ := short followed
    rw [listed]
    refine ⟨names, rfl, increasing, fun name => ?_⟩
    rw [bound, Option.ne_none_iff_exists']
    simp only [kept]

/-- Two entries are saved, and one of them is deleted. -/
def savedAndDeleted : List RegistryCall :=
  [.save "second" secondContract, .save "first" firstContract, .delete "second"]

theorem cache_lists_first :
    ∃ names, (Bench.perform cache.names idleDaemon
        (cache.afterCalls idleDaemon bare savedAndDeleted)).1 = .ok names ∧
      "first" ∈ names ∧ "second" ∉ names := by
  have unused : cache.Unused bare.disk := startsEmpty_cache.unused
  have flat : ∀ call ∈ savedAndDeleted, call.IsFlat := by
    simp [savedAndDeleted, RegistryCall.IsFlat, RegistryCall.name?]
  obtain ⟨-, -, short⟩ := lists_all_but_hidden rooted_bare rfl unused flat idleDaemon
  have folder : Disk.find (cache.afterCalls idleDaemon bare savedAndDeleted).disk cache.folder =
      .ok (.node ["cache"] .folder) := by decide +kernel
  obtain ⟨names, listed, -, member⟩ := short (by simp [← Disk.find_eq_nameTooLong, folder])
  have answered : cache.answers idleDaemon bare savedAndDeleted =
      [.ok (.saved true), .ok (.saved true), .ok .deleted] := by decide +kernel
  rw [answered] at member
  refine ⟨names, listed, (member "first").mpr ⟨by decide +kernel, firstContract, ?_⟩, ?_⟩
  · exact ⟨[_], [_], rfl, by simp [RegistryCall.touches]⟩
  · rw [member]
    rintro ⟨-, contract, held⟩
    simp [savedAndDeleted, RegistryHistory.kept_cons, RegistryCall.touches] at held

theorem find_far_of_long {n : Nat} (long : Disk.longestPath < 5 * n + 1) (disk : Disk) :
    disk.find (far n).folder = .error .nameTooLong := by
  obtain ⟨length, noNul⟩ := text_zigzag n
  rw [Disk.find_eq_nameTooLong]
  have text : (far n).folder.toText = "/".intercalate (zigzag n) := by
    rw [far, Path.toText, if_neg (by simp [zigzag_ne_nil])]
    exact String.empty_append
  exact ⟨by rwa [HoldsNul, text], .inl (by rwa [text, length])⟩

/-- Below a path that is too long nothing is ever made. -/
theorem unused_of_refused {registry : Registry} {disk : Disk}
    (refused : disk.find registry.folder = .error .nameTooLong) : registry.Unused disk := by
  intro result made performed place node there
  obtain rfl : disk = made := by
    simp only [FileOp.perform_ensureFolders, FileOp.perform_ensureFolder, refused] at performed
    split at performed <;> simp_all
  simp [refused] at there

/-- An entry whose name begins with a dot is saved and found but not listed, and where the path of
    the folder is too long the list fails. -/
theorem not_all_listed :
    (cache.Unused bare.disk ∧ '/' ∉ ".first".toList ∧
      (Bench.perform (cache.save ".first" firstContract) idleDaemon bare).1 = .ok true ∧
      (Bench.perform (cache.lookup (some ".first")) idleDaemon
        (Bench.perform (cache.save ".first" firstContract) idleDaemon bare).2).1 =
          .ok ⟨some ".first", some firstContract⟩ ∧
      (Bench.perform cache.names idleDaemon
        (Bench.perform (cache.save ".first" firstContract) idleDaemon bare).2).1 = .ok []) ∧
    (far 819).Unused (.ofNodes [(["c"], .folder)]) ∧
      (Bench.perform (far 819).names idleDaemon (.start (.ofNodes [(["c"], .folder)]) [])).1 =
        .error (.file ⟨.nameTooLong, (far 819).folder.toText⟩) := by
  have refused := find_far_of_long (by decide : Disk.longestPath < 5 * 819 + 1)
    (.ofNodes [(["c"], .folder)])
  have nowhere : (far 819).Nowhere (.ofNodes [(["c"], .folder)]) := by
    intro place node
    simp [refused]
  refine ⟨⟨startsEmpty_cache.unused, by decide +kernel, by decide +kernel, by decide +kernel,
    by decide +kernel⟩, unused_of_refused refused, ?_⟩
  rw [Registry.names, Bench.perform_files, World.start,
    (FileOp.perform_visibleFiles_of_nowhere nowhere).1 refused]
  rfl

end Registry

end ContractBench
