import ContractBench.Proofs.Apart

/-! # What saving does to the disk

Before an entry is written the folder of the registry and its lock are made, and nothing on the disk
goes or changes (`openFolder_prepares`). Then the entry is written, or it is not and the disk stays
as it was prepared, but that on a full disk the file of the entry is left empty. So a save that
gives true has written one entry, which is found again unless it was written to a device, and no
other file but the lock is new; after any other save no other file is lost, and on a disk with room
what was kept under the name is still found (`writes_one_or_none`).
-/

namespace ContractBench

namespace Disk

/-- From one disk to the next nothing went and nothing changed. -/
structure Extends (disk later : Disk) : Prop where
  workDir : later.workDir = disk.workDir
  full : later.full = disk.full
  kept : ∀ place node, disk.at? place = some node → later.at? place = some node

variable {disk later : Disk}

theorem Grows.extended (h : disk.Grows later) : disk.Extends later :=
  ⟨h.workDir, h.full, h.kept⟩

namespace Extends

theorem put {place : Location} (h : disk.Extends later) (free : later.at? place = none)
    (node : Node) : disk.Extends (later.put place node) := by
  refine ⟨h.workDir, h.full, fun q old there => ?_⟩
  have kept := h.kept q old there
  have elsewhere : q ≠ place := by
    rintro rfl
    rw [free] at kept
    cases kept
  rw [at?_put_of_ne _ elsewhere, kept]

/-- A file that can be read is still read as it was. -/
theorem content {path : Path} {bytes : List UInt8} (h : disk.Extends later)
    (held : disk.content path = .ok bytes) : later.content path = .ok bytes := by
  obtain ⟨place, kind, known⟩ := content_eq_ok.mp held
  have there := at?_of_found known
  exact content_eq_ok.mpr ⟨place, kind,
    find_kept h.workDir (fun q isFolder => h.kept q _ isFolder) (h.kept _ _ there) known⟩

end Extends

/-- A path to a file or a folder is not disturbed by what is put at another place, where no folder
    was. -/
theorem LeadsTo.put_other {path : Path} {place other : Location} {node : Node}
    (h : disk.LeadsTo path place) (elsewhere : place ≠ other)
    (fresh : disk.at? other ≠ some .folder) : (disk.put other node).LeadsTo path place := by
  obtain ⟨old, known⟩ := h
  have there := at?_of_found known
  have sameOrigin : (disk.put other node).workDir = disk.workDir := rfl
  refine ⟨old, find_kept sameOrigin (fun q isFolder => ?_) ?_ known⟩
  · have apart : q ≠ other := fun same => fresh (same ▸ isFolder)
    rw [at?_put_of_ne _ apart, isFolder]
  · rw [at?_put_of_ne _ elsewhere, there]

theorem LeadsTo.keep_other {path : Path} {place other : Location} {kind : FileKind}
    {bytes : List UInt8} (h : disk.LeadsTo path place) (elsewhere : place ≠ other)
    (fresh : disk.at? other ≠ some .folder) : (disk.keep other kind bytes).LeadsTo path place := by
  rcases disk.keep_cases other kind bytes with same | put
  · rwa [same]
  · rw [put]
    exact h.put_other elsewhere fresh

end Disk

namespace Registry

/-- From one disk to the next no file is lost or changed but at the places that were written, and
    no file is new but there, and an empty one for the lock. -/
structure FilesKept (registry : Registry) (written : Location → Prop) (before after : Disk) :
    Prop where
  kept : ∀ place, ¬ written place → ∀ bytes kind,
    before.at? place = some (.file bytes kind) → after.at? place = some (.file bytes kind)
  fresh : ∀ place, ¬ written place → ∀ bytes kind,
    after.at? place = some (.file bytes kind) →
      before.at? place = some (.file bytes kind) ∨
        bytes = [] ∧ after.LeadsTo (registry.pathOf lockFile) place

/-- From one disk to the next some folders were made, and maybe an empty lock. -/
structure Prepared (registry : Registry) (disk later : Disk) : Prop where
  extended : disk.Extends later
  fresh : ∀ place bytes kind, later.at? place = some (.file bytes kind) →
    disk.at? place = some (.file bytes kind) ∨
      bytes = [] ∧ later.LeadsTo (registry.pathOf lockFile) place

variable {registry : Registry} {disk later : Disk}

theorem Prepared.of_grows (h : disk.Grows later) : registry.Prepared disk later :=
  ⟨h.extended, fun place bytes kind there => .inl ((h.file_iff place bytes kind).mp there)⟩

theorem Prepared.filesKept (h : registry.Prepared disk later) :
    registry.FilesKept (fun _ => False) disk later :=
  ⟨fun place _ _ _ there => h.extended.kept place _ there,
    fun place _ bytes kind there => h.fresh place bytes kind there⟩

theorem openFolder_prepares (registry : Registry) (disk : Disk) :
    registry.Prepared disk (registry.openFolder.perform disk).2 := by
  have grows := FileOp.grows_ensureFolders disk registry.folder
  rw [openFolder, FileOp.perform_bind]
  rcases ensured : (FileOp.ensureFolders registry.folder).perform disk with ⟨e | _, made⟩
  all_goals rw [ensured] at grows
  · exact .of_grows grows
  simp only [FileOp.perform_touch]
  cases known : made.find (registry.pathOf lockFile) with
  | error fault => exact .of_grows grows
  | ok found =>
      rcases found with ⟨place, bytes | _⟩ | place
      · exact .of_grows grows
      · exact .of_grows grows
      · have free := (Disk.at?_of_gap known).1
        refine ⟨grows.extended.put free _, fun q bytes kind there => ?_⟩
        rcases Disk.file_of_put there with ⟨rfl, same⟩ | ⟨-, before⟩
        · obtain ⟨rfl, rfl⟩ := Node.file.inj same
          exact .inr ⟨rfl, _, Disk.find_put (.file [] .plain) known (by simp [free])⟩
        · exact .inl ((grows.file_iff q bytes kind).mp before)

/-- On a prepared disk the file of the entry is written, and no other file is. -/
theorem Prepared.keep {name : String} {opened : Disk} {place : Location} {kind : FileKind}
    (h : registry.Prepared disk opened) (opens : opened.Opens (registry.pathOf name) place kind)
    (bytes : List UInt8) :
    registry.FilesKept ((opened.keep place kind bytes).LeadsTo (registry.pathOf name)) disk
      (opened.keep place kind bytes) := by
  obtain ⟨held, entry⟩ := opens.find_keep bytes
  have elsewhere {q : Location}
      (other : ¬ (opened.keep place kind bytes).LeadsTo (registry.pathOf name) q) : q ≠ place := by
    rintro rfl
    exact other ⟨_, entry⟩
  refine ⟨fun q other bytes runs there => ?_, fun q other bytes runs there => ?_⟩
  · rw [Disk.at?_keep_of_ne _ _ (elsewhere other)]
    exact h.extended.kept q _ there
  · rw [Disk.at?_keep_of_ne _ _ (elsewhere other)] at there
    exact (h.fresh q bytes runs there).imp_right fun ⟨empty, leads⟩ =>
      ⟨empty, leads.keep_other (elsewhere other) opens.fresh⟩

variable {name : String} {contract : Contract}

theorem prepared_of_opened {opened : Disk} {result : Except FileError Unit}
    (opening : registry.openFolder.perform disk = (result, opened)) :
    registry.Prepared disk opened := by
  have prepared := registry.openFolder_prepares disk
  rwa [opening] at prepared

/-- An entry that is written is kept by its file, or taken by a device. -/
theorem files_of_written
    (wrote : (registry.writeEntry name contract).perform disk = (.ok (), later)) :
    (registry.HoldsEntry name contract later ∧
      registry.FilesKept (later.LeadsTo (registry.pathOf name)) disk later) ∨
    (later.OnDevice (registry.pathOf name) ∧ registry.FilesKept (fun _ => False) disk later) := by
  rw [writeEntry_eq, FileOp.perform_bind] at wrote
  rcases opening : registry.openFolder.perform disk with ⟨e | _, opened⟩
  · simp [opening] at wrote
  rw [opening] at wrote
  have prepared := prepared_of_opened opening
  obtain ⟨place, kind, opens, -, rfl⟩ := FileOp.written_cases wrote
  cases regular : kind.isRegular with
  | true =>
      exact .inl ⟨FileOp.content_of_kept opens regular _, prepared.keep opens _⟩
  | false =>
      obtain ⟨bytes, known⟩ := opens.of_device regular
      rw [Disk.keep_device regular]
      exact .inr ⟨⟨place, bytes, kind, known, regular⟩, prepared.filesKept⟩

/-- An entry that is not written leaves the disk as it was prepared for it, or its own file empty on
    a full disk. -/
theorem files_of_unwritten {e : FileError}
    (refused : (registry.writeEntry name contract).perform disk = (.error e, later)) :
    registry.Prepared disk later ∨
    (disk.full = true ∧ e.fault = .noSpace ∧ later.content (registry.pathOf name) = .ok [] ∧
      registry.FilesKept (later.LeadsTo (registry.pathOf name)) disk later) := by
  rw [writeEntry_eq, FileOp.perform_bind] at refused
  rcases opening : registry.openFolder.perform disk with ⟨e | _, opened⟩
  · rw [opening] at refused
    obtain ⟨-, rfl⟩ := Prod.mk.inj refused
    exact .inl (prepared_of_opened opening)
  rw [opening] at refused
  have prepared := prepared_of_opened opening
  rcases FileOp.unwritten_cases refused with ⟨-, -, rfl⟩ | ⟨place, kind, opens, noRoom, space, rfl⟩
  · exact .inl prepared
  · cases regular : kind.isRegular with
    | true =>
        refine .inr ⟨?_, space, FileOp.content_of_kept opens regular _, prepared.keep opens _⟩
        rw [← prepared.extended.full]
        exact Disk.full_of_hasRoom regular noRoom
    | false =>
        rw [Disk.keep_device regular]
        exact .inl prepared

theorem load_eq (registry : Registry) (name : Option String) (daemon : Daemon) (world : World) :
    (Bench.perform (registry.load name) daemon world).1 = registry.found world.disk name := by
  obtain ⟨_, spec, -⟩ := registry.load_spec name daemon world
  rw [spec]

theorem found_of_extended (h : disk.Extends later)
    (kept : registry.found disk (some name) = .ok contract) :
    registry.found later (some name) = .ok contract := by
  cases held : disk.content (registry.pathOf name) with
  | error fault =>
      rw [found_of_unreadable held] at kept
      contradiction
  | ok bytes => rw [found_congr ((h.content held).trans held.symm), kept]

/-- A save that gives true has written one entry: it is found, and every other file is as it was,
    but that an empty lock may be new. To a device nothing is written at all. After any other save,
    also one that fails, all files are as they were, but for the lock, and what was found under the
    name is still found, unless the disk is full: then the file of the entry may be empty. A lock
    that was there is never changed, unless it is the entry itself. -/
theorem writes_one_or_none (registry : Registry) (name : String) (contract : Contract)
    (daemon : Daemon) (world : World) :
    let path := registry.pathOf name
    let saved := Bench.perform (registry.save name contract) daemon world
    let load (world : World) := (Bench.perform (registry.load (some name)) daemon world).1
    (saved.1 = .ok true →
      (load saved.2 = .ok contract ∧
        registry.FilesKept (saved.2.disk.LeadsTo path) world.disk saved.2.disk) ∨
      (saved.2.disk.OnDevice path ∧
        registry.FilesKept (fun _ => False) world.disk saved.2.disk)) ∧
    (saved.1 ≠ .ok true →
      (registry.FilesKept (fun _ => False) world.disk saved.2.disk ∧
        ∀ kept, load world = .ok kept → load saved.2 = .ok kept) ∨
      (world.disk.full = true ∧ saved.1 = .ok false ∧ saved.2.disk.content path = .ok [] ∧
        registry.FilesKept (saved.2.disk.LeadsTo path) world.disk saved.2.disk)) := by
  intro path saved load
  have loads (world : World) : load world = registry.found world.disk (some name) :=
    registry.load_eq (some name) daemon world
  obtain ⟨later, performed, quiet⟩ := registry.save_spec name contract daemon world
  have same : saved = (_, later) := performed
  have disk : later.disk = ((registry.writeEntry name contract).perform world.disk).2 := quiet.disk
  simp only [same, loads, disk]
  rcases wrote : (registry.writeEntry name contract).perform world.disk with ⟨e | _, written⟩
  · refine ⟨fun impossible => ?_, fun _ => ?_⟩
    · cases written_of_saveResult impossible
    rcases files_of_unwritten wrote with prepared | ⟨full, space, empty, files⟩
    · exact .inl ⟨prepared.filesKept, fun kept found => found_of_extended prepared.extended found⟩
    · refine .inr ⟨full, ?_, empty, files⟩
      simp [saveResult, space]
  · refine ⟨fun _ => ?_, fun refused => absurd rfl refused⟩
    exact (files_of_written wrote).imp_left (And.imp_left found_of_holds)

/-- A world in which a folder has taken the place of the lock, so that nothing can be saved. -/
def lockedOut : World :=
  .start (.ofNodes [(["cache"], .folder), (["cache", ".lock"], .folder),
    (["cache", "first"], .file (Utf8.encode firstContract.encode) .plain)]) []

def refusedSecond : Except Failure Bool × World :=
  Bench.perform (cache.save "first" secondContract) idleDaemon lockedOut

theorem first_written_and_kept :
    (Bench.perform (cache.load (some "first")) idleDaemon keptFirst).1 = .ok firstContract ∧
    cache.FilesKept (keptFirst.disk.LeadsTo (cache.pathOf "first")) bare.disk keptFirst.disk ∧
    refusedSecond.1 = .ok false ∧
    (Bench.perform (cache.load (some "first")) idleDaemon refusedSecond.2).1 =
      .ok firstContract := by
  obtain ⟨written, -⟩ := cache.writes_one_or_none "first" firstContract idleDaemon bare
  obtain ⟨-, kept⟩ := cache.writes_one_or_none "first" secondContract idleDaemon lockedOut
  have run : Bench.perform (cache.save "first" secondContract) idleDaemon lockedOut =
    refusedSecond := rfl
  rw [kept_first] at written
  rw [run] at kept
  have entry : keptFirst.disk.find (cache.pathOf "first") = .ok (.node ["cache", "first"]
      (.file (Utf8.encode firstContract.encode) .plain)) := by decide +kernel
  obtain ⟨found, files⟩ := (written rfl).resolve_right fun ⟨device, _⟩ =>
    Disk.not_onDevice entry rfl device
  have refused : refusedSecond.1 = .ok false := by decide +kernel
  have before : (Bench.perform (cache.load (some "first")) idleDaemon lockedOut).1 =
      .ok firstContract := by decide +kernel
  have other : refusedSecond.1 ≠ .ok true := by rw [refused]; nofun
  have room : lockedOut.disk.full ≠ true := by decide
  obtain ⟨-, still⟩ := (kept other).resolve_right fun ⟨full, _⟩ => room full
  exact ⟨found, files, refused, still firstContract before⟩

/-- A world with a device that takes all bytes and keeps none. -/
def withSink : World :=
  .start (.ofNodes [(["dev"], .folder), (["dev", "null"], .file [] .sink)]) []

/-- The world in which the first contract was kept, and the disk ran full afterwards. -/
def ranFull : World := keptFirst.withDisk { keptFirst.disk with full := true }

/-- A save that gives true does not always leave what is found again, and one that gives false does
    not always leave what was there. -/
theorem not_always_one_or_none :
    let swallowed := Bench.perform (cache.save "/dev/null" firstContract) idleDaemon withSink
    let refused := Bench.perform (cache.save "first" secondContract) idleDaemon ranFull
    let load (name : String) (world : World) :=
      (Bench.perform (cache.load (some name)) idleDaemon world).1
    (swallowed.1 = .ok true ∧ load "/dev/null" swallowed.2 ≠ .ok firstContract) ∧
    load "first" ranFull = .ok firstContract ∧ refused.1 = .ok false ∧
      load "first" refused.2 ≠ .ok firstContract := by
  decide +kernel

end Registry

end ContractBench
