import ContractBench.Proofs.Growth
import ContractBench.Proofs.Keeping

/-! # Entries apart

A name of a single part stands for a file in the folder of the registry. Two such names with
different parts stand for different files, and neither saving nor deleting the one changes what is
found under the other (`entries_apart`), unless making the folder opens the way to one that was
there before, or the other name is that of the lock. A name with more parts can lie anywhere on the
disk, and two names with the same part are one (`not_always_apart`).
-/

namespace ContractBench

namespace Path

/-- A text with no root in which only one part says something. -/
structure Single (text part : String) : Prop where
  relative : rootOf text = ""
  parts : namesIn text = [part]

theorem join_single (base : Path) {text part : String} (h : Single text part) :
    base.join text = ⟨base.root, base.parts ++ [part]⟩ := by
  rw [join, if_pos h.relative, h.parts]

end Path

namespace Disk

variable {disk : Disk}

theorem follow_last {base : Location} {names : List String} {name : String} {found : Found}
    (down : name ≠ "..") (followed : disk.follow base (names ++ [name]) = .ok found) :
    ∃ place, disk.follow base names = .ok (.node place .folder) ∧
      ¬ longestName < Utf8.byteLength name ∧ found = disk.child place name := by
  rw [follow_append (by simp)] at followed
  rcases above : disk.follow base names with fault | ⟨place, node⟩ | place
  · rw [above] at followed
    contradiction
  · simp only [above, follow_cons, if_neg down] at followed
    have present := follow_node above
    cases node with
    | file bytes kind => simp [present] at followed
    | folder =>
        rw [present] at followed
        by_cases long : longestName < Utf8.byteLength name
        · simp [long] at followed
        · refine ⟨place, rfl, long, ?_⟩
          rw [child]
          cases there : disk.at? (place ++ [name]) with
          | none => simpa [long, there, eq_comm] using followed
          | some node => simpa [long, there, follow, eq_comm] using followed
  · rw [above] at followed
    contradiction

@[simp] theorem child_place (disk : Disk) (place : Location) (name : String) :
    (disk.child place name).place = place ++ [name] := by
  rw [child]
  cases disk.at? (place ++ [name]) <;> rfl

theorem content_of_child {disk' : Disk} {path : Path} {place : Location} {name : String}
    (found : disk.find path = .ok (disk.child place name))
    (found' : disk'.find path = .ok (disk'.child place name))
    (same : disk'.at? (place ++ [name]) = disk.at? (place ++ [name])) :
    disk'.content path = disk.content path := by
  rw [content, content, found, found', child, child, same]

/-- A folder is still found after something is put where no folder was. -/
theorem follow_put_other {base place other : Location} {names : List String} (node : Node)
    (fresh : disk.at? other ≠ some .folder)
    (followed : disk.follow base names = .ok (.node place .folder)) :
    (disk.put other node).follow base names = .ok (.node place .folder) := by
  refine follow_keeps (fun q isFolder => ?_) followed
  have elsewhere : q ≠ other := fun same => fresh (by rw [← same, isFolder])
  rw [at?_put_of_ne _ elsewhere, isFolder]

end Disk

namespace Registry

variable {registry : Registry} {name part : String} {disk : Disk}

/-- What the names of the folder lead to, apart from the length of its path. -/
def reach (registry : Registry) (disk : Disk) : Except FileFault Disk.Found :=
  disk.follow (disk.origin registry.folder) registry.folder.parts

theorem reach_keep {place other : Location} (kind : FileKind) (bytes : List UInt8)
    (fresh : disk.at? other ≠ some .folder)
    (reached : registry.reach disk = .ok (.node place .folder)) :
    registry.reach (disk.keep other kind bytes) = .ok (.node place .folder) := by
  rcases disk.keep_cases other kind bytes with same | put
  · rwa [same]
  · rw [put]
    exact Disk.follow_put_other _ fresh reached

theorem find_of_single {found : Disk.Found} (single : Path.Single name part)
    (known : disk.find (registry.pathOf name) = .ok found) (disk' : Disk) :
    disk'.find (registry.pathOf name) =
      disk'.follow (disk'.origin registry.folder) (registry.folder.parts ++ [part]) := by
  rw [Disk.find_eq_follow known, pathOf, Path.join_single _ single]
  rfl

/-- A name whose path is in order and, where the folder is, leads to a child of it. -/
structure IsChild (registry : Registry) (name part : String) : Prop where
  down : part ≠ ".."
  short : ¬ Disk.longestName < Utf8.byteLength part
  steps : ∀ disk : Disk, disk.find (registry.pathOf name) =
    disk.follow (disk.origin registry.folder) (registry.folder.parts ++ [part])

namespace IsChild

theorem of_found {found : Disk.Found} (single : Path.Single name part) (down : part ≠ "..")
    (known : disk.find (registry.pathOf name) = .ok found) : registry.IsChild name part := by
  have steps := find_of_single single known
  rw [steps] at known
  obtain ⟨-, -, short, -⟩ := Disk.follow_last down known
  exact ⟨down, short, steps⟩

theorem find (h : registry.IsChild name part) {place : Location}
    (opened : registry.reach disk = .ok (.node place .folder)) :
    disk.find (registry.pathOf name) = .ok (disk.child place part) := by
  rw [h.steps, Disk.follow_append (by simp), show disk.follow _ _ = _ from opened]
  simp only [Disk.follow_cons, Disk.follow_node opened, if_neg h.down, if_neg h.short, Disk.child]
  cases there : disk.at? (place ++ [part]) with
  | none => rfl
  | some node => simp [Disk.follow, there]

theorem find_absent (h : registry.IsChild name part)
    (absent : registry.reach disk = .error .notFound ∨
      ∃ gap, registry.reach disk = .ok (.gap gap)) :
    disk.find (registry.pathOf name) = .error .notFound := by
  rw [h.steps, Disk.follow_append (by simp)]
  rcases absent with none | ⟨gap, there⟩
  · rw [show disk.follow _ _ = _ from none]
  · rw [show disk.follow _ _ = _ from there]

end IsChild

/-! ## Opening the folder -/

/-- What is done for every entry before it is written. -/
def openFolder (registry : Registry) : FileOp Unit := do
  FileOp.ensureFolders registry.folder
  FileOp.touch (registry.pathOf lockFile)

theorem writeEntry_eq (registry : Registry) (name : String) (contract : Contract) :
    registry.writeEntry name contract = registry.openFolder >>= fun _ =>
      FileOp.writeText (registry.pathOf name) contract.encode := by
  rw [writeEntry, openFolder, bind_assoc]

/-- The folder is open at a place: it is there, and so is the lock. -/
structure Opened (registry : Registry) (disk : Disk) (place : Location) (later : Disk) : Prop where
  folder : later.find registry.folder = .ok (.node place .folder)
  rooted : disk.Rooted → later.Rooted
  files : ∀ q, q ≠ place ++ [lockFile] → ∀ bytes kind,
    later.at? q = some (.file bytes kind) ↔ disk.at? q = some (.file bytes kind)
  lock : disk.at? (place ++ [lockFile]) ≠ none →
    later.at? (place ++ [lockFile]) = disk.at? (place ++ [lockFile])
  /-- If the folder was there, only the lock can be new. -/
  before : (registry.reach disk = .ok (.node place .folder) ∧
      ∀ q, q ≠ place ++ [lockFile] → later.at? q = disk.at? q) ∨
    registry.reach disk = .error .notFound ∨ ∃ gap, registry.reach disk = .ok (.gap gap)

theorem touch_lock_cases {place : Location} {later : Disk}
    (folder : disk.find registry.folder = .ok (.node place .folder))
    (touched : (FileOp.touch (registry.pathOf lockFile)).perform disk = (.ok (), later)) :
    later = disk ∨ disk.at? (place ++ [lockFile]) = none ∧
      later = disk.put (place ++ [lockFile]) (.file [] .plain) := by
  rw [FileOp.perform_touch, pathOf, Disk.find_join isName_lockFile folder] at touched
  by_cases long : Disk.longestPath < Utf8.byteLength (registry.folder.join lockFile).toText
  · simp [long] at touched
  · rw [if_neg long, Disk.child] at touched
    cases there : disk.at? (place ++ [lockFile]) with
    | none => exact .inr ⟨rfl, by simpa [there, eq_comm] using touched⟩
    | some node =>
        cases node with
        | folder => simp [there] at touched
        | file bytes kind => exact .inl (by simpa [there, eq_comm] using touched)

theorem ensured_folder {made : Disk}
    (ensured : (FileOp.ensureFolders registry.folder).perform disk = (.ok (), made)) :
    ∃ place, disk.Grows made ∧ made.find registry.folder = .ok (.node place .folder) ∧
      ((registry.reach disk = .ok (.node place .folder) ∧ made = disk) ∨
        registry.reach disk = .error .notFound ∨ ∃ gap, registry.reach disk = .ok (.gap gap)) := by
  have grows := FileOp.grows_ensureFolders disk registry.folder
  rw [ensured] at grows
  obtain ⟨place, folder⟩ := FileOp.ensureFolders_ok ensured
  refine ⟨place, grows, folder, ?_⟩
  rcases FileOp.find_of_ensureFolders ensured with ⟨there, found⟩ | none | ⟨gap, found⟩
  · rw [FileOp.perform_ensureFolders_of_folder found] at ensured
    obtain rfl : disk = made := (Prod.mk.inj ensured).2
    exact .inl ⟨Disk.follow_of_found folder, rfl⟩
  · exact .inr (.inl (Disk.follow_of_find none (by simp) (by simp)))
  · exact .inr (.inr ⟨gap, Disk.follow_of_found found⟩)

theorem opened_of_ok {later : Disk} (ok : registry.openFolder.perform disk = (.ok (), later)) :
    ∃ place, registry.Opened disk place later := by
  rw [openFolder, FileOp.perform_bind] at ok
  rcases ensured : (FileOp.ensureFolders registry.folder).perform disk with ⟨e | done, made⟩
  · simp [ensured] at ok
  rw [ensured] at ok
  obtain ⟨place, grows, folder, before⟩ := ensured_folder ensured
  have followed := Disk.follow_of_found folder
  refine ⟨place, ?_⟩
  rcases touch_lock_cases folder ok with rfl | ⟨absent, rfl⟩
  · refine ⟨folder, grows.rooted, fun q _ => grows.file_iff q, ?_, ?_⟩
    · intro held
      obtain ⟨node, there⟩ := Option.ne_none_iff_exists'.mp held
      rw [there, grows.kept _ _ there]
    · refine before.imp_left fun ⟨there, same⟩ => ⟨there, fun q _ => ?_⟩
      rw [same]
  · have fresh : made.at? (place ++ [lockFile]) ≠ some .folder := by simp [absent]
    refine ⟨?_, ?_, ?_, ?_, ?_⟩
    · rw [Disk.find_eq_follow folder]
      exact Disk.follow_put_other _ fresh followed
    · intro rooted
      exact (grows.rooted rooted).put (Disk.follow_node followed) fresh
    · intro q elsewhere bytes kind
      rw [Disk.at?_put_of_ne _ elsewhere]
      exact grows.file_iff q bytes kind
    · intro held
      obtain ⟨node, there⟩ := Option.ne_none_iff_exists'.mp held
      rw [grows.kept _ _ there] at absent
      contradiction
    · refine before.imp_left fun ⟨there, same⟩ => ⟨there, fun q elsewhere => ?_⟩
      rw [Disk.at?_put_of_ne _ elsewhere, same]

/-! ## Writing and deleting one entry -/

/-- On a sound disk the file of a single part is a child of the folder. -/
theorem written_single {place : Location} {text : String} {later : Disk}
    (single : Path.Single name part) (rooted : disk.Rooted)
    (folder : registry.reach disk = .ok (.node place .folder))
    (wrote : (FileOp.writeText (registry.pathOf name) text).perform disk = (.ok (), later)) :
    registry.IsChild name part ∧ ∃ kind,
      disk.Opens (registry.pathOf name) (place ++ [part]) kind ∧
      later = disk.keep (place ++ [part]) kind (Utf8.encode text) := by
  obtain ⟨file, kind, opens, -, rfl⟩ := FileOp.written_cases wrote
  obtain ⟨found, known, rfl, fresh⟩ := opens.found
  have down : part ≠ ".." := by
    -- A double dot leads to the folder above, where no text can be written.
    rintro rfl
    have above := rooted.above (Disk.follow_node folder)
    rw [find_of_single single known, Disk.follow_append (by simp),
      show disk.follow _ _ = _ from folder] at known
    simp only [Disk.follow_up (Disk.follow_node folder), Disk.follow, above] at known
    obtain rfl := Except.ok.inj known
    exact fresh above
  have child := IsChild.of_found single down known
  obtain rfl : disk.child place part = found :=
    Except.ok.inj ((child.find folder).symm.trans known)
  rw [Disk.child_place] at opens ⊢
  exact ⟨child, kind, opens, rfl⟩

theorem found_congr {disk' : Disk}
    (same : disk'.content (registry.pathOf name) = disk.content (registry.pathOf name)) :
    registry.found disk' (some name) = registry.found disk (some name) := by
  rw [found, found, entry, entry, same]

variable {other otherPart : String}

theorem content_of_deleted (h : registry.IsChild name part) (h' : registry.IsChild other otherPart)
    (different : otherPart ≠ part) (disk : Disk) :
    ((FileOp.removeIfThere (registry.pathOf name)).perform disk).2.content
      (registry.pathOf other) = disk.content (registry.pathOf other) := by
  rw [FileOp.perform_removeIfThere]
  rcases known : disk.find (registry.pathOf name) with fault | ⟨file, bytes | _⟩ | gap
  · cases fault <;> rfl
  · rw [h.steps] at known
    obtain ⟨place, folder, -, isChild⟩ := Disk.follow_last h.down known
    obtain rfl : file = place ++ [part] := by
      have places := congrArg Disk.Found.place isChild
      rwa [Disk.child_place] at places
    have isFile := Disk.follow_node known
    have folder' : registry.reach (disk.erase (place ++ [part])) = .ok (.node place .folder) := by
      refine Disk.follow_keeps (fun q isFolder => ?_) folder
      have elsewhere : q ≠ place ++ [part] := by
        rintro rfl
        rw [isFile] at isFolder
        cases isFolder
      rw [Disk.at?_erase_of_ne elsewhere, isFolder]
    exact Disk.content_of_child (h'.find folder) (h'.find folder')
      (Disk.at?_erase_of_ne (by simpa using different))
  · rfl
  · rfl

/-- Writing one entry does not change what the other's file holds, as long as no folder comes into
    sight that was there before, and the lock is not made. -/
theorem content_of_written_other {place : Location} {opened : Disk} {kind : FileKind}
    {bytes : List UInt8} (isOpen : registry.Opened disk place opened) (rooted : disk.Rooted)
    (fresh : opened.at? (place ++ [part]) ≠ some .folder)
    (h : registry.IsChild other otherPart)
    (fresh' : opened.at? (place ++ [otherPart]) ≠ some .folder)
    (different : otherPart ≠ part)
    (inSight : registry.reach disk = .ok (.node place .folder) ∨ disk.at? place = none)
    (locked : otherPart ≠ lockFile ∨ disk.at? (place ++ [lockFile]) ≠ none) :
    (opened.keep (place ++ [part]) kind bytes).content (registry.pathOf other) =
      disk.content (registry.pathOf other) := by
  have folder : registry.reach opened = .ok (.node place .folder) :=
    Disk.follow_of_found isOpen.folder
  have folder' : registry.reach (opened.keep (place ++ [part]) kind bytes) =
      .ok (.node place .folder) := reach_keep kind bytes fresh folder
  have elsewhere : place ++ [otherPart] ≠ place ++ [part] := by simpa using different
  have kept : (opened.keep (place ++ [part]) kind bytes).at? (place ++ [otherPart]) =
      opened.at? (place ++ [otherPart]) := Disk.at?_keep_of_ne kind bytes elsewhere
  rcases isOpen.before with ⟨there, others⟩ | absent
  · refine Disk.content_of_child (h.find there) (h.find folder') (kept.trans ?_)
    by_cases isLock : otherPart = lockFile
    · rw [isLock]
      exact isOpen.lock (locked.resolve_left (not_not_intro isLock))
    · exact others _ (by simpa using isLock)
  · -- The folder is new, so there was nothing in it, and the entry's file was not made.
    have empty : disk.at? place = none := by
      refine inSight.resolve_left fun there => ?_
      rcases absent with none | ⟨gap, found⟩
      · cases there.symm.trans none
      · cases there.symm.trans found
    have nothing (part : String) : disk.at? (place ++ [part]) = none := by
      cases held : disk.at? (place ++ [part]) with
      | none => rfl
      | some node =>
          rw [rooted _ _ _ held] at empty
          contradiction
    have notLock : otherPart ≠ lockFile := locked.resolve_right (not_not_intro (nothing lockFile))
    have missing : opened.at? (place ++ [otherPart]) = none := by
      cases held : opened.at? (place ++ [otherPart]) with
      | none => rfl
      | some node =>
          cases node with
          | folder => exact absurd held fresh'
          | file bytes kind =>
              have before := (isOpen.files _ (by simpa using notLock) bytes kind).mp held
              rw [nothing] at before
              contradiction
    rw [Disk.content, Disk.content, h.find_absent absent, h.find folder', Disk.child, kept,
      missing]

/-! ## Saving -/

/-- A save wrote a file that is a child of the folder, and no other file but maybe the lock. A file
    that keeps bytes holds the contract then. -/
structure WroteChild (registry : Registry) (name part : String) (contract : Contract)
    (place : Location) (before after : Disk) : Prop where
  folder : after.find registry.folder = .ok (.node place .folder)
  file : ∃ bytes kind,
    after.find (registry.pathOf name) = .ok (.node (place ++ [part]) (.file bytes kind)) ∧
      (kind.isRegular = true → bytes = Utf8.encode contract.encode)
  others : ∀ q, q ≠ place ++ [part] → q ≠ place ++ [lockFile] → ∀ bytes kind,
    after.at? q = some (.file bytes kind) ↔ before.at? q = some (.file bytes kind)
  rooted : after.Rooted

variable {daemon : Daemon} {contract contract' : Contract} {world later later' : World}

theorem WroteChild.place_eq {place there : Location} {before after : Disk}
    (h : registry.WroteChild name part contract place before after)
    (known : after.find registry.folder = .ok (.node there .folder)) : place = there := by
  have same := h.folder.symm.trans known
  cases same
  rfl

theorem save_opened
    (saved : Bench.perform (registry.save name contract) daemon world = (.ok true, later)) :
    ∃ opened, registry.openFolder.perform world.disk = (.ok (), opened) ∧
      (FileOp.writeText (registry.pathOf name) contract.encode).perform opened =
        (.ok (), later.disk) := by
  obtain ⟨wrote, -⟩ := save_true saved
  rw [writeEntry_eq, FileOp.perform_bind] at wrote
  rcases opening : registry.openFolder.perform world.disk with ⟨e | done, opened⟩
  · simp [opening] at wrote
  · rw [opening] at wrote
    exact ⟨opened, rfl, wrote⟩

theorem wroteChild_of_keep {place : Location} {disk opened : Disk} {kind : FileKind}
    (isOpen : registry.Opened disk place opened) (rooted : disk.Rooted)
    (opens : opened.Opens (registry.pathOf name) (place ++ [part]) kind) :
    registry.WroteChild name part contract place disk
      (opened.keep (place ++ [part]) kind (Utf8.encode contract.encode)) := by
  have followed := Disk.follow_of_found isOpen.folder
  have folder : (opened.keep (place ++ [part]) kind (Utf8.encode contract.encode)).find
      registry.folder = .ok (.node place .folder) := by
    rw [Disk.find_eq_follow isOpen.folder]
    exact reach_keep kind _ opens.fresh followed
  refine ⟨folder, ?_, fun q elsewhere notLock bytes kind => ?_, ?_⟩
  · cases regular : kind.isRegular with
    | true =>
        rw [Disk.keep_regular regular]
        exact ⟨_, kind, opens.find_put _, fun _ => rfl⟩
    | false =>
        obtain ⟨bytes, known⟩ := opens.of_device regular
        rw [Disk.keep_device regular]
        exact ⟨bytes, kind, known, fun other => by simp [regular] at other⟩
  · rw [Disk.at?_keep_of_ne _ _ elsewhere]
    exact isOpen.files q notLock bytes kind
  · exact Disk.keep_induction (isOpen.rooted rooted)
      ((isOpen.rooted rooted).put (Disk.follow_node followed) opens.fresh)

theorem wroteChild_of_save (single : Path.Single name part) (rooted : world.disk.Rooted)
    (saved : Bench.perform (registry.save name contract) daemon world = (.ok true, later)) :
    ∃ place, registry.WroteChild name part contract place world.disk later.disk := by
  obtain ⟨opened, opening, wrote⟩ := save_opened saved
  obtain ⟨place, isOpen⟩ := opened_of_ok opening
  obtain ⟨-, kind, opens, kept⟩ := written_single single (isOpen.rooted rooted)
    (Disk.follow_of_found isOpen.folder) wrote
  rw [kept]
  exact ⟨place, wroteChild_of_keep isOpen rooted opens⟩

/-- Entries under names of a single part each are apart if the parts are. Both are children of the
    folder, and what is found under the one name is changed neither by saving nor by deleting the
    other. Of saving this is said unless making the folder opens the way to one that was there
    before, or the lock is made under the very name. -/
theorem entries_apart (single : Path.Single name part) (single' : Path.Single other otherPart)
    (different : otherPart ≠ part) (rooted : world.disk.Rooted)
    (saved : Bench.perform (registry.save name contract) daemon world = (.ok true, later))
    (saved' : Bench.perform (registry.save other contract') daemon world = (.ok true, later')) :
    ∃ place, registry.WroteChild name part contract place world.disk later.disk ∧
      registry.WroteChild other otherPart contract' place world.disk later'.disk ∧
      ((world.disk.find registry.folder = .ok (.node place .folder) ∨
          world.disk.at? place = none) →
        otherPart ≠ lockFile ∨ world.disk.at? (place ++ [lockFile]) ≠ none →
        (Bench.perform (registry.load (some other)) daemon later).1 =
          (Bench.perform (registry.load (some other)) daemon world).1) ∧
      ∀ begun : World,
        (Bench.perform (registry.load (some other)) daemon
          (Bench.perform (registry.delete name) daemon begun).2).1 =
          (Bench.perform (registry.load (some other)) daemon begun).1 := by
  obtain ⟨opened, opening, wrote⟩ := save_opened saved
  obtain ⟨opened', opening', wrote'⟩ := save_opened saved'
  obtain rfl : opened = opened' := (Prod.mk.inj (opening.symm.trans opening')).2
  obtain ⟨place, isOpen⟩ := opened_of_ok opening
  have folder := Disk.follow_of_find isOpen.folder nofun nofun
  obtain ⟨child, kind, opens, kept⟩ :=
    written_single single (isOpen.rooted rooted) folder wrote
  obtain ⟨child', kind', opens', kept'⟩ :=
    written_single single' (isOpen.rooted rooted) folder wrote'
  have loads (begun : World) : (Bench.perform (registry.load (some other)) daemon begun).1 =
      registry.found begun.disk (some other) := by
    obtain ⟨after, spec, -⟩ := registry.load_spec (some other) daemon begun
    rw [spec]
  refine ⟨place, ?_, ?_, fun inSight locked => ?_, fun begun => ?_⟩
  · rw [kept]
    exact wroteChild_of_keep isOpen rooted opens
  · rw [kept']
    exact wroteChild_of_keep isOpen rooted opens'
  · rw [loads, loads, kept]
    exact found_congr <| content_of_written_other isOpen rooted opens.fresh child' opens'.fresh
      different (inSight.imp_left fun found => Disk.follow_of_find found nofun nofun) locked
  · rw [loads, loads, delete_eq, Bench.perform_files]
    exact found_congr (content_of_deleted child child' different begun.disk)

/-! ## Two entries of a folder -/

def cache : Registry := .ofFolder "cache"

/-- No operation of a registry calls it. -/
def idleDaemon : Daemon := .ofOutcomes fun _ _ => .embeddedNul

def bare : World := .start (.ofNodes []) []

theorem rooted_bare : bare.disk.Rooted := by
  intro place name node here
  simp [bare, World.start, Disk.ofNodes, Disk.at?] at here

def firstContract : Contract := ⟨"first", "1", "secret1", "F1"⟩

def secondContract : Contract := ⟨"second", "2", "secret2", "F2"⟩

def keptFirst : World := (Bench.perform (cache.save "first" firstContract) idleDaemon bare).2

theorem kept_first :
    Bench.perform (cache.save "first" firstContract) idleDaemon bare = (.ok true, keptFirst) :=
  Bench.perform_eq (by decide +kernel)

theorem single_first : Path.Single "first" "first" := by
  constructor <;> decide +kernel

/-- A single part may come with dots and slashes that say nothing. -/
theorem single_second : Path.Single ".//second/" "second" := by
  constructor <;> decide +kernel

def keptBoth : World :=
  (Bench.perform (cache.save ".//second/" secondContract) idleDaemon keptFirst).2

theorem second_apart_from_first :
    Bench.perform (cache.save ".//second/" secondContract) idleDaemon keptFirst =
      (.ok true, keptBoth) ∧
    (Bench.perform (cache.load (some "first")) idleDaemon keptBoth).1 = .ok firstContract ∧
    (Bench.perform (cache.load (some "first")) idleDaemon
      (Bench.perform (cache.delete ".//second/") idleDaemon keptBoth).2).1 = .ok firstContract := by
  obtain ⟨_, wrote⟩ := wroteChild_of_save single_first rooted_bare kept_first
  have saved : Bench.perform (cache.save ".//second/" secondContract) idleDaemon keptFirst =
      (.ok true, keptBoth) := Bench.perform_eq (by decide +kernel)
  have again : Bench.perform (cache.save "first" firstContract) idleDaemon keptFirst =
      (.ok true, _) := Bench.perform_eq (by decide +kernel)
  obtain ⟨place, second, -, ifSaved, ifDeleted⟩ :=
    entries_apart single_second single_first (by decide) wrote.rooted saved again
  have folder : keptBoth.disk.find cache.folder = .ok (.node ["cache"] .folder) := by
    decide +kernel
  obtain rfl : place = ["cache"] := second.place_eq folder
  have inSight : keptFirst.disk.find cache.folder = .ok (.node ["cache"] .folder) := by
    decide +kernel
  have held : (Bench.perform (cache.load (some "first")) idleDaemon keptFirst).1 =
      .ok firstContract := by decide +kernel
  have after := (ifSaved (.inl inSight) (.inl (by decide))).trans held
  exact ⟨saved, after, (ifDeleted _).trans after⟩

/-- Nothing that is saved under a name changes what is found under another one that can be saved
    under. -/
def Undisturbed (registry : Registry) (world : World) (name other : String) : Prop :=
  ∀ contract contract' daemon later,
    Bench.perform (registry.save name contract) daemon world = (.ok true, later) →
    (Bench.perform (registry.save other contract') daemon world).1 = .ok true →
    (Bench.perform (registry.load (some other)) daemon later).1 =
      (Bench.perform (registry.load (some other)) daemon world).1

/-- The world in which a contract lies in a folder that a path with a missing folder on the way does
    not lead to yet. -/
def outOfSight : World :=
  .start (.ofNodes [(["c"], .folder),
    (["c", "first"], .file (Utf8.encode firstContract.encode) .plain)]) []

/-- Names of more than one part can lie outside of the folder, two names with the same part are one,
    the lock comes into being under its name, and making a folder can open the way to another. -/
theorem not_always_apart :
    ((Bench.perform (cache.save "../first" firstContract) idleDaemon bare).1 = .ok true ∧
      ∀ part place, ¬ cache.WroteChild "../first" part firstContract place bare.disk
        (Bench.perform (cache.save "../first" firstContract) idleDaemon bare).2.disk) ∧
    ¬ cache.Undisturbed keptFirst "./first" "first" ∧
    ¬ cache.Undisturbed bare "first" lockFile ∧
    ¬ (ofFolder "new/../c").Undisturbed outOfSight "second" "first" := by
  have disturbed {registry : Registry} {world : World} {name other : String}
      (saved : (Bench.perform (registry.save name secondContract) idleDaemon world).1 = .ok true)
      (saved' : (Bench.perform (registry.save other firstContract) idleDaemon world).1 = .ok true)
      (changed : (Bench.perform (registry.load (some other)) idleDaemon
          (Bench.perform (registry.save name secondContract) idleDaemon world).2).1 ≠
        (Bench.perform (registry.load (some other)) idleDaemon world).1) :
      ¬ registry.Undisturbed world name other := fun undisturbed =>
    changed (undisturbed _ _ _ _ (Bench.perform_eq saved) saved')
  refine ⟨⟨by decide +kernel, fun part place wrote => ?_⟩, ?_, ?_, ?_⟩
  · obtain ⟨bytes, kind, file, -⟩ := wrote.file
    have outside : Disk.find (Bench.perform (cache.save "../first" firstContract) idleDaemon
        bare).2.disk (cache.pathOf "../first") =
          .ok (.node ["first"] (.file (Utf8.encode firstContract.encode) .plain)) := by
      decide +kernel
    have folder : Disk.find (Bench.perform (cache.save "../first" firstContract) idleDaemon
        bare).2.disk cache.folder = .ok (.node ["cache"] .folder) := by
      decide +kernel
    obtain rfl : place = ["cache"] := wrote.place_eq folder
    rw [outside] at file
    simp at file
  · exact disturbed (by decide +kernel) (by decide +kernel) (by decide +kernel)
  · exact disturbed (by decide +kernel) (by decide +kernel) (by decide +kernel)
  · exact disturbed (by decide +kernel) (by decide +kernel) (by decide +kernel)

end Registry

end ContractBench
