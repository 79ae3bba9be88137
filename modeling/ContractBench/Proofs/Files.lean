import ContractBench.Disk.Operation
import ContractBench.Proofs.Disk

/-! # Operations on files

How the operations on files unfold on a disk, and what they leave. An operation that fails at its
path leaves the disk alone, and where folders were ensured there is a folder. A file is written in
two steps: it is opened (`Disk.Opens`), and from then on it is empty and takes the bytes if there is
room for them. A written file holds what was written unless it is a device.
-/

namespace ContractBench

namespace Disk

/-- The bytes of the file that a path leads to. -/
def content (disk : Disk) (path : Path) : Except FileFault (List UInt8) :=
  match disk.find path with
  | .ok (.node _ (.file bytes _)) => .ok bytes
  | .ok (.node _ .folder) => .error .isFolder
  | .ok (.gap _) => .error .notFound
  | .error fault => .error fault

theorem content_eq_ok {disk : Disk} {path : Path} {bytes : List UInt8} :
    disk.content path = .ok bytes ↔
      ∃ place kind, disk.find path = .ok (.node place (.file bytes kind)) := by
  rw [content]
  rcases disk.find path with fault | ⟨place, stored | _⟩ | place <;> simp

/-- A path leads to a device, which keeps nothing. -/
def OnDevice (disk : Disk) (path : Path) : Prop :=
  ∃ place bytes kind, disk.find path = .ok (.node place (.file bytes kind)) ∧
    kind.isRegular = false

theorem not_onDevice {disk : Disk} {path : Path} {place : Location} {bytes : List UInt8}
    {kind : FileKind} (known : disk.find path = .ok (.node place (.file bytes kind)))
    (regular : kind.isRegular = true) : ¬ disk.OnDevice path := by
  rintro ⟨place', bytes', kind', known', device⟩
  obtain ⟨-, -, rfl⟩ : place = place' ∧ bytes = bytes' ∧ kind = kind' := by
    simpa [known] using known'
  rw [regular] at device
  contradiction

/-- A path can be opened for writing, and leads to a place with a file of some kind then. -/
def Opens (disk : Disk) (path : Path) (place : Location) (kind : FileKind) : Prop :=
  (∃ bytes, disk.find path = .ok (.node place (.file bytes kind))) ∨
    (disk.find path = .ok (.gap place) ∧ kind = .plain)

/-- A path can be opened for writing where it leads to a file, or to nothing in a folder. -/
def Writable (disk : Disk) (path : Path) : Prop :=
  ∃ found, disk.find path = .ok found ∧ disk.at? found.place ≠ some .folder

theorem writable_iff {disk : Disk} {path : Path} :
    disk.Writable path ↔ ∃ place kind, disk.Opens path place kind := by
  constructor
  · rintro ⟨⟨place, bytes | _⟩ | place, known, fresh⟩
    · exact ⟨place, _, .inl ⟨bytes, known⟩⟩
    · exact absurd (at?_of_found known) fresh
    · exact ⟨place, .plain, .inr ⟨known, rfl⟩⟩
  · rintro ⟨place, kind, ⟨bytes, known⟩ | ⟨known, -⟩⟩
    · exact ⟨_, known, by simp [at?_of_found known]⟩
    · exact ⟨_, known, by simp [at?_of_gap known]⟩

namespace Opens

variable {disk : Disk} {path : Path} {place : Location} {kind : FileKind}

theorem found (h : disk.Opens path place kind) :
    ∃ found, disk.find path = .ok found ∧ found.place = place ∧
      disk.at? place ≠ some .folder := by
  rcases h with ⟨bytes, known⟩ | ⟨known, -⟩
  · exact ⟨_, known, rfl, by simp [at?_of_found known]⟩
  · exact ⟨_, known, rfl, by simp [at?_of_gap known]⟩

theorem fresh (h : disk.Opens path place kind) : disk.at? place ≠ some .folder := by
  obtain ⟨_, -, -, fresh⟩ := h.found
  exact fresh

theorem find_put (h : disk.Opens path place kind) (node : Node) :
    (disk.put place node).find path = .ok (.node place node) := by
  obtain ⟨found, known, rfl, fresh⟩ := h.found
  exact Disk.find_put node known fresh

theorem of_device (h : disk.Opens path place kind) (device : kind.isRegular = false) :
    ∃ bytes, disk.find path = .ok (.node place (.file bytes kind)) := by
  rcases h with there | ⟨-, rfl⟩
  · exact there
  · contradiction

end Opens

theorem keep_regular {disk : Disk} {place : Location} {kind : FileKind}
    (regular : kind.isRegular = true) (bytes : List UInt8) :
    disk.keep place kind bytes = disk.put place (.file bytes kind) := if_pos regular

theorem keep_device {disk : Disk} {place : Location} {kind : FileKind}
    (device : kind.isRegular = false) (bytes : List UInt8) : disk.keep place kind bytes = disk := by
  rw [keep, device]
  rfl

theorem keep_cases (disk : Disk) (place : Location) (kind : FileKind) (bytes : List UInt8) :
    disk.keep place kind bytes = disk ∨
      disk.keep place kind bytes = disk.put place (.file bytes kind) := by
  rw [keep]
  split
  · exact .inr rfl
  · exact .inl rfl

/-- What bytes that are kept do not change is changed by no file that is written. -/
theorem keep_induction {holds : Disk → Prop} {disk : Disk} {place : Location} {kind : FileKind}
    {bytes : List UInt8} (held : holds disk) (gains : holds (disk.put place (.file bytes kind))) :
    holds (disk.keep place kind bytes) := by
  rcases disk.keep_cases place kind bytes with same | put
  · rwa [same]
  · rwa [put]

theorem at?_keep_of_ne {disk : Disk} {place other : Location} (kind : FileKind) (bytes : List UInt8)
    (elsewhere : other ≠ place) : (disk.keep place kind bytes).at? other = disk.at? other := by
  rcases disk.keep_cases place kind bytes with same | put
  · rw [same]
  · rw [put, at?_put_of_ne _ elsewhere]

theorem Opens.find_keep {disk : Disk} {path : Path} {place : Location} {kind : FileKind}
    (h : disk.Opens path place kind) (bytes : List UInt8) :
    ∃ held, (disk.keep place kind bytes).find path = .ok (.node place (.file held kind)) := by
  cases regular : kind.isRegular with
  | true =>
      rw [keep_regular regular]
      exact ⟨bytes, h.find_put _⟩
  | false =>
      rw [keep_device regular]
      exact h.of_device regular

theorem erase_keep (disk : Disk) (place : Location) (kind : FileKind) (bytes : List UInt8) :
    (disk.keep place kind bytes).erase place = disk.erase place := by
  rw [keep]
  split
  · exact erase_put_self ..
  · rfl

theorem full_of_hasRoom {disk : Disk} {kind : FileKind} {bytes : List UInt8}
    (regular : kind.isRegular = true) (noRoom : disk.hasRoom kind bytes = false) :
    disk.full = true := by
  simp [hasRoom, regular] at noRoom
  exact noRoom.2

/-- How many bytes there are makes no difference, unless there are none. -/
theorem hasRoom_congr (disk : Disk) (kind : FileKind) {bytes bytes' : List UInt8}
    (some : bytes ≠ []) (some' : bytes' ≠ []) :
    disk.hasRoom kind bytes' = disk.hasRoom kind bytes := by
  rw [hasRoom, hasRoom, List.isEmpty_eq_false_iff.mpr some, List.isEmpty_eq_false_iff.mpr some']

end Disk

namespace FileOp

variable {α β : Type}

/-- Run an operation on a disk. -/
def perform (op : FileOp α) (disk : Disk) : Except FileError α × Disk := (ExceptT.run op).run disk

section

variable (disk : Disk)

@[simp] theorem perform_pure (a : α) : perform (pure a) disk = (.ok a, disk) := rfl

@[simp] theorem perform_get : perform get disk = (.ok disk, disk) := rfl

@[simp] theorem perform_throw (e : FileError) :
    perform (throw e : FileOp α) disk = (.error e, disk) := rfl

@[simp] theorem perform_bind (op : FileOp α) (next : α → FileOp β) :
    perform (op >>= next) disk =
      match perform op disk with
      | (.ok a, later) => perform (next a) later
      | (.error e, later) => (.error e, later) := by
  simp only [perform, bind, ExceptT.bind, ExceptT.run, ExceptT.mk, StateT.bind, StateT.run]
  rcases op disk with ⟨_ | _, _⟩ <;> rfl

@[simp] theorem perform_tryCatch (op : FileOp α) (handler : FileError → FileOp α) :
    perform (tryCatch op handler) disk =
      match perform op disk with
      | (.ok a, later) => (.ok a, later)
      | (.error e, later) => perform (handler e) later := by
  simp only [perform, tryCatch, tryCatchThe, MonadExceptOf.tryCatch, ExceptT.tryCatch, ExceptT.run,
    ExceptT.mk, bind, StateT.bind, StateT.run]
  rcases op disk with ⟨_ | _, _⟩ <;> rfl

@[simp] theorem perform_locate (path : Path) :
    perform (locate path) disk = ((disk.find path).mapError (⟨·, path.toText⟩), disk) := by
  simp only [locate, perform_bind, perform_get]
  cases disk.find path <;> rfl

end

variable {disk later : Disk} {path : Path}

theorem perform_readBytes (disk : Disk) (path : Path) :
    perform (readBytes path) disk =
      match disk.content path with
      | .ok bytes => (.ok bytes, disk)
      | .error fault => (.error ⟨fault, path.toText⟩, disk) := by
  simp only [readBytes, perform_bind, perform_locate, Disk.content]
  rcases disk.find path with fault | ⟨place, _ | _⟩ | place <;> rfl

theorem perform_leadsTo (disk : Disk) (path : Path) (kind : Node → Bool) :
    perform (leadsTo path kind) disk =
      (match disk.find path with
      | .ok (.node _ node) => .ok (kind node)
      | .ok (.gap _) => .ok false
      | .error .nameTooLong => .error ⟨.nameTooLong, path.toText⟩
      | .error _ => .ok false, disk) := by
  simp only [leadsTo, perform_bind, perform_get]
  rcases disk.find path with (_ | _ | _ | _ | _ | _ | _) | ⟨place, _⟩ | place <;> rfl

theorem perform_fill (disk : Disk) (path : Path) (place : Location) (kind : FileKind)
    (bytes : List UInt8) :
    perform (fill path place kind bytes) disk =
      if disk.hasRoom kind bytes then (.ok (), disk.keep place kind bytes)
      else (.error ⟨.noSpace, path.toText⟩, disk.keep place kind []) := by
  simp only [fill, perform_bind, perform_get]
  split <;> rfl

/-- Writing changes the place that a path leads to, unless a folder is there. -/
theorem perform_writeBytes (disk : Disk) (path : Path) (bytes : List UInt8) :
    perform (writeBytes path bytes) disk =
      match disk.find path with
      | .ok (.node place (.file _ kind)) => perform (fill path place kind bytes) disk
      | .ok (.node _ .folder) => (.error ⟨.isFolder, path.toText⟩, disk)
      | .ok (.gap place) => perform (fill path place .plain bytes) disk
      | .error fault => (.error ⟨fault, path.toText⟩, disk) := by
  simp only [writeBytes, perform_bind, perform_locate]
  rcases disk.find path with fault | ⟨place, _ | _⟩ | place <;> rfl

theorem perform_writeBytes_of_opens {place : Location} {kind : FileKind}
    (opens : disk.Opens path place kind) (bytes : List UInt8) :
    perform (writeBytes path bytes) disk =
      if disk.hasRoom kind bytes then (.ok (), disk.keep place kind bytes)
      else (.error ⟨.noSpace, path.toText⟩, disk.keep place kind []) := by
  rw [← perform_fill, perform_writeBytes]
  rcases opens with ⟨old, known⟩ | ⟨known, rfl⟩ <;> rw [known]

/-- On a disk with room a regular file takes all bytes. -/
theorem perform_writeBytes_of_room {place : Location} {kind : FileKind}
    (opens : disk.Opens path place kind) (regular : kind.isRegular = true)
    (room : disk.full = false) (bytes : List UInt8) :
    perform (writeBytes path bytes) disk = (.ok (), disk.put place (.file bytes kind)) := by
  have fits : disk.hasRoom kind bytes = true := by simp [Disk.hasRoom, regular, room]
  rw [perform_writeBytes_of_opens opens, if_pos fits, Disk.keep_regular regular]

theorem perform_touch (disk : Disk) (path : Path) :
    perform (touch path) disk =
      match disk.find path with
      | .ok (.node _ (.file _ _)) => (.ok (), disk)
      | .ok (.node _ .folder) => (.error ⟨.isFolder, path.toText⟩, disk)
      | .ok (.gap place) => (.ok (), disk.put place (.file [] .plain))
      | .error fault => (.error ⟨fault, path.toText⟩, disk) := by
  simp only [touch, perform_bind, perform_locate]
  rcases disk.find path with fault | ⟨place, _ | _⟩ | place <;> rfl

theorem perform_remove (disk : Disk) (path : Path) :
    perform (remove path) disk =
      match disk.find path with
      | .ok (.node place (.file _ _)) => (.ok (), disk.erase place)
      | .ok (.node _ .folder) => (.error ⟨.isFolder, path.toText⟩, disk)
      | .ok (.gap _) => (.error ⟨.notFound, path.toText⟩, disk)
      | .error fault => (.error ⟨fault, path.toText⟩, disk) := by
  simp only [remove, perform_bind, perform_locate]
  rcases disk.find path with fault | ⟨place, _ | _⟩ | place <;> rfl

theorem perform_makeFolder (disk : Disk) (path : Path) :
    perform (makeFolder path) disk =
      match disk.find path with
      | .ok (.node _ _) => (.error ⟨.exists, path.toText⟩, disk)
      | .ok (.gap place) => (.ok (), disk.put place .folder)
      | .error fault => (.error ⟨fault, path.toText⟩, disk) := by
  simp only [makeFolder, perform_bind, perform_locate]
  rcases disk.find path with fault | ⟨place, _ | _⟩ | place <;> rfl

/-- A path that cannot be opened for writing is a failure that changes nothing, whatever is to be
    written. -/
theorem writeBytes_of_unwritable (unwritable : ¬ disk.Writable path) :
    ∃ e : FileError, e.fault ≠ .noSpace ∧
      ∀ bytes, perform (writeBytes path bytes) disk = (.error e, disk) := by
  simp only [perform_writeBytes]
  rcases known : disk.find path with fault | ⟨place, bytes | _⟩ | place
  · exact ⟨⟨fault, path.toText⟩, fun full => disk.find_ne_noSpace path (by rw [known, ← full]),
      fun _ => rfl⟩
  · exact absurd ⟨_, known, by simp [Disk.at?_of_found known]⟩ unwritable
  · exact ⟨⟨.isFolder, path.toText⟩, by simp, fun _ => rfl⟩
  · exact absurd ⟨_, known, by simp [Disk.at?_of_gap known]⟩ unwritable

/-- Writing that succeeds opened the path, found room, and kept the bytes. -/
theorem written_cases {bytes : List UInt8}
    (written : perform (writeBytes path bytes) disk = (.ok (), later)) :
    ∃ place kind, disk.Opens path place kind ∧ disk.hasRoom kind bytes = true ∧
      later = disk.keep place kind bytes := by
  by_cases writable : disk.Writable path
  · obtain ⟨place, kind, opens⟩ := Disk.writable_iff.mp writable
    rw [perform_writeBytes_of_opens opens] at written
    split at written
    next room => exact ⟨place, kind, opens, room, by simpa [eq_comm] using written⟩
    next => simp at written
  · obtain ⟨e, -, refused⟩ := writeBytes_of_unwritable writable
    simp [refused] at written

/-- Writing that fails left the disk as it was, or emptied the file for which there is no room. -/
theorem unwritten_cases {bytes : List UInt8} {e : FileError}
    (refused : perform (writeBytes path bytes) disk = (.error e, later)) :
    (e.fault ≠ .noSpace ∧ ¬ disk.Writable path ∧ later = disk) ∨
      ∃ place kind, disk.Opens path place kind ∧ disk.hasRoom kind bytes = false ∧
        e.fault = .noSpace ∧ later = disk.keep place kind [] := by
  by_cases writable : disk.Writable path
  · obtain ⟨place, kind, opens⟩ := Disk.writable_iff.mp writable
    rw [perform_writeBytes_of_opens opens] at refused
    split at refused
    next => simp at refused
    next room =>
        obtain ⟨rfl, rfl⟩ : e = ⟨.noSpace, path.toText⟩ ∧ later = disk.keep place kind [] := by
          simpa [eq_comm] using refused
        exact .inr ⟨place, kind, opens, by simpa using room, rfl, rfl⟩
  · obtain ⟨e', other, refuses⟩ := writeBytes_of_unwritable writable
    obtain ⟨rfl, rfl⟩ : e = e' ∧ later = disk := by simpa [refuses, eq_comm] using refused
    exact .inl ⟨other, writable, rfl⟩

theorem content_of_kept {place : Location} {kind : FileKind} (opens : disk.Opens path place kind)
    (regular : kind.isRegular = true) (bytes : List UInt8) :
    (disk.keep place kind bytes).content path = .ok bytes := by
  rw [Disk.keep_regular regular, Disk.content, opens.find_put]

/-- A file that was written holds what was written, unless it is a device. -/
theorem content_of_written {bytes : List UInt8}
    (written : perform (writeBytes path bytes) disk = (.ok (), later)) :
    later.content path = .ok bytes ∨ later.OnDevice path := by
  obtain ⟨place, kind, opens, -, rfl⟩ := written_cases written
  cases regular : kind.isRegular with
  | true => exact .inl (content_of_kept opens regular bytes)
  | false =>
      obtain ⟨old, known⟩ := opens.of_device regular
      rw [Disk.keep_device regular]
      exact .inr ⟨place, old, kind, known, regular⟩

/-! ## Removing and listing -/

def removeIfThere (path : Path) : FileOp Unit := do if ← isThere path then remove path

theorem perform_removeIfThere (disk : Disk) (path : Path) :
    perform (removeIfThere path) disk =
      match disk.find path with
      | .ok (.node place (.file _ _)) => (.ok (), disk.erase place)
      | .ok (.node _ .folder) => (.error ⟨.isFolder, path.toText⟩, disk)
      | .ok (.gap _) => (.ok (), disk)
      | .error .nameTooLong => (.error ⟨.nameTooLong, path.toText⟩, disk)
      | .error _ => (.ok (), disk) := by
  rw [removeIfThere, isThere, perform_bind, perform_leadsTo]
  rcases known : disk.find path with (_ | _ | _ | _ | _ | _ | _) | ⟨place, _ | _⟩ | place <;>
    simp [perform_remove, known]

/-! ## Making folders -/

theorem perform_isFolder (disk : Disk) (path : Path) :
    perform (isFolder path) disk =
      (match disk.find path with
      | .ok (.node _ node) => .ok (node = .folder)
      | .ok (.gap _) => .ok false
      | .error .nameTooLong => .error ⟨.nameTooLong, path.toText⟩
      | .error _ => .ok false, disk) := perform_leadsTo disk path _

theorem perform_ensureFolder (disk : Disk) (path : Path) :
    perform (ensureFolder path) disk =
      match disk.find path with
      | .ok (.node _ .folder) => (.ok (), disk)
      | .ok (.node _ (.file _ _)) => (.error ⟨.exists, path.toText⟩, disk)
      | .ok (.gap place) => (.ok (), disk.put place .folder)
      | .error fault => (.error ⟨fault, path.toText⟩, disk) := by
  rw [ensureFolder, perform_tryCatch, perform_makeFolder]
  cases known : disk.find path with
  | error fault =>
      cases fault <;> simp [perform_isFolder, known]
  | ok found =>
      rcases found with ⟨place, _ | _⟩ | place <;> simp [perform_isFolder, known]

theorem ensureFolder_ok (ensured : perform (ensureFolder path) disk = (.ok (), later)) :
    ∃ place, later.find path = .ok (.node place .folder) := by
  rw [perform_ensureFolder] at ensured
  rcases known : disk.find path with fault | ⟨place, _ | _⟩ | place
  · simp [known] at ensured
  · simp [known] at ensured
  · exact ⟨place, by simp_all⟩
  · obtain rfl : disk.put place .folder = later := by simpa [known] using ensured
    have fresh := Disk.at?_of_gap known
    exact ⟨place, Disk.find_put .folder known (by simp [fresh.1])⟩

/-- Ensuring a folder with those above it ends with ensuring that folder. -/
theorem perform_ensureFolders (disk : Disk) (path : Path) :
    perform (ensureFolders path) disk =
      match perform (ensureFolder path) disk with
      | (.ok (), later) => (.ok (), later)
      | (.error e, later) =>
        match path.parts.reverse with
        | [] => (.error e, later)
        | _ :: above =>
          if e.fault = .notFound then
            perform (do ensureFoldersFrom path.root above; ensureFolder path) later
          else (.error e, later) := by
  obtain ⟨root, parts⟩ := path
  rw [ensureFolders]
  obtain ⟨names, rfl⟩ : ∃ names : List String, parts = names.reverse := ⟨parts.reverse, by simp⟩
  simp only [List.reverse_reverse]
  cases names with
  | nil =>
      simp only [ensureFoldersFrom, List.reverse_nil]
      rcases perform (ensureFolder ⟨root, []⟩) disk with ⟨_ | _, _⟩ <;> rfl
  | cons name above =>
      rw [ensureFoldersFrom, perform_tryCatch]
      rcases perform (ensureFolder ⟨root, (name :: above).reverse⟩) disk with ⟨e | _, later⟩
      · simp only
        split <;> rfl
      · rfl

theorem ensureFolders_ok (ensured : perform (ensureFolders path) disk = (.ok (), later)) :
    ∃ place, later.find path = .ok (.node place .folder) := by
  rw [perform_ensureFolders] at ensured
  rcases first : perform (ensureFolder path) disk with ⟨e | _, between⟩
  · simp only [first] at ensured
    split at ensured
    · simp at ensured
    · split at ensured
      · rw [perform_bind] at ensured
        split at ensured
        · exact ensureFolder_ok ensured
        · simp at ensured
      · simp at ensured
  · obtain rfl : between = later := by simpa [first] using ensured
    exact ensureFolder_ok first

theorem perform_ensureFolders_of_folder {place : Location}
    (there : disk.find path = .ok (.node place .folder)) :
    perform (ensureFolders path) disk = (.ok (), disk) := by
  rw [perform_ensureFolders, perform_ensureFolder, there]

/-- Folders can only be ensured where a folder is or nothing is. -/
theorem find_of_ensureFolders (ensured : perform (ensureFolders path) disk = (.ok (), later)) :
    (∃ place, disk.find path = .ok (.node place .folder)) ∨
      (disk.find path = .error .notFound ∨ ∃ place, disk.find path = .ok (.gap place)) := by
  rw [perform_ensureFolders, perform_ensureFolder] at ensured
  rcases known : disk.find path with fault | ⟨place, _ | _⟩ | place
  · rw [known] at ensured
    cases fault <;> simp_all <;> (split at ensured <;> simp at ensured)
  · rw [known] at ensured
    simp only at ensured
    split at ensured <;> simp at ensured
  · exact .inl ⟨place, rfl⟩
  · exact .inr (.inr ⟨place, rfl⟩)

/-- The files that are listed are those in the folder which are not hidden. -/
theorem perform_visibleFiles_of_folder {place : Location}
    (there : disk.find path = .ok (.node place .folder)) :
    perform (visibleFiles path) disk =
      (.ok (Disk.sortNames ((disk.namesIn place).filter fun name =>
        !name.startsWith "." && (disk.at? (place ++ [name])).any Node.isRegular)), disk) := by
  simp only [visibleFiles, perform_bind, perform_isFolder, there, decide_true, if_true, perform_get,
    perform_pure]

theorem perform_visibleFiles_of_absent
    (absent : disk.find path = .error .notFound ∨ ∃ place, disk.find path = .ok (.gap place)) :
    perform (visibleFiles path) disk = (.ok [], disk) := by
  rcases absent with none | ⟨place, gap⟩
  · simp only [visibleFiles, perform_bind, perform_isFolder, none]
    rfl
  · simp only [visibleFiles, perform_bind, perform_isFolder, gap]
    rfl

/-! ## What operations preserve -/

/-- An operation that preserves a property of the disk, whatever comes of it. -/
def Preserves (holds : Disk → Prop) (op : FileOp α) : Prop :=
  ∀ disk, holds disk → holds (perform op disk).2

variable {holds : Disk → Prop}

theorem Preserves.bind {op : FileOp α} {next : α → FileOp β} (first : op.Preserves holds)
    (further : ∀ a, (next a).Preserves holds) : (op >>= next).Preserves holds := by
  intro disk held
  have between := first disk held
  rw [perform_bind]
  split
  next a later performed =>
    rw [performed] at between
    exact further a later between
  next e later performed =>
    rw [performed] at between
    exact between

theorem Preserves.tryCatch {op : FileOp α} {handler : FileError → FileOp α}
    (first : op.Preserves holds) (further : ∀ e, (handler e).Preserves holds) :
    (tryCatch op handler).Preserves holds := by
  intro disk held
  have between := first disk held
  rw [perform_tryCatch]
  split
  next a later performed =>
    rw [performed] at between
    exact between
  next e later performed =>
    rw [performed] at between
    exact further e later between

theorem preserves_readBytes (path : Path) : (readBytes path).Preserves holds := by
  intro disk held
  rw [perform_readBytes]
  cases disk.content path <;> exact held

theorem preserves_ensureFolder (path : Path)
    (gains : ∀ disk place, holds disk → holds (disk.put place .folder)) :
    (ensureFolder path).Preserves holds := by
  intro disk held
  rw [perform_ensureFolder]
  rcases disk.find path with fault | ⟨place, _ | _⟩ | place
  · exact held
  · exact held
  · exact held
  · exact gains disk place held

/-- What making each folder preserves is preserved by making all of them. -/
theorem preserves_ensureFolders_of (path : Path)
    (ensures : ∀ path, (ensureFolder path).Preserves holds) :
    (ensureFolders path).Preserves holds := by
  rw [ensureFolders]
  induction path.parts.reverse with
  | nil => exact ensures _
  | cons name above ih =>
      refine (ensures _).tryCatch fun e => ?_
      split
      · exact ih.bind fun _ => ensures _
      · exact fun disk held => held

theorem preserves_ensureFolders (path : Path)
    (gains : ∀ disk place, holds disk → holds (disk.put place .folder)) :
    (ensureFolders path).Preserves holds :=
  preserves_ensureFolders_of path fun path => preserves_ensureFolder path gains

theorem preserves_touch (path : Path)
    (gains : ∀ disk place, holds disk → holds (disk.put place (.file [] .plain))) :
    (touch path).Preserves holds := by
  intro disk held
  rw [perform_touch]
  rcases disk.find path with fault | ⟨place, _ | _⟩ | place
  · exact held
  · exact held
  · exact held
  · exact gains disk place held

theorem preserves_writeBytes (path : Path) (bytes : List UInt8)
    (gains : ∀ disk place kind, holds disk → holds (disk.put place (.file bytes kind)))
    (empties : ∀ disk place kind, holds disk → holds (disk.put place (.file [] kind))) :
    (writeBytes path bytes).Preserves holds := by
  intro disk held
  rcases wrote : perform (writeBytes path bytes) disk with ⟨e | _, later⟩
  · rcases unwritten_cases wrote with ⟨-, -, rfl⟩ | ⟨place, kind, -, -, -, rfl⟩
    · exact held
    · exact Disk.keep_induction held (empties disk place kind held)
  · obtain ⟨place, kind, -, -, rfl⟩ := written_cases wrote
    exact Disk.keep_induction held (gains disk place kind held)

theorem preserves_removeIfThere (path : Path)
    (loses : ∀ disk place, holds disk → holds (disk.erase place)) :
    (removeIfThere path).Preserves holds := by
  intro disk held
  rw [perform_removeIfThere]
  rcases disk.find path with (_ | _ | _ | _ | _ | _ | _) | ⟨place, _ | _⟩ | place
  all_goals first
    | exact held
    | exact loses disk place held

theorem preserves_visibleFiles (path : Path) : (visibleFiles path).Preserves holds := by
  have isFolder : (isFolder path).Preserves holds := by
    intro disk held
    rw [perform_isFolder]
    exact held
  refine isFolder.bind fun there => ?_
  split
  · refine Preserves.bind (fun disk held => held) fun disk => ?_
    split
    · exact fun disk held => held
    · exact fun disk held => held
  · exact fun disk held => held

end FileOp

end ContractBench
