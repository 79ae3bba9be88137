import ContractBench.Proofs.Deleting
import ContractBench.Proofs.Ledger

/-! # What the folder of a registry holds under any name

`Registry.Stores` ties a folder to a ledger as `Registry.Keeps` does, but for every name without a
slash: names that begin with a dot, that of the lock, those that no file can have, and those that
are too long. The operations on files that a registry is made of preserve it.
-/

namespace ContractBench

/-! ## Paths above a path -/

namespace Path

/-- A path is short enough if one that goes on from it is. -/
theorem short_above {root : String} {parts : List String} (name : String)
    (short : Utf8.byteLength (toText ⟨root, parts ++ [name]⟩) ≤ Disk.longestPath) :
    Utf8.byteLength (toText ⟨root, parts⟩) ≤ Disk.longestPath := by
  by_cases top : root = "" ∧ parts = []
  · rw [toText, if_pos top]
    decide +kernel
  · rw [toText, if_neg (by simp)] at short
    rw [toText, if_neg top]
    by_cases none : parts = []
    · simp only [none, String.intercalate_nil, Utf8.byteLength_append] at short ⊢
      have empty : Utf8.byteLength "" = 0 := rfl
      omega
    · rw [String.intercalate_append_of_ne_nil none (by simp)] at short
      simp only [Utf8.byteLength_append] at short ⊢
      omega

/-- A name without a slash says nothing or is itself the only part. -/
theorem join_of_noSlash (base : Path) {name : String} (noSlash : '/' ∉ name.toList) :
    base.join name =
      if name = "" ∨ name = "." then base else ⟨base.root, base.parts ++ [name]⟩ := by
  rw [join, if_pos (rootOf_of_noSlash noSlash), namesIn, piecesFrom_of_noSlash noSlash]
  by_cases empty : name = ""
  · simp [empty]
  · by_cases dot : name = "."
    · simp [dot]
    · simp [empty, dot]

end Path

namespace Disk

variable {disk : Disk} {path : Path}

theorem short_of_find {found : Found} (known : disk.find path = .ok found) :
    Utf8.byteLength path.toText ≤ longestPath := by
  rw [find] at known
  split at known
  · contradiction
  · split at known
    · contradiction
    next short => exact Nat.not_lt.mp short

/-- A path that leads somewhere goes through a folder. -/
theorem find_above {root name : String} {parts : List String} {found : Found}
    (known : disk.find ⟨root, parts ++ [name]⟩ = .ok found) :
    ∃ place, disk.find ⟨root, parts⟩ = .ok (.node place .folder) := by
  have followed := follow_of_found known
  have spoken : ¬ HoldsNul (Path.toText ⟨root, parts⟩) := by
    have spoken : ¬ HoldsNul (Path.toText ⟨root, parts ++ [name]⟩) :=
      noNul_of_find (by rw [known]; nofun)
    rw [Path.holdsNul_toText] at spoken ⊢
    refine fun holds => spoken (holds.imp_right fun ⟨part, inside, inPart⟩ => ?_)
    exact ⟨part, List.mem_append_left _ inside, inPart⟩
  have short := Path.short_above name (short_of_find known)
  have above : disk.find ⟨root, parts⟩ = disk.follow (disk.origin ⟨root, parts⟩) parts := by
    rw [HoldsNul] at spoken
    rw [find, List.contains_eq_mem, if_neg (by simpa using spoken), if_neg (Nat.not_lt.mpr short)]
  change disk.follow (disk.origin ⟨root, parts⟩) (parts ++ [name]) = .ok found at followed
  rw [follow_append (by simp)] at followed
  rw [above]
  rcases led : disk.follow (disk.origin ⟨root, parts⟩) parts with fault | ⟨place, node⟩ | place
  · simp [led] at followed
  · cases node with
    | folder => exact ⟨place, rfl⟩
    | file bytes kind =>
        have isFile := follow_node led
        simp [led, follow_cons, isFile] at followed
  · simp [led] at followed

theorem not_writable_of_error {fault : FileFault} (failed : disk.find path = .error fault) :
    ¬ disk.Writable path := by
  rintro ⟨found, known, -⟩
  rw [failed] at known
  contradiction

theorem not_writable_of_folder {place : Location}
    (there : disk.find path = .ok (.node place .folder)) : ¬ disk.Writable path := by
  rintro ⟨found, known, fresh⟩
  obtain rfl : .node place .folder = found := Except.ok.inj (there.symm.trans known)
  exact fresh (at?_of_found there)

/-- Where a file lies, one can be written. -/
theorem noFile_of_unwritable (unwritable : ¬ disk.Writable path) (place : Location)
    (bytes : List UInt8) (kind : FileKind) :
    disk.find path ≠ .ok (.node place (.file bytes kind)) := by
  intro there
  exact unwritable ⟨_, there, by simp [at?_of_found there]⟩

theorem content_of_noFile
    (noFile : ∀ place bytes kind, disk.find path ≠ .ok (.node place (.file bytes kind))) :
    ∃ fault, disk.content path = .error fault := by
  rw [content]
  rcases known : disk.find path with fault | ⟨place, bytes | _⟩ | place
  · exact ⟨fault, rfl⟩
  · exact absurd known (noFile _ _ _)
  · exact ⟨_, rfl⟩
  · exact ⟨_, rfl⟩

end Disk

namespace FileOp

variable {disk made : Disk} {path : Path} {e : FileError}

/-- Where no file lies, nothing is removed. -/
theorem removeIfThere_of_noFile
    (noFile : ∀ place bytes kind, disk.find path ≠ .ok (.node place (.file bytes kind))) :
    ∃ result, (removeIfThere path).perform disk = (result, disk) := by
  rw [perform_removeIfThere]
  rcases known : disk.find path with (_ | _ | _ | _ | _ | _) | ⟨place, bytes | _⟩ | place
  case ok.node.file => exact absurd known (noFile _ _ _)
  all_goals exact ⟨_, rfl⟩

/-! ## Making folders again -/

theorem ensureFolder_error (failed : perform (ensureFolder path) disk = (.error e, made)) :
    made = disk := by
  rw [perform_ensureFolder] at failed
  rcases known : disk.find path with fault | ⟨place, _ | _⟩ | place <;> simp_all

theorem ensureFoldersFrom_of_folder {root : String} {names : List String} {place : Location}
    (there : disk.find ⟨root, names.reverse⟩ = .ok (.node place .folder)) :
    perform (ensureFoldersFrom root names) disk = (.ok (), disk) := by
  have ensured := perform_ensureFolders_of_folder there
  rwa [ensureFolders, List.reverse_reverse] at ensured

theorem perform_ensureFoldersFrom_cons (disk : Disk) (root name : String) (above : List String) :
    perform (ensureFoldersFrom root (name :: above)) disk =
      match perform (ensureFolder ⟨root, above.reverse ++ [name]⟩) disk with
      | (.ok (), later) => (.ok (), later)
      | (.error e, later) =>
        if e.fault = .notFound then
          match perform (ensureFoldersFrom root above) later with
          | (.ok (), later) => perform (ensureFolder ⟨root, above.reverse ++ [name]⟩) later
          | (.error e, later) => (.error e, later)
        else (.error e, later) := by
  rw [ensureFoldersFrom, perform_tryCatch, List.reverse_cons]
  rcases perform (ensureFolder ⟨root, above.reverse ++ [name]⟩) disk with ⟨e | _, later⟩
  · simp only
    split
    · rw [perform_bind]
      rcases perform (ensureFoldersFrom root above) later with ⟨_ | _, _⟩ <;> rfl
    · rfl
  · rfl

/-- A folder can only be ensured below a folder, or where the folders above can be ensured too. -/
theorem ensureFolder_fails {root : String} (name : String) {above : List String}
    (refused : perform (ensureFoldersFrom root above) disk = (.error e, made)) :
    ∃ e', perform (ensureFolder ⟨root, above.reverse ++ [name]⟩) disk = (.error e', disk) := by
  rw [perform_ensureFolder]
  cases known : disk.find ⟨root, above.reverse ++ [name]⟩ with
  | error fault => exact ⟨_, rfl⟩
  | ok found =>
      obtain ⟨place, there⟩ := Disk.find_above known
      rw [ensureFoldersFrom_of_folder there] at refused
      cases refused

/-- Where a folder could not be made, it cannot be made in a second attempt. The induction is on the
    folders above. -/
theorem ensureFoldersFrom_again {root : String} {names : List String}
    (failed : perform (ensureFoldersFrom root names) disk = (.error e, made)) :
    ∃ e', perform (ensureFoldersFrom root names) made = (.error e', made) := by
  induction names generalizing disk e made with
  | nil =>
      obtain rfl := ensureFolder_error failed
      exact ⟨e, failed⟩
  | cons name above ih =>
      have steps := perform_ensureFoldersFrom_cons disk root name above
      rw [failed] at steps
      rcases first : perform (ensureFolder ⟨root, above.reverse ++ [name]⟩) disk with ⟨e₁ | _, same⟩
      · rw [ensureFolder_error first] at first
        simp only [first] at steps
        split at steps
        next missing =>
          rcases up : perform (ensureFoldersFrom root above) disk with ⟨e₂ | _, later⟩
          · -- The folders above fail again, and so this one does.
            simp only [up, Prod.mk.injEq] at steps
            obtain ⟨-, rfl⟩ := steps
            obtain ⟨e', again⟩ := ih up
            obtain ⟨e₃, refused⟩ := ensureFolder_fails name again
            rw [perform_ensureFoldersFrom_cons, refused]
            simp only [again]
            split <;> exact ⟨_, rfl⟩
          · -- The folders above are there now, and this one still fails.
            simp only [up] at steps
            obtain rfl : made = later := ensureFolder_error steps.symm
            have opened : perform (ensureFolders ⟨root, above.reverse⟩) disk = (.ok (), made) := by
              rwa [ensureFolders, List.reverse_reverse]
            obtain ⟨place, there⟩ := ensureFolders_ok opened
            rw [perform_ensureFoldersFrom_cons, ← steps]
            simp only [ensureFoldersFrom_of_folder there, ← steps]
            split <;> exact ⟨_, rfl⟩
        next other =>
          obtain ⟨-, rfl⟩ := Prod.mk.inj steps
          exact ⟨e, failed⟩
      · simp [first] at steps

theorem ensureFolders_again (failed : perform (ensureFolders path) disk = (.error e, made)) :
    ∃ e', perform (ensureFolders path) made = (.error e', made) := ensureFoldersFrom_again failed

end FileOp

namespace Registry

/-- What lies under a name in a folder is what the ledger says. The file of the lock may be there
    without being an entry, and is empty then. -/
def Shows (ledger : Ledger) (place : Location) (disk : Disk) (name : String) : Prop :=
  disk.at? (place ++ [name]) = ledger.node name ∨
    name = lockFile ∧ ledger name = none ∧ disk.at? (place ++ [name]) = some (.file [] .plain)

/-- A name under which an entry can be written. -/
structure Takes (registry : Registry) (name : String) : Prop where
  named : IsName name
  fits : registry.Fits name
  lockFits : registry.Fits lockFile

/-- A folder holds the files of a ledger, maybe the lock, and nothing else. -/
structure Stores (registry : Registry) (ledger : Ledger) (place : Location) (disk : Disk) :
    Prop where
  folder : disk.find registry.folder = .ok (.node place .folder)
  above : disk.at? place.dropLast = some .folder
  shows : ∀ name, Shows ledger place disk name
  bound : ∀ name, ledger name ≠ none → registry.Takes name
  distinct : (disk.namesIn place).Nodup
  room : disk.full = false

namespace Stores

variable {registry : Registry} {ledger : Ledger} {place : Location} {disk : Disk} {name : String}

theorem at?_ne_folder (h : registry.Stores ledger place disk) (name : String) :
    disk.at? (place ++ [name]) ≠ some .folder := by
  rcases h.shows name with same | ⟨-, -, lock⟩
  · rw [same]
    exact ledger.node_ne_folder name
  · simp [lock]

/-- A change of the file under one name that the ledger makes too. -/
theorem changed (h : registry.Stores ledger place disk) {ledger' : Ledger} {disk' : Disk}
    (sameOrigin : disk'.workDir = disk.workDir) (sameRoom : disk'.full = disk.full)
    (others : ∀ q, q ≠ place ++ [name] → disk'.at? q = disk.at? q)
    (unchanged : ∀ other, other ≠ name → ledger' other = ledger other)
    (here : Shows ledger' place disk' name) (takes : ledger' name ≠ none → registry.Takes name)
    (distinct : (disk'.namesIn place).Nodup) : registry.Stores ledger' place disk' where
  folder := by
    refine Disk.find_keeps sameOrigin (fun q isFolder => ?_) h.folder
    have elsewhere : q ≠ place ++ [name] := fun same => h.at?_ne_folder name (same ▸ isFolder)
    rw [others q elsewhere, isFolder]
  above := by
    have elsewhere : place.dropLast ≠ place ++ [name] := by
      intro same
      have length := congrArg List.length same
      simp only [List.length_dropLast, List.length_append, List.length_singleton] at length
      omega
    rw [others _ elsewhere, h.above]
  shows other := by
    by_cases same : other = name
    · exact same ▸ here
    · have node : ledger'.node other = ledger.node other := by
        rw [Ledger.node, Ledger.node, unchanged other same]
      rw [Shows, others _ (by simpa using same), node, unchanged other same]
      exact h.shows other
  bound other bound := by
    by_cases same : other = name
    · subst same
      exact takes bound
    · rw [unchanged other same] at bound
      exact h.bound other bound
  distinct := distinct
  room := sameRoom.trans h.room

theorem put (h : registry.Stores ledger place disk) {ledger' : Ledger} {node : Node}
    (unchanged : ∀ other, other ≠ name → ledger' other = ledger other)
    (here : some node = ledger'.node name ∨
      name = lockFile ∧ ledger' name = none ∧ node = .file [] .plain)
    (takes : ledger' name ≠ none → registry.Takes name) :
    registry.Stores ledger' place (disk.put (place ++ [name]) node) := by
  have there : (disk.put (place ++ [name]) node).at? (place ++ [name]) = some node :=
    Disk.at?_put_self node (by simp)
  refine h.changed rfl rfl (fun _ elsewhere => Disk.at?_put_of_ne _ elsewhere) unchanged ?_ takes ?_
  · rw [Shows, there]
    exact here.imp_right fun ⟨lock, unbound, empty⟩ => ⟨lock, unbound, congrArg some empty⟩
  · rw [Disk.namesIn_put]
    exact List.nodup_append.mpr ⟨h.distinct.filter _, by simp, by simp⟩

theorem erase (h : registry.Stores ledger place disk) (name : String) :
    registry.Stores (ledger.unbind name) place (disk.erase (place ++ [name])) := by
  refine h.changed rfl rfl (fun _ elsewhere => Disk.at?_erase_of_ne elsewhere)
    (fun other elsewhere => if_neg elsewhere) (.inl ?_) (fun bound => ?_) ?_
  · rw [Disk.at?_erase_self (by simp), Ledger.node_unbind_self]
  · exact absurd (if_pos rfl) bound
  · rw [Disk.namesIn_erase]
    exact h.distinct.filter _

/-! ## What a name leads to -/

theorem find_pathOf (h : registry.Stores ledger place disk) (named : IsName name)
    (fits : registry.Fits name) :
    disk.find (registry.pathOf name) = .ok (disk.child place name) :=
  (Disk.find_join named h.folder).trans (if_neg (Nat.not_lt.mpr fits))

/-- What a name without a slash leads to is the child of that name, or no file can be written
    there. -/
theorem not_writable (h : registry.Stores ledger place disk) (noSlash : '/' ∉ name.toList)
    (other : ¬ (IsName name ∧ registry.Fits name)) : ¬ disk.Writable (registry.pathOf name) := by
  by_cases nul : HoldsNul name
  · have refused := (disk.find_eq_embeddedNul (registry.pathOf name)).mpr
      ((Path.holdsNul_join _ _).mpr (.inl nul))
    exact Disk.not_writable_of_error refused
  by_cases self : name = "" ∨ name = "."
  · have same : registry.pathOf name = registry.folder := by
      rw [pathOf, Path.join_of_noSlash _ noSlash, if_pos self]
    exact Disk.not_writable_of_folder (same ▸ h.folder)
  obtain ⟨nonempty, noDot⟩ := not_or.mp self
  have path : registry.pathOf name = ⟨registry.folder.root, registry.folder.parts ++ [name]⟩ := by
    rw [pathOf, Path.join_of_noSlash _ noSlash, if_neg self]
  rintro ⟨found, known, fresh⟩
  have fits : registry.Fits name := Disk.short_of_find known
  have followed := Disk.follow_of_found known
  have opened := Disk.follow_of_found h.folder
  have present := Disk.follow_node opened
  rw [path] at followed
  change disk.follow (disk.origin registry.folder) (registry.folder.parts ++ [name]) = _ at followed
  rw [Disk.follow_append (by simp), opened] at followed
  change disk.follow place [name] = .ok found at followed
  by_cases dots : name = ".."
  · subst dots
    rw [Disk.follow_up present] at followed
    simp only [Disk.follow, h.above] at followed
    obtain rfl := Except.ok.inj followed
    exact fresh h.above
  · have short : ¬ Disk.longestName < Utf8.byteLength name := by
      intro long
      simp [Disk.follow_cons, present, dots, long] at followed
    exact other ⟨⟨nonempty, noSlash, nul, noDot, dots, Nat.not_lt.mp short⟩, fits⟩

theorem readEntry_nil : (readEntry []).toOption = none := by decide +kernel

theorem found (h : registry.Stores ledger place disk) (noSlash : '/' ∉ name.toList) :
    (registry.found disk (some name)).toOption = ledger name := by
  cases bound : ledger name with
  | some contract =>
      have takes := h.bound name (by simp [bound])
      have child : disk.child place name =
          .node (place ++ [name]) (.file (Utf8.encode contract.encode) .plain) := by
        rcases h.shows name with same | ⟨-, unbound, -⟩
        · rw [Disk.child, same, Ledger.node, bound]
          rfl
        · simp [bound] at unbound
      have content : disk.content (registry.pathOf name) = .ok (Utf8.encode contract.encode) := by
        rw [Disk.content, h.find_pathOf takes.named takes.fits, child]
      rw [found_of_holds content]
      rfl
  | none =>
      have missed {fault : FileFault}
          (unreadable : disk.content (registry.pathOf name) = .error fault) :
          (registry.found disk (some name)).toOption = none := by
        rw [found_of_unreadable unreadable]
        rfl
      by_cases usable : IsName name ∧ registry.Fits name
      · have known := h.find_pathOf usable.1 usable.2
        rcases h.shows name with same | ⟨-, -, lock⟩
        · have nothing : disk.content (registry.pathOf name) = .error .notFound := by
            rw [Disk.content, known, Disk.child, same, Ledger.node, bound]
            rfl
          exact missed nothing
        · have content : disk.content (registry.pathOf name) = .ok [] := by
            rw [Disk.content, known, Disk.child, lock]
          have empty := readEntry_nil
          rw [found_of_bytes content]
          cases read : readEntry [] with
          | ok contract => simp [read, Except.toOption] at empty
          | error fault => rfl
      · obtain ⟨fault, unreadable⟩ :=
          Disk.content_of_noFile (Disk.noFile_of_unwritable (h.not_writable noSlash usable))
        exact missed unreadable

/-! ## The operations on a folder that is there -/

theorem touch_lock (h : registry.Stores ledger place disk) :
    (registry.Fits lockFile → ∃ later, registry.Stores ledger place later ∧
      (FileOp.touch (registry.pathOf lockFile)).perform disk = (.ok (), later)) ∧
    (¬ registry.Fits lockFile → ∃ e,
      (FileOp.touch (registry.pathOf lockFile)).perform disk = (.error e, disk)) := by
  rw [FileOp.perform_touch]
  constructor
  · intro fits
    rw [h.find_pathOf isName_lockFile fits, Disk.child]
    rcases h.shows lockFile with same | ⟨-, -, lock⟩
    · cases bound : ledger lockFile with
      | some contract =>
          simp only [same, Ledger.node, bound, Option.map_some]
          exact ⟨disk, h, rfl⟩
      | none =>
          simp only [same, Ledger.node, bound, Option.map_none]
          exact ⟨_, h.put (fun _ _ => rfl) (.inr ⟨rfl, bound, rfl⟩) (h.bound lockFile), rfl⟩
    · simp only [lock]
      exact ⟨disk, h, rfl⟩
  · intro tooLong
    have refused : disk.find (registry.pathOf lockFile) = .error .nameTooLong :=
      (Disk.find_join isName_lockFile h.folder).trans (if_pos (Nat.lt_of_not_le tooLong))
    simp only [refused]
    exact ⟨_, rfl⟩

theorem write_entry (h : registry.Stores ledger place disk) (noSlash : '/' ∉ name.toList)
    (lockFits : registry.Fits lockFile) (contract : Contract) :
    (IsName name ∧ registry.Fits name → ∃ later,
      registry.Stores (ledger.bind name contract) place later ∧
      (FileOp.writeText (registry.pathOf name) contract.encode).perform disk = (.ok (), later)) ∧
    (¬ (IsName name ∧ registry.Fits name) → ∃ e,
      (FileOp.writeText (registry.pathOf name) contract.encode).perform disk =
        (.error e, disk)) := by
  constructor
  · rintro ⟨named, fits⟩
    refine ⟨disk.put (place ++ [name]) (.file (Utf8.encode contract.encode) .plain), ?_, ?_⟩
    · exact h.put (fun other elsewhere => if_neg elsewhere)
        (.inl (Ledger.node_bind_self ledger name contract).symm) fun _ => ⟨named, fits, lockFits⟩
    · have opens : disk.Opens (registry.pathOf name) (place ++ [name]) .plain := by
        rw [Disk.Opens, h.find_pathOf named fits, Disk.child]
        rcases h.shows name with same | ⟨-, -, lock⟩
        · cases bound : ledger name with
          | some old =>
              simp only [same, Ledger.node, bound, Option.map_some]
              exact .inl ⟨_, rfl⟩
          | none => exact .inr ⟨by simp only [same, Ledger.node, bound, Option.map_none], rfl⟩
        · exact .inl ⟨[], by simp only [lock]⟩
      exact FileOp.perform_writeBytes_of_room opens (by decide) h.room _
  · intro other
    obtain ⟨e, -, refused⟩ := FileOp.writeBytes_of_unwritable (h.not_writable noSlash other)
    exact ⟨e, refused _⟩

theorem unbound (h : registry.Stores ledger place disk) (refused : ¬ registry.Takes name) :
    ledger name = none := by
  cases bound : ledger name with
  | none => rfl
  | some contract => exact absurd (h.bound name (by simp [bound])) refused

theorem delete_entry (h : registry.Stores ledger place disk) (noSlash : '/' ∉ name.toList) :
    ∃ result later, (FileOp.removeIfThere (registry.pathOf name)).perform disk = (result, later) ∧
      registry.Stores (ledger.unbind name) place later := by
  by_cases usable : IsName name ∧ registry.Fits name
  · have erased := h.erase name
    rw [FileOp.perform_removeIfThere, h.find_pathOf usable.1 usable.2, Disk.child]
    rcases h.shows name with same | ⟨-, -, lock⟩
    · cases bound : ledger name with
      | some contract =>
          simp only [same, Ledger.node, bound, Option.map_some]
          exact ⟨_, _, rfl, erased⟩
      | none =>
          simp only [same, Ledger.node, bound, Option.map_none]
          rw [Ledger.unbind_eq_self bound]
          exact ⟨_, _, rfl, h⟩
    · simp only [lock]
      exact ⟨_, _, rfl, erased⟩
  · obtain ⟨result, removed⟩ := FileOp.removeIfThere_of_noFile
      (Disk.noFile_of_unwritable (h.not_writable noSlash usable))
    have free := h.unbound fun takes : registry.Takes name => usable ⟨takes.named, takes.fits⟩
    rw [Ledger.unbind_eq_self free]
    exact ⟨result, disk, removed, h⟩

/-- The bound names are listed but for those that begin with a dot. -/
theorem list_names (h : registry.Stores ledger place disk) :
    ∃ names, (FileOp.visibleFiles registry.folder).perform disk = (.ok names, disk) ∧
      names.Pairwise (· < ·) ∧
      ∀ name, name ∈ names ↔ name.startsWith "." = false ∧ ledger name ≠ none := by
  refine ⟨_, FileOp.perform_visibleFiles_of_folder h.folder,
    Disk.sortNames_increasing (h.distinct.filter _), fun name => ?_⟩
  rw [Disk.mem_sortNames, List.mem_filter, Disk.mem_namesIn]
  rcases h.shows name with same | ⟨rfl, unbound, lock⟩
  · rw [same]
    cases held : ledger name with
    | none => simp [Ledger.node, held]
    | some contract => simp [Ledger.node, held, Node.isRegular, FileKind.isRegular]
  · have hidden : lockFile.startsWith "." = true := by decide +kernel
    simp [hidden]

end Stores

end Registry

end ContractBench
