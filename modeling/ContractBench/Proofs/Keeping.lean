import ContractBench.Proofs.Registry

/-! # What the folder of a registry holds

`Registry.Keeps` ties a folder to a ledger of names and contracts: the folder holds the file of
every contract in the ledger, maybe the file of the lock, and nothing else. It is an invariant of
the operations on files that a registry is made of, and what is looked for is read off it.
-/

namespace ContractBench

/-- A name that an entry can have. -/
structure PlainName (name : String) : Prop where
  nonempty : name ≠ ""
  noSlash : '/' ∉ name.toList
  noNul : '\x00' ∉ name.toList
  visible : name.startsWith "." = false
  short : Utf8.byteLength name ≤ Disk.longestName

namespace PlainName

variable {name : String}

theorem ne_of_hidden {hidden : String} (h : PlainName name)
    (dotted : hidden.startsWith "." = true) : name ≠ hidden := by
  rintro rfl
  rw [h.visible] at dotted
  contradiction

theorem isName (h : PlainName name) : IsName name :=
  ⟨h.nonempty, h.noSlash, h.noNul, h.ne_of_hidden (by decide +kernel),
    h.ne_of_hidden (by decide +kernel), h.short⟩

end PlainName

theorem PlainName.ne_lockFile {name : String} (h : PlainName name) : name ≠ Registry.lockFile :=
  h.ne_of_hidden (by decide +kernel)

theorem Registry.isName_lockFile : IsName Registry.lockFile := by
  constructor <;> decide +kernel

/-- Contracts under names. -/
abbrev Ledger := String → Option Contract

namespace Ledger

def empty : Ledger := fun _ => none

/-- The ledger with a contract under a name, in place of the one that was there. -/
def bind (ledger : Ledger) (name : String) (contract : Contract) : Ledger :=
  fun other => if other = name then some contract else ledger other

def unbind (ledger : Ledger) (name : String) : Ledger :=
  fun other => if other = name then none else ledger other

/-- The file that is kept under a name. -/
def node (ledger : Ledger) (name : String) : Option Node :=
  (ledger name).map fun contract => .file (Utf8.encode contract.encode) .plain

theorem node_ne_folder (ledger : Ledger) (name : String) : ledger.node name ≠ some .folder := by
  rw [node]
  cases ledger name <;> simp

@[simp] theorem node_bind_self (ledger : Ledger) (name : String) (contract : Contract) :
    (ledger.bind name contract).node name = some (.file (Utf8.encode contract.encode) .plain) := by
  simp [node, bind]

theorem node_bind_of_ne {ledger : Ledger} {name other : String} {contract : Contract}
    (elsewhere : other ≠ name) : (ledger.bind name contract).node other = ledger.node other := by
  simp [node, bind, elsewhere]

@[simp] theorem node_unbind_self (ledger : Ledger) (name : String) :
    (ledger.unbind name).node name = none := by
  simp [node, unbind]

theorem node_unbind_of_ne {ledger : Ledger} {name other : String} (elsewhere : other ≠ name) :
    (ledger.unbind name).node other = ledger.node other := by
  simp [node, unbind, elsewhere]

/-- Taking out what is not there changes nothing. -/
theorem unbind_eq_self {ledger : Ledger} {name : String} (unbound : ledger name = none) :
    ledger.unbind name = ledger := by
  funext other
  rw [unbind]
  split
  next same => rw [same, unbound]
  next => rfl

end Ledger

namespace Registry

/-- Whether the path of a name is short enough to be followed. -/
def Fits (registry : Registry) (name : String) : Prop :=
  Utf8.byteLength (registry.pathOf name).toText ≤ Disk.longestPath

/-- A folder holds the files of a ledger, maybe the lock, and nothing else. -/
structure Keeps (registry : Registry) (ledger : Ledger) (place : Location) (disk : Disk) :
    Prop where
  folder : disk.find registry.folder = .ok (.node place .folder)
  entries : ∀ name, name ≠ lockFile → disk.at? (place ++ [name]) = ledger.node name
  lock : disk.at? (place ++ [lockFile]) ≠ some .folder
  bound : ∀ name, ledger name ≠ none → PlainName name ∧ registry.Fits name
  distinct : (disk.namesIn place).Nodup
  room : disk.full = false

namespace Keeps

variable {registry : Registry} {ledger : Ledger} {place : Location} {disk : Disk}

theorem at?_ne_folder (h : registry.Keeps ledger place disk) (name : String) :
    disk.at? (place ++ [name]) ≠ some .folder := by
  by_cases isLock : name = lockFile
  · rw [isLock]
    exact h.lock
  · rw [h.entries name isLock]
    exact ledger.node_ne_folder name

theorem find_pathOf (h : registry.Keeps ledger place disk) {name : String} (named : IsName name) :
    (registry.Fits name → disk.find (registry.pathOf name) = .ok (disk.child place name)) ∧
      (¬ registry.Fits name → disk.find (registry.pathOf name) = .error .nameTooLong) := by
  have found : disk.find (registry.pathOf name) =
      if Disk.longestPath < Utf8.byteLength (registry.pathOf name).toText then .error .nameTooLong
      else .ok (disk.child place name) := Disk.find_join named h.folder
  constructor
  · intro fits
    rwa [if_neg (Nat.not_lt.mpr fits)] at found
  · intro long
    rwa [if_pos (Nat.lt_of_not_le long)] at found

theorem child_of_bound (h : registry.Keeps ledger place disk) {name : String} {contract : Contract}
    (isEntry : name ≠ lockFile) (bound : ledger name = some contract) :
    disk.child place name =
      .node (place ++ [name]) (.file (Utf8.encode contract.encode) .plain) := by
  rw [Disk.child, h.entries name isEntry, Ledger.node, bound]
  rfl

theorem child_of_unbound (h : registry.Keeps ledger place disk) {name : String}
    (isEntry : name ≠ lockFile) (unbound : ledger name = none) :
    disk.child place name = .gap (place ++ [name]) := by
  rw [Disk.child, h.entries name isEntry, Ledger.node, unbound]
  rfl

/-- Whatever happens to a file in the folder, the folder stays where it is. -/
theorem folder_of_others (h : registry.Keeps ledger place disk) {name : String} {disk' : Disk}
    (sameOrigin : disk'.workDir = disk.workDir)
    (others : ∀ q, q ≠ place ++ [name] → disk'.at? q = disk.at? q) :
    disk'.find registry.folder = .ok (.node place .folder) := by
  refine Disk.find_keeps sameOrigin (fun q isFolder => ?_) h.folder
  have elsewhere : q ≠ place ++ [name] := fun same => h.at?_ne_folder name (same ▸ isFolder)
  rw [others q elsewhere, isFolder]

theorem put_lock (h : registry.Keeps ledger place disk) :
    registry.Keeps ledger place (disk.put (place ++ [lockFile]) (.file [] .plain)) where
  folder := h.folder_of_others rfl fun _ elsewhere => Disk.at?_put_of_ne _ elsewhere
  entries name isEntry := by
    rw [Disk.at?_put_of_ne _ (by simpa using isEntry), h.entries name isEntry]
  lock := by simp [Disk.at?_put_self]
  bound := h.bound
  distinct := by
    rw [Disk.namesIn_put]
    exact List.nodup_append.mpr ⟨h.distinct.filter _, by simp, by simp⟩
  room := h.room

theorem put_entry (h : registry.Keeps ledger place disk) {name : String} (plain : PlainName name)
    (fits : registry.Fits name) (contract : Contract) :
    registry.Keeps (ledger.bind name contract) place
      (disk.put (place ++ [name]) (.file (Utf8.encode contract.encode) .plain)) where
  folder := h.folder_of_others rfl fun _ elsewhere => Disk.at?_put_of_ne _ elsewhere
  entries other isEntry := by
    by_cases same : other = name
    · subst same
      rw [Disk.at?_put_self _ (by simp), Ledger.node_bind_self]
    · rw [Disk.at?_put_of_ne _ (by simpa using same), h.entries other isEntry,
        Ledger.node_bind_of_ne same]
  lock := by
    rw [Disk.at?_put_of_ne _ (by simpa using plain.ne_lockFile.symm)]
    exact h.lock
  bound other bound := by
    by_cases same : other = name
    · exact same ▸ ⟨plain, fits⟩
    · exact h.bound other (by simpa [Ledger.bind, same] using bound)
  distinct := by
    rw [Disk.namesIn_put]
    exact List.nodup_append.mpr ⟨h.distinct.filter _, by simp, by simp⟩
  room := h.room

theorem erase_entry (h : registry.Keeps ledger place disk) {name : String}
    (isEntry : name ≠ lockFile) :
    registry.Keeps (ledger.unbind name) place (disk.erase (place ++ [name])) where
  folder := h.folder_of_others rfl fun _ elsewhere => Disk.at?_erase_of_ne elsewhere
  entries other other_ne := by
    by_cases same : other = name
    · subst same
      rw [Disk.at?_erase_self (by simp), Ledger.node_unbind_self]
    · rw [Disk.at?_erase_of_ne (by simpa using same), h.entries other other_ne,
        Ledger.node_unbind_of_ne same]
  lock := by
    rw [Disk.at?_erase_of_ne (by simpa using isEntry.symm)]
    exact h.lock
  bound other bound := by
    refine h.bound other fun unbound => bound ?_
    simp [Ledger.unbind, unbound]
  distinct := by
    rw [Disk.namesIn_erase]
    exact h.distinct.filter _
  room := h.room

/-! ## The operations on a folder that is there -/

theorem found_of_bound (h : registry.Keeps ledger place disk) {name : String} {contract : Contract}
    (bound : ledger name = some contract) :
    registry.found disk (some name) = .ok contract := by
  obtain ⟨plain, fits⟩ := h.bound name (by simp [bound])
  refine found_of_holds ?_
  rw [HoldsEntry, Disk.content, (h.find_pathOf plain.isName).1 fits,
    h.child_of_bound plain.ne_lockFile bound]

theorem found_of_unbound (h : registry.Keeps ledger place disk) {name : String}
    (plain : PlainName name) (unbound : ledger name = none) :
    ∃ fault, registry.found disk (some name) =
      .error (.noEntry name (registry.pathOf name).toText fault) := by
  obtain ⟨ifShort, ifLong⟩ := h.find_pathOf plain.isName
  by_cases fits : registry.Fits name
  · have missing : disk.content (registry.pathOf name) = .error .notFound := by
      rw [Disk.content, ifShort fits, h.child_of_unbound plain.ne_lockFile unbound]
    exact ⟨_, found_of_unreadable missing⟩
  · have refused : disk.content (registry.pathOf name) = .error .nameTooLong := by
      rw [Disk.content, ifLong fits]
    exact ⟨_, found_of_unreadable refused⟩

theorem touch_lock (h : registry.Keeps ledger place disk) :
    (registry.Fits lockFile → ∃ later, registry.Keeps ledger place later ∧
      (FileOp.touch (registry.pathOf lockFile)).perform disk = (.ok (), later)) ∧
    (¬ registry.Fits lockFile → (FileOp.touch (registry.pathOf lockFile)).perform disk =
      (.error ⟨.nameTooLong, (registry.pathOf lockFile).toText⟩, disk)) := by
  obtain ⟨ifShort, ifLong⟩ := h.find_pathOf isName_lockFile
  rw [FileOp.perform_touch]
  constructor
  · intro fits
    rw [ifShort fits, Disk.child]
    cases held : disk.at? (place ++ [lockFile]) with
    | none => exact ⟨_, h.put_lock, rfl⟩
    | some node =>
        cases node with
        | folder => exact absurd held h.lock
        | file bytes kind => exact ⟨disk, h, rfl⟩
  · intro long
    rw [ifLong long]

theorem write_entry (h : registry.Keeps ledger place disk) {name : String} (plain : PlainName name)
    (contract : Contract) :
    (registry.Fits name → ∃ later, registry.Keeps (ledger.bind name contract) place later ∧
      (FileOp.writeText (registry.pathOf name) contract.encode).perform disk = (.ok (), later)) ∧
    (¬ registry.Fits name → (FileOp.writeText (registry.pathOf name) contract.encode).perform disk =
      (.error ⟨.nameTooLong, (registry.pathOf name).toText⟩, disk)) := by
  obtain ⟨ifShort, ifLong⟩ := h.find_pathOf plain.isName
  rw [FileOp.writeText]
  constructor
  · intro fits
    refine ⟨_, h.put_entry plain fits contract, ?_⟩
    have opens : disk.Opens (registry.pathOf name) (place ++ [name]) .plain := by
      rw [Disk.Opens, ifShort fits]
      cases bound : ledger name with
      | none => exact .inr ⟨by rw [h.child_of_unbound plain.ne_lockFile bound], rfl⟩
      | some old => exact .inl ⟨_, by rw [h.child_of_bound plain.ne_lockFile bound]⟩
    exact FileOp.perform_writeBytes_of_room opens (by decide) h.room _
  · intro long
    rw [FileOp.perform_writeBytes, ifLong long]

theorem delete_entry (h : registry.Keeps ledger place disk) {name : String}
    (plain : PlainName name) :
    (registry.Fits name → ∃ later, registry.Keeps (ledger.unbind name) place later ∧
      (FileOp.removeIfThere (registry.pathOf name)).perform disk = (.ok (), later)) ∧
    (¬ registry.Fits name → (FileOp.removeIfThere (registry.pathOf name)).perform disk =
      (.error ⟨.nameTooLong, (registry.pathOf name).toText⟩, disk)) := by
  obtain ⟨ifShort, ifLong⟩ := h.find_pathOf plain.isName
  rw [FileOp.perform_removeIfThere]
  constructor
  · intro fits
    rw [ifShort fits]
    cases bound : ledger name with
    | none =>
        rw [h.child_of_unbound plain.ne_lockFile bound, Ledger.unbind_eq_self bound]
        exact ⟨disk, h, rfl⟩
    | some contract =>
        rw [h.child_of_bound plain.ne_lockFile bound]
        exact ⟨_, h.erase_entry plain.ne_lockFile, rfl⟩
  · intro long
    rw [ifLong long]

theorem list_names (h : registry.Keeps ledger place disk) :
    ∃ names, (FileOp.visibleFiles registry.folder).perform disk = (.ok names, disk) ∧
      names.Pairwise (· < ·) ∧ ∀ name, name ∈ names ↔ ledger name ≠ none := by
  refine ⟨_, FileOp.perform_visibleFiles_of_folder h.folder,
    Disk.sortNames_increasing (h.distinct.filter _), fun name => ?_⟩
  rw [Disk.mem_sortNames, List.mem_filter, Disk.mem_namesIn]
  by_cases isLock : name = lockFile
  · subst isLock
    have hidden : lockFile.startsWith "." = true := by decide +kernel
    cases held : ledger lockFile with
    | none => simp [hidden]
    | some contract => exact absurd rfl (h.bound lockFile (by simp [held])).1.ne_lockFile
  · rw [h.entries name isLock]
    cases held : ledger name with
    | none => simp [Ledger.node, held]
    | some contract =>
        have visible := (h.bound name (by simp [held])).1.visible
        simp [Ledger.node, held, visible, Node.isRegular, FileKind.isRegular]

end Keeps

end Registry

end ContractBench
