import ContractBench.Proofs.Apart
import ContractBench.Proofs.Loading
import ContractBench.Proofs.Tolerance

/-! # Deleting an entry

Whatever lies under a name, after a deletion nothing is found there, and no other file is touched
(`deletes_one_or_fails`). Whether there is anything to remove is asked of the system first, and two
of its answers are passed on as failures: a folder cannot be removed as a file, and a path that is
too long is not even looked at. So deleting a name that was never kept can fail
(`not_always_deleted`).
-/

namespace ContractBench

namespace Disk

variable {disk : Disk}

/-- On the way from a location a folder is asked for a name that is too long for the system. -/
def AsksLongName (disk : Disk) (base : Location) (names : List String) : Prop :=
  ∃ before name rest place, names = before ++ name :: rest ∧
    disk.follow base before = .ok (.node place .folder) ∧ longestName < Utf8.byteLength name

/-- The first name is not too long, and from behind it the way goes on as from another location. -/
theorem asksLongName_cons {base next : Location} {name : String} {rest : List String}
    (short : ¬ longestName < Utf8.byteLength name)
    (steps : ∀ more, disk.follow base (name :: more) = disk.follow next more) :
    disk.AsksLongName base (name :: rest) ↔ disk.AsksLongName next rest := by
  constructor
  · rintro ⟨before, long, further, place, split, followed, tooLong⟩
    cases before with
    | nil =>
        obtain ⟨rfl, rfl⟩ := List.cons.inj split
        exact absurd tooLong short
    | cons first before =>
        obtain ⟨rfl, rfl⟩ := List.cons.inj split
        rw [steps] at followed
        exact ⟨before, long, further, place, rfl, followed, tooLong⟩
  · rintro ⟨before, long, further, place, rfl, followed, tooLong⟩
    exact ⟨name :: before, long, further, place, rfl, (steps before).trans followed, tooLong⟩

/-- Where the first name leads to nothing, no folder is asked for a name behind it. -/
theorem not_asksLongName_of_absent {base : Location} {name : String} {rest : List String}
    (down : name ≠ "..") (short : ¬ longestName < Utf8.byteLength name)
    (absent : disk.at? (base ++ [name]) = none) : ¬ disk.AsksLongName base (name :: rest) := by
  rintro ⟨before, long, further, place, split, followed, tooLong⟩
  cases before with
  | nil =>
      obtain ⟨rfl, rfl⟩ := List.cons.inj split
      exact short tooLong
  | cons first before =>
      obtain ⟨rfl, rfl⟩ := List.cons.inj split
      rw [follow_cons] at followed
      split at followed
      · rw [if_neg down, if_neg short, absent] at followed
        cases before <;> simp at followed
      · simp at followed
      · simp at followed

/-- Where no folder is, none is asked for anything. -/
theorem not_asksLongName_of_no_folder {base : Location} {names : List String}
    (noFolder : disk.at? base ≠ some .folder) : ¬ disk.AsksLongName base names := by
  rintro ⟨before, name, rest, place, -, followed, -⟩
  cases before with
  | nil =>
      obtain rfl : base = place := by
        rw [follow] at followed
        split at followed <;> simp_all
      exact noFolder (follow_node followed)
  | cons first before =>
      rw [follow_cons] at followed
      split at followed <;> simp_all

theorem follow_eq_nameTooLong (disk : Disk) (base : Location) (names : List String) :
    disk.follow base names = .error .nameTooLong ↔ disk.AsksLongName base names := by
  fun_induction follow disk base names with
  | case1 | case2 => simp [AsksLongName]
  | case3 place rest start ih =>
      have short : ¬ longestName < Utf8.byteLength ".." := by decide +kernel
      exact ih.trans (asksLongName_cons short fun more => follow_up start).symm
  | case4 place name rest start down long =>
      refine iff_of_true rfl ⟨[], name, rest, place, rfl, ?_, long⟩
      rw [follow, start]
  | case5 place name start down short node rest present ih =>
      exact ih.trans (asksLongName_cons short fun more => follow_down start down short present).symm
  | case6 place name start down short absent =>
      exact iff_of_false (by simp) (not_asksLongName_of_absent down short absent)
  | case7 place name start down short head names absent =>
      exact iff_of_false (by simp) (not_asksLongName_of_absent down short absent)
  | case8 place name names bytes kind isFile =>
      exact iff_of_false (by simp) (not_asksLongName_of_no_folder (by simp [isFile]))
  | case9 place name names absent =>
      exact iff_of_false (by simp) (not_asksLongName_of_no_folder (by simp [absent]))

/-- The system refuses a path for its length: its text has more than 4095 bytes, or on the way a
    folder is asked for a name of more than 255. -/
structure RefusesLength (disk : Disk) (path : Path) : Prop where
  noNul : ¬ HoldsNul path.toText
  tooLong : longestPath < Utf8.byteLength path.toText ∨
    disk.AsksLongName (disk.origin path) path.parts

theorem find_eq_nameTooLong (disk : Disk) (path : Path) :
    disk.find path = .error .nameTooLong ↔ disk.RefusesLength path := by
  constructor
  · intro refused
    have noNul := noNul_of_find (by rw [refused]; nofun)
    refine ⟨noNul, Classical.or_iff_not_imp_left.mpr fun short => ?_⟩
    rw [find, List.contains_eq_mem] at refused
    rw [if_neg (by simpa using noNul), if_neg short] at refused
    exact (follow_eq_nameTooLong ..).mp refused
  · rintro ⟨noNul, tooLong⟩
    rw [HoldsNul] at noNul
    rw [find, List.contains_eq_mem, if_neg (by simpa using noNul)]
    split
    · rfl
    next short => exact (follow_eq_nameTooLong ..).mpr (tooLong.resolve_left short)

end Disk

namespace Registry

variable {registry : Registry} {name : String}

/-- Why a deletion fails. -/
def Obstructs (registry : Registry) (name : String) (disk : Disk) (failure : Failure) : Prop :=
  (∃ place, disk.find (registry.pathOf name) = .ok (.node place .folder)) ∧
      failure = .file ⟨.isFolder, (registry.pathOf name).toText⟩ ∨
    disk.RefusesLength (registry.pathOf name) ∧
      failure = .file ⟨.nameTooLong, (registry.pathOf name).toText⟩

/-- What a deletion leaves. -/
structure Deletes (registry : Registry) (name : String) (world : World)
    (result : Except Failure Unit) (later : World) : Prop where
  /-- It fails where the path leads to a folder or is too long, and nowhere else. -/
  fails : ∀ failure, result = .error failure ↔ registry.Obstructs name world.disk failure
  unchanged : result ≠ .ok () → later = world
  /-- The file of the entry is gone. -/
  removed : ∀ place bytes kind,
    world.disk.find (registry.pathOf name) = .ok (.node place (.file bytes kind)) →
      later.disk.at? place = none
  /-- What lies anywhere else stays. -/
  others : ∀ place,
    (∀ bytes kind,
      world.disk.find (registry.pathOf name) ≠ .ok (.node place (.file bytes kind))) →
      later.disk.at? place = world.disk.at? place
  onlyDisk : later = world.withDisk later.disk
  /-- Nothing is found under the name, also after a failure. -/
  missed : ∀ daemon, ∃ final,
    Bench.perform (registry.lookup (some name)) daemon later = (.ok ⟨some name, none⟩, final)

theorem lookup_misses {disk : Disk}
    (noFile : ∀ place bytes kind,
      disk.find (registry.pathOf name) ≠ .ok (.node place (.file bytes kind)))
    (daemon : Daemon) {world : World} (here : world.disk = disk) :
    ∃ final, Bench.perform (registry.lookup (some name)) daemon world =
      (.ok ⟨some name, none⟩, final) := by
  obtain ⟨final, looked, -⟩ := registry.lookup_spec (some name) daemon world
  refine ⟨final, ?_⟩
  rw [looked, here]
  cases found : registry.found disk (some name) with
  | error failure => rfl
  | ok contract =>
      obtain ⟨fault, unreadable⟩ : ∃ fault, disk.content (registry.pathOf name) = .error fault := by
        rw [Disk.content]
        rcases known : disk.find (registry.pathOf name) with fault | ⟨place, bytes | _⟩ | place
        · exact ⟨fault, rfl⟩
        · exact absurd known (noFile place bytes _)
        · exact ⟨_, rfl⟩
        · exact ⟨_, rfl⟩
      rw [found_of_unreadable unreadable] at found
      cases found

theorem deletes_nothing {world : World} {result : Except Failure Unit}
    (noFile : ∀ place bytes kind,
      world.disk.find (registry.pathOf name) ≠ .ok (.node place (.file bytes kind)))
    (fails : ∀ failure, result = .error failure ↔ registry.Obstructs name world.disk failure) :
    registry.Deletes name world result world where
  fails := fails
  unchanged _ := rfl
  removed place bytes kind there := absurd there (noFile place bytes kind)
  others _ _ := rfl
  onlyDisk := rfl
  missed daemon := lookup_misses noFile daemon rfl

theorem not_obstructs {disk : Disk} (failure : Failure)
    (noFolder : ∀ place, disk.find (registry.pathOf name) ≠ .ok (.node place .folder))
    (followed : disk.find (registry.pathOf name) ≠ .error .nameTooLong) :
    ¬ registry.Obstructs name disk failure := by
  rintro (⟨⟨place, there⟩, -⟩ | ⟨refused, -⟩)
  · exact noFolder place there
  · exact followed ((disk.find_eq_nameTooLong _).mpr refused)

theorem deletes_file {world : World} {place : Location} {bytes : List UInt8} {kind : FileKind}
    (there : world.disk.find (registry.pathOf name) = .ok (.node place (.file bytes kind))) :
    registry.Deletes name world (.ok ()) (world.withDisk (world.disk.erase place)) where
  fails failure :=
    iff_of_false (by simp) (not_obstructs failure (by simp [there]) (by simp [there]))
  unchanged failed := absurd rfl failed
  removed place' bytes' kind' there' := by
    obtain ⟨rfl, -⟩ : place = place' ∧ _ := by simpa using there.symm.trans there'
    refine Disk.at?_erase_self fun top => ?_
    simpa [top] using Disk.at?_of_found there
  others place' elsewhere := by
    refine Disk.at?_erase_of_ne fun same => elsewhere bytes kind ?_
    rw [there, same]
  onlyDisk := rfl
  missed daemon :=
    lookup_misses (fun _ _ _ found => Disk.find_erase there _ ⟨_, found⟩) daemon rfl

end Registry

end ContractBench
