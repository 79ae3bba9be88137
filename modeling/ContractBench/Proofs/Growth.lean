import ContractBench.Proofs.Files

/-! # Folders that are made

Making a folder with those above it only adds folders, each inside a folder (`Disk.Grows`). On a
disk where every node lies in a folder (`Disk.Rooted`) this stays so, and no file comes, goes or
changes.
-/

namespace ContractBench

namespace Disk

/-- Every node lies in a folder. -/
def Rooted (disk : Disk) : Prop :=
  ∀ place name node, disk.at? (place ++ [name]) = some node → disk.at? place = some .folder

/-- From one disk to the next some folders were made, each in a folder. -/
structure Grows (disk later : Disk) : Prop where
  workDir : later.workDir = disk.workDir
  full : later.full = disk.full
  kept : ∀ place node, disk.at? place = some node → later.at? place = some node
  made : ∀ place node, disk.at? place = none → later.at? place = some node →
    node = .folder ∧ later.at? place.dropLast = some .folder

variable {disk later : Disk}

theorem follow_gap_above {base place : Location} {names : List String}
    (found : disk.follow base names = .ok (.gap place)) :
    disk.at? place.dropLast = some .folder := by
  fun_induction follow disk base names <;> simp_all
  subst found
  simp_all

namespace Rooted

theorem above (h : disk.Rooted) {place : Location} (isFolder : disk.at? place = some .folder) :
    disk.at? place.dropLast = some .folder := by
  rcases List.eq_nil_or_concat place with rfl | ⟨place, name, rfl⟩
  · exact isFolder
  · rw [List.concat_eq_append] at isFolder ⊢
    rw [List.dropLast_concat]
    exact h place name .folder isFolder

/-- A node that is put in a folder, where no folder is in its way, leaves the disk as sound. -/
theorem put (h : disk.Rooted) {place : Location} {name : String} {node : Node}
    (inside : disk.at? place = some .folder)
    (fresh : disk.at? (place ++ [name]) ≠ some .folder) :
    (disk.put (place ++ [name]) node).Rooted := by
  have folders (q : Location) (isFolder : disk.at? q = some .folder) :
      (disk.put (place ++ [name]) node).at? q = some .folder := by
    have elsewhere : q ≠ place ++ [name] := fun same => fresh (by rw [← same, isFolder])
    rw [at?_put_of_ne _ elsewhere, isFolder]
  intro q other found node
  by_cases here : q ++ [other] = place ++ [name]
  · obtain rfl : q = place := (List.append_inj_left' here rfl)
    exact folders q inside
  · rw [at?_put_of_ne _ here] at node
    exact folders q (h q other found node)

end Rooted

namespace Grows

theorem refl (disk : Disk) : disk.Grows disk where
  workDir := rfl
  full := rfl
  kept _ _ here := here
  made _ _ absent here := by
    rw [absent] at here
    contradiction

theorem trans {last : Disk} (h : disk.Grows later) (h' : later.Grows last) : disk.Grows last where
  workDir := h'.workDir.trans h.workDir
  full := h'.full.trans h.full
  kept place node here := h'.kept place node (h.kept place node here)
  made place node absent here := by
    cases between : later.at? place with
    | none => exact h'.made place node between here
    | some old =>
        obtain ⟨rfl, above⟩ := h.made place old absent between
        have same := h'.kept place .folder between
        rw [here] at same
        exact ⟨Option.some.inj same, h'.kept _ _ above⟩

theorem gap {base place : Location} {names : List String}
    (found : disk.follow base names = .ok (.gap place)) : disk.Grows (disk.put place .folder) := by
  obtain ⟨absent, deep⟩ := follow_gap found
  have elsewhere {q : Location} {node : Node} (here : disk.at? q = some node) : q ≠ place := by
    rintro rfl
    rw [absent] at here
    contradiction
  refine ⟨rfl, rfl, fun q node here => ?_, fun q node gone here => ?_⟩
  · rw [at?_put_of_ne _ (elsewhere here), here]
  · by_cases same : q = place
    · subst same
      rw [at?_put_self _ deep] at here
      have above := follow_gap_above found
      exact ⟨(Option.some.inj here).symm, (at?_put_of_ne _ (elsewhere above)).trans above⟩
    · rw [at?_put_of_ne _ same, gone] at here
      contradiction

theorem rooted (h : disk.Grows later) (rooted : disk.Rooted) : later.Rooted := by
  intro place name node here
  cases before : disk.at? (place ++ [name]) with
  | none =>
      obtain ⟨-, above⟩ := h.made _ _ before here
      rwa [List.dropLast_concat] at above
  | some old => exact h.kept _ _ (rooted _ _ _ before)

/-- Files stay what they were, and there are no new ones. -/
theorem file_iff (h : disk.Grows later) (place : Location) (bytes : List UInt8) (kind : FileKind) :
    later.at? place = some (.file bytes kind) ↔ disk.at? place = some (.file bytes kind) := by
  constructor
  · intro here
    cases before : disk.at? place with
    | none => exact nomatch (h.made _ _ before here).1
    | some old => rw [← here, h.kept _ _ before]
  · exact h.kept _ _

end Grows

end Disk

namespace FileOp

theorem grows_ensureFolder (begun : Disk) (path : Path) :
    (ensureFolder path).Preserves begun.Grows := by
  intro disk grown
  rw [perform_ensureFolder]
  rcases known : disk.find path with fault | ⟨place, _ | _⟩ | place
  · exact grown
  · exact grown
  · exact grown
  · exact grown.trans (.gap (Disk.follow_of_found known))

theorem grows_ensureFolders (disk : Disk) (path : Path) :
    disk.Grows ((ensureFolders path).perform disk).2 :=
  preserves_ensureFolders_of path (grows_ensureFolder disk) disk (.refl disk)

end FileOp

end ContractBench
