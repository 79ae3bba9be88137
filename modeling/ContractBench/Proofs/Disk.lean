import ContractBench.Disk.Operation

/-! # Following paths

What a path leads to changes only with the locations on its way. `Disk.follow_put` says what a path
leads to after something was put where it led, and `Disk.follow_keeps` that a path to a folder is
not disturbed as long as the folders stay folders. Both go by induction on the names that are still
to be followed.
-/

namespace ContractBench

namespace Disk

variable {disk : Disk}

/-! ## What lies at a location -/

@[simp] theorem at?_top : disk.at? [] = some .folder := rfl

/-- Leaving out the entries of one location does not change what is found at another. -/
theorem find?_others {nodes : List (Location × Node)} {place other : Location}
    (elsewhere : other ≠ place) :
    (nodes.filter fun entry => entry.1 ≠ place).find? (fun entry => entry.1 = other) =
      nodes.find? fun entry => entry.1 = other := by
  rw [List.find?_filter]
  congr 1
  funext entry
  by_cases same : entry.1 = other <;> simp [same, elsewhere]

theorem find?_none {nodes : List (Location × Node)} {place : Location} :
    (nodes.filter fun entry => entry.1 ≠ place).find? (fun entry => entry.1 = place) = none := by
  simp [List.find?_eq_none]

theorem at?_put_self {place : Location} (node : Node) (deep : place ≠ []) :
    (disk.put place node).at? place = some node := by
  rw [at?, if_neg deep, put, List.find?_append, find?_none]
  simp

theorem at?_put_of_ne {place other : Location} (node : Node) (elsewhere : other ≠ place) :
    (disk.put place node).at? other = disk.at? other := by
  rw [at?, put, List.find?_append, find?_others elsewhere, at?]
  simp [Ne.symm elsewhere]

theorem at?_erase_self {place : Location} (deep : place ≠ []) :
    (disk.erase place).at? place = none := by
  rw [at?, if_neg deep, erase, find?_none, Option.map_none]

theorem at?_erase_of_ne {place other : Location} (elsewhere : other ≠ place) :
    (disk.erase place).at? other = disk.at? other := by
  rw [at?, erase, find?_others elsewhere, at?]

/-- A file on a disk to which something was put is what was put, or was there before. -/
theorem file_of_put {place other : Location} {node : Node} {bytes : List UInt8} {kind : FileKind}
    (found : (disk.put place node).at? other = some (.file bytes kind)) :
    other = place ∧ node = .file bytes kind ∨
      other ≠ place ∧ disk.at? other = some (.file bytes kind) := by
  by_cases same : other = place
  · subst same
    by_cases top : other = []
    · simp [top] at found
    · rw [at?_put_self _ top] at found
      exact .inl ⟨rfl, Option.some.inj found⟩
  · rw [at?_put_of_ne _ same] at found
    exact .inr ⟨same, found⟩

theorem erase_put_self (place : Location) (node : Node) :
    (disk.put place node).erase place = disk.erase place := by
  simp [put, erase]

theorem file_of_erase {place other : Location} {bytes : List UInt8} {kind : FileKind}
    (found : (disk.erase place).at? other = some (.file bytes kind)) :
    other ≠ place ∧ disk.at? other = some (.file bytes kind) := by
  by_cases same : other = place
  · subst same
    by_cases top : other = []
    · simp [top] at found
    · simp [at?_erase_self top] at found
  · rw [at?_erase_of_ne same] at found
    exact ⟨same, found⟩

/-! ## What a path leads to -/

/-- The location that a path leads to. -/
@[simp] def Found.place : Found → Location
  | .node place _ => place
  | .gap place => place

theorem follow_cons (disk : Disk) (place : Location) (name : String) (rest : List String) :
    disk.follow place (name :: rest) =
      match disk.at? place with
      | some .folder =>
        if name = ".." then disk.follow place.dropLast rest
        else if longestName < Utf8.byteLength name then .error .nameTooLong
        else
          match disk.at? (place ++ [name]), rest with
          | some _, rest => disk.follow (place ++ [name]) rest
          | none, [] => .ok (.gap (place ++ [name]))
          | none, _ :: _ => .error .notFound
      | some (.file _ _) => .error .notFolder
      | none => .error .notFound := follow.eq_def disk place (name :: rest)

theorem follow_up {place : Location} {rest : List String} (start : disk.at? place = some .folder) :
    disk.follow place (".." :: rest) = disk.follow place.dropLast rest := by
  simp [follow_cons, start]

theorem follow_down {place : Location} {name : String} {rest : List String} {node : Node}
    (start : disk.at? place = some .folder) (down : name ≠ "..")
    (short : ¬ longestName < Utf8.byteLength name)
    (present : disk.at? (place ++ [name]) = some node) :
    disk.follow place (name :: rest) = disk.follow (place ++ [name]) rest := by
  simp [follow_cons, start, down, short, present]

theorem follow_node {base place : Location} {names : List String} {node : Node}
    (found : disk.follow base names = .ok (.node place node)) : disk.at? place = some node := by
  fun_induction follow disk base names <;> simp_all

theorem follow_gap {base place : Location} {names : List String}
    (found : disk.follow base names = .ok (.gap place)) : disk.at? place = none ∧ place ≠ [] := by
  fun_induction follow disk base names <;> simp_all
  subst found
  simp_all

theorem follow_append {base : Location} {names rest : List String} (more : rest ≠ []) :
    disk.follow base (names ++ rest) =
      match disk.follow base names with
      | .ok (.node place _) => disk.follow place rest
      | .ok (.gap _) => .error .notFound
      | .error fault => .error fault := by
  obtain ⟨next, further, rfl⟩ := List.exists_cons_of_ne_nil more
  fun_induction follow disk base names with
  | case1 place node present => rfl
  | case2 place absent => simp [follow_cons, absent]
  | case3 place names start ih => rw [List.cons_append, follow_up start, ih]
  | case4 place name names start down long => simp [follow_cons, start, down, long]
  | case5 place name start down short node names present ih =>
      rw [List.cons_append, follow_down start down short present, ih]
  | case6 place name start down short absent => simp [follow_cons, start, down, short, absent]
  | case7 place name start down short head names absent =>
      simp [follow_cons, start, down, short, absent]
  | case8 place name names bytes kind isFile => simp [follow_cons, isFile]
  | case9 place name names absent => simp [follow_cons, absent]

/-- Where a path led to a file or to nothing, it leads to what is put there. -/
theorem follow_put {base : Location} {names : List String} {found : Found} (node : Node)
    (followed : disk.follow base names = .ok found)
    (fresh : disk.at? found.place ≠ some .folder) :
    (disk.put found.place node).follow base names = .ok (.node found.place node) := by
  have deep : found.place ≠ [] := fun top => fresh (by rw [top, at?_top])
  have there : (disk.put found.place node).at? found.place = some node := at?_put_self node deep
  have folders {place : Location} (isFolder : disk.at? place = some .folder) :
      (disk.put found.place node).at? place = some .folder := by
    have elsewhere : place ≠ found.place := fun same => fresh (by rw [← same, isFolder])
    rw [at?_put_of_ne node elsewhere, isFolder]
  fun_induction follow disk base names with
  | case1 place old present =>
      obtain rfl : .node place old = found := Except.ok.inj followed
      simp only [Found.place] at there ⊢
      rw [follow, there]
  | case3 place rest start ih => rw [follow_up (folders start), ih followed]
  | case5 place name start down short old rest present ih =>
      -- The next location may itself be the one where something was put.
      by_cases here : place ++ [name] = found.place
      · have below : (disk.put found.place node).at? (place ++ [name]) = some node := by
          rw [here, there]
        rw [follow_down (folders start) down short below, ih followed]
      · rw [follow_down (folders start) down short
          ((at?_put_of_ne node here).trans present), ih followed]
  | case6 place name start down short absent =>
      obtain rfl : .gap (place ++ [name]) = found := Except.ok.inj followed
      simp only [Found.place] at there folders ⊢
      rw [follow_down (folders start) down short there, follow, there]
  | _ => simp at followed

/-- A path still leads where it led, on a disk that keeps all folders and what was found. -/
theorem follow_kept {disk' : Disk} {base place : Location} {names : List String} {node : Node}
    (folders : ∀ q, disk.at? q = some .folder → disk'.at? q = some .folder)
    (kept : disk'.at? place = some node)
    (followed : disk.follow base names = .ok (.node place node)) :
    disk'.follow base names = .ok (.node place node) := by
  fun_induction follow disk base names with
  | case1 place' old present =>
      obtain ⟨rfl, rfl⟩ : place' = place ∧ old = node := by simpa using followed
      rw [follow, kept]
  | case3 place' rest start ih => rw [follow_up (folders _ start), ih followed]
  | case5 place' name start down short old rest present ih =>
      cases old with
      | folder => rw [follow_down (folders _ start) down short (folders _ present), ih followed]
      | file bytes kind =>
          -- Nothing lies below a file, so it is what was found.
          cases rest with
          | cons _ _ => simp [follow_cons, present] at followed
          | nil =>
              obtain ⟨rfl, rfl⟩ : place' ++ [name] = place ∧ .file bytes kind = node := by
                simpa [follow, present] using followed
              rw [follow_down (folders _ start) down short kept, follow, kept]
  | _ => simp at followed

/-- A path to a folder still leads there on a disk that keeps all folders. -/
theorem follow_keeps {disk' : Disk} {base place : Location} {names : List String}
    (folders : ∀ q, disk.at? q = some .folder → disk'.at? q = some .folder)
    (followed : disk.follow base names = .ok (.node place .folder)) :
    disk'.follow base names = .ok (.node place .folder) :=
  follow_kept folders (folders _ (follow_node followed)) followed

/-- A path to a file that was erased leads to nothing. -/
theorem follow_erase {base place : Location} {names : List String} {bytes : List UInt8}
    {kind : FileKind} (followed : disk.follow base names = .ok (.node place (.file bytes kind)))
    (other : Location) (node : Node) :
    (disk.erase place).follow base names ≠ .ok (.node other node) := by
  have isFile := follow_node followed
  have gone : (disk.erase place).at? place = none := by
    refine at?_erase_self fun top => ?_
    simp [top] at isFile
  have folders {q : Location} (isFolder : disk.at? q = some .folder) :
      (disk.erase place).at? q = some .folder := by
    have elsewhere : q ≠ place := by
      rintro rfl
      rw [isFile] at isFolder
      cases isFolder
    rw [at?_erase_of_ne elsewhere, isFolder]
  fun_induction follow disk base names with
  | case1 place' old present =>
      obtain rfl : place' = place := by simp_all
      simp [follow, gone]
  | case3 place' rest start ih =>
      rw [follow_up (folders start)]
      exact ih followed
  | case5 place' name start down short old rest present ih =>
      by_cases here : place' ++ [name] = place
      · rw [follow_cons, folders start]
        cases rest <;> simp [down, short, here, gone]
      · rw [follow_down (folders start) down short ((at?_erase_of_ne here).trans present)]
        exact ih followed
  | _ => simp at followed

end Disk

/-! ## Names below a path -/

theorem Utf8.byteLength_append (s t : String) :
    Utf8.byteLength (s ++ t) = Utf8.byteLength s + Utf8.byteLength t := by
  simp [Utf8.byteLength, Utf8.encode]

/-- A name that can stand for a file in a folder. -/
structure IsName (name : String) : Prop where
  nonempty : name ≠ ""
  noSlash : '/' ∉ name.toList
  noNul : '\x00' ∉ name.toList
  noDot : name ≠ "."
  noDots : name ≠ ".."
  short : Utf8.byteLength name ≤ Disk.longestName

namespace Path

theorem piecesFrom_of_noSlash {piece rest : List Char} (noSlash : '/' ∉ rest) :
    piecesFrom piece rest = [String.ofList (piece.reverse ++ rest)] := by
  induction rest generalizing piece with
  | nil => simp [piecesFrom]
  | cons c rest ih =>
      obtain ⟨other, noSlash⟩ : '/' ≠ c ∧ '/' ∉ rest := by simpa using noSlash
      rw [piecesFrom.eq_3 piece c rest other.symm, ih noSlash]
      simp

theorem rootOf_of_noSlash {text : String} (noSlash : '/' ∉ text.toList) : rootOf text = "" := by
  rw [rootOf]
  split <;> simp_all

theorem join_name (base : Path) {name : String} (h : IsName name) :
    base.join name = ⟨base.root, base.parts ++ [name]⟩ := by
  rw [join, if_pos (rootOf_of_noSlash h.noSlash), namesIn, piecesFrom_of_noSlash h.noSlash]
  simp [h.nonempty, h.noDot]

/-- The text of a name seen from a path ends in the name, and before it there is nothing new but
    the slash. -/
theorem toText_join_name (base : Path) {name : String} (h : IsName name) :
    ∃ lead : String, (base.join name).toText = lead ++ name ∧
      ∀ c ∈ lead.toList, c ∈ base.toText.toList ∨ c = '/' := by
  rw [join_name base h, toText, if_neg (by simp)]
  by_cases top : base.parts = []
  · refine ⟨base.root, by simp [top], fun c member => .inl ?_⟩
    rw [toText]
    split
    next empty => simp [empty.1] at member
    next => simp [member]
  · refine ⟨base.toText ++ "/", ?_, by simp⟩
    rw [toText, if_neg (by simp [top]), String.intercalate_append_of_ne_nil top (by simp)]
    simp [String.append_assoc]

theorem noNul_join_name {base : Path} {name : String} (h : IsName name)
    (noNul : '\x00' ∉ base.toText.toList) : '\x00' ∉ (base.join name).toText.toList := by
  obtain ⟨lead, text, known⟩ := base.toText_join_name h
  rw [text, String.toList_append, List.mem_append]
  rintro (member | member)
  · exact (known _ member).elim noNul (by decide)
  · exact h.noNul member

end Path

namespace Disk

variable {disk : Disk}

def child (disk : Disk) (place : Location) (name : String) : Found :=
  match disk.at? (place ++ [name]) with
  | some node => .node (place ++ [name]) node
  | none => .gap (place ++ [name])

theorem follow_name {place : Location} {name : String} (h : IsName name)
    (start : disk.at? place = some .folder) :
    disk.follow place [name] = .ok (disk.child place name) := by
  rw [follow_cons, start, child]
  simp only [h.noDots, if_false, Nat.not_lt.mpr h.short]
  cases present : disk.at? (place ++ [name]) with
  | none => rfl
  | some node => simp [follow, present]

theorem noNul_of_find {path : Path} (known : disk.find path ≠ .error .embeddedNul) :
    '\x00' ∉ path.toText.toList := by
  intro member
  simp [find, member] at known

theorem follow_ne_noSpace (disk : Disk) (base : Location) (names : List String) :
    disk.follow base names ≠ .error .noSpace := by
  fun_induction follow disk base names <;> simp_all

/-- Following a path takes no room. -/
theorem find_ne_noSpace (disk : Disk) (path : Path) : disk.find path ≠ .error .noSpace := by
  rw [find]
  split
  · simp
  · split
    · simp
    · exact follow_ne_noSpace disk _ _

/-- Unless its text is at fault, a path leads where its names do. -/
theorem follow_of_find {path : Path} {result : Except FileFault Found}
    (known : disk.find path = result) (seen : result ≠ .error .embeddedNul)
    (short : result ≠ .error .nameTooLong) :
    disk.follow (disk.origin path) path.parts = result := by
  rw [find] at known
  split at known
  · exact absurd known.symm seen
  · split at known
    · exact absurd known.symm short
    · exact known

theorem follow_of_found {path : Path} {found : Found} (known : disk.find path = .ok found) :
    disk.follow (disk.origin path) path.parts = .ok found := follow_of_find known nofun nofun

theorem at?_of_found {path : Path} {place : Location} {node : Node}
    (known : disk.find path = .ok (.node place node)) : disk.at? place = some node :=
  follow_node (follow_of_found known)

theorem at?_of_gap {path : Path} {place : Location} (known : disk.find path = .ok (.gap place)) :
    disk.at? place = none ∧ place ≠ [] := follow_gap (follow_of_found known)

theorem find_join_eq {base : Path} {name : String} (h : IsName name)
    (noNul : '\x00' ∉ base.toText.toList) :
    disk.find (base.join name) =
      if longestPath < Utf8.byteLength (base.join name).toText then .error .nameTooLong
      else disk.follow (disk.origin base) (base.parts ++ [name]) := by
  have steps : disk.follow (disk.origin (base.join name)) (base.join name).parts =
      disk.follow (disk.origin base) (base.parts ++ [name]) := by
    rw [Path.join_name base h]
    rfl
  rw [find]
  simp only [List.contains_eq_mem, Path.noNul_join_name h noNul, decide_false, steps]
  rfl

/-- A text that is in order on one disk is in order on every disk. -/
theorem find_eq_follow {path : Path} {found : Found} (known : disk.find path = .ok found)
    (disk' : Disk) : disk'.find path = disk'.follow (disk'.origin path) path.parts := by
  rw [find] at known ⊢
  split at known <;> try contradiction
  split at known <;> try contradiction
  next noNul short => rw [if_neg noNul, if_neg short]

theorem find_put {path : Path} {found : Found} (node : Node) (known : disk.find path = .ok found)
    (fresh : disk.at? found.place ≠ some .folder) :
    (disk.put found.place node).find path = .ok (.node found.place node) := by
  have followed := follow_of_found known
  rw [find_eq_follow known]
  exact follow_put node followed fresh

theorem find_kept {disk' : Disk} {path : Path} {place : Location} {node : Node}
    (sameOrigin : disk'.workDir = disk.workDir)
    (folders : ∀ q, disk.at? q = some .folder → disk'.at? q = some .folder)
    (kept : disk'.at? place = some node) (known : disk.find path = .ok (.node place node)) :
    disk'.find path = .ok (.node place node) := by
  have followed := follow_of_found known
  rw [find_eq_follow known, origin, sameOrigin]
  exact follow_kept folders kept followed

theorem find_keeps {disk' : Disk} {path : Path} {place : Location}
    (sameOrigin : disk'.workDir = disk.workDir)
    (folders : ∀ q, disk.at? q = some .folder → disk'.at? q = some .folder)
    (known : disk.find path = .ok (.node place .folder)) :
    disk'.find path = .ok (.node place .folder) :=
  find_kept sameOrigin folders (folders _ (at?_of_found known)) known

/-- A path leads to a location where something lies. -/
def LeadsTo (disk : Disk) (path : Path) (place : Location) : Prop :=
  ∃ node, disk.find path = .ok (.node place node)

theorem find_erase {path : Path} {place : Location} {bytes : List UInt8} {kind : FileKind}
    (known : disk.find path = .ok (.node place (.file bytes kind))) (other : Location) :
    ¬ (disk.erase place).LeadsTo path other := by
  rintro ⟨node, found⟩
  rw [find_eq_follow known] at found
  exact follow_erase (follow_of_found known) other node found

/-- In a folder a name leads to the child of that name, unless the whole path is too long. -/
theorem find_join {base : Path} {place : Location} {name : String} (h : IsName name)
    (found : disk.find base = .ok (.node place .folder)) :
    disk.find (base.join name) =
      if longestPath < Utf8.byteLength (base.join name).toText then .error .nameTooLong
      else .ok (disk.child place name) := by
  have followed := follow_of_found found
  rw [find_join_eq h (noNul_of_find (by rw [found]; nofun)), follow_append (by simp),
    followed]
  simp only [follow_name h (follow_node followed)]

/-- Where a path leads nowhere, so does every name below it. -/
theorem find_join_absent {base : Path} {name : String} (h : IsName name)
    (absent : disk.find base = .error .notFound ∨ ∃ place, disk.find base = .ok (.gap place)) :
    disk.find (base.join name) =
      if longestPath < Utf8.byteLength (base.join name).toText then .error .nameTooLong
      else .error .notFound := by
  have noNul : '\x00' ∉ base.toText.toList := by
    rcases absent with none | ⟨place, gap⟩
    · exact noNul_of_find (by rw [none]; nofun)
    · exact noNul_of_find (by rw [gap]; nofun)
  rw [find_join_eq h noNul, follow_append (by simp)]
  rcases absent with none | ⟨place, gap⟩
  · simp only [follow_of_find none (by simp) (by simp)]
  · simp only [follow_of_found gap]

/-! ## The names in a folder -/

/-- The name that an entry has in a folder, if it lies there. -/
def nameIn (place : Location) (entry : Location × Node) : Option String :=
  match entry.1.getLast? with
  | some name => if entry.1 = place ++ [name] then some name else none
  | none => none

theorem namesIn_eq (disk : Disk) (place : Location) :
    disk.namesIn place = disk.nodes.filterMap (nameIn place) := rfl

theorem nameIn_eq_some {place : Location} {entry : Location × Node} {name : String} :
    nameIn place entry = some name ↔ entry.1 = place ++ [name] := by
  rw [nameIn]
  constructor
  · intro known
    split at known
    · split at known
      · obtain rfl := Option.some.inj known
        assumption
      · contradiction
    · contradiction
  · intro known
    simp [known]

theorem mem_namesIn {place : Location} {name : String} :
    name ∈ disk.namesIn place ↔ disk.at? (place ++ [name]) ≠ none := by
  simp [namesIn_eq, List.mem_filterMap, nameIn_eq_some, at?]

theorem filterMap_nameIn_others (nodes : List (Location × Node)) (place : Location)
    (name : String) :
    (nodes.filter fun entry => entry.1 ≠ place ++ [name]).filterMap (nameIn place) =
      (nodes.filterMap (nameIn place)).filter (· ≠ name) := by
  rw [List.filterMap_filter, List.filter_filterMap]
  congr 1
  funext entry
  by_cases here : entry.1 = place ++ [name]
  · simp [here, nameIn_eq_some.mpr here, Option.filter]
  · have other : nameIn place entry ≠ some name := fun known => here (nameIn_eq_some.mp known)
    cases known : nameIn place entry with
    | none => simp [here]
    | some found => simp_all [Option.filter]

theorem namesIn_put (place : Location) (name : String) (node : Node) :
    (disk.put (place ++ [name]) node).namesIn place =
      (disk.namesIn place).filter (· ≠ name) ++ [name] := by
  have last : nameIn place (place ++ [name], node) = some name := nameIn_eq_some.mpr rfl
  rw [namesIn_eq, put, List.filterMap_append, filterMap_nameIn_others, namesIn_eq]
  simp [last]

theorem namesIn_erase (place : Location) (name : String) :
    (disk.erase (place ++ [name])).namesIn place = (disk.namesIn place).filter (· ≠ name) := by
  rw [namesIn_eq, erase, filterMap_nameIn_others, namesIn_eq]

theorem mem_sortNames {names : List String} {name : String} :
    name ∈ sortNames names ↔ name ∈ names := List.mem_mergeSort

theorem sortNames_increasing {names : List String} (different : names.Nodup) :
    (sortNames names).Pairwise (· < ·) := by
  have sorted : (sortNames names).Pairwise fun a b => decide (a ≤ b) = true :=
    List.pairwise_mergeSort (fun a b c => by simpa using String.le_trans)
      (fun a b => by simpa using String.le_total a b) names
  have distinct : (sortNames names).Nodup := (List.mergeSort_perm names _).nodup_iff.mpr different
  refine sorted.imp₂ (fun a b le ne => ?_) distinct
  exact String.not_le.mp fun ge => ne (String.le_antisymm (by simpa using le) ge)

end Disk

end ContractBench
