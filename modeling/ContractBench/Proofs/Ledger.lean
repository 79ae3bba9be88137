import ContractBench.Proofs.Keeping

/-! # A registry is a ledger

Over every run of calls a registry answers as a ledger does, a map from names to contracts, as long
as nothing else changes its folder. `Ledger.Answers` says what a ledger answers to one call and
which ledger is left, `Registry.Holds` ties a ledger to a disk, and `Registry.answers_step` that
every call keeps them tied. On a disk with room the only limit of a ledger is that of the system on
the length of paths: what does not fit is never kept, and asking to delete it fails.
-/

namespace ContractBench

/-- A call of a registry. -/
inductive RegistryCall where
  | save (name : String) (contract : Contract)
  | load (name : String)
  | lookup (name : String)
  | delete (name : String)
  | names

/-- What a call gives. -/
inductive RegistryAnswer where
  | saved (written : Bool)
  | loaded (contract : Contract)
  | lookedUp (lookup : Lookup)
  | deleted
  | listed (names : List String)
  deriving DecidableEq

namespace RegistryCall

def action (registry : Registry) : RegistryCall → Bench RegistryAnswer
  | .save name contract => .saved <$> registry.save name contract
  | .load name => .loaded <$> registry.load (some name)
  | .lookup name => .lookedUp <$> registry.lookup (some name)
  | .delete name => (fun _ => .deleted) <$> registry.delete name
  | .names => .listed <$> registry.names

def name? : RegistryCall → Option String
  | .save name _ => some name
  | .load name => some name
  | .lookup name => some name
  | .delete name => some name
  | .names => none

/-- Whether the name of a call, if it has one, is plain. -/
def IsPlain (call : RegistryCall) : Prop := ∀ name, call.name? = some name → PlainName name

end RegistryCall

namespace Registry

def answers (registry : Registry) (daemon : Daemon) :
    World → List RegistryCall → List (Except Failure RegistryAnswer)
  | _, [] => []
  | world, call :: rest =>
    (Bench.perform (call.action registry) daemon world).1 ::
      registry.answers daemon (Bench.perform (call.action registry) daemon world).2 rest

/-- There is room on the disk, the folder of a registry can be ensured, and then nothing lies in
    it. -/
def StartsEmpty (registry : Registry) (disk : Disk) : Prop :=
  disk.full = false ∧ ∃ made, (FileOp.ensureFolders registry.folder).perform disk = (.ok (), made) ∧
    ∀ place, made.find registry.folder = .ok (.node place .folder) →
      ∀ name, made.at? (place ++ [name]) = none

end Registry

namespace Ledger

/-- What a ledger answers to a call, and the ledger after it. -/
inductive Answers (registry : Registry) :
    Ledger → RegistryCall → Except Failure RegistryAnswer → Ledger → Prop where
  /-- A contract is bound when its path and that of the lock are short enough. -/
  | saved {ledger name contract} (fits : registry.Fits name ∧ registry.Fits Registry.lockFile) :
      Answers registry ledger (.save name contract) (.ok (.saved true)) (ledger.bind name contract)
  /-- Otherwise nothing is bound. -/
  | notSaved {ledger name contract}
      (tooLong : ¬ (registry.Fits name ∧ registry.Fits Registry.lockFile)) :
      Answers registry ledger (.save name contract) (.ok (.saved false)) ledger
  /-- A bound contract is given. -/
  | loaded {ledger name contract} (bound : ledger name = some contract) :
      Answers registry ledger (.load name) (.ok (.loaded contract)) ledger
  /-- An unbound name is refused by name. -/
  | notLoaded {ledger name path fault} (unbound : ledger name = none) :
      Answers registry ledger (.load name) (.error (.noEntry name path fault)) ledger
  /-- Looking tells what is bound. -/
  | lookedUp {ledger name} :
      Answers registry ledger (.lookup name) (.ok (.lookedUp ⟨some name, ledger name⟩)) ledger
  /-- Deleting unbinds. -/
  | deleted {ledger name} (fits : registry.Fits name) :
      Answers registry ledger (.delete name) (.ok .deleted) (ledger.unbind name)
  /-- A name whose path is too long is not bound, and deleting it fails. -/
  | notDeleted {ledger name} (tooLong : ¬ registry.Fits name) (unbound : ledger name = none) :
      Answers registry ledger (.delete name)
        (.error (.file ⟨.nameTooLong, (registry.pathOf name).toText⟩)) ledger
  /-- The bound names are listed in order, each once. -/
  | listed {ledger names} (increasing : names.Pairwise (· < ·))
      (bound : ∀ name, name ∈ names ↔ ledger name ≠ none) :
      Answers registry ledger .names (.ok (.listed names)) ledger

/-- A call about one name leaves what is bound to all others. -/
theorem Answers.others_kept {registry : Registry} {ledger later : Ledger} {call : RegistryCall}
    {answer : Except Failure RegistryAnswer} {other : String}
    (answered : Answers registry ledger call answer later)
    (elsewhere : call.name? ≠ some other) : later other = ledger other := by
  cases answered with
  | saved =>
      have ne : other ≠ _ := fun same => elsewhere (congrArg some same.symm)
      exact if_neg ne
  | deleted =>
      have ne : other ≠ _ := fun same => elsewhere (congrArg some same.symm)
      exact if_neg ne
  | _ => rfl

/-- What a ledger answers to calls, one after the other. -/
inductive AnswersAll (registry : Registry) :
    Ledger → List RegistryCall → List (Except Failure RegistryAnswer) → Prop where
  /-- There are no more calls. -/
  | done {ledger} : AnswersAll registry ledger [] []
  /-- A call is answered, and the others by the ledger after it. -/
  | call {ledger later call answer rest answers} (first : Answers registry ledger call answer later)
      (others : AnswersAll registry later rest answers) :
      AnswersAll registry ledger (call :: rest) (answer :: answers)

end Ledger

namespace Registry

/-- The disk holds the files of a ledger. As long as the folder is missing the ledger is empty, and
    the folder will be empty once it is made. -/
inductive Holds (registry : Registry) : Ledger → Disk → Prop where
  /-- The folder is there. -/
  | present {ledger place disk} (keeps : registry.Keeps ledger place disk) :
      Holds registry ledger disk
  /-- The folder is missing but can be made. -/
  | missing {place disk made}
      (absent : disk.find registry.folder = .error .notFound ∨
        ∃ place, disk.find registry.folder = .ok (.gap place))
      (ensured : (FileOp.ensureFolders registry.folder).perform disk = (.ok (), made))
      (keeps : registry.Keeps .empty place made) : Holds registry .empty disk

namespace Holds

variable {registry : Registry} {ledger : Ledger} {disk : Disk}

theorem of_startsEmpty (start : registry.StartsEmpty disk) : registry.Holds .empty disk := by
  obtain ⟨room, made, ensured, unused⟩ := start
  obtain ⟨place, folder⟩ := FileOp.ensureFolders_ok ensured
  have nothing := unused place folder
  have roomThen : made.full = false := by
    have kept : (FileOp.ensureFolders registry.folder).Preserves fun disk => disk.full = false :=
      FileOp.preserves_ensureFolders registry.folder fun _ _ room => room
    simpa [ensured] using kept disk room
  have noNames : made.namesIn place = [] :=
    List.eq_nil_iff_forall_not_mem.mpr fun name => by simp [Disk.mem_namesIn, nothing]
  have keeps : registry.Keeps .empty place made :=
    { folder := folder
      entries := fun name _ => nothing name
      lock := by simp [nothing]
      bound := fun name bound => absurd rfl bound
      distinct := by simp [noNames]
      room := roomThen }
  rcases FileOp.find_of_ensureFolders ensured with ⟨_, there⟩ | absent
  · rw [FileOp.perform_ensureFolders_of_folder there] at ensured
    obtain rfl : disk = made := by simpa using ensured
    exact .present keeps
  · exact .missing absent ensured keeps

/-- Ensuring the folder leaves one that keeps the ledger. -/
theorem ensure (h : registry.Holds ledger disk) :
    ∃ place made, (FileOp.ensureFolders registry.folder).perform disk = (.ok (), made) ∧
      registry.Keeps ledger place made := by
  cases h with
  | present keeps =>
      exact ⟨_, disk, FileOp.perform_ensureFolders_of_folder keeps.folder, keeps⟩
  | missing _ ensured keeps => exact ⟨_, _, ensured, keeps⟩

theorem writeEntry (h : registry.Holds ledger disk) {name : String} (plain : PlainName name)
    (contract : Contract) :
    (registry.Fits name ∧ registry.Fits lockFile → ∃ later,
      registry.Holds (ledger.bind name contract) later ∧
      (registry.writeEntry name contract).perform disk = (.ok (), later)) ∧
    (¬ (registry.Fits name ∧ registry.Fits lockFile) → ∃ later path,
      registry.Holds ledger later ∧
      (registry.writeEntry name contract).perform disk = (.error ⟨.nameTooLong, path⟩, later)) := by
  obtain ⟨place, made, ensured, keeps⟩ := h.ensure
  obtain ⟨lockShort, lockLong⟩ := keeps.touch_lock
  simp only [Registry.writeEntry, FileOp.perform_bind, ensured]
  constructor
  · rintro ⟨fits, lockFits⟩
    obtain ⟨locked, keeps, touched⟩ := lockShort lockFits
    obtain ⟨later, keeps, wrote⟩ := (keeps.write_entry plain contract).1 fits
    exact ⟨later, .present keeps, by simp only [touched, wrote]⟩
  · intro tooLong
    by_cases lockFits : registry.Fits lockFile
    · obtain ⟨locked, keeps, touched⟩ := lockShort lockFits
      have long : ¬ registry.Fits name := fun fits => tooLong ⟨fits, lockFits⟩
      have refused := (keeps.write_entry plain contract).2 long
      exact ⟨locked, (registry.pathOf name).toText, .present keeps,
        by simp only [touched, refused]⟩
    · exact ⟨made, (registry.pathOf lockFile).toText, .present keeps,
        by simp only [lockLong lockFits]⟩

theorem find_missing {name : String}
    (absent : disk.find registry.folder = .error .notFound ∨
      ∃ place, disk.find registry.folder = .ok (.gap place)) (plain : PlainName name) :
    disk.find (registry.pathOf name) =
      if Disk.longestPath < Utf8.byteLength (registry.pathOf name).toText then .error .nameTooLong
      else .error .notFound := Disk.find_join_absent plain.isName absent

theorem found (h : registry.Holds ledger disk) {name : String} (plain : PlainName name) :
    (∃ contract, ledger name = some contract ∧
      registry.found disk (some name) = .ok contract) ∨
    (∃ path fault, ledger name = none ∧
      registry.found disk (some name) = .error (.noEntry name path fault)) := by
  cases h with
  | present keeps =>
      cases held : ledger name with
      | some contract => exact .inl ⟨contract, rfl, keeps.found_of_bound held⟩
      | none =>
          obtain ⟨fault, missing⟩ := keeps.found_of_unbound plain held
          exact .inr ⟨_, fault, rfl, missing⟩
  | missing absent _ _ =>
      have led := find_missing absent plain
      have unreadable : ∃ fault, disk.content (registry.pathOf name) = .error fault := by
        rw [Disk.content, led]
        by_cases long : Disk.longestPath < Utf8.byteLength (registry.pathOf name).toText
        · exact ⟨.nameTooLong, by rw [if_pos long]⟩
        · exact ⟨.notFound, by rw [if_neg long]⟩
      obtain ⟨fault, unreadable⟩ := unreadable
      exact .inr ⟨_, _, rfl, found_of_unreadable unreadable⟩

theorem delete (h : registry.Holds ledger disk) {name : String} (plain : PlainName name) :
    (registry.Fits name → ∃ later, registry.Holds (ledger.unbind name) later ∧
      (FileOp.removeIfThere (registry.pathOf name)).perform disk = (.ok (), later)) ∧
    (¬ registry.Fits name → ledger name = none ∧
      (FileOp.removeIfThere (registry.pathOf name)).perform disk =
        (.error ⟨.nameTooLong, (registry.pathOf name).toText⟩, disk)) := by
  cases h with
  | present keeps =>
      obtain ⟨ifShort, ifLong⟩ := keeps.delete_entry plain
      refine ⟨fun fits => ?_, fun tooLong => ⟨?_, ifLong tooLong⟩⟩
      · obtain ⟨later, keeps, removed⟩ := ifShort fits
        exact ⟨later, .present keeps, removed⟩
      · cases held : ledger name with
        | none => rfl
        | some contract => exact absurd (keeps.bound name (by simp [held])).2 tooLong
  | missing absent ensured keeps =>
      have led := find_missing absent plain
      rw [FileOp.perform_removeIfThere, led]
      constructor
      · intro fits
        rw [if_neg (Nat.not_lt.mpr fits), Ledger.unbind_eq_self rfl]
        exact ⟨disk, .missing absent ensured keeps, rfl⟩
      · intro tooLong
        rw [if_pos (Nat.lt_of_not_le tooLong)]
        exact ⟨rfl, rfl⟩

theorem names (h : registry.Holds ledger disk) :
    ∃ names, (FileOp.visibleFiles registry.folder).perform disk = (.ok names, disk) ∧
      names.Pairwise (· < ·) ∧ ∀ name, name ∈ names ↔ ledger name ≠ none := by
  cases h with
  | present keeps => exact keeps.list_names
  | missing absent _ _ =>
      exact ⟨[], FileOp.perform_visibleFiles_of_absent absent, .nil, by simp [Ledger.empty]⟩

end Holds

/-- Every call is answered as by the ledger, and leaves a disk that holds the ledger after it. -/
theorem answers_step {registry : Registry} {ledger : Ledger} {world : World}
    (h : registry.Holds ledger world.disk) {call : RegistryCall} (plain : call.IsPlain)
    (daemon : Daemon) :
    ∃ answer later ledger',
      Bench.perform (call.action registry) daemon world = (answer, later) ∧
      Ledger.Answers registry ledger call answer ledger' ∧ registry.Holds ledger' later.disk := by
  cases call with
  | save name contract =>
      replace plain := plain name rfl
      obtain ⟨ifShort, ifLong⟩ := h.writeEntry plain contract
      by_cases fits : registry.Fits name ∧ registry.Fits lockFile
      · obtain ⟨disk, holds, wrote⟩ := ifShort fits
        obtain ⟨later, performed, quiet⟩ := save_of_written wrote daemon
        exact ⟨_, later, _, by rw [RegistryCall.action, Bench.perform_map, performed],
          .saved fits, quiet.disk ▸ holds⟩
      · obtain ⟨disk, path, holds, refused⟩ := ifLong fits
        obtain ⟨later, performed, quiet⟩ := save_of_refused refused nofun daemon
        exact ⟨_, later, _, by rw [RegistryCall.action, Bench.perform_map, performed],
          .notSaved fits, quiet.disk ▸ holds⟩
  | load name =>
      replace plain := plain name rfl
      obtain ⟨later, performed, quiet⟩ := registry.load_spec (some name) daemon world
      have holds : registry.Holds ledger later.disk := quiet.disk ▸ h
      rcases h.found plain with ⟨contract, bound, found⟩ | ⟨path, fault, unbound, missing⟩
      · exact ⟨_, later, _, by rw [RegistryCall.action, Bench.perform_map, performed, found],
          .loaded bound, holds⟩
      · exact ⟨_, later, _, by rw [RegistryCall.action, Bench.perform_map, performed, missing],
          .notLoaded unbound, holds⟩
  | lookup name =>
      replace plain := plain name rfl
      obtain ⟨later, performed, quiet⟩ := registry.lookup_spec (some name) daemon world
      have looked : (registry.found world.disk (some name)).toOption = ledger name := by
        rcases h.found plain with ⟨contract, bound, found⟩ | ⟨path, fault, unbound, missing⟩
        · rw [found, bound]; rfl
        · rw [missing, unbound]; rfl
      refine ⟨_, later, ledger, ?_, .lookedUp, quiet.disk ▸ h⟩
      rw [RegistryCall.action, Bench.perform_map, performed, looked]
  | delete name =>
      replace plain := plain name rfl
      obtain ⟨ifShort, ifLong⟩ := h.delete plain
      rw [RegistryCall.action, delete_eq, Bench.perform_map, Bench.perform_files]
      by_cases fits : registry.Fits name
      · obtain ⟨disk, holds, removed⟩ := ifShort fits
        rw [removed]
        exact ⟨_, _, _, rfl, .deleted fits, holds⟩
      · obtain ⟨unbound, refused⟩ := ifLong fits
        rw [refused]
        exact ⟨_, _, _, rfl, .notDeleted fits unbound, h⟩
  | names =>
      obtain ⟨names, listed, increasing, bound⟩ := h.names
      rw [RegistryCall.action, Registry.names, Bench.perform_map, Bench.perform_files, listed]
      exact ⟨_, _, _, rfl, .listed increasing bound, h⟩

/-- Calls are answered as by the ledger that the disk holds. The induction is on the calls, and
    what carries it is that the disk holds the ledger. -/
theorem answers_of_holds {registry : Registry} {calls : List RegistryCall} {ledger : Ledger}
    {world : World} (h : registry.Holds ledger world.disk) (plain : ∀ call ∈ calls, call.IsPlain)
    (daemon : Daemon) :
    Ledger.AnswersAll registry ledger calls (registry.answers daemon world calls) := by
  induction calls generalizing ledger world with
  | nil => exact .done
  | cons call rest ih =>
      obtain ⟨answer, later, ledger', performed, first, holds⟩ :=
        answers_step h (plain call List.mem_cons_self) daemon
      have others := ih holds fun other member => plain other (List.mem_cons_of_mem _ member)
      rw [answers, performed]
      exact .call first others

/-- A registry whose folder starts empty answers all calls as a ledger does, in which a call about
    one name leaves all others alone. -/
theorem answers_as_ledger {registry : Registry} {calls : List RegistryCall} {world : World}
    (start : registry.StartsEmpty world.disk) (plain : ∀ call ∈ calls, call.IsPlain)
    (daemon : Daemon) :
    Ledger.AnswersAll registry .empty calls (registry.answers daemon world calls) ∧
    ∀ ledger call answer later, Ledger.Answers registry ledger call answer later →
      ∀ other, call.name? ≠ some other → later other = ledger other :=
  ⟨answers_of_holds (.of_startsEmpty start) plain daemon,
    fun _ _ _ _ answered _ elsewhere => answered.others_kept elsewhere⟩

/-- A folder that is missing from an empty disk. -/
theorem startsEmpty_cache : (ofFolder "cache").StartsEmpty (.ofNodes []) := by
  refine ⟨rfl, .ofNodes [(["cache"], .folder)], by decide +kernel, fun place found name => ?_⟩
  have there : Disk.find (.ofNodes [(["cache"], .folder)]) (ofFolder "cache").folder =
      .ok (.node ["cache"] .folder) := by decide +kernel
  obtain rfl : ["cache"] = place := by simpa [there] using found
  simp [Disk.at?, Disk.ofNodes]

theorem plainName_counter : PlainName "counter" := by
  constructor <;> decide +kernel

theorem cache_answers_as_ledger :
    Ledger.AnswersAll (.ofFolder "cache") .empty
      [.save "counter" ⟨"counter", "7", "secret1", "F7"⟩, .names, .delete "counter"]
      ((ofFolder "cache").answers (.ofOutcomes fun _ _ => .embeddedNul) (.start (.ofNodes []) [])
        [.save "counter" ⟨"counter", "7", "secret1", "F7"⟩, .names, .delete "counter"]) := by
  refine (answers_as_ledger startsEmpty_cache ?_ _).1
  intro call member name named
  obtain rfl : "counter" = name := by
    simp only [List.mem_cons, List.not_mem_nil, or_false] at member
    rcases member with rfl | rfl | rfl
    · exact Option.some.inj named
    · nomatch named
    · exact Option.some.inj named
  exact plainName_counter

/-! ## A name that cannot be deleted -/

theorem delete_of_long {registry : Registry} {ledger : Ledger} {world : World} {name : String}
    (h : registry.Holds ledger world.disk) (plain : PlainName name)
    (tooLong : ¬ registry.Fits name) (daemon : Daemon) :
    (Bench.perform (registry.delete name) daemon world).1 =
      .error (.file ⟨.nameTooLong, (registry.pathOf name).toText⟩) := by
  obtain ⟨-, refused⟩ := (h.delete plain).2 tooLong
  rw [delete_eq, Bench.perform_files, refused]
  rfl

/-- A way of many steps to the folder `c`. -/
def zigzag : Nat → List String
  | 0 => ["c"]
  | n + 1 => "c" :: ".." :: zigzag n

theorem zigzag_ne_nil (n : Nat) : zigzag n ≠ [] := by cases n <;> simp [zigzag]

theorem text_zigzag (n : Nat) :
    Utf8.byteLength ("/".intercalate (zigzag n)) = 5 * n + 1 ∧
      '\x00' ∉ ("/".intercalate (zigzag n)).toList := by
  induction n with
  | zero => decide +kernel
  | succ n ih =>
      obtain ⟨length, noNul⟩ := ih
      have step : "/".intercalate (zigzag (n + 1)) = "c/../" ++ "/".intercalate (zigzag n) := by
        rw [zigzag, String.intercalate_cons_cons,
          String.intercalate_cons_of_ne_nil (zigzag_ne_nil n)]
        simp [← String.append_assoc]
      have stepLength : Utf8.byteLength "c/../" = 5 := by decide +kernel
      have stepNoNul : '\x00' ∉ "c/../".toList := by decide +kernel
      rw [step, Utf8.byteLength_append, length, stepLength, String.toList_append, List.mem_append]
      exact ⟨by omega, fun member => member.elim stepNoNul noNul⟩

theorem follow_zigzag (n : Nat) :
    Disk.follow (.ofNodes [(["c"], .folder)]) [] (zigzag n) = .ok (.node ["c"] .folder) := by
  induction n with
  | zero => decide +kernel
  | succ n ih =>
      have there : Disk.at? (.ofNodes [(["c"], .folder)]) ["c"] = some .folder := by decide
      rw [zigzag, Disk.follow_down Disk.at?_top (by decide) (by decide) there, List.nil_append,
        Disk.follow_up there]
      exact ih

/-- The registry in the folder `c`, reached by a long way. -/
def far (n : Nat) : Registry := ⟨⟨"", zigzag n⟩⟩

theorem find_far {n : Nat} (few : 5 * n + 1 ≤ Disk.longestPath) :
    Disk.find (.ofNodes [(["c"], .folder)]) (far n).folder = .ok (.node ["c"] .folder) := by
  obtain ⟨length, noNul⟩ := text_zigzag n
  have text : (far n).folder.toText = "/".intercalate (zigzag n) := by
    rw [far, Path.toText, if_neg (by simp [zigzag_ne_nil])]
    exact String.empty_append
  rw [Disk.find]
  simp only [text, List.contains_eq_mem, noNul, decide_false, length, Nat.not_lt.mpr few]
  exact follow_zigzag n

theorem startsEmpty_far {n : Nat} (few : 5 * n + 1 ≤ Disk.longestPath) :
    (far n).StartsEmpty (.ofNodes [(["c"], .folder)]) := by
  refine ⟨rfl, _, FileOp.perform_ensureFolders_of_folder (find_far few),
    fun place found name => ?_⟩
  obtain rfl : ["c"] = place := by simpa [find_far few] using found
  simp [Disk.at?, Disk.ofNodes]

theorem fits_far {n : Nat} {name : String} (named : IsName name) (fits : (far n).Fits name) :
    5 * n + 2 + Utf8.byteLength name ≤ Disk.longestPath := by
  have text : ((far n).pathOf name).toText = "/".intercalate (zigzag n) ++ "/" ++ name := by
    rw [pathOf, Path.join_name _ named, Path.toText, if_neg (by simp)]
    simp only [far, String.intercalate_singleton,
      String.intercalate_append_of_ne_nil (zigzag_ne_nil n) (List.cons_ne_nil name [])]
    exact String.empty_append
  have slash : Utf8.byteLength "/" = 1 := by decide +kernel
  rw [Fits, text, Utf8.byteLength_append, Utf8.byteLength_append, (text_zigzag n).1, slash] at fits
  omega

theorem plainName_neverSaved : PlainName "never-saved" := by
  constructor <;> decide +kernel

theorem delete_neverSaved_of_long {n : Nat} (few : 5 * n + 1 ≤ Disk.longestPath)
    (tooLong : Disk.longestPath < 5 * n + 13) (daemon : Daemon) :
    (Bench.perform ((far n).delete "never-saved") daemon
      (.start (.ofNodes [(["c"], .folder)]) [])).1 =
      .error (.file ⟨.nameTooLong, ((far n).pathOf "never-saved").toText⟩) := by
  have holds : (far n).Holds .empty (World.start (.ofNodes [(["c"], .folder)]) []).disk :=
    .of_startsEmpty (startsEmpty_far few)
  refine delete_of_long holds plainName_neverSaved (fun fits => ?_) daemon
  have short := fits_far plainName_neverSaved.isName fits
  have length : Utf8.byteLength "never-saved" = 11 := by decide +kernel
  omega

/-- Deleting a name that was never saved fails when the path of its file is too long, though the
    folder was empty at the start. -/
theorem not_delete_neverSaved :
    (far 817).StartsEmpty (.ofNodes [(["c"], .folder)]) ∧ PlainName "never-saved" ∧
    (Bench.perform ((far 817).delete "never-saved") (.ofOutcomes fun _ _ => .embeddedNul)
      (.start (.ofNodes [(["c"], .folder)]) [])).1 =
      .error (.file ⟨.nameTooLong, ((far 817).pathOf "never-saved").toText⟩) :=
  ⟨startsEmpty_far (by decide), plainName_neverSaved,
    delete_neverSaved_of_long (by decide) (by decide) _⟩

end Registry

end ContractBench
