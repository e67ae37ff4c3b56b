import Retag.Proofs.FileSystem.View

/-! What one call does to a disk. A call that fails changes nothing but the faults still to come;
one that gives a result changes the view of the files in the way stated here, and says what it
found on the way there. No statement needs the disk to be free of faults.
-/

set_option autoImplicit false

namespace Retag

open Function (update)

theorem bind_eq_ok_iff {Fault First Second : Type} {first : Except Fault First}
    {next : First → Except Fault Second} {result : Second} :
    first >>= next = .ok result ↔ ∃ middle, first = .ok middle ∧ next middle = .ok result := by
  cases first <;> simp [bind, Except.bind]

namespace Disk

/-- The disk behind some calls: its files show the view, its working directory is the same, and of
the faults to come some may be used up. -/
structure Becomes (before : Disk) (view : Location → Option Entry) (after : Disk) : Prop where
  files : after.files.get? = view
  workingDirectory : after.workingDirectory = before.workingDirectory
  faults : after.faults <:+ before.faults

namespace Becomes

variable {before middle after : Disk} {view : Location → Option Entry}

theorem refl (disk : Disk) : disk.Becomes disk.files.get? disk :=
  ⟨rfl, rfl, List.suffix_rfl⟩

theorem trans {first : Location → Option Entry} (left : before.Becomes first middle)
    (right : middle.Becomes view after) : before.Becomes view after :=
  ⟨right.files, right.workingDirectory.trans left.workingDirectory, right.faults.trans left.faults⟩

theorem quiet (becomes : before.Becomes view after) (noFaults : before.faults = []) :
    after.faults = [] :=
  List.suffix_nil.1 (noFaults ▸ becomes.faults)

theorem congr {other : Location → Option Entry} (becomes : before.Becomes view after)
    (same : view = other) : before.Becomes other after := same ▸ becomes

end Becomes

/-- The location of the entry that a path names; a link that stands there is not followed. -/
def place? (disk : Disk) (path : Bytes) : Option Location :=
  match FileSystem.parsePath path with
  | .error _ => none
  | .ok route =>
      match disk.files.locate disk.workingDirectory route with
      | .error _ => none
      | .ok place => place.location?

theorem place?_eq_some_iff {disk : Disk} {path : Bytes} {location : Location} :
    disk.place? path = some location ↔ ∃ route, FileSystem.parsePath path = .ok route ∧
      ∃ place, disk.files.locate disk.workingDirectory route = .ok place ∧
        place.location? = some location := by
  rw [place?]
  cases FileSystem.parsePath path with
  | error error => simp
  | ok route => cases located : disk.files.locate disk.workingDirectory route <;> simp [located]

theorem exists_of_place? {disk : Disk} {path : Bytes} {location : Location}
    (named : disk.place? path = some location) :
    ∃ name directory, location = .plain name :: directory ∧
      disk.files.get? directory = some .directory := by
  obtain ⟨route, -, located⟩ := place?_eq_some_iff.1 named
  obtain ⟨directory, name, -, -, -, -, -, stands, same⟩ := FileSystem.locate_location_iff.1 located
  exact ⟨name, directory, same, stands⟩

theorem place?_congr {first second : Disk} (agree : first.files.AgreeOnPaths second.files)
    (same : first.workingDirectory = second.workingDirectory) (path : Bytes) :
    first.place? path = second.place? path := by
  simp only [place?, agree.locate_eq, same]

theorem place?_within {first second : Disk} {path : Bytes} {location : Location}
    (within : first.files.Within second.files)
    (same : first.workingDirectory = second.workingDirectory)
    (named : first.place? path = some location) : second.place? path = some location := by
  obtain ⟨route, parsed, located⟩ := place?_eq_some_iff.1 named
  rw [same] at located
  exact place?_eq_some_iff.2 ⟨route, parsed, within.locate_location located⟩

def content? (disk : Disk) (path : Bytes) : Option Bytes :=
  match disk.resolve path with
  | .error _ => none
  | .ok location =>
      match disk.files.get? location with
      | some (.file content) => some content
      | _ => none

theorem content?_eq_some_iff {disk : Disk} {path content : Bytes} :
    disk.content? path = some content ↔ ∃ location, disk.resolve path = .ok location ∧
      disk.files.get? location = some (.file content) := by
  rw [content?]
  cases disk.resolve path with
  | error error => simp
  | ok location =>
    simp only [Except.ok.injEq, exists_eq_left']
    split
    · next found => simp [found]
    · next other => exact iff_of_false (by simp) (other content)

variable {Result : Type} {disk after : Disk}

/-! ## Calls in general -/

theorem call_ok {effect : Disk → Except IoError (Result × FileSystem)} {result : Result}
    (done : call effect disk = (.ok result, after)) :
    ∃ files, effect disk = .ok (result, files) ∧
      after = { disk with files, faults := disk.faults.tail } := by
  unfold call at done
  split at done
  · cases done
  · split at done
    · cases done
    · next reached => cases done; exact ⟨_, reached, rfl⟩

theorem call_error {effect : Disk → Except IoError (Result × FileSystem)} {error : IoError}
    (failed : call effect disk = (.error error, after)) :
    after = { disk with faults := disk.faults.tail } ∧
      (disk.faults.head?.join = some error ∨ effect disk = .error error) := by
  unfold call at failed
  split at failed
  · next fault =>
    cases failed
    exact ⟨rfl, .inl fault⟩
  · split at failed
    · next reached => cases failed; exact ⟨rfl, .inr reached⟩
    · cases failed

theorem tail_of_quiet (noFaults : disk.faults = []) : { disk with faults := disk.faults.tail } = disk := by
  cases disk
  simp_all

theorem call_quiet (noFaults : disk.faults = [])
    (effect : Disk → Except IoError (Result × FileSystem)) :
    call effect disk =
      match effect disk with
      | .error error => (.error error, disk)
      | .ok (result, files) => (.ok result, { disk with files }) := by
  have same := tail_of_quiet noFaults
  simp only [call, noFaults, List.head?_nil, Option.join_none]
  split <;> simp_all

theorem becomes_tail (disk : Disk) :
    disk.Becomes disk.files.get? { disk with faults := disk.faults.tail } :=
  ⟨rfl, rfl, List.tail_suffix disk.faults⟩

theorem becomes_of_error {effect : Disk → Except IoError (Result × FileSystem)} {error : IoError}
    (failed : call effect disk = (.error error, after)) : disk.Becomes disk.files.get? after :=
  (call_error failed).1 ▸ becomes_tail disk

theorem becomes_of_files {files : FileSystem} {view : Location → Option Entry}
    (shown : files.get? = view) :
    disk.Becomes view { disk with files, faults := disk.faults.tail } :=
  ⟨shown, rfl, List.tail_suffix disk.faults⟩

theorem call_snd {effect : Disk → Except IoError (Result × FileSystem)}
    (same : ∀ result files, effect disk = .ok (result, files) → files = disk.files) :
    (call effect disk).2 = { disk with faults := disk.faults.tail } := by
  cases reached : call effect disk with
  | mk outcome after =>
    cases outcome with
    | error error => exact (call_error reached).1
    | ok result =>
      obtain ⟨files, found, rfl⟩ := call_ok reached
      rw [same result files found]

theorem call_reads {effect : Disk → Except IoError (Result × FileSystem)}
    (same : ∀ disk result files, effect disk = .ok (result, files) → files = disk.files) (disk : Disk) :
    ∃ faults, faults <:+ disk.faults ∧ (call effect disk).2 = { disk with faults } :=
  ⟨disk.faults.tail, List.tail_suffix _, call_snd (same disk)⟩

theorem proceed_reads (disk : Disk) :
    ∃ faults, faults <:+ disk.faults ∧ (proceed disk).2 = { disk with faults } :=
  call_reads (fun _ _ _ found => by cases found; rfl) disk

theorem openDirectory_reads (path : Bytes) (disk : Disk) :
    ∃ faults, faults <:+ disk.faults ∧ (openDirectory path disk).2 = { disk with faults } := by
  refine call_reads (fun disk result files found => ?_) disk
  obtain ⟨location, -, found⟩ := bind_eq_ok_iff.1 found
  obtain ⟨directory, -, found⟩ := bind_eq_ok_iff.1 found
  cases found
  rfl

theorem openEntry_reads (path : Bytes) (disk : Disk) :
    ∃ faults, faults <:+ disk.faults ∧ (openEntry path disk).2 = { disk with faults } := by
  refine call_reads (fun disk result files found => ?_) disk
  obtain ⟨location, -, found⟩ := bind_eq_ok_iff.1 found
  by_cases absent : (disk.files.get? location).isNone = true
  · simp [absent, throw, throwThe, MonadExceptOf.throw, bind, Except.bind] at found
  · simp only [if_neg absent, pure, Except.pure, Except.ok.injEq, Prod.mk.injEq] at found
    exact found.2.symm

theorem read_reads (location : Location) (disk : Disk) :
    ∃ faults, faults <:+ disk.faults ∧ (read location disk).2 = { disk with faults } := by
  refine call_reads (fun disk result files found => ?_) disk
  split at found
  · cases found; rfl
  · cases found
  · cases found

/-! ## Looking at paths

There is always an answer; a fault makes it no.
-/

theorem stat_snd (search : Disk → Except IoError Location) (disk : Disk) :
    (stat search disk).2 = { disk with faults := disk.faults.tail } := by
  refine call_snd fun result files found => ?_
  obtain ⟨location, -, found⟩ := bind_eq_ok_iff.1 found
  split at found
  · cases found
  · cases found
    rfl

theorem stat_eq_ok_iff {search : Disk → Except IoError Location} {entry : Entry} :
    (stat search disk).1 = .ok entry ↔ disk.faults.head?.join = none ∧
      ∃ location, search disk = .ok location ∧ disk.files.get? location = some entry := by
  rw [stat, call]
  cases disk.faults.head?.join with
  | some fault => simp
  | none =>
    cases search disk with
    | error error => simp [bind, Except.bind]
    | ok location =>
      cases found : disk.files.get? location <;>
        simp [found, bind, Except.bind, pure, Except.pure, throw, throwThe, MonadExceptOf.throw]

theorem isFile_snd (path : Bytes) (disk : Disk) :
    (isFile path disk).2 = { disk with faults := disk.faults.tail } := by
  have same := stat_snd (·.resolve path) disk
  rw [isFile]
  split <;> next reached => rwa [reached] at same

theorem isFile_fst (path : Bytes) (disk : Disk) : (isFile path disk).1 =
    (disk.faults.head?.join.isNone && (disk.content? path).isSome) := by
  have told : (isFile path disk).1 = true ↔
      ∃ content, (stat (·.resolve path) disk).1 = .ok (.file content) := by
    rw [isFile]
    split
    · next content after reached => simp [reached]
    · next other reached =>
      rw [reached]
      exact iff_of_false Bool.false_ne_true fun ⟨content, same⟩ => other content same
  rw [Bool.eq_iff_iff, told, Bool.and_eq_true, Option.isNone_iff_eq_none, Option.isSome_iff_exists]
  simp only [stat_eq_ok_iff, content?_eq_some_iff, exists_and_left]

theorem isDirectory_snd (route : Path.Route) (disk : Disk) :
    (isDirectory route disk).2 = { disk with faults := disk.faults.tail } := by
  have same := stat_snd (fun disk => disk.files.resolve disk.workingDirectory route) disk
  rw [isDirectory]
  split <;> next reached => rwa [reached] at same

theorem isDirectory_fst {route : Path.Route} : (isDirectory route disk).1 = true ↔
    disk.faults.head?.join = none ∧ ∃ location,
      disk.files.resolve disk.workingDirectory route = .ok location ∧
      disk.files.get? location = some .directory := by
  let search (disk : Disk) := disk.files.resolve disk.workingDirectory route
  rw [← @stat_eq_ok_iff disk search, isDirectory]
  split
  · next after reached => simp [search, reached]
  · next other reached =>
    rw [reached]
    exact iff_of_false Bool.false_ne_true other

theorem realPath_snd (path : Bytes) (disk : Disk) :
    (realPath path disk).2 = { disk with faults := disk.faults.tail } := by
  refine call_snd fun result files found => ?_
  obtain ⟨location, -, found⟩ := bind_eq_ok_iff.1 found
  cases found
  rfl

def Finds (disk : Disk) (way : Path.Route) (location : Location) : Prop :=
  disk.files.resolve disk.workingDirectory way = .ok location.tail

theorem finds_congr {first second : Disk} (agree : first.files.AgreeOnPaths second.files)
    (same : first.workingDirectory = second.workingDirectory) {way : Path.Route} {location : Location} :
    first.Finds way location ↔ second.Finds way location := by
  rw [Finds, Finds, FileSystem.resolve, FileSystem.resolve, agree.walk_eq, same]

theorem Finds.within {first second : Disk} {way : Path.Route} {location : Location}
    (finds : first.Finds way location) (within : first.files.Within second.files)
    (same : first.workingDirectory = second.workingDirectory) : second.Finds way location := by
  rw [Finds, FileSystem.resolve, same] at finds
  exact within.walk_ok finds

/-! ## Each call -/

theorem openEntry_ok {path : Bytes} {location : Location}
    (opened : openEntry path disk = (.ok location, after)) :
    disk.resolve path = .ok location ∧ disk.files.get? location ≠ none ∧
      after = { disk with faults := disk.faults.tail } := by
  obtain ⟨files, found, rfl⟩ := call_ok opened
  obtain ⟨reached, resolved, found⟩ := bind_eq_ok_iff.1 found
  by_cases absent : (disk.files.get? reached).isNone = true
  · simp [absent, throw, throwThe, MonadExceptOf.throw, bind, Except.bind] at found
  · simp only [if_neg absent, pure, Except.pure, Except.ok.injEq, Prod.mk.injEq] at found
    obtain ⟨rfl, rfl⟩ := found
    exact ⟨resolved, by simpa using absent, rfl⟩

theorem proceed_becomes (disk : Disk) : disk.Becomes disk.files.get? (proceed disk).2 := by
  cases reached : proceed disk with
  | mk outcome after =>
    cases outcome with
    | error error => exact becomes_of_error reached
    | ok result =>
      obtain ⟨files, found, rfl⟩ := call_ok reached
      cases found
      exact becomes_tail disk

theorem read_ok {location : Location} {content : Bytes}
    (reached : read location disk = (.ok content, after)) :
    disk.files.get? location = some (.file content) ∧ disk.Becomes disk.files.get? after := by
  obtain ⟨files, found, rfl⟩ := call_ok reached
  split at found
  · next stands => cases found; exact ⟨stands, becomes_tail disk⟩
  · cases found
  · cases found

theorem append_ok {location : Location} {bytes : Bytes} {content : Bytes}
    (stands : disk.files.get? location = some (.file content))
    (written : append location bytes disk = (.ok (), after)) :
    disk.Becomes (update disk.files.get? location (some (.file (content ++ bytes)))) after := by
  obtain ⟨files, found, rfl⟩ := call_ok written
  simp only [stands, Except.ok.injEq, Prod.mk.injEq, true_and] at found
  subst found
  have free : disk.files.get? location ≠ some .directory := by simp [stands]
  have below : location ≠ [] := FileSystem.ne_nil_of_get?_ne free
  exact becomes_of_files (FileSystem.get?_put_eq_update below _)

/-- A temporary file is new, empty, under a name that no path leads to, and in the directory that its
way leads to. -/
theorem createTemporary_ok {directory stem extension : Bytes} {location : Location}
    (made : createTemporary directory stem extension disk = (.ok location, after)) :
    (∃ serial parent, location = .temporary serial :: parent) ∧ disk.files.get? location = none ∧
      disk.Finds (temporaryRoute directory stem) location ∧
      disk.files.get? location.tail = some .directory ∧
      disk.Becomes (update disk.files.get? location (some (.file []))) after := by
  obtain ⟨files, found, rfl⟩ := call_ok made
  simp only [bind, Except.bind, throw, throwThe, MonadExceptOf.throw, pure, Except.pure] at found
  -- Each test of the call ends it with an error; only the last branch makes the file.
  split at found
  · cases found
  split at found
  · cases found
  split at found
  · cases found
  split at found
  · cases found
  split at found
  · cases found
  split at found
  · cases found
  split at found
  · cases found
  next directory resolved _ parent entered _ _ _ =>
    cases found
    obtain ⟨rfl, stands⟩ := FileSystem.asDirectory_eq_ok_iff.1 entered
    exact ⟨⟨_, directory, rfl⟩, FileSystem.get?_freshSerial _ _, resolved, stands,
      becomes_of_files (FileSystem.get?_put_eq_update (by simp) _)⟩

theorem remove_ok {path : Bytes} (removed : remove path disk = (.ok (), after)) :
    ∃ location entry, disk.place? path = some location ∧ disk.files.get? location = some entry ∧
      entry ≠ .directory ∧ disk.Becomes (update disk.files.get? location none) after := by
  obtain ⟨files, found, rfl⟩ := call_ok removed
  obtain ⟨route, parsed, found⟩ := bind_eq_ok_iff.1 found
  obtain ⟨place, located, found⟩ := bind_eq_ok_iff.1 found
  cases named : place.location? with
  | none => rw [named] at found; cases found
  | some location =>
    simp only [named, throw, throwThe, MonadExceptOf.throw, bind, Except.bind, pure, Except.pure] at found
    split at found
    · cases found
    · cases found
    next entry other stands =>
      split at found
      · cases found
      cases found
      have below : location ≠ [] :=
        FileSystem.ne_nil_of_get?_ne (by rw [stands]; exact fun same => other (Option.some.inj same))
      exact ⟨location, entry, place?_eq_some_iff.2 ⟨route, parsed, place, located, named⟩, stands,
        other, becomes_of_files (FileSystem.get?_erase_eq_update below)⟩

/-- Where no fault says so, that nothing was found to remove means that nothing stands there. -/
theorem absent_of_remove {path : Bytes} {place : Location} (honest : some .notFound ∉ disk.faults)
    (refused : remove path disk = (.error .notFound, after)) (named : disk.place? path = some place) :
    disk.files.get? place = none := by
  obtain ⟨route, parsed, reached, located, isPlace⟩ := place?_eq_some_iff.1 named
  rcases (call_error refused).2 with fault | found
  · exact absurd (List.mem_of_head? (Option.join_eq_some_iff.1 fault)) honest
  · simp only [parsed, located, isPlace, bind, Except.bind] at found
    split at found
    · assumption
    · cases found
    · split at found <;> cases found

theorem rename_ok {path : Bytes} {source : Location} (below : source ≠ [])
    (moved : rename source path disk = (.ok (), after)) :
    ∃ location entry, disk.place? path = some location ∧ disk.files.get? source = some entry ∧
      disk.files.get? location ≠ some .directory ∧
      disk.Becomes (update (update disk.files.get? source none) location (some entry)) after := by
  obtain ⟨files, found, rfl⟩ := call_ok moved
  obtain ⟨route, parsed, found⟩ := bind_eq_ok_iff.1 found
  obtain ⟨place, located, found⟩ := bind_eq_ok_iff.1 found
  cases named : place.location? with
  | none => rw [named] at found; cases found
  | some location =>
    cases stands : disk.files.get? source with
    | none => simp only [named, stands] at found; cases found
    | some entry =>
      simp only [named, stands, throw, throwThe, MonadExceptOf.throw, bind, Except.bind, pure,
        Except.pure] at found
      split at found
      · cases found
      split at found
      · cases found
      next free =>
      cases found
      refine ⟨location, entry, place?_eq_some_iff.2 ⟨route, parsed, place, located, named⟩, rfl,
        free, becomes_of_files ?_⟩
      rw [FileSystem.get?_put_eq_update (FileSystem.ne_nil_of_get?_ne free),
        FileSystem.get?_erase_eq_update below]

theorem discard_of_finds {way : Path.Route} {location : Location} (below : location ≠ [])
    (finds : disk.Finds way location) :
    disk.Becomes (update disk.files.get? location none) (disk.discard way location) := by
  rw [Finds] at finds
  rw [discard, finds]
  exact ⟨by simp [FileSystem.get?_erase_eq_update below], by simp, by simp⟩

theorem discard_of_not_finds {way : Path.Route} {location : Location}
    (lost : ¬ disk.Finds way location) : disk.discard way location = disk := by
  rw [Finds] at lost
  rw [discard]
  split
  · rfl
  · next directory reached => exact if_neg fun same => lost (reached.trans (congrArg Except.ok same))

theorem discard_of_absent {location : Location} (absent : disk.files.get? location = none)
    (way : Path.Route) : disk.Becomes disk.files.get? (disk.discard way location) := by
  by_cases finds : disk.Finds way location
  · have below : location ≠ [] := FileSystem.ne_nil_of_get?_ne (by rw [absent]; simp)
    refine (discard_of_finds below finds).congr ?_
    rw [← absent, Function.update_eq_self]
  · rw [discard_of_not_finds finds]
    exact .refl disk

end Disk

end Retag
