import Retag.Proofs.FileSystem.LinkFree
import Retag.Proofs.FileSystem.Reached

/-! Directories that paths lead to, symbolic links followed on the way. The entry that a path names is one
name in such a directory, and so is a temporary entry: both go where the directory's own path goes, with
or without a slash behind it.
-/

set_option autoImplicit false

namespace Retag

namespace FileSystem

variable {files : FileSystem} {location : Location} {names : List Bytes}

/-- Names behind others go on from where those lead, if no link is met among them: what follows a link may
have used up links by then. -/
theorem walkNames_append {follow : Location → List Bytes → Except IoError Location} {more : List Bytes}
    {next : Location → Except IoError Location}
    (onward : ∀ reached follow, files.walkNames follow reached more = next reached)
    (behind : ∀ location names, follow location (names ++ more) = follow location names >>= next) :
    files.walkNames follow location (names ++ more) = files.walkNames follow location names >>= next := by
  induction names generalizing location with
  | nil => exact onward location follow
  | cons name rest ih =>
    by_cases stands : files.get? location = some .directory
    · simp only [List.cons_append, walkNames, stands]
      split
      · exact ih
      split
      · exact ih
      split
      · rfl
      cases files.get? (.plain name :: location) with
      | none => rfl
      | some entry =>
        cases entry with
        | file content => exact ih
        | directory => exact ih
        | link target =>
          dsimp only
          rw [← List.append_assoc, behind]
    · rw [List.cons_append, walkNames_of_not_directory stands, walkNames_of_not_directory stands]
      rfl

theorem walk_append {more : List Bytes} {next : Location → Except IoError Location}
    (onward : ∀ reached follow, files.walkNames follow reached more = next reached) (links : Nat) :
    files.walk links location (names ++ more) = files.walk links location names >>= next := by
  induction links generalizing location names with
  | zero => exact walkNames_append onward fun _ _ => rfl
  | succ links ih => exact walkNames_append onward fun _ _ => ih

/-- With fewer links to follow a walk ends in the same way, or has run out of them. -/
theorem walkNames_of_fewer {follow follow' : Location → List Bytes → Except IoError Location}
    (onward : ∀ location names, follow location names = .error .tooManyLinks ∨
      follow location names = follow' location names) :
    files.walkNames follow location names = .error .tooManyLinks ∨
      files.walkNames follow location names = files.walkNames follow' location names := by
  induction names generalizing location with
  | nil => exact .inr rfl
  | cons name rest ih =>
    by_cases stands : files.get? location = some .directory
    · simp only [walkNames, stands]
      split
      · exact ih
      split
      · exact ih
      split
      · exact .inr rfl
      cases files.get? (.plain name :: location) with
      | none => exact .inr rfl
      | some entry =>
        cases entry with
        | file content => exact ih
        | directory => exact ih
        | link target => exact onward _ _
    · exact .inr (by rw [walkNames_of_not_directory stands, walkNames_of_not_directory stands])

theorem walk_of_le {fewer links : Nat} (le : fewer ≤ links) :
    files.walk fewer location names = .error .tooManyLinks ∨
      files.walk fewer location names = files.walk links location names := by
  induction fewer generalizing links location names with
  | zero =>
    cases links with
    | zero => exact .inr rfl
    | succ links => exact walkNames_of_fewer fun _ _ => .inl rfl
  | succ fewer ih =>
    cases links with
    | zero => exact absurd le (Nat.not_succ_le_zero _)
    | succ links => exact walkNames_of_fewer fun _ _ => ih (Nat.le_of_succ_le_succ le)

theorem walkNames_append_of_ok {follow : Location → List Bytes → Except IoError Location} {links : Nat}
    {reached : Location}
    (itself : ∀ location names, files.walkNames follow location names = files.walk links location names)
    (behind : ∀ location names, follow location names = .ok reached → ∃ left ≤ links, ∀ more,
      follow location (names ++ more) = files.walk left reached more)
    (led : files.walkNames follow location names = .ok reached) :
    ∃ left ≤ links, ∀ more,
      files.walkNames follow location (names ++ more) = files.walk left reached more := by
  induction names generalizing location with
  | nil =>
    cases led
    exact ⟨links, Nat.le_refl _, itself _⟩
  | cons name rest ih =>
    by_cases stands : files.get? location = some .directory
    · simp only [List.cons_append, walkNames, stands] at led ⊢
      split
      · next isHere =>
        rw [if_pos isHere] at led
        exact ih led
      next notHere =>
      rw [if_neg notHere] at led
      split
      · next isUp =>
        rw [if_pos isUp] at led
        exact ih led
      next notUp =>
      rw [if_neg notUp] at led
      split
      · next long =>
        rw [if_pos long] at led
        cases led
      next short =>
      rw [if_neg short] at led
      cases found : files.get? (.plain name :: location) with
      | none => simp [found] at led
      | some entry =>
        simp only [found] at led
        cases entry with
        | file content => exact ih led
        | directory => exact ih led
        | link target =>
          simp only [← List.append_assoc]
          exact behind _ _ led
    · rw [walkNames_of_not_directory stands] at led
      cases led

theorem walk_append_of_ok {links : Nat} {reached : Location}
    (led : files.walk links location names = .ok reached) :
    ∃ left ≤ links, ∀ more, files.walk links location (names ++ more) = files.walk left reached more := by
  induction links generalizing location names with
  | zero => exact walkNames_append_of_ok (fun _ _ => rfl) (fun _ _ refused => nomatch refused) led
  | succ links ih =>
    refine walkNames_append_of_ok (fun _ _ => rfl) (fun location names found => ?_) led
    obtain ⟨left, le, same⟩ := ih found
    exact ⟨left, Nat.le_succ_of_le le, same⟩

theorem bind_asDirectory_eq_ok_iff {led : Except IoError Location} {directory : Location} :
    led >>= files.asDirectory = .ok directory ↔
      led = .ok directory ∧ files.get? directory = some .directory := by
  rw [bind_eq_ok_iff]
  constructor
  · rintro ⟨reached, same, entered⟩
    obtain ⟨rfl, stands⟩ := asDirectory_eq_ok_iff.1 entered
    exact ⟨same, stands⟩
  · rintro ⟨same, stands⟩
    exact ⟨directory, same, asDirectory_eq_ok_iff.2 ⟨rfl, stands⟩⟩

theorem walk_steps (files : FileSystem) (location : Location) (route : Path.Route) (links : Nat) :
    files.walk links location route.steps >>= files.asDirectory =
      files.walk links location route.parts >>= files.asDirectory := by
  have here (reached : Location) (follow : Location → List Bytes → Except IoError Location) :
      files.walkNames follow reached [Path.here] = files.asDirectory reached := by
    by_cases stands : files.get? reached = some .directory
    · simp [walkNames, asDirectory, stands]
    · rw [walkNames_of_not_directory stands, asDirectory, if_neg stands]
  rw [Path.Route.steps]
  split
  · rw [walk_append here]
    cases files.walk links location route.parts with
    | error error => rfl
    | ok reached =>
      change files.asDirectory reached >>= files.asDirectory = files.asDirectory reached
      by_cases stands : files.get? reached = some .directory
      · rw [asDirectory_eq_ok_iff.2 ⟨rfl, stands⟩]
        exact asDirectory_eq_ok_iff.2 ⟨rfl, stands⟩
      · rw [asDirectory, if_neg stands]
        rfl
  · rfl

end FileSystem

namespace Disk

variable {disk : Disk} {directory : Location}

/-- The path leads to the directory, links followed; the empty path leads to the working directory. -/
structure Enters (disk : Disk) (path : Bytes) (directory : Location) : Prop where
  noZero : 0 ∉ path
  reached : disk.files.resolve disk.workingDirectory (Path.route path) = .ok directory
  stands : disk.files.get? directory = some .directory

theorem resolve_directory_iff {path : Bytes} :
    disk.files.resolve disk.workingDirectory (Path.route path) = .ok directory ∧
        disk.files.get? directory = some .directory ↔
      disk.files.walk linkLimit (FileSystem.start disk.workingDirectory (Path.route path))
          (Path.route path).parts = .ok directory ∧ disk.files.get? directory = some .directory := by
  have same := FileSystem.walk_steps disk.files
    (FileSystem.start disk.workingDirectory (Path.route path)) (Path.route path) linkLimit
  rw [FileSystem.resolve, ← FileSystem.bind_asDirectory_eq_ok_iff, ← FileSystem.bind_asDirectory_eq_ok_iff, same]

theorem Enters.unique {path : Bytes} {other : Location} (enters : disk.Enters path directory)
    (enters' : disk.Enters path other) : directory = other :=
  Except.ok.inj (enters.reached.symm.trans enters'.reached)

theorem Enters.within {first second : Disk} {path : Bytes} (enters : first.Enters path directory)
    (within : first.files.Within second.files) (same : first.workingDirectory = second.workingDirectory) :
    second.Enters path directory where
  noZero := enters.noZero
  reached := within.walk_ok (same ▸ enters.reached)
  stands := within.directory _ enters.stands

theorem enters_congr {first second : Disk} {path : Bytes} (agree : first.files.AgreeOnPaths second.files)
    (same : first.workingDirectory = second.workingDirectory) :
    first.Enters path directory ↔ second.Enters path directory := by
  have resolved : first.files.resolve first.workingDirectory (Path.route path) =
      second.files.resolve second.workingDirectory (Path.route path) := by
    rw [FileSystem.resolve, FileSystem.resolve, same, agree.walk_eq]
  constructor
  · rintro ⟨noZero, reached, stands⟩
    exact ⟨noZero, resolved ▸ reached, (agree.directory _).1 stands⟩
  · rintro ⟨noZero, reached, stands⟩
    exact ⟨noZero, resolved ▸ reached, (agree.directory _).2 stands⟩

theorem place?_join_iff_enters (path : String) {name : String} (noSlash : '/' ∉ name.toList)
    (named : name ≠ "") {place : Location} :
    disk.place? (Bytes.ofText (Path.join path name)) = some place ↔
      (Bytes.ofText (Path.join path name)).length < pathLimit ∧ 0 ∉ Bytes.ofText name ∧
      Bytes.ofText name ≠ Path.here ∧ Bytes.ofText name ≠ Path.up ∧
      (Bytes.ofText name).length ≤ longestName ∧
      ∃ directory, disk.Enters (Bytes.ofText path) directory ∧
        place = .plain (Bytes.ofText name) :: directory := by
  have joined := Path.route_join path noSlash named
  obtain ⟨between, slash, written⟩ := Path.ofText_join path noSlash
  have zero : 0 ∉ Bytes.ofText (Path.join path name) ↔ 0 ∉ Bytes.ofText path ∧ 0 ∉ Bytes.ofText name := by
    have clear : (0 : UInt8) ∉ between := fun zero => by simpa using slash.subset zero
    simp [written, clear]
  rw [place?_eq_some_iff]
  constructor
  · rintro ⟨route, parsed, located⟩
    obtain ⟨noZero, -, short, rfl⟩ := parsePath_eq_ok_iff.1 parsed
    obtain ⟨directory, last, isLast, notHere, notUp, fits, walked, stands, rfl⟩ :=
      FileSystem.locate_location_iff.1 located
    rw [joined] at isLast walked
    rw [List.getLast?_concat, Option.some.injEq] at isLast
    rw [List.dropLast_concat] at walked
    subst isLast
    obtain ⟨reached, -⟩ := resolve_directory_iff.2 ⟨walked, stands⟩
    exact ⟨short, (zero.1 noZero).2, notHere, notUp, fits, directory,
      ⟨(zero.1 noZero).1, reached, stands⟩, rfl⟩
  · rintro ⟨short, noZero, notHere, notUp, fits, directory, enters, rfl⟩
    obtain ⟨walked, -⟩ := resolve_directory_iff.1 ⟨enters.reached, enters.stands⟩
    refine ⟨_, parsePath_eq_ok_iff.2 ⟨zero.2 ⟨enters.noZero, noZero⟩,
        Path.ofText_join_ne_nil path noSlash named, short, rfl⟩,
      FileSystem.locate_location_iff.2
        ⟨directory, Bytes.ofText name, ?_, notHere, notUp, fits, ?_, enters.stands, rfl⟩⟩
    · rw [joined, List.getLast?_concat]
    · rw [joined, List.dropLast_concat]
      exact walked

theorem place?_join_of_enters {first second : Disk} (path : String) {name : String} (noSlash : '/' ∉ name.toList)
    (named : name ≠ "")
    (found : first.place? (Bytes.ofText (Path.join path name)) = some (.plain (Bytes.ofText name) :: directory))
    (enters : second.Enters (Bytes.ofText path) directory) :
    second.place? (Bytes.ofText (Path.join path name)) = some (.plain (Bytes.ofText name) :: directory) := by
  obtain ⟨short, noZero, notHere, notUp, fits, -⟩ := (place?_join_iff_enters path noSlash named).1 found
  exact (place?_join_iff_enters path noSlash named).2
    ⟨short, noZero, notHere, notUp, fits, directory, enters, rfl⟩

/-! ## An entry gone -/

def without (disk : Disk) (location : Location) : Disk := { disk with files := disk.files.erase location }

theorem get?_without (disk : Disk) (name : EntryName) (parent : Location) :
    (disk.without (name :: parent)).files.get? = Function.update disk.files.get? (name :: parent) none :=
  FileSystem.get?_erase_eq_update (List.cons_ne_nil _ _)

theorem within_without (disk : Disk) (name : EntryName) (parent : Location) :
    (disk.without (name :: parent)).files.Within disk.files := by
  have kept {location : Location} {entry : Entry}
      (found : (disk.without (name :: parent)).files.get? location = some entry) :
      disk.files.get? location = some entry := by
    rw [get?_without, Function.update_apply] at found
    split at found
    · cases found
    · exact found
  exact ⟨fun _ => kept, fun _ _ _ => kept⟩

/-! ## Temporary entries -/

variable {path stem extension : Bytes}

theorem enter_ok_iff (front : stem.head? ≠ some 47) : disk.enter path stem = .ok directory ↔
    disk.files.resolve disk.workingDirectory (Path.route path) = .ok directory ∧
      disk.files.get? directory = some .directory := by
  obtain ⟨absolute, parts⟩ := route_temporaryBase path front
  have entered : disk.enter path stem = .ok directory ↔
      disk.files.resolve disk.workingDirectory (Path.route (temporaryBase path stem)) = .ok directory ∧
        disk.files.get? directory = some .directory := FileSystem.bind_asDirectory_eq_ok_iff
  rw [entered, resolve_directory_iff, resolve_directory_iff, FileSystem.start, FileSystem.start, absolute,
    parts]

theorem zero_mem_temporaryBase : 0 ∈ temporaryBase path stem → 0 ∈ path := by
  unfold temporaryBase
  split
  · simp
  split
  · exact id
  · simp

theorem zero_notMem_temporary (noZero : 0 ∉ path) (noZero' : 0 ∉ stem ++ extension) :
    ¬ (temporaryBase path stem ++ stem ++ extension).contains 0 = true := by
  rw [List.contains_iff_mem, List.append_assoc, List.mem_append, not_or]
  exact ⟨mt zero_mem_temporaryBase noZero, noZero'⟩

def temporaryLength (disk : Disk) (path stem extension : Bytes) : Nat :=
  disk.leadLength (temporaryBase path stem ++ stem ++ extension) +
    (temporaryBase path stem ++ stem ++ extension).length + 6

/-- A temporary entry can be made in any directory that is reached, as long as its path and its name are
not too long. -/
theorem refusal?_createTemporary_eq_none_iff (noFaults : disk.faults = []) (noZero : 0 ∉ path)
    (noZero' : 0 ∉ stem ++ extension) (flat : 47 ∉ stem) (flat' : 47 ∉ extension) :
    disk.refusal? (createTemporary path stem extension) = none ↔
      (∃ directory, disk.Enters path directory) ∧ disk.temporaryLength path stem extension < pathLimit ∧
        (stem ++ extension).length + 6 ≤ longestName := by
  have front : stem.head? ≠ some 47 := fun same => flat (List.mem_of_head? same)
  rw [refusal?_createTemporary noFaults flat, if_neg (zero_notMem_temporary noZero noZero'),
    ← temporaryLength, Path.cut_of_notMem flat']
  by_cases fits : disk.temporaryLength path stem extension < pathLimit
  · rw [if_neg (Nat.not_le_of_lt fits)]
    cases entered : disk.enter path stem with
    | error error =>
      refine iff_of_false (by simp) fun ⟨⟨directory, enters⟩, _⟩ => ?_
      rw [(enter_ok_iff front).2 ⟨enters.reached, enters.stands⟩] at entered
      cases entered
    | ok directory =>
      obtain ⟨reached, stands⟩ := (enter_ok_iff front).1 entered
      have enters : ∃ directory, disk.Enters path directory := ⟨directory, noZero, reached, stands⟩
      simp [enters, fits]
  · simp [fits, Nat.le_of_not_lt fits]

theorem refusal?_createTemporary_of_long (noFaults : disk.faults = []) (enters : disk.Enters path directory)
    (noZero : 0 ∉ stem ++ extension) (flat : 47 ∉ stem) (flat' : 47 ∉ extension)
    (long : longestName < (stem ++ extension).length + 6) :
    disk.refusal? (createTemporary path stem extension) = some .nameTooLong := by
  have front : stem.head? ≠ some 47 := fun same => flat (List.mem_of_head? same)
  rw [refusal?_createTemporary noFaults flat, if_neg (zero_notMem_temporary enters.noZero noZero),
    Path.cut_of_notMem flat', (enter_ok_iff front).2 ⟨enters.reached, enters.stands⟩]
  rw [List.length_append] at long
  simp [long]

end Disk

end Retag
