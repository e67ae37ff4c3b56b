import Retag.Proofs.FileSystem.LinkFree

/-! Calls in a directory that a path reaches. Without faults and links what such a call comes to depends
on the directory and on the one entry it is about; other entries may come and go.
-/

set_option autoImplicit false

namespace Retag.Disk

open FileSystem (Leads)

variable {disk first second : Disk}

/-- The path leads to a directory, and to the one that its names spell. -/
structure Reaches (disk : Disk) (path : Bytes) : Prop where
  leads : Leads disk.files (FileSystem.start disk.workingDirectory (Path.route path)) (Path.route path).parts
    (disk.spelled path)
  stands : disk.files.get? (disk.spelled path) = some .directory

theorem Reaches.transfer {path : Bytes} (reaches : first.Reaches path)
    (same : second.workingDirectory = first.workingDirectory)
    (directories : ∀ location, first.files.get? location = some .directory →
      second.files.get? location = some .directory) : second.Reaches path := by
  have stands := directories _ reaches.stands
  rw [← spelled_congr same] at stands
  refine ⟨?_, stands⟩
  have leads := reaches.leads
  rw [← spelled_congr same, ← same] at leads
  exact leads.transfer directories (by rw [stands]; exact Option.some_ne_none _)

theorem reaches_of_place?_join (linkFree : disk.files.LinkFree) {directory name : String}
    (noSlash : '/' ∉ name.toList) (named : name ≠ "") {place : Location}
    (found : disk.place? (Bytes.ofText (Path.join directory name)) = some place) :
    disk.Reaches (Bytes.ofText directory) :=
  have ⟨_, _, _, _, leads, stands, _⟩ := (place?_join_iff linkFree directory noSlash named).1 found
  ⟨leads, stands⟩

def refusal? {Result : Type} (disk : Disk) (call : Call Result) : Option IoError :=
  match (call disk).1 with
  | .error error => some error
  | .ok _ => none

theorem refusal?_eq_none_iff {Result : Type} {call : Call Result} :
    disk.refusal? call = none ↔ ∃ result, (call disk).1 = .ok result := by
  rw [refusal?]
  cases (call disk).1 <;> simp

theorem refusal?_call {Result : Type} (noFaults : disk.faults = [])
    (effect : Disk → Except IoError (Result × FileSystem)) :
    disk.refusal? (call effect) =
      match effect disk with
      | .error error => some error
      | .ok _ => none := by
  rw [refusal?, call_quiet noFaults]
  cases effect disk <;> rfl

theorem call_of_refusal? {Result : Type} (noFaults : disk.faults = [])
    {effect : Disk → Except IoError (Result × FileSystem)} {error : IoError}
    (refused : disk.refusal? (call effect) = some error) : call effect disk = (.error error, disk) := by
  rw [refusal?_call noFaults] at refused
  rw [call_quiet noFaults]
  cases reached : effect disk with
  | error other => rw [reached] at refused; cases refused; rfl
  | ok result => rw [reached] at refused; cases refused

/-! ## Temporary entries

A stem without a slash stays in the directory that it is given.
-/

section

variable {directory stem extension : Bytes}

theorem temporaryName_of_notMem (flat : 47 ∉ stem) : temporaryName stem = stem := by
  rw [temporaryName, Path.cut_of_notMem flat]
  rfl

theorem temporaryRoute_of_notMem (directory : Bytes) (flat : 47 ∉ stem) :
    temporaryRoute directory stem = Path.route (temporaryBase directory stem) := by
  rw [temporaryRoute, temporaryName_of_notMem flat, Nat.sub_self, List.take_zero, List.append_nil]

theorem temporaryBase_congr (directory : Bytes) {other : Bytes} (flat : 47 ∉ stem) (flat' : 47 ∉ other) :
    temporaryBase directory stem = temporaryBase directory other := by
  have front : (stem.head? = some 47) = False := eq_false fun same => flat (List.mem_of_head? same)
  have front' : (other.head? = some 47) = False := eq_false fun same => flat' (List.mem_of_head? same)
  simp only [temporaryBase, front, front']

theorem temporaryBase_cases (directory : Bytes) (front : stem.head? ≠ some 47) :
    temporaryBase directory stem = directory ∨
      directory ≠ [] ∧ temporaryBase directory stem = directory ++ [47] := by
  have front' : (stem.head? = some 47) = False := eq_false front
  simp only [temporaryBase, front', decide_false, Bool.or_false, List.isEmpty_iff]
  split
  · next empty => exact .inl empty.symm
  split
  · exact .inl rfl
  · next below _ => exact .inr ⟨below, rfl⟩

theorem route_temporaryBase (directory : Bytes) (front : stem.head? ≠ some 47) :
    (Path.route (temporaryBase directory stem)).absolute = (Path.route directory).absolute ∧
      (Path.route (temporaryBase directory stem)).parts = (Path.route directory).parts := by
  rcases temporaryBase_cases directory front with base | ⟨below, base⟩
  · rw [base]
    exact ⟨rfl, rfl⟩
  · rw [base]
    exact ⟨Path.route_absolute_append below _, Path.route_parts_append_slash _⟩

theorem resolve_temporaryBase (linkFree : disk.files.LinkFree) {location : Location}
    (stands : disk.files.get? location = some .directory) (front : stem.head? ≠ some 47) :
    disk.files.resolve disk.workingDirectory (Path.route (temporaryBase directory stem)) = .ok location ↔
      Leads disk.files (FileSystem.start disk.workingDirectory (Path.route directory))
        (Path.route directory).parts location := by
  obtain ⟨absolute, parts⟩ := route_temporaryBase directory front
  rw [FileSystem.resolve, FileSystem.walk_ok_iff_leads linkFree, FileSystem.leads_steps_iff stands, parts,
    FileSystem.start, absolute, FileSystem.start]

def enter (disk : Disk) (directory stem : Bytes) : Except IoError Location := do
  disk.files.asDirectory
    (← disk.files.resolve disk.workingDirectory (Path.route (temporaryBase directory stem)))

theorem enter_eq_ok_iff (linkFree : disk.files.LinkFree) (front : stem.head? ≠ some 47) {location : Location} :
    disk.enter directory stem = .ok location ↔ disk.Reaches directory ∧ location = disk.spelled directory := by
  rw [enter, bind_eq_ok_iff]
  constructor
  · rintro ⟨reached, resolved, entered⟩
    obtain ⟨rfl, stands⟩ := FileSystem.asDirectory_eq_ok_iff.1 entered
    have leads := (resolve_temporaryBase linkFree stands front).1 resolved
    obtain rfl : reached = disk.spelled directory := leads.eq_descend
    exact ⟨⟨leads, stands⟩, rfl⟩
  · rintro ⟨⟨leads, stands⟩, rfl⟩
    exact ⟨_, (resolve_temporaryBase linkFree stands front).2 leads,
      FileSystem.asDirectory_eq_ok_iff.2 ⟨rfl, stands⟩⟩

/-- What keeps a temporary entry from being made, in the order in which it is found out. -/
theorem refusal?_createTemporary (noFaults : disk.faults = []) (flat : 47 ∉ stem) :
    disk.refusal? (createTemporary directory stem extension) =
      if (temporaryBase directory stem ++ stem ++ extension).contains 0 then some .zeroByte
      else if pathLimit ≤ disk.leadLength (temporaryBase directory stem ++ stem ++ extension) +
        (temporaryBase directory stem ++ stem ++ extension).length + 6 then some .nameTooLong
      else
        match disk.enter directory stem with
        | .error error => some error
        | .ok _ =>
            if 1 < (Path.cut extension).length ∧ (Path.cut extension).tail.all List.isEmpty then
              some .isDirectory
            else if longestName < (stem ++ (Path.cut extension).head?.getD []).length + 6 then
              some .nameTooLong
            else if 1 < (Path.cut extension).length then some .notFound
            else none := by
  rw [createTemporary, refusal?_call noFaults]
  simp only [temporaryName_of_notMem flat, temporaryRoute_of_notMem directory flat]
  by_cases zero : (temporaryBase directory stem ++ stem ++ extension).contains 0 = true
  · rw [if_pos zero, if_pos zero]
    rfl
  by_cases long : pathLimit ≤ disk.leadLength (temporaryBase directory stem ++ stem ++ extension) +
      (temporaryBase directory stem ++ stem ++ extension).length + 6
  · rw [if_neg zero, if_neg zero, if_pos long, if_pos long]
    rfl
  rw [if_neg zero, if_neg zero, if_neg long, if_neg long, enter]
  cases disk.files.resolve disk.workingDirectory (Path.route (temporaryBase directory stem)) with
  | error error => rfl
  | ok location =>
    simp only [bind, Except.bind]
    cases disk.files.asDirectory location with
    | error error => rfl
    | ok parent =>
      dsimp only
      by_cases below : 1 < (Path.cut extension).length ∧ (Path.cut extension).tail.all List.isEmpty = true
      · rw [if_pos below, if_pos below]
        rfl
      by_cases long : longestName < (stem ++ (Path.cut extension).head?.getD []).length + 6
      · rw [if_neg below, if_neg below, if_pos long, if_pos long]
        rfl
      rw [if_neg below, if_neg below, if_neg long, if_neg long]
      by_cases more : 1 < (Path.cut extension).length
      · rw [if_pos more, if_pos more]
        rfl
      · rw [if_neg more, if_neg more]
        rfl

theorem refusal?_createTemporary_congr (noFaults : first.faults = []) (noFaults' : second.faults = [])
    (same : second.workingDirectory = first.workingDirectory) (flat : 47 ∉ stem)
    (enters : second.enter directory stem = first.enter directory stem) :
    second.refusal? (createTemporary directory stem extension) =
      first.refusal? (createTemporary directory stem extension) := by
  rw [refusal?_createTemporary noFaults' flat, refusal?_createTemporary noFaults flat, enters, leadLength,
    leadLength, same]

theorem refusal?_createTemporary_eq_none (noFaults : disk.faults = []) (linkFree : disk.files.LinkFree)
    (reaches : disk.Reaches directory) (flat : 47 ∉ stem) (flat' : 47 ∉ extension)
    (noZero : 0 ∉ temporaryBase directory stem ++ stem ++ extension)
    (fits : disk.leadLength (temporaryBase directory stem ++ stem ++ extension) +
      (temporaryBase directory stem ++ stem ++ extension).length + 6 < pathLimit)
    (short : (stem ++ extension).length + 6 ≤ longestName) :
    disk.refusal? (createTemporary directory stem extension) = none := by
  have front : stem.head? ≠ some 47 := fun same => flat (List.mem_of_head? same)
  rw [refusal?_createTemporary noFaults flat, if_neg (by rwa [List.contains_iff_mem]),
    if_neg (Nat.not_le_of_lt fits), (enter_eq_ok_iff linkFree front).2 ⟨reaches, rfl⟩,
    Path.cut_of_notMem flat']
  rw [List.length_append] at short
  simp [Nat.not_lt_of_le short]

theorem reaches_of_createTemporary (linkFree : disk.files.LinkFree) (noFaults : disk.faults = [])
    (flat : 47 ∉ stem) (made : disk.refusal? (createTemporary directory stem extension) = none) : disk.Reaches directory := by
  rw [refusal?_createTemporary noFaults flat] at made
  split at made
  · cases made
  split at made
  · cases made
  cases entered : disk.enter directory stem with
  | error error => rw [entered] at made; cases made
  | ok location =>
    have front : stem.head? ≠ some 47 := fun same => flat (List.mem_of_head? same)
    exact ((enter_eq_ok_iff linkFree front).1 entered).1

end

/-! ## Removal -/

variable {directory name : String}

theorem locate_of_leads (linkFree : disk.files.LinkFree) {route : Path.Route} {parent : Location}
    (leads : Leads disk.files (FileSystem.start disk.workingDirectory route) route.parts.dropLast parent)
    (stands : disk.files.get? parent = some .directory) :
    disk.files.locate disk.workingDirectory route =
      match route.parts.getLast? with
      | none => .ok ⟨parent, none⟩
      | some name =>
          if name = Path.here ∨ name = Path.up then .ok ⟨parent, none⟩
          else if longestName < name.length then .error .nameTooLong
          else .ok ⟨parent, some name⟩ := by
  have walked : disk.files.walk linkLimit _ _ = .ok parent := (FileSystem.walk_ok_iff_leads linkFree).2 leads
  have entered := FileSystem.asDirectory_eq_ok_iff.2 ⟨rfl, stands⟩
  simp only [FileSystem.locate, walked, bind, Except.bind, entered]
  rfl

theorem refusal?_remove (noFaults : disk.faults = []) (linkFree : disk.files.LinkFree)
    (reaches : disk.Reaches (Bytes.ofText directory)) (noSlash : '/' ∉ name.toList) (named : name ≠ "") :
    disk.refusal? (remove (Bytes.ofText (Path.join directory name))) =
      match FileSystem.parsePath (Bytes.ofText (Path.join directory name)) with
      | .error error => some error
      | .ok _ =>
          if Bytes.ofText name = Path.here ∨ Bytes.ofText name = Path.up then some .isDirectory
          else if longestName < (Bytes.ofText name).length then some .nameTooLong
          else
            match disk.files.get? (.plain (Bytes.ofText name) :: disk.spelled (Bytes.ofText directory)) with
            | none => some .notFound
            | some .directory => some .isDirectory
            | some _ => none := by
  rw [remove, refusal?_call noFaults]
  cases parsed : FileSystem.parsePath (Bytes.ofText (Path.join directory name)) with
  | error error => rfl
  | ok route =>
    obtain rfl := route_of_parsePath parsed
    have joined := Path.route_join directory noSlash named
    have leads : Leads disk.files
        (FileSystem.start disk.workingDirectory (Path.route (Bytes.ofText (Path.join directory name))))
        (Path.route (Bytes.ofText (Path.join directory name))).parts.dropLast
        (disk.spelled (Bytes.ofText directory)) := by
      rw [joined, List.dropLast_concat]
      exact reaches.leads
    have located := locate_of_leads linkFree leads reaches.stands
    rw [joined, List.getLast?_concat] at located
    simp only [bind, Except.bind, joined, located]
    by_cases dots : Bytes.ofText name = Path.here ∨ Bytes.ofText name = Path.up
    · rw [if_pos dots, if_pos dots]
      rfl
    by_cases long : longestName < (Bytes.ofText name).length
    · rw [if_neg dots, if_neg dots, if_pos long, if_pos long]
    rw [if_neg dots, if_neg dots, if_neg long, if_neg long]
    simp only [FileSystem.Place.location?, Option.map_some]
    cases disk.files.get? (.plain (Bytes.ofText name) :: disk.spelled (Bytes.ofText directory)) with
    | none => rfl
    | some entry => cases entry <;> rfl

/-- What keeps a name from being cleared for a new file; that nothing stands there does not. -/
def obstruction? (disk : Disk) (path : Bytes) : Option IoError :=
  (disk.refusal? (remove path)).filter (· ≠ .notFound)

theorem obstruction?_eq (noFaults : disk.faults = []) (linkFree : disk.files.LinkFree)
    (reaches : disk.Reaches (Bytes.ofText directory)) (noSlash : '/' ∉ name.toList) (named : name ≠ "") :
    disk.obstruction? (Bytes.ofText (Path.join directory name)) =
      match FileSystem.parsePath (Bytes.ofText (Path.join directory name)) with
      | .error error => some error
      | .ok _ =>
          if Bytes.ofText name = Path.here ∨ Bytes.ofText name = Path.up then some .isDirectory
          else if longestName < (Bytes.ofText name).length then some .nameTooLong
          else if disk.files.get? (.plain (Bytes.ofText name) :: disk.spelled (Bytes.ofText directory)) =
            some .directory then some .isDirectory
          else none := by
  rw [obstruction?, refusal?_remove noFaults linkFree reaches noSlash named]
  cases parsed : FileSystem.parsePath (Bytes.ofText (Path.join directory name)) with
  | error error =>
    have other : error ≠ .notFound := by
      rintro rfl
      exact parsePath_ne_notFound (Path.ofText_join_ne_nil directory noSlash named) parsed
    simp [other]
  | ok route =>
    dsimp only
    split
    · rfl
    split
    · rfl
    cases disk.files.get? (.plain (Bytes.ofText name) :: disk.spelled (Bytes.ofText directory)) with
    | none => rfl
    | some entry => cases entry <;> rfl

theorem place?_of_obstruction? (noFaults : disk.faults = []) (linkFree : disk.files.LinkFree)
    (reaches : disk.Reaches (Bytes.ofText directory)) (noSlash : '/' ∉ name.toList) (named : name ≠ "")
    (clear : disk.obstruction? (Bytes.ofText (Path.join directory name)) = none) :
    ∃ place, disk.place? (Bytes.ofText (Path.join directory name)) = some place ∧
      disk.files.get? place ≠ some .directory := by
  rw [obstruction?_eq noFaults linkFree reaches noSlash named] at clear
  cases parsed : FileSystem.parsePath (Bytes.ofText (Path.join directory name)) with
  | error error => simp [parsed] at clear
  | ok route =>
    simp only [parsed] at clear
    split at clear
    · cases clear
    next dots =>
    split at clear
    · cases clear
    next short =>
    rw [not_or] at dots
    simp only [ite_eq_right_iff, reduceCtorEq, imp_false] at clear
    exact ⟨_, (place?_join_iff linkFree directory noSlash named).2 ⟨⟨route, parsed⟩, dots.1, dots.2,
      Nat.le_of_not_lt short, reaches.leads, reaches.stands, rfl⟩, clear⟩

theorem obstruction?_congr (noFaults : first.faults = []) (noFaults' : second.faults = [])
    (linkFree : first.files.LinkFree) (linkFree' : second.files.LinkFree)
    (same : second.workingDirectory = first.workingDirectory)
    (directories : ∀ location, second.files.get? location = some .directory ↔
      first.files.get? location = some .directory)
    (reaches : first.Reaches (Bytes.ofText directory)) (noSlash : '/' ∉ name.toList) (named : name ≠ "") :
    second.obstruction? (Bytes.ofText (Path.join directory name)) =
      first.obstruction? (Bytes.ofText (Path.join directory name)) := by
  have reaches' := reaches.transfer same fun location => (directories location).2
  rw [obstruction?_eq noFaults' linkFree' reaches' noSlash named,
    obstruction?_eq noFaults linkFree reaches noSlash named, spelled_congr same]
  simp only [directories]

/-! ## Directories -/

theorem createDirectory_of_reaches (noFaults : disk.faults = []) (linkFree : disk.files.LinkFree) {path : Bytes}
    (reaches : disk.Reaches path) :
    createDirectory (Path.route path) disk = (.error .alreadyExists, disk) := by
  -- Either the path names no entry of a directory, or it names the directory that it reaches.
  have taken : ∃ place, disk.files.locate disk.workingDirectory (Path.route path) = .ok place ∧
      ∀ location, place.location? = some location → (disk.files.get? location).isSome = true := by
    have leads := reaches.leads
    rcases (Path.route path).parts.eq_nil_or_concat with empty | ⟨front, name, parts⟩
    · have stands := reaches.stands
      rw [spelled, empty] at stands
      rw [locate_of_leads linkFree (by rw [empty]; exact .done) stands, empty]
      exact ⟨_, rfl, by rintro _ ⟨⟩⟩
    · rw [List.concat_eq_append] at parts
      rw [parts] at leads
      obtain ⟨parent, left, right⟩ := leads.split
      rw [locate_of_leads linkFree (by rwa [parts, List.dropLast_concat]) right.directory_of_cons, parts,
        List.getLast?_concat]
      dsimp only
      split
      · exact ⟨_, rfl, by rintro _ ⟨⟩⟩
      next dots =>
      rw [not_or] at dots
      obtain ⟨-, short, present, same⟩ := (Leads.single_iff dots.1 dots.2).1 right
      rw [if_neg (Nat.not_lt_of_le short)]
      refine ⟨_, rfl, fun location named => ?_⟩
      obtain rfl : EntryName.plain name :: parent = location := Option.some.inj named
      rw [← same]
      exact Option.isSome_iff_ne_none.2 present
  obtain ⟨place, located, taken⟩ := taken
  rw [createDirectory, call_quiet noFaults, located]
  simp only [bind, Except.bind]
  cases named : place.location? with
  | none => rfl
  | some location =>
    simp only [taken location named]
    rfl

theorem createDirectories_of_reaches (noFaults : disk.faults = []) (linkFree : disk.files.LinkFree)
    {path : Bytes} (reaches : disk.Reaches path) : (createDirectories path disk).2 = disk := by
  unfold createDirectories
  split
  · rfl
  split
  · rfl
  · next route parsed =>
    obtain rfl := route_of_parsePath parsed
    simp only [createWithin, createDirectory_of_reaches noFaults linkFree reaches, isDirectory_snd,
      tail_of_quiet noFaults]

end Retag.Disk
