import Retag.Proofs.Candidate.Order
import Retag.Proofs.FileSystem.Entered
import Retag.Proofs.Text.Places

/-! Selection as a whole. A directory that is listed to its end gives candidates of eligible entries and of no
others, each once and in order of the names, whatever order the directory yields its entries in. An eligible
entry is left out where looking at its path tells nothing: the call may fail, or the path be one that no
call takes, though the directory itself was listed. A call that fails on the way to an entry leaves no
candidates at all.
-/

set_option autoImplicit false

namespace Retag

/-! ## The order of entries -/

namespace FileSystem

variable {files first second : FileSystem}

theorem get?_eq_some_iff {name : EntryName} {parent : Location} {entry : Entry} :
    files.get? (name :: parent) = some entry ↔ (name :: parent, entry) ∈ files.entries := by
  refine ⟨mem_entries_of_get?, fun listed => ?_⟩
  obtain ⟨other, found⟩ := Option.ne_none_iff_exists'.1 (get?_ne_none_of_mem listed)
  have same := List.inj_on_of_nodup_map files.distinct listed (mem_entries_of_get? found) rfl
  rw [found, (Prod.mk.inj same).2]

theorem get?_eq_of_perm (same : first.entries.Perm second.entries) : first.get? = second.get? := by
  funext location
  cases location with
  | nil => rfl
  | cons name parent =>
    apply Option.ext
    intro entry
    rw [get?_eq_some_iff, get?_eq_some_iff, same.mem_iff]

theorem agreeOnPaths_of_perm (same : first.entries.Perm second.entries) : first.AgreeOnPaths second :=
  have view := get?_eq_of_perm same
  ⟨fun _ => by rw [view], fun _ _ => by rw [view]⟩

theorem listing_perm (same : first.entries.Perm second.entries) (directory : Location) :
    (first.listing directory).Perm (second.listing directory) :=
  same.filterMap _

theorem perm_filterMap_append {Item Name : Type} {choose : Item → Option Name} {back : Name → Item}
    {items : List Item} (inverse : ∀ item ∈ items, ∀ name, choose item = some name → back name = item) :
    items.Perm ((items.filterMap choose).map back ++ items.filter fun item => (choose item).isNone) := by
  induction items with
  | nil => exact .refl _
  | cons item items ih =>
    rw [List.forall_mem_cons] at inverse
    have rest := ih inverse.2
    cases chosen : choose item with
    | none =>
      rw [List.filterMap_cons_none chosen, List.filter_cons_of_pos (by rw [chosen]; rfl)]
      exact (rest.cons item).trans List.perm_middle.symm
    | some name =>
      rw [List.filterMap_cons_some chosen, List.filter_cons_of_neg (by simp [chosen]), List.map_cons,
        inverse.1 name chosen]
      exact rest.cons item

def nameIn? (directory : Location) (item : Location × Entry) : Option Bytes :=
  match item.1 with
  | .plain name :: parent => if parent = directory then some name else none
  | _ => none

/-- A directory may yield its entries in any order. -/
theorem exists_listing_eq (files : FileSystem) (directory : Location) {order : List Bytes}
    (same : order.Perm (files.listing directory)) :
    ∃ other : FileSystem, other.entries.Perm files.entries ∧ other.listing directory = order := by
  let back (name : Bytes) : Location × Entry :=
    (.plain name :: directory, (files.get? (.plain name :: directory)).getD .directory)
  have inverse : ∀ item ∈ files.entries, ∀ name, nameIn? directory item = some name → back name = item := by
    rintro ⟨location, entry⟩ listed name found
    obtain rfl : location = .plain name :: directory := Selection.listed_iff.1 found
    have stands : files.get? (.plain name :: directory) = some entry := get?_eq_some_iff.2 listed
    simp only [back, stands, Option.getD_some]
  have parts : files.entries.Perm
      (order.map back ++ files.entries.filter fun item => (nameIn? directory item).isNone) :=
    (perm_filterMap_append inverse).trans ((same.symm.map back).append_right _)
  have distinct := (parts.map Prod.fst).nodup_iff.1 files.distinct
  refine ⟨⟨_, distinct⟩, parts.symm, ?_⟩
  have passed : (files.entries.filter fun item => (nameIn? directory item).isNone).filterMap (nameIn? directory) =
      [] := by
    rw [List.filterMap_eq_nil_iff]
    intro item member
    simpa using (List.mem_filter.1 member).2
  have chosen : nameIn? directory ∘ back = some := by
    funext name
    exact Selection.listed_iff.2 rfl
  have listed : (order.map back ++ files.entries.filter fun item => (nameIn? directory item).isNone).filterMap
      (nameIn? directory) = order := by
    rw [List.filterMap_append, passed, List.append_nil, List.filterMap_map, chosen, List.filterMap_some]
  exact listed

end FileSystem

namespace Selection

variable {source suffix : String} {markers : Markers}

/-! ## Calls that fail on the way -/

def callsOf (markers : Markers) (entries : List Bytes) : Nat := (entries.map (calls markers)).sum

theorem callsOf_cons (markers : Markers) (entry : Bytes) (entries : List Bytes) :
    callsOf markers (entry :: entries) = calls markers entry + callsOf markers entries := List.sum_cons

theorem join_getElem?_drop (faults : List (Option IoError)) (first second : Nat) :
    (faults.drop first)[second]?.join = faults[first + second]?.join := by rw [List.getElem?_drop]

theorem exists_stepFault?_iff {entries : List Bytes} {faults : List (Option IoError)} :
    (∃ error, stepFault? markers entries faults = some error) ↔ ∃ front back error,
      entries = front ++ back ∧ faults[callsOf markers front]?.join = some error := by
  induction entries generalizing faults with
  | nil =>
    rw [stepFault?, List.head?_eq_getElem?]
    constructor
    · rintro ⟨error, forced⟩
      exact ⟨[], [], error, rfl, forced⟩
    · rintro ⟨front, back, error, whole, forced⟩
      obtain ⟨rfl, rfl⟩ := List.append_eq_nil_iff.1 whole.symm
      exact ⟨error, forced⟩
  | cons entry entries ih =>
    have here : (∃ error, stepFault? markers (entry :: entries) faults = some error) ↔
        (∃ error, faults.head?.join = some error) ∨
          ∃ error, stepFault? markers entries (faults.drop (calls markers entry)) = some error := by
      rw [stepFault?]
      cases faults.head?.join <;> simp
    rw [here, ih]
    constructor
    · rintro (⟨error, forced⟩ | ⟨front, back, error, rfl, forced⟩)
      · exact ⟨[], entry :: entries, error, rfl, by rwa [List.head?_eq_getElem?] at forced⟩
      · refine ⟨entry :: front, back, error, rfl, ?_⟩
        rwa [callsOf_cons, ← join_getElem?_drop]
    · rintro ⟨front, back, error, whole, forced⟩
      cases front with
      | nil => exact .inl ⟨error, by rwa [List.head?_eq_getElem?]⟩
      | cons first front =>
        obtain ⟨rfl, rfl⟩ := List.cons.inj whole
        refine .inr ⟨front, back, error, rfl, ?_⟩
        rwa [callsOf_cons, ← join_getElem?_drop] at forced

/-- The call that looks at an entry's path is the one behind that which comes to the entry. -/
theorem mem_unrefused_iff {entries : List Bytes} (distinct : entries.Nodup) {faults : List (Option IoError)}
    {entry : Bytes} (seen : looked markers entry = true) :
    entry ∈ unrefused markers entries faults ↔ entry ∈ entries ∧ ∀ front back error,
      entries = front ++ entry :: back → faults[callsOf markers front + 1]?.join ≠ some error := by
  induction entries generalizing faults with
  | nil => simp [unrefused]
  | cons first rest ih =>
    obtain ⟨apart, distinct⟩ := List.nodup_cons.1 distinct
    rw [unrefused]
    by_cases same : entry = first
    · subst same
      have gone : entry ∉ unrefused markers rest (faults.drop (calls markers entry)) :=
        fun member => apart ((unrefused_sublist ..).subset member)
      rw [seen, Bool.true_and, List.head?_tail]
      constructor
      · intro member
        split at member
        · exact absurd member gone
        next unforced =>
        refine ⟨List.mem_cons_self, fun front back error whole forced => ?_⟩
        cases front with
        | nil =>
          rw [show faults[1]?.join = some error from forced] at unforced
          exact unforced rfl
        | cons other front =>
          obtain ⟨-, whole⟩ := List.cons.inj whole
          exact apart (whole ▸ List.mem_append_right front List.mem_cons_self)
      · rintro ⟨-, unforced⟩
        cases forced : faults[1]?.join with
        | some error => exact absurd forced (unforced [] rest error rfl)
        | none => exact List.mem_cons_self
    · have onward : (∀ front back error, first :: rest = front ++ entry :: back →
            faults[callsOf markers front + 1]?.join ≠ some error) ↔
          ∀ front back error, rest = front ++ entry :: back →
            (faults.drop (calls markers first))[callsOf markers front + 1]?.join ≠ some error := by
        constructor
        · intro unforced front back error whole
          rw [join_getElem?_drop, ← Nat.add_assoc, ← callsOf_cons]
          exact unforced (first :: front) back error (congrArg (first :: ·) whole)
        · intro unforced front back error whole
          cases front with
          | nil => exact absurd (List.cons.inj whole).1.symm same
          | cons other front =>
            obtain ⟨rfl, whole'⟩ := List.cons.inj whole
            have rest := unforced front back error whole'
            rwa [join_getElem?_drop, ← Nat.add_assoc, ← callsOf_cons] at rest
      rw [onward, List.mem_cons, or_iff_right same, ← ih distinct]
      split
      · rfl
      · rw [List.mem_cons, or_iff_right same]

/-! ## Eligible entries -/

/-- What makes an entry of a directory eligible: its name is a text with the one marker and without the
other, and it is a regular file, links followed. -/
structure Eligible (markers : Markers) (disk : Disk) (directory : Location) (name : String) : Prop where
  listed : Bytes.ofText name ∈ disk.files.listing directory
  included : markers.includes.toList <:+: name.toList
  notExcluded : markers.excludes ≠ "" → ¬ markers.excludes.toList <:+: name.toList
  regular : ∃ location content, disk.files.walk linkLimit directory [Bytes.ofText name] = .ok location ∧
    disk.files.get? location = some (.file content)

/-- An error is forced on the call that looks at the entry's path. -/
def Refused (source : String) (markers : Markers) (disk : Disk) (name : String) : Prop :=
  ∃ directory front back error, disk.resolve (Bytes.ofText source) = .ok directory ∧
    disk.files.listing directory = front ++ Bytes.ofText name :: back ∧
    disk.faults[callsOf markers front + 2]?.join = some error

/-- Looking at the entry's path tells nothing of the entry: the call fails of its own accord, or the path
is too long, or the links on the way to the directory and those behind the entry are too many together. -/
def Overlooked (source : String) (markers : Markers) (disk : Disk) (name : String) : Prop :=
  Refused source markers disk name ∨ pathLimit ≤ (Bytes.ofText (Path.join source name)).length ∨
    disk.resolve (Bytes.ofText (Path.join source name)) = .error .tooManyLinks

theorem accept_iff {name : String} : markers.accept name = true ↔
    markers.includes.toList <:+: name.toList ∧
      (markers.excludes ≠ "" → ¬ markers.excludes.toList <:+: name.toList) := by
  rw [Markers.accept, Bool.and_eq_true, Bool.or_eq_true, Bool.not_eq_true', ← Bool.not_eq_true,
    Occurrence.contains_iff, Occurrence.contains_iff, String.isEmpty_iff, or_iff_not_imp_left]

variable {disk : Disk} {directory : Location}

theorem resolve_join_of_ok {name : String} (legal : FileSystem.LegalName (Bytes.ofText name))
    (noZero : 0 ∉ Bytes.ofText name) (resolved : disk.resolve (Bytes.ofText source) = .ok directory)
    (stands : disk.files.get? directory = some .directory) :
    ∃ left ≤ linkLimit, disk.resolve (Bytes.ofText (Path.join source name)) =
      if pathLimit ≤ (Bytes.ofText (Path.join source name)).length then .error .nameTooLong
      else disk.files.walk left directory [Bytes.ofText name] := by
  obtain ⟨named, noSlash, -, -⟩ := legal
  have noSlash := mt Bytes.slash_mem_ofText.2 noSlash
  have named : name ≠ "" := fun empty => named (by rw [empty]; rfl)
  obtain ⟨route, parsed, reached⟩ := bind_eq_ok_iff.1 resolved
  obtain ⟨noZero', -, -, rfl⟩ := Disk.parsePath_eq_ok_iff.1 parsed
  obtain ⟨walked, -⟩ := Disk.resolve_directory_iff.1 ⟨reached, stands⟩
  obtain ⟨left, le, same⟩ := FileSystem.walk_append_of_ok walked
  refine ⟨left, le, ?_⟩
  obtain ⟨between, slash, written⟩ := Path.ofText_join source noSlash
  have clear : (0 : UInt8) ∉ between := fun zero => by simpa using slash.subset zero
  have zero : ¬ (Bytes.ofText (Path.join source name)).contains 0 = true := by
    rw [List.contains_iff_mem, written]
    simp [noZero, noZero', clear]
  have below : ¬ (Bytes.ofText (Path.join source name)).isEmpty = true :=
    mt List.isEmpty_iff.1 (Path.ofText_join_ne_nil source noSlash named)
  rw [Disk.resolve, FileSystem.parsePath, if_neg zero, if_neg below]
  split
  · rfl
  · rw [← same]
    change disk.files.resolve disk.workingDirectory (Path.route (Bytes.ofText (Path.join source name))) = _
    rw [FileSystem.resolve, FileSystem.start, Path.route_join source noSlash named]
    rfl

theorem content?_join_iff {name : String} (legal : FileSystem.LegalName (Bytes.ofText name))
    (noZero : 0 ∉ Bytes.ofText name) (resolved : disk.resolve (Bytes.ofText source) = .ok directory)
    (stands : disk.files.get? directory = some .directory) :
    (disk.content? (Bytes.ofText (Path.join source name))).isSome = true ↔
      (∃ location content, disk.files.walk linkLimit directory [Bytes.ofText name] = .ok location ∧
        disk.files.get? location = some (.file content)) ∧
      (Bytes.ofText (Path.join source name)).length < pathLimit ∧
      disk.resolve (Bytes.ofText (Path.join source name)) ≠ .error .tooManyLinks := by
  obtain ⟨left, le, joined⟩ := resolve_join_of_ok legal noZero resolved stands
  have fewer : disk.files.walk left directory [Bytes.ofText name] = .error .tooManyLinks ∨
      disk.files.walk left directory [Bytes.ofText name] =
        disk.files.walk linkLimit directory [Bytes.ofText name] := FileSystem.walk_of_le le
  rw [Option.isSome_iff_exists]
  constructor
  · rintro ⟨content, found⟩
    obtain ⟨location, led, read⟩ := Disk.content?_eq_some_iff.1 found
    rw [led]
    rw [joined] at led
    split at led
    · cases led
    next short =>
    refine ⟨⟨location, content, ?_, read⟩, Nat.lt_of_not_le short, by simp⟩
    rw [led] at fewer
    exact (fewer.resolve_left (by simp)).symm
  · rintro ⟨⟨location, content, walked, read⟩, short, enough⟩
    rw [joined, if_neg (Nat.not_le_of_lt short)] at enough
    refine ⟨content, Disk.content?_eq_some_iff.2 ⟨location, ?_, read⟩⟩
    rw [joined, if_neg (Nat.not_le_of_lt short), fewer.resolve_left enough, walked]

/-- The entries of the source directory have names that a directory can hold. -/
def Named (source : String) (disk : Disk) : Prop :=
  ∀ directory, disk.resolve (Bytes.ofText source) = .ok directory →
    ∀ entry ∈ disk.files.listing directory, FileSystem.LegalName entry ∧ 0 ∉ entry

theorem mem_candidates_iff (legal : Named source disk)
    (resolved : disk.resolve (Bytes.ofText source) = .ok directory)
    (stands : disk.files.get? directory = some .directory) {candidate : Candidate} :
    candidate ∈ sortByName ((unrefused markers (disk.files.listing directory) disk.faults.tail).filterMap
        (candidate? source markers suffix disk)) ↔
      ∃ name, Eligible markers disk directory name ∧ ¬ Overlooked source markers disk name ∧
        candidate = Candidate.ofName name suffix := by
  have seen {name : String} (accepted : markers.accept name = true) :
      looked markers (Bytes.ofText name) = true := by
    rw [looked, Bytes.text?_ofText]
    exact accepted
  have unforced {name : String} (accepted : markers.accept name = true) :
      Bytes.ofText name ∈ unrefused markers (disk.files.listing directory) disk.faults.tail ↔
        Bytes.ofText name ∈ disk.files.listing directory ∧ ¬ Refused source markers disk name := by
    rw [mem_unrefused_iff (nodup_listing _ _) (seen accepted), Refused]
    simp only [List.getElem?_tail, resolved, Except.ok.injEq, exists_and_left, exists_eq_left', not_exists,
      not_and]
    exact and_congr_right fun _ => forall₂_congr fun front back => forall_comm
  rw [(perm_sortByName _).mem_iff, List.mem_filterMap]
  constructor
  · rintro ⟨entry, kept, made⟩
    obtain ⟨name, content, text, rfl, found⟩ := candidate?_eq_some made
    obtain rfl := Bytes.text?_eq_some_iff.1 text
    rw [candidate?, text] at made
    obtain ⟨accepted, file⟩ := Bool.and_eq_true_iff.1 (Option.ite_none_right_eq_some.1 made).1
    obtain ⟨listed, unrefused⟩ := (unforced accepted).1 kept
    obtain ⟨lawful, noZero⟩ := legal _ resolved _ listed
    obtain ⟨regular, short, enough⟩ := (content?_join_iff lawful noZero resolved stands).1 file
    obtain ⟨included, notExcluded⟩ := accept_iff.1 accepted
    refine ⟨name, ⟨listed, included, notExcluded, regular⟩, ?_, rfl⟩
    rintro (refused | long | many)
    · exact unrefused refused
    · exact Nat.not_le_of_lt short long
    · exact enough many
  · rintro ⟨name, ⟨listed, included, notExcluded, regular⟩, noticed, rfl⟩
    rw [Overlooked, not_or, not_or, Nat.not_le] at noticed
    obtain ⟨unrefused, short, enough⟩ := noticed
    obtain ⟨lawful, noZero⟩ := legal _ resolved _ listed
    have accepted : markers.accept name = true := accept_iff.2 ⟨included, notExcluded⟩
    have file := (content?_join_iff lawful noZero resolved stands).2 ⟨regular, short, enough⟩
    refine ⟨_, (unforced accepted).2 ⟨listed, unrefused⟩, ?_⟩
    rw [candidate?, Bytes.text?_ofText]
    simp only [accepted, file, Bool.and_self, if_true]

theorem pairwise_lt_sortByName (disk : Disk) {entries : List Bytes} (distinct : entries.Nodup) :
    (sortByName (entries.filterMap (candidate? source markers suffix disk))).Pairwise
      fun first second => Bytes.ofText first.name < Bytes.ofText second.name := by
  have sorted := sorted_sortByName (entries.filterMap (candidate? source markers suffix disk))
  have named := ((perm_sortByName _).map Candidate.name).nodup_iff.2
    (@nodup_names source suffix markers disk _ distinct)
  refine (sorted.and (List.pairwise_map.1 named)).imp fun ⟨below, apart⟩ => ?_
  by_contra above
  exact apart (Bytes.ofText_injective (List.le_antisymm below (List.not_lt.1 above)))

/-! ## Any order, and failures -/

/-- The directory cannot be opened, or one of the steps to its end fails. -/
def Unlistable (source : String) (markers : Markers) (disk : Disk) : Prop :=
  (∃ error, (Disk.openDirectory (Bytes.ofText source) disk).1 = .error error) ∨
    ∃ directory front back error, (Disk.openDirectory (Bytes.ofText source) disk).1 = .ok directory ∧
      disk.files.listing directory = front ++ back ∧
      disk.faults[callsOf markers front + 1]?.join = some error

theorem select_error_iff {world : World} : (∃ failure, ((select source markers suffix).perform world).1 =
    .error failure) ↔ Unlistable source markers world.disk := by
  rw [select_outcome, Unlistable]
  cases (Disk.openDirectory (Bytes.ofText source) world.disk).1 with
  | error error => simp
  | ok directory =>
    have step := @exists_stepFault?_iff markers (world.disk.files.listing directory) world.disk.faults.tail
    simp only [List.getElem?_tail] at step
    simp only [reduceCtorEq, exists_false, false_or, Except.ok.injEq, exists_and_left, exists_eq_left']
    simp only [exists_and_left] at step
    rw [← step]
    cases stepFault? markers (world.disk.files.listing directory) world.disk.faults.tail <;> simp

theorem resolve_eq_of_perm {files : FileSystem} (same : files.entries.Perm disk.files.entries)
    (faults : List (Option IoError)) (path : Bytes) :
    { disk with files, faults }.resolve path = disk.resolve path := by
  simp only [Disk.resolve, FileSystem.resolve, (FileSystem.agreeOnPaths_of_perm same).walk_eq]

theorem openDirectory_eq_of_perm {files : FileSystem} (same : files.entries.Perm disk.files.entries)
    (path : Bytes) : (Disk.openDirectory path { disk with files }).1 = (Disk.openDirectory path disk).1 := by
  have view := FileSystem.get?_eq_of_perm same
  have entered : files.asDirectory = disk.files.asDirectory := by
    funext location
    rw [FileSystem.asDirectory, FileSystem.asDirectory, view]
  have resolved : { disk with files }.resolve path = disk.resolve path := resolve_eq_of_perm same _ path
  simp only [Disk.openDirectory, Disk.call, resolved, entered, bind, Except.bind]
  cases disk.faults.head?.join with
  | some error => rfl
  | none =>
    cases disk.resolve path with
    | error error => rfl
    | ok location =>
      dsimp only
      cases disk.files.asDirectory location <;> rfl

theorem candidate?_eq_of_perm {files : FileSystem} (same : files.entries.Perm disk.files.entries) :
    candidate? source markers suffix { disk with files } = candidate? source markers suffix disk := by
  have view := FileSystem.get?_eq_of_perm same
  have content (path : Bytes) : { disk with files }.content? path = disk.content? path := by
    have resolved : { disk with files }.resolve path = disk.resolve path := resolve_eq_of_perm same _ path
    rw [Disk.content?, resolved, view, Disk.content?]
  funext entry
  simp only [candidate?, content]

theorem select_eq_of_perm {world : World} {files : FileSystem} (noFaults : world.disk.faults = [])
    (same : files.entries.Perm world.disk.files.entries) :
    ((select source markers suffix).perform { world with disk := { world.disk with files } }).1 =
      ((select source markers suffix).perform world).1 := by
  rw [select_outcome, select_outcome]
  simp only [openDirectory_eq_of_perm same, candidate?_eq_of_perm same]
  simp only [noFaults, List.tail_nil, stepFault?_quiet, unrefused_quiet]
  cases (Disk.openDirectory (Bytes.ofText source) world.disk).1 with
  | error error => rfl
  | ok directory =>
    have listed := FileSystem.listing_perm same directory
    have sorted := sortByName_eq_of_perm (listed.filterMap (candidate? source markers suffix world.disk)) <| by
      have distinct := @nodup_names source suffix markers world.disk _ (nodup_listing world.disk.files directory)
      exact ((listed.filterMap _).map Candidate.name).nodup_iff.2 distinct
    dsimp only
    rw [sorted]

/-! ## Selection as a whole -/

theorem Named.of_perm {files : FileSystem} {faults : List (Option IoError)} (legal : Named source disk)
    (same : files.entries.Perm disk.files.entries) : Named source { disk with files, faults } := by
  intro directory resolved entry listed
  rw [resolve_eq_of_perm same] at resolved
  exact legal directory resolved entry ((FileSystem.listing_perm same directory).mem_iff.1 listed)

theorem eligible_iff_of_perm {files : FileSystem} (same : files.entries.Perm disk.files.entries)
    (faults : List (Option IoError)) {name : String} :
    Eligible markers { disk with files, faults } directory name ↔ Eligible markers disk directory name := by
  have listed := (FileSystem.listing_perm same directory).mem_iff (a := Bytes.ofText name)
  have walked := (FileSystem.agreeOnPaths_of_perm same).walk_eq linkLimit directory [Bytes.ofText name]
  have view := FileSystem.get?_eq_of_perm same
  constructor
  · rintro ⟨present, included, notExcluded, regular⟩
    rw [walked, view] at regular
    exact ⟨listed.1 present, included, notExcluded, regular⟩
  · rintro ⟨present, included, notExcluded, regular⟩
    rw [← walked, ← view] at regular
    exact ⟨listed.2 present, included, notExcluded, regular⟩

theorem eq_of_refused_iff {world : World} {files : FileSystem} {faults : List (Option IoError)}
    (legal : Named source world.disk) (same : files.entries.Perm world.disk.files.entries)
    (refused : ∀ name, Refused source markers { world.disk with files, faults } name ↔
      Refused source markers world.disk name)
    {candidates candidates' : List Candidate}
    (selected : ((select source markers suffix).perform world).1 = .ok candidates)
    (selected' : ((select source markers suffix).perform
      { world with disk := { world.disk with files, faults } }).1 = .ok candidates') :
    candidates' = candidates := by
  obtain ⟨directory, resolved, stands, rfl⟩ := select_ok (Prod.ext selected rfl)
  obtain ⟨directory', resolved', stands', rfl⟩ := select_ok (Prod.ext selected' rfl)
  have overlooked (name : String) : Overlooked source markers { world.disk with files, faults } name ↔
      Overlooked source markers world.disk name := by
    rw [Overlooked, Overlooked, refused, resolve_eq_of_perm same]
  obtain rfl : directory = directory' := by
    rw [resolve_eq_of_perm same, resolved] at resolved'
    exact Except.ok.inj resolved'
  have strict := @pairwise_lt_sortByName source suffix markers world.disk _
    (nodup_unrefused markers world.disk.files directory world.disk.faults.tail)
  have strict' := @pairwise_lt_sortByName source suffix markers { world.disk with files, faults } _
    (nodup_unrefused markers files directory faults.tail)
  have members : List.Perm _ _ := (List.perm_ext_iff_of_nodup
      (strict'.imp fun below same => absurd (same ▸ below) (List.lt_irrefl _))
      (strict.imp fun below same => absurd (same ▸ below) (List.lt_irrefl _))).2 fun candidate => by
    rw [mem_candidates_iff (legal.of_perm same) resolved' stands', mem_candidates_iff legal resolved stands]
    simp only [eligible_iff_of_perm same faults, overlooked]
  exact members.eq_of_pairwise
    (fun first second _ _ below above => absurd (List.lt_trans below above) (List.lt_irrefl _)) strict' strict

/-- A directory that is listed to its end gives exactly the candidates of its eligible entries, in strict order
of the names, but for those whose paths tell nothing when they are looked at. Every order is one that the
directory may yield its entries in, and none makes a difference unless the calls that fail differ. Where a
step fails the source directory is blamed and nothing is selected. -/
theorem selects_eligible_entries (source suffix : String) (markers : Markers) (world : World)
    (legal : Named source world.disk) :
    (∀ candidates, ((select source markers suffix).perform world).1 = .ok candidates →
      ∃ directory, world.disk.resolve (Bytes.ofText source) = .ok directory ∧
        world.disk.files.get? directory = some .directory ∧
        (∀ candidate, candidate ∈ candidates ↔ ∃ name, Eligible markers world.disk directory name ∧
          ¬ Overlooked source markers world.disk name ∧ candidate = .ofName name suffix) ∧
        candidates.Pairwise fun first second => Bytes.ofText first.name < Bytes.ofText second.name) ∧
    (∀ files : FileSystem, files.entries.Perm world.disk.files.entries →
      (world.disk.faults = [] →
        ((select source markers suffix).perform { world with disk := { world.disk with files } }).1 =
          ((select source markers suffix).perform world).1) ∧
      ∀ faults candidates candidates',
        (∀ name, Refused source markers { world.disk with files, faults } name ↔
          Refused source markers world.disk name) →
        ((select source markers suffix).perform world).1 = .ok candidates →
        ((select source markers suffix).perform { world with disk := { world.disk with files, faults } }).1 =
          .ok candidates' →
        candidates' = candidates) ∧
    (∀ directory order, order.Perm (world.disk.files.listing directory) →
      ∃ files : FileSystem, files.entries.Perm world.disk.files.entries ∧ files.listing directory = order) ∧
    ((∃ failure, ((select source markers suffix).perform world).1 = .error failure) ↔
      Unlistable source markers world.disk) ∧
    ∀ failure, ((select source markers suffix).perform world).1 = .error failure →
      ∃ cause, failure = .sourceUnavailable source cause := by
  refine ⟨fun candidates selected => ?_, fun files same => ⟨fun noFaults => select_eq_of_perm noFaults same, ?_⟩,
    fun directory order => world.disk.files.exists_listing_eq directory, select_error_iff,
    fun failure failed => select_failsOnly world failure _ (Prod.ext failed rfl)⟩
  · obtain ⟨directory, resolved, stands, rfl⟩ := select_ok (Prod.ext selected rfl)
    exact ⟨directory, resolved, stands, fun _ => mem_candidates_iff legal resolved stands,
      pairwise_lt_sortByName _ (nodup_unrefused ..)⟩
  · exact fun faults candidates candidates' refused => eq_of_refused_iff legal same refused

def linkedDirectory : Disk where
  files := (((FileSystem.empty.put [.plain (Bytes.ofText "S")] .directory).put
    [.plain (Bytes.ofText "B.cs"), .plain (Bytes.ofText "S")] (.file (Bytes.ofText "b\n"))).put
    [.plain (Bytes.ofText "A.cs"), .plain (Bytes.ofText "S")] (.link (Bytes.ofText "B.cs"))).put
    [.plain (Bytes.ofText "B.cs.meta"), .plain (Bytes.ofText "S")] (.file [])
  workingDirectory := []
  -- The directory is opened, and the second entry of three is not looked at.
  faults := [none, none, none, none, some .permissionDenied]

/-- Of two eligible entries the one that could not be looked at is overlooked. -/
theorem selects_eligible_entries_linked :
    ((select "S" ⟨".cs", ".meta"⟩ "_doxy").perform { disk := linkedDirectory }).1 =
        .ok [Candidate.ofName "B.cs" "_doxy"] ∧
      Eligible ⟨".cs", ".meta"⟩ linkedDirectory [.plain (Bytes.ofText "S")] "A.cs" ∧
      Overlooked "S" ⟨".cs", ".meta"⟩ linkedDirectory "A.cs" := by
  have resolved : linkedDirectory.resolve (Bytes.ofText "S") = .ok [.plain (Bytes.ofText "S")] := by
    decide +kernel
  have legal : Named "S" linkedDirectory := by
    intro directory reached
    cases resolved.symm.trans reached
    decide +kernel
  have selected : ((select "S" ⟨".cs", ".meta"⟩ "_doxy").perform { disk := linkedDirectory }).1 =
      .ok [Candidate.ofName "B.cs" "_doxy"] := by decide +kernel
  have eligible : Eligible ⟨".cs", ".meta"⟩ linkedDirectory [.plain (Bytes.ofText "S")] "A.cs" :=
    ⟨by decide +kernel, by decide +kernel, by decide +kernel,
      [.plain (Bytes.ofText "B.cs"), .plain (Bytes.ofText "S")], Bytes.ofText "b\n", by decide +kernel⟩
  obtain ⟨chosen, -⟩ := selects_eligible_entries "S" "_doxy" ⟨".cs", ".meta"⟩ { disk := linkedDirectory } legal
  obtain ⟨directory, reached, -, members, -⟩ := chosen _ selected
  cases resolved.symm.trans reached
  refine ⟨selected, eligible, ?_⟩
  by_contra noticed
  have member := (members _).2 ⟨"A.cs", eligible, noticed, rfl⟩
  revert member
  decide +kernel

/-! ## A path that is nearly too long -/

/-- The directory `S` written with dots behind it, each of which leads nowhere else. -/
def dotted (count : Nat) : String := String.ofList ('S' :: (List.replicate count ['/', '.']).flatten)

theorem ofText_dotted (count : Nat) :
    Bytes.ofText (dotted (count + 1)) = Bytes.ofText (dotted count) ++ 47 :: Path.here := by
  rw [dotted, dotted, Bytes.ofText, Bytes.ofText, String.toList_ofList, String.toList_ofList,
    List.replicate_succ', List.flatten_concat, ← List.cons_append, Bytes.ofChars, List.flatMap_append]
  rfl

theorem length_dotted (count : Nat) : (Bytes.ofText (dotted count)).length = 2 * count + 1 := by
  induction count with
  | zero => decide +kernel
  | succ count ih =>
    rw [ofText_dotted, List.length_append, ih, List.length_cons]
    rfl

theorem route_dotted (count : Nat) : Path.route (Bytes.ofText (dotted count)) =
    ⟨false, Bytes.ofText "S" :: List.replicate count Path.here, false⟩ := by
  induction count with
  | zero => decide +kernel
  | succ count ih =>
    have below : Bytes.ofText (dotted count) ≠ [] := by
      rw [← List.length_pos_iff, length_dotted]
      exact Nat.succ_pos _
    rw [ofText_dotted, Path.route_append_slash (by decide) (by decide), Path.route_absolute_append below, ih,
      List.replicate_succ', List.cons_append]

def shortDirectory : Disk where
  files := (FileSystem.empty.put [.plain (Bytes.ofText "S")] .directory).put
    [.plain (Bytes.ofText "A.cs"), .plain (Bytes.ofText "S")] (.file (Bytes.ofText "a\n"))
  workingDirectory := []

theorem zero_notMem_dotted (count : Nat) : 0 ∉ Bytes.ofText (dotted count) := by
  induction count with
  | zero => decide +kernel
  | succ count ih =>
    rw [ofText_dotted, List.mem_append, not_or]
    exact ⟨ih, by decide⟩

theorem resolve_dotted {count : Nat} (short : 2 * count + 1 < pathLimit) :
    shortDirectory.resolve (Bytes.ofText (dotted count)) = .ok [.plain (Bytes.ofText "S")] := by
  have linkFree : shortDirectory.files.LinkFree := by decide +kernel
  have stands : shortDirectory.files.get? [.plain (Bytes.ofText "S")] = some .directory := by decide +kernel
  have dots (count : Nat) : FileSystem.Leads shortDirectory.files [.plain (Bytes.ofText "S")]
      (List.replicate count Path.here) [.plain (Bytes.ofText "S")] := by
    induction count with
    | zero => exact .done
    | succ count ih => exact .here stands ih
  have length := length_dotted count
  rw [Disk.resolve_eq_ok_iff linkFree]
  refine ⟨Disk.parsePath_eq_ok_iff.2 ⟨zero_notMem_dotted count, ?_, by rwa [length], rfl⟩, ?_⟩
  · rw [← List.length_pos_iff, length]
    exact Nat.succ_pos _
  · rw [route_dotted]
    exact .down rfl (by decide) (by decide) (by decide) (stands ▸ Option.some_ne_none _) (dots count)

theorem content?_dotted {count : Nat} (long : 4092 ≤ 2 * count + 1) :
    shortDirectory.content? (Bytes.ofText (Path.join (dotted count) "A.cs")) = none := by
  rw [Option.eq_none_iff_forall_ne_some]
  intro content found
  obtain ⟨location, led, -⟩ := Disk.content?_eq_some_iff.1 found
  obtain ⟨route, parsed, -⟩ := bind_eq_ok_iff.1 led
  obtain ⟨-, -, short, -⟩ := Disk.parsePath_eq_ok_iff.1 parsed
  obtain ⟨between, -, joined⟩ := Path.ofText_join (dotted count) (by decide : '/' ∉ "A.cs".toList)
  have four : (Bytes.ofText "A.cs").length = 4 := by decide +kernel
  rw [joined, List.length_append, List.length_append, length_dotted, four, pathLimit] at short
  omega

/-- A directory that is listed to its end, and that has an eligible entry, gives no candidates. -/
theorem selects_nothing_dotted :
    ((select (dotted 2046) ⟨".cs", ".meta"⟩ "_doxy").perform { disk := shortDirectory }).1 = .ok [] ∧
      shortDirectory.resolve (Bytes.ofText (dotted 2046)) = .ok [.plain (Bytes.ofText "S")] ∧
      Eligible ⟨".cs", ".meta"⟩ shortDirectory [.plain (Bytes.ofText "S")] "A.cs" := by
  have resolved := resolve_dotted (by decide : 2 * 2046 + 1 < pathLimit)
  have stands : shortDirectory.files.get? [.plain (Bytes.ofText "S")] = some .directory := by decide +kernel
  have listed : shortDirectory.files.listing [.plain (Bytes.ofText "S")] = [Bytes.ofText "A.cs"] := by
    decide +kernel
  have unseen : candidate? (dotted 2046) ⟨".cs", ".meta"⟩ "_doxy" shortDirectory (Bytes.ofText "A.cs") =
      none := by
    rw [candidate?, Bytes.text?_ofText]
    simp only [content?_dotted (by decide : 4092 ≤ 2 * 2046 + 1), Option.isSome_none, Bool.and_false,
      Bool.false_eq_true, if_false]
  obtain ⟨log, performed⟩ :=
    @select_quiet (dotted 2046) "_doxy" ⟨".cs", ".meta"⟩ shortDirectory _ rfl resolved stands
  rw [listed, List.filterMap_cons_none unseen] at performed
  refine ⟨congrArg Prod.fst performed, resolved, by decide +kernel, by decide +kernel, by decide +kernel, ?_⟩
  exact ⟨[.plain (Bytes.ofText "A.cs"), .plain (Bytes.ofText "S")], Bytes.ofText "a\n", by decide +kernel⟩

end Selection

end Retag
