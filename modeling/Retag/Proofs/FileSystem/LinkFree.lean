import Retag.Proofs.FileSystem.Calls
import Retag.Proofs.FileSystem.Paths

/-! Paths in a file system without symbolic links. There a path leads where its names spell, if it leads
anywhere, and whether it does is a matter of directories and of the last entry only.
-/

set_option autoImplicit false

namespace Retag

def Entry.isLink : Entry → Bool
  | .link _ => true
  | _ => false

def Location.plainName? : Location → Option Bytes
  | .plain name :: _ => some name
  | _ => none

theorem Location.plainName?_eq_some_iff {location : Location} {name : Bytes} :
    plainName? location = some name ↔ ∃ parent, location = .plain name :: parent := by
  unfold plainName?
  split
  · simp
  · next other => exact iff_of_false (by simp) fun ⟨parent, same⟩ => other name parent same

namespace FileSystem

def LinkFree (files : FileSystem) : Prop := ∀ location target, files.get? location ≠ some (.link target)

instance (files : FileSystem) : Decidable files.LinkFree :=
  decidable_of_iff (∀ entry ∈ files.entries, (files.get? entry.1).any Entry.isLink = false) <| by
    constructor
    · intro checked location target found
      cases location with
      | nil => cases found
      | cons name parent =>
        have noLink := checked _ (mem_entries_of_get? found)
        rw [found] at noLink
        cases noLink
    · intro linkFree entry _
      cases found : files.get? entry.1 with
      | none => rfl
      | some stood =>
        cases stood with
        | link target => exact absurd found (linkFree _ target)
        | file content => rfl
        | directory => rfl

theorem update_ne_link {view : Location → Option Entry} {place : Location} {put? : Option Entry}
    (linkFree : ∀ location target, view location ≠ some (.link target))
    (noLink : ∀ target, put? ≠ some (.link target)) (location : Location) (target : Bytes) :
    Function.update view place put? location ≠ some (.link target) := by
  rw [Function.update_apply]
  split
  · exact noLink target
  · exact linkFree location target

/-- A name that a directory can hold: not empty, without a slash, and neither of the two that every
directory has already. -/
def LegalName (name : Bytes) : Prop := name ≠ [] ∧ 47 ∉ name ∧ name ≠ Path.here ∧ name ≠ Path.up

instance (name : Bytes) : Decidable (LegalName name) := inferInstanceAs (Decidable (_ ∧ _))

def LegalNames (files : FileSystem) : Prop :=
  ∀ name parent, files.get? (.plain name :: parent) ≠ none → LegalName name

instance (files : FileSystem) : Decidable files.LegalNames :=
  decidable_of_iff (∀ entry ∈ files.entries, ∀ name ∈ Location.plainName? entry.1, LegalName name) <| by
    constructor
    · intro checked name parent present
      obtain ⟨entry, found⟩ := Option.ne_none_iff_exists'.1 present
      exact checked _ (mem_entries_of_get? found) name rfl
    · rintro legal ⟨location, entry⟩ listed name named
      obtain ⟨parent, rfl⟩ := Location.plainName?_eq_some_iff.1 named
      exact legal name parent (get?_ne_none_of_mem listed)

def descend : Location → List Bytes → Location
  | location, [] => location
  | location, name :: rest =>
      if name = Path.here then descend location rest
      else if name = Path.up then descend location.tail rest
      else descend (.plain name :: location) rest

theorem descend_append (location : Location) (first second : List Bytes) :
    descend location (first ++ second) = descend (descend location first) second := by
  induction first generalizing location with
  | nil => rfl
  | cons name rest ih => simp only [List.cons_append, descend, ih, apply_ite (descend · second)]

/-- Names lead from one location to another, through directories and no links. -/
inductive Leads (files : FileSystem) : Location → List Bytes → Location → Prop where
  | done {location : Location} : Leads files location [] location
  | here {location reached : Location} {rest : List Bytes} : files.get? location = some .directory →
      Leads files location rest reached → Leads files location (Path.here :: rest) reached
  | up {location reached : Location} {rest : List Bytes} : files.get? location = some .directory →
      Leads files location.tail rest reached → Leads files location (Path.up :: rest) reached
  | down {location reached : Location} {name : Bytes} {rest : List Bytes} :
      files.get? location = some .directory → name ≠ Path.here → name ≠ Path.up →
      name.length ≤ longestName → files.get? (.plain name :: location) ≠ none →
      Leads files (.plain name :: location) rest reached → Leads files location (name :: rest) reached

variable {files first second : FileSystem} {location middle reached : Location}
  {names front back : List Bytes}

namespace Leads

theorem eq_descend (leads : Leads files location names reached) : reached = descend location names := by
  induction leads with
  | done => rfl
  | here _ _ ih => rwa [descend, if_pos rfl]
  | up _ _ ih => rwa [descend, if_neg (by decide), if_pos rfl]
  | down _ notHere notUp _ _ _ ih => rwa [descend, if_neg notHere, if_neg notUp]

theorem append (left : Leads files location front middle) (right : Leads files middle back reached) :
    Leads files location (front ++ back) reached := by
  induction left with
  | done => exact right
  | here stands _ ih => exact .here stands (ih right)
  | up stands _ ih => exact .up stands (ih right)
  | down stands notHere notUp short present _ ih => exact .down stands notHere notUp short present (ih right)

theorem split (leads : Leads files location (front ++ back) reached) :
    ∃ middle, Leads files location front middle ∧ Leads files middle back reached := by
  induction front generalizing location with
  | nil => exact ⟨location, .done, leads⟩
  | cons name rest ih =>
    cases leads with
    | here stands leads =>
      obtain ⟨middle, left, right⟩ := ih leads
      exact ⟨middle, .here stands left, right⟩
    | up stands leads =>
      obtain ⟨middle, left, right⟩ := ih leads
      exact ⟨middle, .up stands left, right⟩
    | down stands notHere notUp short present leads =>
      obtain ⟨middle, left, right⟩ := ih leads
      exact ⟨middle, .down stands notHere notUp short present left, right⟩

theorem directory_of_cons {name : Bytes} (leads : Leads files location (name :: names) reached) :
    files.get? location = some .directory := by
  cases leads with
  | here stands => exact stands
  | up stands => exact stands
  | down stands => exact stands

theorem here_iff (stands : files.get? location = some .directory) :
    Leads files location (Path.here :: names) reached ↔ Leads files location names reached := by
  refine ⟨fun leads => ?_, .here stands⟩
  cases leads with
  | here _ leads => exact leads
  | down _ notHere => contradiction

theorem up_iff (stands : files.get? location = some .directory) :
    Leads files location (Path.up :: names) reached ↔ Leads files location.tail names reached := by
  refine ⟨fun leads => ?_, .up stands⟩
  cases leads with
  | up _ leads => exact leads
  | down _ _ notUp => contradiction

theorem down_iff {name : Bytes} (notHere : name ≠ Path.here) (notUp : name ≠ Path.up) :
    Leads files location (name :: names) reached ↔ files.get? location = some .directory ∧
      name.length ≤ longestName ∧ files.get? (.plain name :: location) ≠ none ∧
      Leads files (.plain name :: location) names reached := by
  constructor
  · intro leads
    cases leads with
    | here => contradiction
    | up => contradiction
    | down stands _ _ short present leads => exact ⟨stands, short, present, leads⟩
  · rintro ⟨stands, short, present, leads⟩
    exact .down stands notHere notUp short present leads

theorem single_iff {name : Bytes} (notHere : name ≠ Path.here) (notUp : name ≠ Path.up) :
    Leads files location [name] reached ↔ files.get? location = some .directory ∧
      name.length ≤ longestName ∧ files.get? reached ≠ none ∧ reached = .plain name :: location := by
  rw [down_iff notHere notUp]
  constructor
  · rintro ⟨stands, short, present, ⟨⟩⟩
    exact ⟨stands, short, present, rfl⟩
  · rintro ⟨stands, short, present, rfl⟩
    exact ⟨stands, short, present, .done⟩

theorem transfer (leads : Leads first location names reached)
    (directories : ∀ other, first.get? other = some .directory → second.get? other = some .directory)
    (present : second.get? reached ≠ none) : Leads second location names reached := by
  induction leads with
  | done => exact .done
  | here stands _ ih => exact .here (directories _ stands) (ih present)
  | up stands _ ih => exact .up (directories _ stands) (ih present)
  | @down location reached name rest stands notHere notUp short there leads ih =>
    refine .down (directories _ stands) notHere notUp short ?_ (ih present)
    cases rest with
    | nil => cases leads; exact present
    | cons next rest => rw [directories _ leads.directory_of_cons]; simp

end Leads

theorem walkNames_ok_iff_leads (linkFree : files.LinkFree)
    {follow : Location → List Bytes → Except IoError Location} :
    files.walkNames follow location names = .ok reached ↔ Leads files location names reached := by
  induction names generalizing location with
  | nil =>
    constructor
    · intro same
      cases same
      exact .done
    · rintro ⟨⟩
      rfl
  | cons name rest ih =>
    by_cases stands : files.get? location = some .directory
    · rw [walkNames]
      simp only [stands]
      split
      · next isHere =>
        rw [isHere, ih, Leads.here_iff stands]
      split
      · next isUp =>
        rw [isUp, ih, Leads.up_iff stands]
      split
      · next notHere notUp long =>
        refine iff_of_false (by simp) fun leads => ?_
        obtain ⟨-, short, -⟩ := (Leads.down_iff notHere notUp).1 leads
        omega
      · next notHere notUp short =>
        rw [Leads.down_iff notHere notUp]
        cases child : files.get? (.plain name :: location) with
        | none => simp
        | some entry =>
          -- Whatever stands there is no link, so the walk goes on behind it.
          cases entry with
          | link target => exact absurd child (linkFree _ target)
          | file content => simp [ih, stands, Nat.le_of_not_lt short]
          | directory => simp [ih, stands, Nat.le_of_not_lt short]
    · rw [walkNames_of_not_directory stands]
      exact iff_of_false (by simp) fun leads => stands leads.directory_of_cons

theorem walk_ok_iff_leads (linkFree : files.LinkFree) {links : Nat} :
    files.walk links location names = .ok reached ↔ Leads files location names reached := by
  cases links <;> exact walkNames_ok_iff_leads linkFree

theorem leads_steps_iff {route : Path.Route} (stands : files.get? reached = some .directory) :
    Leads files location route.steps reached ↔ Leads files location route.parts reached := by
  rw [Path.Route.steps]
  split
  · constructor
    · intro leads
      obtain ⟨middle, left, right⟩ := leads.split
      rw [Leads.here_iff right.directory_of_cons] at right
      cases right
      exact left
    · exact fun leads => leads.append (.here stands .done)
  · exact Iff.rfl

theorem descend_steps (location : Location) (route : Path.Route) :
    descend location route.steps = descend location route.parts := by
  rw [Path.Route.steps]
  split
  · rw [descend_append]
    rfl
  · rfl

end FileSystem

namespace Disk

open FileSystem (Leads LinkFree)

def spelled (disk : Disk) (path : Bytes) : Location :=
  FileSystem.descend (FileSystem.start disk.workingDirectory (Path.route path)) (Path.route path).parts

variable {disk : Disk}

theorem parsePath_eq_ok_iff {path : Bytes} {route : Path.Route} : FileSystem.parsePath path = .ok route ↔
    0 ∉ path ∧ path ≠ [] ∧ path.length < pathLimit ∧ Path.route path = route := by
  rw [FileSystem.parsePath]
  split
  · next zero => simp_all
  split
  · next empty => simp_all
  split
  · next long => exact iff_of_false (by simp) fun parsed => Nat.not_lt_of_le long parsed.2.2.1
  · next noZero below short =>
    rw [List.contains_iff_mem] at noZero
    rw [List.isEmpty_iff] at below
    simp [noZero, below, Nat.lt_of_not_le short]

theorem route_of_parsePath {path : Bytes} {route : Path.Route}
    (parsed : FileSystem.parsePath path = .ok route) : route = Path.route path :=
  (parsePath_eq_ok_iff.1 parsed).2.2.2.symm

theorem parsePath_ne_notFound {path : Bytes} (below : path ≠ []) :
    FileSystem.parsePath path ≠ .error .notFound := by
  rw [FileSystem.parsePath]
  split
  · simp
  split
  · next empty => exact absurd (List.isEmpty_iff.1 empty) below
  split <;> simp

theorem parsePath_of_isPrefix {path whole : Bytes} {route : Path.Route} (below : path ≠ [])
    (isPrefix : path <+: whole) (parsed : FileSystem.parsePath whole = .ok route) :
    FileSystem.parsePath path = .ok (Path.route path) := by
  obtain ⟨noZero, -, short, -⟩ := parsePath_eq_ok_iff.1 parsed
  exact parsePath_eq_ok_iff.2
    ⟨fun zero => noZero (isPrefix.subset zero), below, Nat.lt_of_le_of_lt isPrefix.length_le short, rfl⟩

theorem resolve_eq_ok_iff (linkFree : disk.files.LinkFree) {path : Bytes} {location : Location} :
    disk.resolve path = .ok location ↔ FileSystem.parsePath path = .ok (Path.route path) ∧
      Leads disk.files (FileSystem.start disk.workingDirectory (Path.route path)) (Path.route path).steps
        location := by
  rw [resolve, bind_eq_ok_iff]
  constructor
  · rintro ⟨route, parsed, reached⟩
    obtain rfl := route_of_parsePath parsed
    exact ⟨parsed, (FileSystem.walk_ok_iff_leads linkFree).1 reached⟩
  · rintro ⟨parsed, leads⟩
    exact ⟨_, parsed, (FileSystem.walk_ok_iff_leads linkFree).2 leads⟩

theorem eq_spelled_of_resolve (linkFree : disk.files.LinkFree) {path : Bytes} {location : Location}
    (resolved : disk.resolve path = .ok location) : location = disk.spelled path := by
  obtain ⟨-, leads⟩ := (resolve_eq_ok_iff linkFree).1 resolved
  rw [leads.eq_descend, FileSystem.descend_steps, spelled]

theorem place?_join_iff (linkFree : disk.files.LinkFree) (directory : String) {name : String}
    (noSlash : '/' ∉ name.toList) (named : name ≠ "") {place : Location} :
    disk.place? (Bytes.ofText (Path.join directory name)) = some place ↔
      (∃ route, FileSystem.parsePath (Bytes.ofText (Path.join directory name)) = .ok route) ∧
      Bytes.ofText name ≠ Path.here ∧ Bytes.ofText name ≠ Path.up ∧
      (Bytes.ofText name).length ≤ longestName ∧
      Leads disk.files (FileSystem.start disk.workingDirectory (Path.route (Bytes.ofText directory)))
        (Path.route (Bytes.ofText directory)).parts (disk.spelled (Bytes.ofText directory)) ∧
      disk.files.get? (disk.spelled (Bytes.ofText directory)) = some .directory ∧
      place = .plain (Bytes.ofText name) :: disk.spelled (Bytes.ofText directory) := by
  have joined := Path.route_join directory noSlash named
  rw [place?_eq_some_iff]
  constructor
  · rintro ⟨route, parsed, located⟩
    obtain rfl := route_of_parsePath parsed
    obtain ⟨parent, last, isLast, notHere, notUp, short, walked, stands, rfl⟩ :=
      FileSystem.locate_location_iff.1 located
    rw [joined] at isLast walked
    rw [List.getLast?_concat, Option.some.injEq] at isLast
    rw [List.dropLast_concat, FileSystem.walk_ok_iff_leads linkFree] at walked
    obtain rfl : parent = disk.spelled (Bytes.ofText directory) := walked.eq_descend
    subst isLast
    exact ⟨⟨_, parsed⟩, notHere, notUp, short, walked, stands, rfl⟩
  · rintro ⟨⟨route, parsed⟩, notHere, notUp, short, leads, stands, rfl⟩
    obtain rfl := route_of_parsePath parsed
    refine ⟨_, parsed, FileSystem.locate_location_iff.2
      ⟨_, Bytes.ofText name, ?_, notHere, notUp, short, ?_, stands, rfl⟩⟩
    · rw [joined, List.getLast?_concat]
    · rw [joined, List.dropLast_concat, FileSystem.walk_ok_iff_leads linkFree]
      exact leads

theorem resolve_join_iff (linkFree : disk.files.LinkFree) (directory : String) {name : String}
    (noSlash : '/' ∉ name.toList) (named : name ≠ "") (notHere : Bytes.ofText name ≠ Path.here)
    (notUp : Bytes.ofText name ≠ Path.up) {location : Location} :
    disk.resolve (Bytes.ofText (Path.join directory name)) = .ok location ↔
      (∃ route, FileSystem.parsePath (Bytes.ofText (Path.join directory name)) = .ok route) ∧
      (Bytes.ofText name).length ≤ longestName ∧
      Leads disk.files (FileSystem.start disk.workingDirectory (Path.route (Bytes.ofText directory)))
        (Path.route (Bytes.ofText directory)).parts (disk.spelled (Bytes.ofText directory)) ∧
      disk.files.get? (disk.spelled (Bytes.ofText directory)) = some .directory ∧
      disk.files.get? location ≠ none ∧
      location = .plain (Bytes.ofText name) :: disk.spelled (Bytes.ofText directory) := by
  have joined := Path.route_join directory noSlash named
  rw [resolve_eq_ok_iff linkFree, joined]
  constructor
  · rintro ⟨parsed, leads⟩
    obtain ⟨parent, left, right⟩ := leads.split
    obtain rfl : parent = disk.spelled (Bytes.ofText directory) := left.eq_descend
    obtain ⟨stands, short, present, rfl⟩ := (FileSystem.Leads.single_iff notHere notUp).1 right
    exact ⟨⟨_, parsed⟩, short, left, stands, present, rfl⟩
  · rintro ⟨⟨route, parsed⟩, short, leads, stands, present, rfl⟩
    obtain rfl := route_of_parsePath parsed
    rw [joined] at parsed
    exact ⟨parsed, leads.append ((FileSystem.Leads.single_iff notHere notUp).2 ⟨stands, short, present, rfl⟩)⟩

theorem resolve_of_place?_join (linkFree : disk.files.LinkFree) {directory name : String}
    (below : directory ≠ "") (noSlash : '/' ∉ name.toList) (named : name ≠ "") {place : Location}
    (found : disk.place? (Bytes.ofText (Path.join directory name)) = some place) :
    disk.resolve (Bytes.ofText directory) = .ok place.tail := by
  obtain ⟨⟨route, parsed⟩, -, -, -, leads, stands, rfl⟩ :=
    (place?_join_iff linkFree directory noSlash named).1 found
  have below' : Bytes.ofText directory ≠ Bytes.ofText "" := fun same => below (Bytes.ofText_injective same)
  obtain ⟨between, -, joined⟩ := Path.ofText_join directory noSlash
  rw [joined] at parsed
  exact (resolve_eq_ok_iff linkFree).2 ⟨parsePath_of_isPrefix below' (List.prefix_append _ _) parsed,
    (FileSystem.leads_steps_iff stands).2 leads⟩

/-! ## From one disk to another -/

variable {first second : Disk}

theorem spelled_congr (same : second.workingDirectory = first.workingDirectory) (path : Bytes) :
    second.spelled path = first.spelled path := by
  rw [spelled, spelled, same]

theorem place?_join_transfer (linkFree : first.files.LinkFree) (linkFree' : second.files.LinkFree)
    (same : second.workingDirectory = first.workingDirectory)
    (directories : ∀ location, first.files.get? location = some .directory →
      second.files.get? location = some .directory)
    (directory : String) {name : String} (noSlash : '/' ∉ name.toList) (named : name ≠ "")
    {place : Location} (found : first.place? (Bytes.ofText (Path.join directory name)) = some place) :
    second.place? (Bytes.ofText (Path.join directory name)) = some place := by
  rw [place?_join_iff linkFree directory noSlash named] at found
  obtain ⟨parsed, notHere, notUp, short, leads, stands, rfl⟩ := found
  rw [place?_join_iff linkFree' directory noSlash named, spelled_congr same, same]
  refine ⟨parsed, notHere, notUp, short, leads.transfer directories ?_, directories _ stands, rfl⟩
  rw [directories _ stands]
  exact Option.some_ne_none _

theorem resolve_transfer (linkFree : first.files.LinkFree) (linkFree' : second.files.LinkFree)
    (same : second.workingDirectory = first.workingDirectory)
    (directories : ∀ location, first.files.get? location = some .directory →
      second.files.get? location = some .directory)
    {path : Bytes} {location : Location} (found : first.resolve path = .ok location)
    (present : second.files.get? location ≠ none) : second.resolve path = .ok location := by
  rw [resolve_eq_ok_iff linkFree] at found
  rw [resolve_eq_ok_iff linkFree', same]
  exact ⟨found.1, found.2.transfer directories present⟩

theorem content?_transfer (linkFree : first.files.LinkFree) (linkFree' : second.files.LinkFree)
    (same : second.workingDirectory = first.workingDirectory)
    (directories : ∀ location, first.files.get? location = some .directory →
      second.files.get? location = some .directory)
    {path content : Bytes}
    (kept : second.files.get? (first.spelled path) = first.files.get? (first.spelled path))
    (found : first.content? path = some content) : second.content? path = some content := by
  obtain ⟨location, resolved, read⟩ := content?_eq_some_iff.1 found
  obtain rfl := eq_spelled_of_resolve linkFree resolved
  rw [← kept] at read
  refine content?_eq_some_iff.2 ⟨_, resolve_transfer linkFree linkFree' same directories resolved ?_, read⟩
  rw [read]
  exact Option.some_ne_none _

end Disk

end Retag
