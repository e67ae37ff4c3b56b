import Mathlib.Logic.Function.Basic
import Retag.FileSystem.Disk

/-! A file system seen as a function from locations to entries. Every call either leaves that view
as it is or updates it at the locations it is about, and what a written path means depends on the
view alone. Temporary names do not take part: no written path leads to one, so files under such
names change no path's meaning.
-/

set_option autoImplicit false

namespace Retag.FileSystem

open Function (update)

variable {files first second : FileSystem}

theorem ne_nil_of_get?_ne {location : Location} (other : files.get? location ≠ some .directory) :
    location ≠ [] := by
  rintro rfl
  exact other rfl

theorem get?_put_eq_update {location : Location} (below : location ≠ []) (entry : Entry) :
    (files.put location entry).get? = update files.get? location (some entry) := by
  funext other
  cases other with
  | nil => rw [Function.update_of_ne (Ne.symm below)]; rfl
  | cons name parent => rw [get?_put, Function.update_apply]

theorem get?_erase_eq_update {location : Location} (below : location ≠ []) :
    (files.erase location).get? = update files.get? location none := by
  funext other
  cases other with
  | nil => rw [Function.update_of_ne (Ne.symm below)]; rfl
  | cons name parent => rw [get?_erase, Function.update_apply]

theorem mem_entries_of_get? {name : EntryName} {parent : Location} {entry : Entry}
    (found : files.get? (name :: parent) = some entry) : (name :: parent, entry) ∈ files.entries := by
  rw [get?, Option.map_eq_some_iff] at found
  obtain ⟨⟨location, stood⟩, found, rfl⟩ := found
  have same : location = name :: parent := by simpa using List.find?_some found
  subst same
  exact List.mem_of_find?_eq_some found

theorem get?_ne_none_of_mem {location : Location} {entry : Entry}
    (listed : (location, entry) ∈ files.entries) :
    files.get? location ≠ none := by
  cases location with
  | nil => exact Option.some_ne_none _
  | cons name parent =>
    rw [get?, ne_eq, Option.map_eq_none_iff, List.find?_eq_none]
    exact fun none_ => none_ _ listed (by simp)

/-! ## Fresh names -/

private def serialBound (bound : Nat) (entry : Location × Entry) : Nat :=
  match entry.1 with
  | .temporary serial :: _ => max bound (serial + 1)
  | _ => bound

private theorem le_serialBound (bound : Nat) (entry : Location × Entry) :
    bound ≤ serialBound bound entry := by
  unfold serialBound
  split
  · exact Nat.le_max_left _ _
  · exact Nat.le_refl _

private theorem le_foldl_serialBound (entries : List (Location × Entry)) (bound : Nat) :
    bound ≤ entries.foldl serialBound bound := by
  induction entries generalizing bound with
  | nil => exact Nat.le_refl _
  | cons entry entries ih => exact Nat.le_trans (le_serialBound bound entry) (ih _)

private theorem lt_foldl_serialBound {entries : List (Location × Entry)} {serial : Nat}
    {parent : Location} {entry : Entry} (bound : Nat)
    (member : (.temporary serial :: parent, entry) ∈ entries) :
    serial < entries.foldl serialBound bound := by
  induction entries generalizing bound with
  | nil => cases member
  | cons first entries ih =>
    rcases List.mem_cons.1 member with rfl | member
    · exact Nat.lt_of_lt_of_le (Nat.le_max_right bound (serial + 1)) (le_foldl_serialBound entries _)
    · exact ih _ member

theorem get?_freshSerial (files : FileSystem) (parent : Location) :
    files.get? (.temporary files.freshSerial :: parent) = none := by
  rw [get?, Option.map_eq_none_iff, List.find?_eq_none]
  rintro ⟨location, entry⟩ member same
  -- An entry of that name would have raised the bound beyond its own serial number.
  have located : location = .temporary files.freshSerial :: parent := by simpa using same
  subst located
  exact Nat.lt_irrefl _ (lt_foldl_serialBound 0 member)

/-! ## What paths mean -/

theorem walkNames_of_not_directory {follow : Location → List Bytes → Except IoError Location}
    {location : Location} (other : files.get? location ≠ some .directory) (name : Bytes)
    (names : List Bytes) : files.walkNames follow location (name :: names) = .error .notDirectory := by
  rw [walkNames]
  split
  · contradiction
  · rfl

theorem asDirectory_eq_ok_iff {location directory : Location} :
    files.asDirectory location = .ok directory ↔
      location = directory ∧ files.get? location = some .directory := by
  rw [asDirectory]
  split
  · next stands => simp [stands]
  · next other => exact iff_of_false (by simp) fun same => other same.2

theorem locate_location_iff {workingDirectory location : Location} {route : Path.Route} :
    (∃ place, files.locate workingDirectory route = .ok place ∧ place.location? = some location) ↔
      ∃ directory name, route.parts.getLast? = some name ∧ name ≠ Path.here ∧ name ≠ Path.up ∧
        name.length ≤ longestName ∧
        files.walk linkLimit (start workingDirectory route) route.parts.dropLast = .ok directory ∧
        files.get? directory = some .directory ∧ location = .plain name :: directory := by
  -- Each step of `locate` either fails, and then one of the conditions does, or gives one of them.
  cases walked : files.walk linkLimit (start workingDirectory route) route.parts.dropLast with
  | error error => simp [locate, walked, bind, Except.bind]
  | ok directory =>
    by_cases stands : files.get? directory = some .directory
    · cases last : route.parts.getLast? with
      | none => simp [locate, walked, asDirectory, stands, last, bind, Except.bind, pure, Except.pure,
          Place.location?]
      | some name =>
        by_cases dots : name = Path.here ∨ name = Path.up
        · simp only [locate, walked, asDirectory, stands, last, bind, Except.bind, if_pos, dots]
          rcases dots with rfl | rfl <;> simp [pure, Except.pure, Place.location?]
        · by_cases long : longestName < name.length
          · have notShort := Nat.not_le_of_gt long
            simp [locate, walked, asDirectory, stands, last, bind, Except.bind, dots, long, notShort,
              throw, throwThe, MonadExceptOf.throw]
          · have short := Nat.le_of_not_lt long
            rw [not_or] at dots
            simp [locate, walked, asDirectory, stands, last, bind, Except.bind, dots, long, short, pure,
              Except.pure, Place.location?, eq_comm]
    · simp only [locate, walked, asDirectory, if_neg stands, bind, Except.bind]
      constructor
      · rintro ⟨place, refused, -⟩
        cases refused
      · rintro ⟨other, name, -, -, -, -, same, stands', -⟩
        cases same
        exact absurd stands' stands

structure AgreeOnPaths (first second : FileSystem) : Prop where
  directory : ∀ location, first.get? location = some .directory ↔ second.get? location = some .directory
  plain : ∀ name parent, first.get? (.plain name :: parent) = second.get? (.plain name :: parent)

namespace AgreeOnPaths

theorem of_update {serial : Nat} {parent : Location} {content : Bytes}
    (absent : files.get? (.temporary serial :: parent) ≠ some .directory)
    (updated : first.get? = update files.get? (.temporary serial :: parent) (some (.file content))) :
    AgreeOnPaths first files where
  directory location := by
    rw [updated, Function.update_apply]
    split
    · next same => subst same; simp [absent]
    · exact Iff.rfl
  plain name above := by rw [updated, Function.update_of_ne (by simp)]

theorem walkNames_eq (agree : AgreeOnPaths first second)
    {follow follow' : Location → List Bytes → Except IoError Location}
    (onward : ∀ location names, follow location names = follow' location names)
    (location : Location) (names : List Bytes) :
    first.walkNames follow location names = second.walkNames follow' location names := by
  induction names generalizing location with
  | nil => rfl
  | cons name names ih =>
    by_cases directory : first.get? location = some .directory
    · have directory' := (agree.directory location).1 directory
      simp only [walkNames, directory, directory', agree.plain, ih, onward]
    · rw [walkNames_of_not_directory directory,
        walkNames_of_not_directory (mt (agree.directory location).2 directory)]

theorem walk_eq (agree : AgreeOnPaths first second) (links : Nat) (location : Location)
    (names : List Bytes) : first.walk links location names = second.walk links location names := by
  induction links generalizing location names with
  | zero => exact agree.walkNames_eq (fun _ _ => rfl) location names
  | succ links ih => exact agree.walkNames_eq ih location names

theorem locate_eq (agree : AgreeOnPaths first second) (workingDirectory : Location)
    (route : Path.Route) : first.locate workingDirectory route = second.locate workingDirectory route := by
  have same : first.asDirectory = second.asDirectory := by
    funext location
    by_cases directory : first.get? location = some .directory
    · rw [asDirectory, asDirectory, if_pos directory, if_pos ((agree.directory location).1 directory)]
    · rw [asDirectory, asDirectory, if_neg directory, if_neg (mt (agree.directory location).2 directory)]
  rw [locate, locate, agree.walk_eq, same]

end AgreeOnPaths

/-- The second file system has every directory of the first, and every entry of it under a plain name. -/
structure Within (first second : FileSystem) : Prop where
  directory : ∀ location, first.get? location = some .directory → second.get? location = some .directory
  plain : ∀ name parent entry, first.get? (.plain name :: parent) = some entry →
    second.get? (.plain name :: parent) = some entry

namespace Within

theorem walkNames_ok (within : Within first second)
    {follow follow' : Location → List Bytes → Except IoError Location}
    (onward : ∀ location names reached,
      follow location names = .ok reached → follow' location names = .ok reached)
    {location reached : Location} {names : List Bytes}
    (walked : first.walkNames follow location names = .ok reached) :
    second.walkNames follow' location names = .ok reached := by
  induction names generalizing location with
  | nil => exact walked
  | cons name names ih =>
    rw [walkNames] at walked ⊢
    cases stood : first.get? location with
    | none => simp [stood] at walked
    | some entry =>
      cases entry with
      | file content => simp [stood] at walked
      | link target => simp [stood] at walked
      | directory =>
        simp only [stood, within.directory _ stood] at walked ⊢
        split
        · next isHere => rw [if_pos isHere] at walked; exact ih walked
        split
        · next isHere isUp => rw [if_neg isHere, if_pos isUp] at walked; exact ih walked
        split
        · next isHere isUp long => rw [if_neg isHere, if_neg isUp, if_pos long] at walked; cases walked
        · next isHere isUp long =>
          rw [if_neg isHere, if_neg isUp, if_neg long] at walked
          cases child : first.get? (.plain name :: location) with
          | none => simp [child] at walked
          | some entry =>
            rw [within.plain _ _ _ child]
            cases entry with
            | file content => simp only [child] at walked ⊢; exact ih walked
            | directory => simp only [child] at walked ⊢; exact ih walked
            | link target => simp only [child] at walked ⊢; exact onward _ _ _ walked

theorem walk_ok (within : Within first second) {links : Nat} {location reached : Location}
    {names : List Bytes} (walked : first.walk links location names = .ok reached) :
    second.walk links location names = .ok reached := by
  induction links generalizing location names reached with
  | zero => exact within.walkNames_ok (fun _ _ _ refused => refused) walked
  | succ links ih => exact within.walkNames_ok (fun _ _ _ next => ih next) walked

theorem locate_location {workingDirectory location : Location} {route : Path.Route}
    (within : Within first second)
    (located : ∃ place, first.locate workingDirectory route = .ok place ∧ place.location? = some location) :
    ∃ place, second.locate workingDirectory route = .ok place ∧ place.location? = some location := by
  rw [locate_location_iff] at located ⊢
  obtain ⟨directory, name, last, notHere, notUp, short, walked, stands, same⟩ := located
  exact ⟨directory, name, last, notHere, notUp, short, within.walk_ok walked,
    within.directory _ stands, same⟩

end Within

end Retag.FileSystem
