import Retag.Proofs.FileSystem.LinkFree

/-! Making directories. Every step on the way makes one directory where nothing stood, or nothing at
all, so whatever single steps respect is respected by the whole.
-/

set_option autoImplicit false

namespace Retag.Disk

open Function (update)

variable {disk after : Disk}

theorem createDirectory_ok {route : Path.Route} (made : createDirectory route disk = (.ok (), after)) :
    ∃ location, (∃ place, disk.files.locate disk.workingDirectory route = .ok place ∧
        place.location? = some location) ∧
      disk.files.get? location = none ∧
      disk.Becomes (update disk.files.get? location (some .directory)) after := by
  obtain ⟨files, found, rfl⟩ := call_ok made
  obtain ⟨place, located, found⟩ := bind_eq_ok_iff.1 found
  cases named : place.location? with
  | none => simp only [named] at found; cases found
  | some location =>
    simp only [named, throw, throwThe, MonadExceptOf.throw, bind, Except.bind, pure, Except.pure] at found
    split at found
    · cases found
    · next absent =>
      cases found
      rw [Bool.not_eq_true, Option.isSome_eq_false_iff, Option.isNone_iff_eq_none] at absent
      have below : location ≠ [] := FileSystem.ne_nil_of_get?_ne (by rw [absent]; simp)
      exact ⟨location, ⟨place, located, named⟩, absent,
        becomes_of_files (FileSystem.get?_put_eq_update below _)⟩

/-- What each step respects, making all the directories of a path respects; to look at one is a step that
uses up a fault. -/
theorem createWithin_induction {respects : Disk → Disk → Prop} (refl : ∀ disk, respects disk disk)
    (look : ∀ disk : Disk, respects disk { disk with faults := disk.faults.tail })
    (trans : ∀ first second third, respects first second → respects second third → respects first third)
    {routes : List Path.Route}
    (step : ∀ route ∈ routes, ∀ disk, respects disk (createDirectory route disk).2) (disk : Disk) :
    respects disk (createWithin routes disk).2 := by
  induction routes generalizing disk with
  | nil => exact refl disk
  | cons route routes ih =>
    have first := step route List.mem_cons_self
    simp only [createWithin]
    cases made : createDirectory route disk with
    | mk outcome middle =>
      have reached : respects disk middle := by simpa only [made] using first disk
      split
      · next later missing =>
        cases missing
        have onward := ih (fun route member => step route (List.mem_cons_of_mem _ member)) middle
        cases above : createWithin routes middle with
        | mk outcome later =>
          rw [above] at onward
          have reached := trans _ _ _ reached onward
          cases outcome with
          | error error => exact reached
          | ok result =>
            -- The directory is tried once more, now that the ones around it are made.
            have again := trans _ _ _ reached (first later)
            cases result
            dsimp only
            cases remade : createDirectory route later with
            | mk outcome final =>
              rw [remade] at again
              cases outcome with
              | ok => exact again
              | error error =>
                dsimp only
                rw [isDirectory_snd]
                exact trans _ _ _ again (look final)
      · cases outcome with
        | ok => exact reached
        | error error =>
          dsimp only
          rw [isDirectory_snd]
          exact trans _ _ _ reached (look middle)

structure Gains (before after : Disk) : Prop where
  workingDirectory : after.workingDirectory = before.workingDirectory
  faults : after.faults <:+ before.faults
  added : ∀ location, after.files.get? location = before.files.get? location ∨
    before.files.get? location = none ∧ after.files.get? location = some .directory
  temporary : ∀ serial parent, after.files.get? (.temporary serial :: parent) =
    before.files.get? (.temporary serial :: parent)

namespace Gains

theorem refl (disk : Disk) : Gains disk disk :=
  ⟨rfl, List.suffix_rfl, fun _ => .inl rfl, fun _ _ => rfl⟩

theorem tail (disk : Disk) : Gains disk { disk with faults := disk.faults.tail } :=
  ⟨rfl, List.tail_suffix _, fun _ => .inl rfl, fun _ _ => rfl⟩

theorem kept {before after : Disk} (gains : Gains before after) {location : Location} {entry : Entry}
    (found : before.files.get? location = some entry) : after.files.get? location = some entry := by
  rcases gains.added location with same | ⟨absent, -⟩
  · rw [same, found]
  · rw [found] at absent
    cases absent

theorem quiet {before after : Disk} (gains : Gains before after) (noFaults : before.faults = []) :
    after.faults = [] :=
  List.suffix_nil.1 (noFaults ▸ gains.faults)

theorem within {before after : Disk} (gains : Gains before after) : before.files.Within after.files :=
  ⟨fun _ => gains.kept, fun _ _ _ => gains.kept⟩

theorem linkFree {before after : Disk} (gains : Gains before after) (linkFree : before.files.LinkFree) :
    after.files.LinkFree := by
  intro location target found
  rcases gains.added location with same | ⟨-, made⟩
  · rw [same] at found
    exact linkFree location target found
  · rw [made] at found
    cases found

theorem content?_eq_some {before after : Disk} (gains : Gains before after) (linkFree : before.files.LinkFree)
    {path content : Bytes} (found : before.content? path = some content) :
    after.content? path = some content := by
  refine content?_transfer linkFree (gains.linkFree linkFree) gains.workingDirectory
    (fun _ => gains.kept) ?_ found
  obtain ⟨location, resolved, read⟩ := content?_eq_some_iff.1 found
  obtain rfl := eq_spelled_of_resolve linkFree resolved
  rw [read, gains.kept read]

theorem trans {first second third : Disk} (left : Gains first second) (right : Gains second third) :
    Gains first third where
  workingDirectory := right.workingDirectory.trans left.workingDirectory
  faults := right.faults.trans left.faults
  added location := by
    rcases left.added location with same | ⟨absent, made⟩
    · rw [← same]
      exact right.added location
    · exact .inr ⟨absent, right.kept made⟩
  temporary serial parent := (right.temporary serial parent).trans (left.temporary serial parent)

end Gains

theorem createDirectory_gains (route : Path.Route) (disk : Disk) :
    Gains disk (createDirectory route disk).2 := by
  cases made : createDirectory route disk with
  | mk outcome after =>
    cases outcome with
    | error error =>
      obtain rfl := (call_error made).1
      exact .tail disk
    | ok result =>
      obtain ⟨location, located, absent, becomes⟩ := createDirectory_ok made
      obtain ⟨directory, name, -, -, -, -, -, -, rfl⟩ := FileSystem.locate_location_iff.1 located
      refine ⟨becomes.workingDirectory, becomes.faults, fun other => ?_, fun serial parent => ?_⟩
      · by_cases same : other = .plain name :: directory
        · subst same
          exact .inr ⟨absent, by rw [becomes.files, Function.update_self]⟩
        · exact .inl (by rw [becomes.files, Function.update_of_ne same])
      · rw [becomes.files, Function.update_of_ne (by simp)]

theorem createWithin_gains (routes : List Path.Route) (disk : Disk) : Gains disk (createWithin routes disk).2 :=
  createWithin_induction .refl .tail (fun _ _ _ => .trans) (fun route _ => createDirectory_gains route) disk

theorem createDirectories_gains (path : Bytes) (disk : Disk) :
    Gains disk (createDirectories path disk).2 := by
  unfold createDirectories
  split
  · exact .refl disk
  split
  · exact .refl disk
  · exact createWithin_gains _ disk

end Retag.Disk

/-! ## Where directories are made -/

namespace Retag.Path

theorem prefix_of_mem_shorter {reversed parts : List Bytes} (member : parts ∈ shorter reversed) :
    parts <+: reversed.reverse := by
  induction reversed with
  | nil => cases member
  | cons last rest ih =>
    cases rest with
    | nil => cases member
    | cons next rest =>
      rw [List.reverse_cons]
      rcases List.mem_cons.1 member with rfl | member
      · exact List.prefix_append _ _
      · exact (ih member).trans (List.prefix_append _ _)

/-- The parts that the enclosing directories are cut from: `.` stands in front only. -/
theorem Route.enclosing_eq (route : Route) : ∃ parts : List Bytes, here ∉ parts.tail ∧
    parts.filter (· ≠ here) = route.parts.filter (· ≠ here) ∧
    route.enclosing = (shorter parts.reverse).map fun parts => { route with parts, trailing := false } := by
  rw [Route.enclosing]
  refine ⟨_, ?_, ?_, rfl⟩
  · split
    · split
      · simp
      · exact fun member => by simpa using List.mem_of_mem_tail member
    · exact fun member => by simpa using List.mem_of_mem_tail member
  · split
    · next first rest _ isParts =>
      rw [isParts]
      split
      · next isHere => simp [isHere]
      · simp
    · simp

theorem Route.prefix_of_mem_enclosing {route outer : Route} (member : outer ∈ route.enclosing) :
    outer.absolute = route.absolute ∧
      outer.parts.filter (· ≠ here) <+: route.parts.filter (· ≠ here) := by
  obtain ⟨parts, -, same, enclosing⟩ := route.enclosing_eq
  rw [enclosing] at member
  obtain ⟨parts', isShorter, rfl⟩ := List.mem_map.1 member
  have isPrefix := prefix_of_mem_shorter isShorter
  rw [List.reverse_reverse] at isPrefix
  rw [← same]
  exact ⟨rfl, isPrefix.filter _⟩

end Retag.Path

namespace Retag.FileSystem

theorem descend_filter_here (location : Location) (names : List Bytes) :
    descend location (names.filter (· ≠ Path.here)) = descend location names := by
  induction names generalizing location with
  | nil => rfl
  | cons name rest ih =>
    by_cases isHere : name = Path.here
    · rw [List.filter_cons_of_neg (by simpa using isHere), descend, if_pos isHere, ih]
    · rw [List.filter_cons_of_pos (by simpa using isHere), descend, descend]
      simp only [ih]

theorem descend_of_mem_enclosing {route outer : Path.Route} (member : outer ∈ route.enclosing) :
    outer.absolute = route.absolute ∧ ∃ parts, parts <+: route.parts ∧
      ∀ location, descend location outer.parts = descend location parts := by
  obtain ⟨absolute, filtered⟩ := Path.Route.prefix_of_mem_enclosing member
  obtain ⟨front, isFront, cut⟩ := List.prefix_filter_iff.1 filtered
  refine ⟨absolute, front, isFront, fun location => ?_⟩
  rw [← descend_filter_here, cut, descend_filter_here]

end Retag.FileSystem

namespace Retag.Disk

open FileSystem (descend)

def OnTheWay (disk : Disk) (path : Bytes) (location : Location) : Prop :=
  ∃ parts, parts <+: (Path.route path).parts ∧
    location = descend (FileSystem.start disk.workingDirectory (Path.route path)) parts

theorem createDirectory_spelled {disk : Disk} (linkFree : disk.files.LinkFree) {route : Path.Route}
    {location : Location} (absent : disk.files.get? location = none)
    (made : (createDirectory route disk).2.files.get? location ≠ none) :
    location = descend (FileSystem.start disk.workingDirectory route) route.parts := by
  cases called : createDirectory route disk with
  | mk outcome after =>
    rw [called] at made
    cases outcome with
    | error error =>
      obtain rfl := (call_error called).1
      exact absurd absent made
    | ok result =>
      obtain ⟨place, located, -, becomes⟩ := createDirectory_ok called
      have same : location = place := by
        by_contra apart
        rw [becomes.files, Function.update_of_ne apart] at made
        exact made absent
      subst same
      obtain ⟨directory, name, last, notHere, notUp, -, walked, -, rfl⟩ :=
        FileSystem.locate_location_iff.1 located
      obtain ⟨front, parts⟩ := List.getLast?_eq_some_iff.1 last
      rw [parts, List.dropLast_concat, FileSystem.walk_ok_iff_leads linkFree] at walked
      rw [parts, FileSystem.descend_append, ← walked.eq_descend, descend, if_neg notHere, if_neg notUp,
        descend]

/-- Directories are added, and where there are no links on the way of a path only. -/
def GainsOnTheWay (origin : Disk) (path : Bytes) (before after : Disk) : Prop :=
  Gains before after ∧ (before.workingDirectory = origin.workingDirectory → before.files.LinkFree →
    ∀ location, before.files.get? location = none → after.files.get? location ≠ none →
      origin.OnTheWay path location)

theorem gainsOnTheWay_trans {origin first second third : Disk} {path : Bytes}
    (left : GainsOnTheWay origin path first second) (right : GainsOnTheWay origin path second third) :
    GainsOnTheWay origin path first third := by
  refine ⟨left.1.trans right.1, fun same linkFree location absent made => ?_⟩
  -- It is the first or the second that made it.
  by_cases between : second.files.get? location = none
  · exact right.2 (left.1.workingDirectory.trans same) (left.1.linkFree linkFree) location between made
  · exact left.2 same linkFree location absent between

theorem createDirectories_onTheWay {disk : Disk} (linkFree : disk.files.LinkFree) {path : Bytes}
    {location : Location} (absent : disk.files.get? location = none)
    (made : (createDirectories path disk).2.files.get? location ≠ none) : disk.OnTheWay path location := by
  unfold createDirectories at made
  split at made
  · exact absurd absent made
  split at made
  · exact absurd absent made
  next route parsed =>
  obtain rfl := route_of_parsePath parsed
  -- Every directory that is tried lies on the way, the one that is asked for at its end.
  have step (route : Path.Route) (member : route ∈ Path.route path :: (Path.route path).enclosing)
      (before : Disk) : GainsOnTheWay disk path before (createDirectory route before).2 := by
    refine ⟨createDirectory_gains route before, fun same linkFree location absent made => ?_⟩
    have spelled := createDirectory_spelled linkFree absent made
    rw [same] at spelled
    rcases List.mem_cons.1 member with rfl | enclosing
    · exact ⟨_, List.prefix_rfl, spelled⟩
    · obtain ⟨absolute, front, isFront, same⟩ := FileSystem.descend_of_mem_enclosing enclosing
      rw [same, FileSystem.start, absolute] at spelled
      exact ⟨front, isFront, spelled⟩
  have refl (before : Disk) : GainsOnTheWay disk path before before :=
    ⟨.refl before, fun _ _ _ absent made => absurd absent made⟩
  have look (before : Disk) :
      GainsOnTheWay disk path before { before with faults := before.faults.tail } :=
    ⟨.tail before, fun _ _ _ absent made => absurd absent made⟩
  have whole := createWithin_induction refl look (fun _ _ _ => gainsOnTheWay_trans) step disk
  exact whole.2 rfl linkFree location absent made

theorem createDirectory_legalNames {disk : Disk} (legalNames : disk.files.LegalNames) {route : Path.Route}
    (parts : ∀ name ∈ route.parts, name ≠ Path.here → name ≠ [] ∧ 47 ∉ name) :
    (createDirectory route disk).2.files.LegalNames := by
  cases called : createDirectory route disk with
  | mk outcome after =>
    cases outcome with
    | error error =>
      obtain rfl := (call_error called).1
      exact legalNames
    | ok result =>
      obtain ⟨location, located, -, becomes⟩ := createDirectory_ok called
      obtain ⟨directory, last, isLast, notHere, notUp, -, -, -, rfl⟩ := FileSystem.locate_location_iff.1 located
      intro name parent present
      rw [becomes.files, Function.update_apply] at present
      split at present
      · next same =>
        cases same
        obtain ⟨named, noSlash⟩ := parts last (List.mem_of_getLast? isLast) notHere
        exact ⟨named, noSlash, notHere, notUp⟩
      · exact legalNames name parent present

theorem createDirectories_legalNames {disk : Disk} (legalNames : disk.files.LegalNames) (path : Bytes) :
    (createDirectories path disk).2.files.LegalNames := by
  unfold createDirectories
  split
  · exact legalNames
  split
  · exact legalNames
  next route parsed =>
  obtain rfl := route_of_parsePath parsed
  refine @createWithin_induction (fun before after => before.files.LegalNames → after.files.LegalNames)
    (fun _ => id) (fun _ => id) (fun _ _ _ left right => right ∘ left) _ (fun route member before legalNames => ?_) disk
    legalNames
  refine createDirectory_legalNames legalNames fun name isPart notHere => ?_
  rcases List.mem_cons.1 member with rfl | enclosing
  · exact Path.mem_route_parts isPart
  · have filtered := (Path.Route.prefix_of_mem_enclosing enclosing).2
    have isPart' := filtered.subset (List.mem_filter.2 ⟨isPart, decide_eq_true notHere⟩)
    exact Path.mem_route_parts (List.mem_filter.1 isPart').1

end Retag.Disk
