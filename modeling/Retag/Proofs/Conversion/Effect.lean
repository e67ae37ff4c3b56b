import Retag.Proofs.Conversion.Transfer
import Retag.Proofs.FileSystem.LinkFree

/-! What converting one candidate does to a disk. A conversion that succeeds puts the retagged source
at the output's place; one that fails changes nothing, or removes the output that stood there before.
The temporary copy is dropped by the way it was made, so where that way led through the entry at the
output's place the copy may be left as well. All this holds with faults and with links of any kind, so
none of the statements says more about the disk than it has to.
-/

set_option autoImplicit false

namespace Retag.Conversion

open Function (update)

variable {conversion : Conversion} {candidate : Candidate} {world final : World}

theorem update_temporary {view : Location → Option Entry} {temporary : Location}
    (absent : view temporary = none) (entry : Option Entry) :
    update (update view temporary entry) temporary none = view := by
  rw [Function.update_idem, ← absent, Function.update_eq_self]

theorem discard_becomes {disk later : Disk} {way : Path.Route} {serial : Nat} {parent : Location}
    {content : Bytes} (absent : disk.files.get? (.temporary serial :: parent) = none)
    (finds : disk.Finds way (.temporary serial :: parent))
    (becomes : disk.Becomes
      (update disk.files.get? (.temporary serial :: parent) (some (.file content))) later) :
    disk.Becomes disk.files.get? (later.discard way (.temporary serial :: parent)) := by
  have agree := FileSystem.AgreeOnPaths.of_update (by simp [absent]) becomes.files
  have finds := (Disk.finds_congr agree becomes.workingDirectory).2 finds
  refine becomes.trans ((Disk.discard_of_finds (List.cons_ne_nil _ _) finds).congr ?_)
  rw [becomes.files, update_temporary absent]

/-- What dropping a temporary entry leaves: the view, or the view and the entry, which its way does not
lead to any more. -/
inductive Drops (before : Disk) (way : Path.Route) (view : Location → Option Entry) (after : Disk) : Prop
  | dropped : before.Becomes view after → Drops before way view after
  | lost {serial : Nat} {parent : Location} {content : Bytes} :
      before.files.get? parent = some .directory → before.Finds way (.temporary serial :: parent) →
      ¬ after.Finds way (.temporary serial :: parent) → view (.temporary serial :: parent) = none →
      before.Becomes (update view (.temporary serial :: parent) (some (.file content))) after →
      Drops before way view after

namespace Drops

variable {before later after : Disk} {way : Path.Route} {view : Location → Option Entry}

theorem of_discard {serial : Nat} {parent : Location} {content : Bytes}
    (stands : before.files.get? parent = some .directory)
    (finds : before.Finds way (.temporary serial :: parent)) (absent : view (.temporary serial :: parent) = none)
    (becomes : before.Becomes (update view (.temporary serial :: parent) (some (.file content))) later) :
    Drops before way view (later.discard way (.temporary serial :: parent)) := by
  by_cases found : later.Finds way (.temporary serial :: parent)
  · refine .dropped (becomes.trans ((Disk.discard_of_finds (List.cons_ne_nil _ _) found).congr ?_))
    rw [becomes.files, update_temporary absent]
  · rw [Disk.discard_of_not_finds found]
    exact .lost stands finds found absent becomes

theorem workingDirectory (drops : Drops before way view after) :
    after.workingDirectory = before.workingDirectory := by
  cases drops with
  | dropped becomes => exact becomes.workingDirectory
  | lost _ _ _ _ becomes => exact becomes.workingDirectory

theorem get?_plain (drops : Drops before way view after) (name : Bytes) (parent : Location) :
    after.files.get? (.plain name :: parent) = view (.plain name :: parent) := by
  cases drops with
  | dropped becomes => rw [becomes.files]
  | lost _ _ _ _ becomes => rw [becomes.files, Function.update_of_ne (by simp)]

theorem get?_of_ne_none (drops : Drops before way view after) {location : Location}
    (stood : view location ≠ none) : after.files.get? location = view location := by
  cases drops with
  | dropped becomes => rw [becomes.files]
  | lost _ _ _ absent becomes =>
    rw [becomes.files, Function.update_of_ne (by rintro rfl; exact stood absent)]

theorem becomes (drops : Drops before way view after) (linkFree : before.files.LinkFree)
    (noLinks : ∀ location target, view location ≠ some (.link target))
    (kept : ∀ location, before.files.get? location = some .directory → view location = some .directory) :
    before.Becomes view after := by
  cases drops with
  | dropped becomes => exact becomes
  | @lost serial parent content stands finds lost absent becomes =>
    have linkFree' : after.files.LinkFree := by
      rw [FileSystem.LinkFree, becomes.files]
      exact FileSystem.update_ne_link noLinks (by simp)
    have directories (location : Location) (found : before.files.get? location = some .directory) :
        after.files.get? location = some .directory := by
      have apart : location ≠ .temporary serial :: parent := by
        rintro rfl
        cases absent.symm.trans (kept _ found)
      rw [becomes.files, Function.update_of_ne apart, kept location found]
    refine absurd ?_ lost
    rw [Disk.Finds, FileSystem.resolve, FileSystem.walk_ok_iff_leads linkFree] at finds
    rw [Disk.Finds, FileSystem.resolve, FileSystem.walk_ok_iff_leads linkFree', becomes.workingDirectory]
    exact finds.transfer directories (by rw [List.tail_cons, directories parent stands]; simp)

theorem becomes_update {place : Location} {put? : Option Entry}
    (drops : Drops before way (update before.files.get? place put?) after) (linkFree : before.files.LinkFree)
    (free : before.files.get? place ≠ some .directory) (noLink : ∀ target, put? ≠ some (.link target)) :
    before.Becomes (update before.files.get? place put?) after := by
  refine drops.becomes linkFree (FileSystem.update_ne_link linkFree noLink) fun location stands => ?_
  rw [Function.update_of_ne (by rintro rfl; exact free stands), stands]

end Drops

theorem stage_cases {copy : Location} {content : Bytes} {outcome : Except Failure Document.Tally}
    (stands : world.disk.files.get? copy = some (.file content))
    (performed : (conversion.stage candidate copy).perform world = (outcome, final)) :
    (∃ failure, outcome = .error failure ∧ world.disk.Becomes world.disk.files.get? final.disk) ∨
      ∃ place, world.disk.place? (Bytes.ofText (conversion.outputPath candidate)) = some place ∧
        world.disk.files.get? place ≠ some .directory ∧
        (∃ staging, world.disk.Finds conversion.stagingWay staging) ∧
        outcome = .ok (Document.retag conversion.table conversion.lineEnding content).2 ∧
        world.disk.Becomes (update world.disk.files.get? place
          (some (.file (Document.retag conversion.table conversion.lineEnding content).1))) final.disk := by
  rcases Action.perform_withTemporary_cases performed with
    ⟨failure, stopped, rfl⟩ | ⟨staging, opened, later, created, used, rfl⟩
  · obtain ⟨error, called, -⟩ := Action.perform_attempt_error stopped
    exact .inl ⟨failure, rfl, Disk.becomes_of_error called⟩
  obtain ⟨⟨serial, parent, rfl⟩, absent, finds, -, made⟩ :=
    Disk.createTemporary_ok (Action.perform_attempt_ok created)
  have dropped {text : Bytes} (becomes : world.disk.Becomes
      (update world.disk.files.get? (.temporary serial :: parent) (some (.file text))) later.disk) :=
    discard_becomes absent finds becomes
  rcases Action.perform_bind_cases used with
    ⟨failure, stopped, rfl⟩ | ⟨tally, transformed, performed, used⟩
  · obtain ⟨written, becomes, -⟩ := transform_becomes made.files stopped
    exact .inl ⟨failure, rfl, dropped (made.trans becomes)⟩
  obtain ⟨text, becomes, result⟩ := transform_becomes made.files performed
  obtain ⟨copied, read, result⟩ := result tally rfl
  -- The copy is no part of the second temporary entry, so it still holds what was copied.
  have same : copied = content := by
    rw [made.files, Function.update_of_ne (fun same => by simp [same, absent] at stands), stands] at read
    cases read
    rfl
  subst same
  have written : world.disk.Becomes
      (update world.disk.files.get? (.temporary serial :: parent) (some (.file text))) transformed.disk :=
    made.trans becomes
  rcases Action.perform_bind_cases used with
    ⟨failure, stopped, rfl⟩ | ⟨⟨⟩, flushed, proceeded, used⟩
  · exact .inl ⟨failure, rfl, dropped (written.trans ((proceed_becomes stopped).congr written.files))⟩
  have written := written.trans ((proceed_becomes proceeded).congr written.files)
  rcases Action.perform_bind_cases used with
    ⟨failure, stopped, rfl⟩ | ⟨⟨⟩, moved, renamed, used⟩
  · obtain ⟨error, called, -⟩ := Action.perform_attempt_error stopped
    exact .inl ⟨failure, rfl,
      dropped (written.trans ((Disk.becomes_of_error called).congr written.files))⟩
  cases used
  obtain ⟨place, entry, named, found, free, replaced⟩ :=
    Disk.rename_ok (List.cons_ne_nil _ _) (Action.perform_attempt_ok renamed)
  -- The place has a plain name, so it is not the temporary entry, and it was there from the start.
  rw [Disk.place?_congr (.of_update (by simp [absent]) written.files) written.workingDirectory] at named
  obtain ⟨name, directory, rfl, -⟩ := Disk.exists_of_place? named
  have apart : EntryName.plain name :: directory ≠ .temporary serial :: parent := by simp
  rw [written.files, Function.update_self] at found
  rw [written.files, Function.update_of_ne apart] at free
  cases found
  obtain rfl : text = _ := congrArg Prod.fst result
  obtain rfl : tally = _ := congrArg Prod.snd result
  have settled := written.trans replaced
  rw [written.files, Function.update_idem, Function.update_comm (Ne.symm apart)] at settled
  -- The entry was moved away, so there is nothing left to drop.
  have gone : later.disk.files.get? (.temporary serial :: parent) = none := by
    rw [settled.files, Function.update_self]
  refine .inr ⟨_, named, free, ⟨_, finds⟩, rfl, ?_⟩
  refine settled.trans ((Disk.discard_of_absent gone _).congr (settled.files.trans ?_))
  refine Function.update_eq_self_iff.2 ?_
  rw [Function.update_of_ne (Ne.symm apart), absent]

/-- What a removed previous output leaves: the view itself, or the view without the entry at the
path's place, which was no directory. -/
def Cleared (disk : Disk) (path : Bytes) (view : Location → Option Entry) : Prop :=
  view = disk.files.get? ∨ ∃ place entry, disk.place? path = some place ∧
    disk.files.get? place = some entry ∧ entry ≠ .directory ∧ view = update disk.files.get? place none

theorem Cleared.get?_of_view {disk : Disk} {path : Bytes} {view : Location → Option Entry}
    (cleared : Cleared disk path view) {location : Location} {entry : Entry}
    (found : view location = some entry) : disk.files.get? location = some entry := by
  rcases cleared with rfl | ⟨place, other, -, -, -, rfl⟩
  · exact found
  · rw [Function.update_apply] at found
    split at found
    · cases found
    · exact found

theorem Cleared.update_eq {disk : Disk} {path : Bytes} {view : Location → Option Entry}
    (cleared : Cleared disk path view) {place : Location} (named : disk.place? path = some place)
    (entry : Option Entry) : update view place entry = update disk.files.get? place entry := by
  rcases cleared with rfl | ⟨other, stood, named', -, -, rfl⟩
  · rfl
  · cases named.symm.trans named'
    rw [Function.update_idem]

theorem Cleared.ne_directory {disk : Disk} {path : Bytes} {view : Location → Option Entry}
    (cleared : Cleared disk path view) {place : Location} (named : disk.place? path = some place)
    (free : view place ≠ some .directory) : disk.files.get? place ≠ some .directory := by
  rcases cleared with rfl | ⟨other, stood, named', stands, notDirectory, rfl⟩
  · exact free
  · cases named.symm.trans named'
    rw [stands]
    exact fun same => notDirectory (Option.some.inj same)

theorem Cleared.within {disk middle : Disk} {path content : Bytes} {serial : Nat} {parent : Location}
    {view : Location → Option Entry} (cleared : Cleared disk path view)
    (becomes : disk.Becomes (update view (.temporary serial :: parent) (some (.file content))) middle) :
    middle.files.Within disk.files where
  directory location found := by
    rw [becomes.files, Function.update_apply] at found
    split at found
    · cases found
    · exact cleared.get?_of_view found
  plain name above entry found := by
    rw [becomes.files, Function.update_of_ne (by simp)] at found
    exact cleared.get?_of_view found

theorem Cleared.of_temporary {disk middle : Disk} {path content : Bytes} {serial : Nat}
    {parent : Location} {view : Location → Option Entry}
    (absent : disk.files.get? (.temporary serial :: parent) = none)
    (becomes : disk.Becomes
      (update disk.files.get? (.temporary serial :: parent) (some (.file content))) middle)
    (cleared : Cleared middle path view) :
    ∃ stripped, Cleared disk path stripped ∧
      view = update stripped (.temporary serial :: parent) (some (.file content)) := by
  rcases cleared with rfl | ⟨place, entry, named, stands, other, rfl⟩
  · exact ⟨_, .inl rfl, becomes.files⟩
  · rw [Disk.place?_congr (.of_update (by simp [absent]) becomes.files) becomes.workingDirectory] at named
    obtain ⟨name, directory, rfl, -⟩ := Disk.exists_of_place? named
    have apart : EntryName.plain name :: directory ≠ .temporary serial :: parent := by simp
    rw [becomes.files, Function.update_of_ne apart] at stands
    exact ⟨_, .inr ⟨_, entry, named, stands, other, rfl⟩, by rw [becomes.files, Function.update_comm apart]⟩

/-- Nothing stands at the path's place in the view, if no fault says so of what does stand there. -/
def Vacant (disk : Disk) (path : Bytes) (view : Location → Option Entry) : Prop :=
  some .notFound ∉ disk.faults → ∀ place, disk.place? path = some place → view place = none

theorem Vacant.of_temporary {disk middle : Disk} {path content : Bytes} {serial : Nat}
    {parent : Location} {view : Location → Option Entry}
    (absent : disk.files.get? (.temporary serial :: parent) = none)
    (becomes : disk.Becomes
      (update disk.files.get? (.temporary serial :: parent) (some (.file content))) middle)
    (vacant : Vacant middle path (update view (.temporary serial :: parent) (some (.file content)))) :
    Vacant disk path view := by
  intro honest place named
  obtain ⟨name, directory, rfl, -⟩ := Disk.exists_of_place? named
  rw [← Disk.place?_congr (.of_update (by simp [absent]) becomes.files) becomes.workingDirectory] at named
  have free := vacant (mt (fun forced => becomes.faults.subset forced) honest) _ named
  rwa [Function.update_of_ne (by simp)] at free

theorem removePrevious_ok (performed : (conversion.removePrevious candidate).perform world = (.ok (), final)) :
    ∃ view, Cleared world.disk (Bytes.ofText (conversion.outputPath candidate)) view ∧
      Vacant world.disk (Bytes.ofText (conversion.outputPath candidate)) view ∧
      world.disk.Becomes view final.disk := by
  simp only [removePrevious, Action.perform_ofOutcome] at performed
  split at performed
  · next removed =>
    cases performed
    obtain ⟨place, entry, named, stands, other, becomes⟩ := Disk.remove_ok removed
    refine ⟨_, .inr ⟨place, entry, named, stands, other, rfl⟩, fun _ place' named' => ?_, becomes⟩
    cases named.symm.trans named'
    rw [Function.update_self]
  · next refused =>
    cases performed
    exact ⟨_, .inl rfl, fun honest _ named => Disk.absent_of_remove honest refused named,
      Disk.becomes_of_error refused⟩
  · cases performed

theorem removePrevious_error {failure : Failure}
    (performed : (conversion.removePrevious candidate).perform world = (.error failure, final)) :
    world.disk.Becomes world.disk.files.get? final.disk := by
  simp only [removePrevious, Action.perform_ofOutcome] at performed
  split at performed
  · cases performed
  · cases performed
  · next refused =>
    cases performed
    exact Disk.becomes_of_error refused

theorem copyContent_becomes {source copy : Location} {view : Location → Option Entry}
    {outcome : Except Failure Unit} (shown : world.disk.files.get? = update view copy (some (.file [])))
    (performed : (conversion.copyContent candidate source copy).perform world = (outcome, final)) :
    ∃ content, world.disk.Becomes (update view copy (some (.file content))) final.disk ∧
      (outcome = .ok () → world.disk.files.get? source = some (.file content)) := by
  have stands : world.disk.files.get? copy = some (.file []) := by rw [shown, Function.update_self]
  rcases Action.perform_bind_cases performed with
    ⟨failure, stopped, rfl⟩ | ⟨content, opened, begun, performed⟩
  · obtain ⟨error, called, -⟩ := Action.perform_attempt_error stopped
    exact ⟨[], (Disk.becomes_of_error called).congr shown, fun same => nomatch same⟩
  obtain ⟨read, becomes⟩ := Disk.read_ok (Action.perform_attempt_ok begun)
  cases outcome with
  | error failure =>
    obtain ⟨error, called, -⟩ := Action.perform_attempt_error performed
    exact ⟨[], becomes.trans ((Disk.becomes_of_error called).congr (becomes.files.trans shown)),
      fun same => nomatch same⟩
  | ok result =>
    rw [← becomes.files] at stands
    have appended := Disk.append_ok stands (Action.perform_attempt_ok performed)
    rw [becomes.files, shown, Function.update_idem, List.nil_append] at appended
    exact ⟨content, becomes.trans appended, fun _ => read⟩

/-- What happens between the making of the two temporary entries: the copy takes the source's bytes, and a
previous output goes. -/
def clear (conversion : Conversion) (candidate : Candidate) (source copy : Location) : Action Unit := do
  conversion.copyContent candidate source copy
  Action.attempt (.unreadable (conversion.sourcePath candidate)) Disk.proceed
  conversion.removePrevious candidate

/-- The calls of a conversion up to the removal of a previous output; the copy still stands behind them. -/
def prepare (conversion : Conversion) (candidate : Candidate) : Action Location := do
  let source ← Action.attempt (.unreadable (conversion.sourcePath candidate))
    (Disk.openEntry (Bytes.ofText (conversion.sourcePath candidate)))
  let copy ← conversion.createCopy candidate
  conversion.clear candidate source copy
  return copy

theorem write_eq_clear (conversion : Conversion) (candidate : Candidate) (source : Location) :
    conversion.write candidate source =
      Action.withTemporary (conversion.copyWay candidate) (conversion.createCopy candidate) fun copy =>
        conversion.clear candidate source copy >>= fun _ => conversion.stage candidate copy := by
  simp only [write, clear, bind_assoc]

/-- Clearing changes nothing but the copy until it removes a previous output, and then it has copied the
source. -/
theorem clear_cases {disk : Disk} {source : Location} {serial : Nat} {parent : Location}
    {outcome : Except Failure Unit} (opened : disk.files.get? source ≠ none)
    (absent : disk.files.get? (.temporary serial :: parent) = none)
    (made : disk.Becomes (update disk.files.get? (.temporary serial :: parent) (some (.file []))) world.disk)
    (performed : (conversion.clear candidate source (.temporary serial :: parent)).perform world =
      (outcome, final)) :
    (∃ failure content, outcome = .error failure ∧ disk.Becomes
        (update disk.files.get? (.temporary serial :: parent) (some (.file content))) final.disk) ∨
      ∃ content view, outcome = .ok () ∧ disk.files.get? source = some (.file content) ∧
        Cleared disk (Bytes.ofText (conversion.outputPath candidate)) view ∧
        Vacant disk (Bytes.ofText (conversion.outputPath candidate)) view ∧
        disk.Becomes (update view (.temporary serial :: parent) (some (.file content))) final.disk := by
  rcases Action.perform_bind_cases performed with
    ⟨failure, stopped, rfl⟩ | ⟨⟨⟩, copied, performed, rest⟩
  · obtain ⟨content, becomes, -⟩ := copyContent_becomes made.files stopped
    exact .inl ⟨failure, content, rfl, made.trans becomes⟩
  obtain ⟨content, becomes, read⟩ := copyContent_becomes made.files performed
  have read := read rfl
  rw [made.files, Function.update_of_ne (by rintro rfl; exact opened absent)] at read
  have copies := made.trans becomes
  rcases Action.perform_bind_cases rest with
    ⟨failure, stopped, rfl⟩ | ⟨⟨⟩, reopened, proceeded, removed⟩
  · exact .inl ⟨failure, content, rfl, copies.trans ((proceed_becomes stopped).congr copies.files)⟩
  have copies := copies.trans ((proceed_becomes proceeded).congr copies.files)
  cases outcome with
  | error failure =>
    exact .inl ⟨failure, content, rfl, copies.trans ((removePrevious_error removed).congr copies.files)⟩
  | ok result =>
    -- The previous output was found with the copy standing by, which makes no difference to it.
    obtain ⟨view, clearing, vacant, becomes⟩ := removePrevious_ok removed
    obtain ⟨stripped, clears, rfl⟩ := clearing.of_temporary absent copies
    exact .inr ⟨content, stripped, rfl, read, clears, vacant.of_temporary absent copies, copies.trans becomes⟩

theorem perform_describe (conversion : Conversion) (candidate : Candidate) (tally : Document.Tally)
    (world : World) :
    ∃ log, ((conversion.describe candidate tally).forM Action.note).perform world =
      (.ok (), { world with log }) :=
  ⟨_, Action.perform_notes _ _⟩

theorem run_writes {outcome : Except Failure Converted} (writes : conversion.dryRun = false)
    (performed : (conversion.run candidate).perform world = (outcome, final)) :
    (∃ failure, (Action.attempt (.unreadable (conversion.sourcePath candidate))
        (Disk.openEntry (Bytes.ofText (conversion.sourcePath candidate)))).perform world =
          (.error failure, final) ∧ outcome = .error failure) ∨
      ∃ source opened result later,
        (Action.attempt (.unreadable (conversion.sourcePath candidate))
          (Disk.openEntry (Bytes.ofText (conversion.sourcePath candidate)))).perform world =
            (.ok source, opened) ∧
        (conversion.write candidate source).perform opened = (result, later) ∧
        final.disk = later.disk ∧ outcome = result.map fun tally =>
          ⟨candidate.name, conversion.outputPath candidate, tally.lines, tally.changedLines⟩ := by
  rcases Action.perform_bind_cases performed with stopped | ⟨source, opened, begun, performed⟩
  · exact .inl stopped
  rcases Action.perform_bind_cases performed with
    ⟨failure, stopped, rfl⟩ | ⟨tally, converted, written, told⟩
  · rw [convert, writes, if_neg Bool.false_ne_true] at stopped
    exact .inr ⟨source, opened, .error failure, final, begun, stopped, rfl, rfl⟩
  rw [convert, writes, if_neg Bool.false_ne_true] at written
  obtain ⟨log, described⟩ := perform_describe conversion candidate tally converted
  rw [Action.perform_bind_of_ok described] at told
  cases told
  exact .inr ⟨source, opened, .ok tally, converted, begun, written, rfl, rfl⟩

/-- The preparations are done: the copy holds the source, and a previous output may be gone. -/
structure Prepared (conversion : Conversion) (candidate : Candidate) (world : World) (copy : Location)
    (content : Bytes) (view : Location → Option Entry) (cleared : World) : Prop where
  performed : (conversion.prepare candidate).perform world = (.ok copy, cleared)
  read : world.disk.content? (Bytes.ofText (conversion.sourcePath candidate)) = some content
  fresh : world.disk.files.get? copy = none
  temporary : ∃ serial parent, copy = .temporary serial :: parent
  finds : world.disk.Finds (conversion.copyWay candidate) copy
  stands : world.disk.files.get? copy.tail = some .directory
  clears : Cleared world.disk (Bytes.ofText (conversion.outputPath candidate)) view
  vacant : Vacant world.disk (Bytes.ofText (conversion.outputPath candidate)) view
  becomes : world.disk.Becomes (update view copy (some (.file content))) cleared.disk

theorem Prepared.absent_of_view {copy : Location} {content : Bytes} {view : Location → Option Entry}
    {cleared : World} (prepared : Prepared conversion candidate world copy content view cleared) :
    view copy = none := by
  rw [Option.eq_none_iff_forall_ne_some]
  intro entry found
  have fresh := prepared.fresh
  rw [prepared.clears.get?_of_view found] at fresh
  cases fresh

theorem run_prepares {outcome : Except Failure Converted} (writes : conversion.dryRun = false)
    (performed : (conversion.run candidate).perform world = (outcome, final)) :
    (∃ failure stopped, (conversion.prepare candidate).perform world = (.error failure, stopped) ∧
        outcome = .error failure ∧ world.disk.Becomes world.disk.files.get? final.disk) ∨
      ∃ copy content view cleared result later,
        Prepared conversion candidate world copy content view cleared ∧
        (conversion.stage candidate copy).perform cleared = (result, later) ∧
        final.disk = later.disk.discard (conversion.copyWay candidate) copy ∧
        outcome = result.map fun tally =>
          ⟨candidate.name, conversion.outputPath candidate, tally.lines, tally.changedLines⟩ := by
  rcases run_writes writes performed with
    ⟨failure, stopped, rfl⟩ | ⟨source, opened, result, later, begun, written, ends, rfl⟩
  · obtain ⟨error, called, -⟩ := Action.perform_attempt_error stopped
    exact .inl ⟨failure, final, Action.perform_bind_of_error stopped, rfl, Disk.becomes_of_error called⟩
  obtain ⟨resolved, present, same⟩ := Disk.openEntry_ok (Action.perform_attempt_ok begun)
  have onward : world.disk.Becomes world.disk.files.get? opened.disk := same ▸ Disk.becomes_tail world.disk
  rw [write_eq_clear] at written
  rcases Action.perform_withTemporary_cases written with
    ⟨failure, stopped, rfl⟩ | ⟨copy, drawn, used, created, performed, rfl⟩
  · obtain ⟨error, called, -⟩ := Action.perform_attempt_error stopped
    have prepared : (conversion.prepare candidate).perform world = (.error failure, later) :=
      (Action.perform_bind_of_ok begun).trans (Action.perform_bind_of_error stopped)
    refine .inl ⟨failure, later, prepared, rfl, ?_⟩
    rw [ends]
    exact onward.trans ((Disk.becomes_of_error called).congr onward.files)
  obtain ⟨⟨serial, parent, rfl⟩, absent, finds, stands, made⟩ :=
    Disk.createTemporary_ok (Action.perform_attempt_ok created)
  rw [onward.files] at absent stands made
  have finds : world.disk.Finds (conversion.copyWay candidate) (.temporary serial :: parent) := by
    rw [same] at finds
    exact finds
  have made := onward.trans made
  rcases Action.perform_bind_cases performed with
    ⟨failure, stopped, rfl⟩ | ⟨⟨⟩, cleared, clears, staged⟩
  · rcases clear_cases present absent made stopped with ⟨other, content, -, becomes⟩ | ⟨_, _, done, -⟩
    · have prepared : (conversion.prepare candidate).perform world = (.error failure, used) :=
        (Action.perform_bind_of_ok begun).trans
          ((Action.perform_bind_of_ok created).trans (Action.perform_bind_of_error stopped))
      refine .inl ⟨failure, used, prepared, rfl, ?_⟩
      rw [ends]
      exact discard_becomes absent finds becomes
    · cases done
  · rcases clear_cases present absent made clears with
      ⟨_, _, failed, -⟩ | ⟨content, view, -, read, clearing, vacant, becomes⟩
    · cases failed
    have prepared : (conversion.prepare candidate).perform world =
        (.ok (.temporary serial :: parent), cleared) :=
      (Action.perform_bind_of_ok begun).trans
        ((Action.perform_bind_of_ok created).trans (Action.perform_bind_of_ok clears))
    exact .inr ⟨_, content, view, cleared, result, used,
      ⟨prepared, Disk.content?_eq_some_iff.2 ⟨source, resolved, read⟩, absent, ⟨serial, parent, rfl⟩,
        finds, stands, clearing, vacant, becomes⟩, staged, ends, rfl⟩

theorem Prepared.stage_cases {copy : Location} {content : Bytes} {view : Location → Option Entry}
    {cleared later : World} {result : Except Failure Document.Tally}
    (prepared : Prepared conversion candidate world copy content view cleared)
    (staged : (conversion.stage candidate copy).perform cleared = (result, later)) :
    (∃ failure, result = .error failure ∧
        world.disk.Becomes (update view copy (some (.file content))) later.disk) ∨
      ∃ place, world.disk.place? (Bytes.ofText (conversion.outputPath candidate)) = some place ∧
        world.disk.files.get? place ≠ some .directory ∧
        (∃ staging, cleared.disk.Finds conversion.stagingWay staging) ∧
        result = .ok (Document.retag conversion.table conversion.lineEnding content).2 ∧
        update world.disk.files.get? place
          (some (.file (Document.retag conversion.table conversion.lineEnding content).1)) copy = none ∧
        world.disk.Becomes (update (update world.disk.files.get? place
          (some (.file (Document.retag conversion.table conversion.lineEnding content).1))) copy
            (some (.file content))) later.disk := by
  obtain ⟨serial, parent, rfl⟩ := prepared.temporary
  have becomes := prepared.becomes
  have stands : cleared.disk.files.get? (.temporary serial :: parent) = some (.file content) := by
    rw [becomes.files, Function.update_self]
  rcases Conversion.stage_cases stands staged with
    ⟨failure, rfl, kept⟩ | ⟨place, named, free, staging, rfl, replaced⟩
  · exact .inl ⟨failure, rfl, becomes.trans (kept.congr becomes.files)⟩
  · have named' := Disk.place?_within (prepared.clears.within becomes) becomes.workingDirectory named
    obtain ⟨name, directory, rfl, -⟩ := Disk.exists_of_place? named
    have apart : EntryName.plain name :: directory ≠ .temporary serial :: parent := by simp
    rw [becomes.files, Function.update_of_ne apart] at free
    have settled := becomes.trans replaced
    rw [becomes.files, Function.update_comm (Ne.symm apart), prepared.clears.update_eq named'] at settled
    refine .inr ⟨_, named', prepared.clears.ne_directory named' free, staging, rfl, ?_, settled⟩
    rw [Function.update_of_ne (Ne.symm apart), prepared.fresh]

theorem Prepared.drops {copy : Location} {content : Bytes} {view shown : Location → Option Entry}
    {cleared : World} {later : Disk}
    (prepared : Prepared conversion candidate world copy content view cleared) (absent : shown copy = none)
    (becomes : world.disk.Becomes (update shown copy (some (.file content))) later) :
    Drops world.disk (conversion.copyWay candidate) shown (later.discard (conversion.copyWay candidate) copy) := by
  have stands := prepared.stands
  have finds := prepared.finds
  obtain ⟨serial, parent, rfl⟩ := prepared.temporary
  exact .of_discard stands finds absent becomes

/-- What converting a candidate comes to, unless it is a dry run: the retagged source at the output's
place, or nothing but a previous output gone. -/
theorem run_effect {outcome : Except Failure Converted} (writes : conversion.dryRun = false)
    (performed : (conversion.run candidate).perform world = (outcome, final)) :
    (∃ failure view, outcome = .error failure ∧
        Cleared world.disk (Bytes.ofText (conversion.outputPath candidate)) view ∧
        Drops world.disk (conversion.copyWay candidate) view final.disk) ∨
      ∃ source content place,
        world.disk.resolve (Bytes.ofText (conversion.sourcePath candidate)) = .ok source ∧
        world.disk.files.get? source = some (.file content) ∧
        world.disk.place? (Bytes.ofText (conversion.outputPath candidate)) = some place ∧
        world.disk.files.get? place ≠ some .directory ∧
        outcome = .ok ⟨candidate.name, conversion.outputPath candidate,
          (Document.retag conversion.table conversion.lineEnding content).2.lines,
          (Document.retag conversion.table conversion.lineEnding content).2.changedLines⟩ ∧
        Drops world.disk (conversion.copyWay candidate) (update world.disk.files.get? place
          (some (.file (Document.retag conversion.table conversion.lineEnding content).1))) final.disk := by
  rcases run_prepares writes performed with ⟨failure, stopped, -, rfl, becomes⟩ |
    ⟨copy, content, view, cleared, result, later, prepared, staged, ends, rfl⟩
  · exact .inl ⟨failure, _, rfl, .inl rfl, .dropped becomes⟩
  obtain ⟨source, resolved, read⟩ := Disk.content?_eq_some_iff.1 prepared.read
  rw [ends]
  rcases prepared.stage_cases staged with
    ⟨failure, rfl, kept⟩ | ⟨place, named, free, -, rfl, absent, replaced⟩
  · exact .inl ⟨failure, view, rfl, prepared.clears, prepared.drops prepared.absent_of_view kept⟩
  · exact .inr ⟨source, content, place, resolved, read, named, free, rfl, prepared.drops absent replaced⟩

end Retag.Conversion
