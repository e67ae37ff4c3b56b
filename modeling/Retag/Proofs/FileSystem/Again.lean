import Mathlib.Data.List.Chain
import Retag.Proofs.FileSystem.Directories

/-! Making the directories of a path twice. The second time makes none, also where the first time came to a
halt on the way: what it could not make then lies below something that is still no directory.
-/

set_option autoImplicit false

namespace Retag

namespace Path

/-- Leaving out the parts `.`, the outer route is the inner one without its last part. -/
def Route.Encloses (outer inner : Route) : Prop :=
  outer.absolute = inner.absolute ∧
    ∃ last, inner.parts.filter (· ≠ here) = outer.parts.filter (· ≠ here) ++ [last]

theorem isChain_shorter {reversed : List Bytes} (proper : here ∉ reversed.dropLast) :
    (reversed.reverse :: shorter reversed).IsChain fun inner outer =>
      ∃ last, last ≠ here ∧ inner = outer ++ [last] := by
  induction reversed with
  | nil => exact .singleton _
  | cons last rest ih =>
    cases rest with
    | nil => exact .singleton _
    | cons next rest =>
      rw [List.dropLast_cons_cons, List.mem_cons, not_or] at proper
      exact .cons_cons ⟨last, Ne.symm proper.1, List.reverse_cons⟩ (ih proper.2)

theorem Route.isChain_enclosing (route : Route) :
    (route :: route.enclosing).IsChain fun inner outer => outer.Encloses inner := by
  obtain ⟨parts, proper, same, enclosing⟩ := route.enclosing_eq
  have chain : (parts.reverse.reverse :: shorter parts.reverse).IsChain _ :=
    isChain_shorter (by simpa using proper)
  rw [List.reverse_reverse] at chain
  have enclosed := List.isChain_cons_map_of_isChain_cons (S := fun inner outer : Route => outer.Encloses inner)
    (fun parts => { route with parts, trailing := false }) (fun inner outer ⟨last, proper, same⟩ =>
      ⟨rfl, last, by simp [same, proper]⟩) chain
  rw [← enclosing] at enclosed
  -- The path itself may be written with more parts `.`, which makes no difference.
  rw [List.isChain_cons] at enclosed ⊢
  refine ⟨fun outer next => ?_, enclosed.2⟩
  obtain ⟨absolute, last, cut⟩ := enclosed.1 outer next
  exact ⟨absolute, last, same ▸ cut⟩

end Path

namespace FileSystem

variable {files : FileSystem}

theorem leads_filter_here_iff {location reached : Location} {names : List Bytes}
    (stands : files.get? reached = some .directory) :
    Leads files location (names.filter (· ≠ Path.here)) reached ↔ Leads files location names reached := by
  induction names generalizing location with
  | nil => rfl
  | cons name rest ih =>
    by_cases isHere : name = Path.here
    · subst isHere
      rw [List.filter_cons_of_neg (by simp), ih]
      refine ⟨fun leads => .here ?_ leads, fun leads => (Leads.here_iff leads.directory_of_cons).1 leads⟩
      cases rest with
      | nil => cases leads; exact stands
      | cons next rest => exact leads.directory_of_cons
    · rw [List.filter_cons_of_pos (by simpa using isHere)]
      by_cases isUp : name = Path.up
      · subst isUp
        constructor
        · exact fun leads => .up leads.directory_of_cons (ih.1 ((Leads.up_iff leads.directory_of_cons).1 leads))
        · exact fun leads => .up leads.directory_of_cons (ih.2 ((Leads.up_iff leads.directory_of_cons).1 leads))
      · rw [Leads.down_iff isHere isUp, Leads.down_iff isHere isUp, ih]

end FileSystem

namespace Disk

open FileSystem (Leads)

variable {disk after : Disk} {inner outer route : Path.Route} {enclosing : List Path.Route}

theorem isDirectory_iff (noFaults : disk.faults = []) (linkFree : disk.files.LinkFree) :
    (isDirectory route disk).1 = true ↔
      ∃ location, Leads disk.files (FileSystem.start disk.workingDirectory route)
          (route.parts.filter (· ≠ Path.here)) location ∧
        disk.files.get? location = some .directory := by
  rw [isDirectory_fst, noFaults, FileSystem.resolve]
  simp only [List.head?_nil, Option.join_none, true_and]
  refine exists_congr fun location => and_congr_left fun stands => ?_
  rw [FileSystem.walk_ok_iff_leads linkFree, FileSystem.leads_steps_iff stands,
    FileSystem.leads_filter_here_iff stands]

theorem isDirectory_of_encloses (noFaults : disk.faults = []) (linkFree : disk.files.LinkFree)
    (encloses : outer.Encloses inner) (stands : (isDirectory inner disk).1 = true) :
    (isDirectory outer disk).1 = true := by
  obtain ⟨absolute, last, cut⟩ := encloses
  obtain ⟨location, leads, -⟩ := (isDirectory_iff noFaults linkFree).1 stands
  rw [cut, FileSystem.start, ← absolute] at leads
  obtain ⟨middle, left, right⟩ := leads.split
  exact (isDirectory_iff noFaults linkFree).2 ⟨middle, left, right.directory_of_cons⟩

theorem isDirectory_of_createDirectory (noFaults : disk.faults = []) (linkFree : disk.files.LinkFree)
    (encloses : outer.Encloses inner) (made : createDirectory inner disk = (.ok (), after)) :
    (isDirectory outer disk).1 = true := by
  obtain ⟨absolute, last, cut⟩ := encloses
  obtain ⟨location, located, -, -⟩ := createDirectory_ok made
  obtain ⟨parent, name, isLast, notHere, -, -, walked, stands, -⟩ := FileSystem.locate_location_iff.1 located
  obtain ⟨front, parts⟩ := List.getLast?_eq_some_iff.1 isLast
  rw [parts, List.dropLast_concat, FileSystem.walk_ok_iff_leads linkFree,
    ← FileSystem.leads_filter_here_iff stands, FileSystem.start, ← absolute] at walked
  have same : front.filter (· ≠ Path.here) = outer.parts.filter (· ≠ Path.here) := by
    rw [parts, List.filter_append, List.filter_cons_of_pos (by simpa using notHere)] at cut
    exact (List.append_inj' cut rfl).1
  rw [same] at walked
  exact (isDirectory_iff noFaults linkFree).2 ⟨parent, walked, stands⟩

theorem createDirectory_error {error : IoError} (noFaults : disk.faults = [])
    (failed : createDirectory route disk = (.error error, after)) : after = disk := by
  rw [(call_error failed).1, tail_of_quiet noFaults]

theorem createDirectory_again (noFaults : disk.faults = [])
    (made : createDirectory route disk = (.ok (), after)) :
    createDirectory route after = (.error .alreadyExists, after) := by
  obtain ⟨location, located, absent, becomes⟩ := createDirectory_ok made
  have gains := createDirectory_gains route disk
  rw [made] at gains
  obtain ⟨place, located', isPlace⟩ := gains.within.locate_location located
  have present : (after.files.get? location).isSome = true := by
    rw [becomes.files, Function.update_self]
    rfl
  rw [createDirectory, call_quiet (gains.quiet noFaults), gains.workingDirectory, located']
  simp only [bind, Except.bind, isPlace, present]
  rfl

/-- How a directory comes to be made together with those around it: it is made in the end, it is refused in
the end, or one around it is. -/
theorem createWithin_cases (noFaults : disk.faults = []) (route : Path.Route) (enclosing : List Path.Route) :
    (∃ base after, base.faults = [] ∧ createDirectory route base = (.ok (), after) ∧
        createWithin (route :: enclosing) disk = (.ok (), after)) ∨
      (∃ error base, createDirectory route base = (.error error, base) ∧
        (error ≠ .notFound ∨ base = (createWithin enclosing disk).2) ∧
        createWithin (route :: enclosing) disk =
          (if (isDirectory route base).1 then .ok () else .error error, base)) ∨
      ∃ error after, createWithin enclosing disk = (.error error, after) ∧
        createWithin (route :: enclosing) disk = (.error error, after) := by
  cases tried : createDirectory route disk with
  | mk outcome middle =>
    cases outcome with
    | ok result => exact .inl ⟨disk, middle, noFaults, tried, by simp only [createWithin, tried]⟩
    | error error =>
      obtain rfl := createDirectory_error noFaults tried
      by_cases missing : error = .notFound
      · subst missing
        cases around : createWithin enclosing middle with
        | mk outcome later =>
          cases outcome with
          | error error => exact .inr (.inr ⟨error, later, rfl, by simp only [createWithin, tried, around]⟩)
          | ok result =>
            have gains := createWithin_gains enclosing middle
            rw [around] at gains
            have noFaults' : later.faults = [] := gains.quiet noFaults
            cases retried : createDirectory route later with
            | mk outcome after =>
              cases outcome with
              | ok result => exact .inl ⟨later, after, noFaults', retried, by
                  simp only [createWithin, tried, around, retried]⟩
              | error error =>
                obtain rfl := createDirectory_error noFaults' retried
                exact .inr (.inl ⟨error, after, retried, .inr rfl, by
                  simp only [createWithin, tried, around, retried, isDirectory_snd,
                    tail_of_quiet noFaults']⟩)
      · refine .inr (.inl ⟨error, middle, tried, .inl missing, ?_⟩)
        simp only [createWithin, tried]
        split
        · next same => cases same; contradiction
        · simp only [isDirectory_snd, tail_of_quiet noFaults]

theorem createWithin_failed {error : IoError} {routes : List Path.Route} (noFaults : disk.faults = [])
    (linkFree : disk.files.LinkFree) (chain : routes.IsChain fun inner outer => outer.Encloses inner)
    (failed : createWithin routes disk = (.error error, after)) :
    ∃ route, routes.head? = some route ∧ (isDirectory route after).1 ≠ true := by
  induction routes with
  | nil => cases failed
  | cons route enclosing ih =>
    refine ⟨route, rfl, ?_⟩
    rcases createWithin_cases noFaults route enclosing with
      ⟨_, _, -, -, made⟩ | ⟨_, base, -, -, refused⟩ | ⟨_, _, around, same⟩
    · cases made.symm.trans failed
    · rw [refused] at failed
      split at failed
      · cases failed
      · next other => cases failed; exact other
    · cases same.symm.trans failed
      rw [List.isChain_cons] at chain
      obtain ⟨outer, first, missing⟩ := ih chain.2 around
      have gains := createWithin_gains enclosing disk
      rw [around] at gains
      exact mt (isDirectory_of_encloses (gains.quiet noFaults) (gains.linkFree linkFree)
        (chain.1 outer first)) missing

theorem createWithin_unchanged {error : IoError} (noFaults : disk.faults = [])
    (failed : createDirectory route disk = (.error error, disk))
    (around : error ≠ .notFound ∨ (createWithin enclosing disk).2 = disk) :
    (createWithin (route :: enclosing) disk).2 = disk := by
  have looked : (isDirectory route disk).2 = disk := by rw [isDirectory_snd, tail_of_quiet noFaults]
  simp only [createWithin, failed]
  split
  · next same =>
    cases same
    replace around := around.resolve_left (absurd rfl)
    split
    · next made => rw [made] at around; subst around; simp only [failed, looked]
    · exact around
  · exact looked

theorem createWithin_again {routes : List Path.Route} (noFaults : disk.faults = [])
    (linkFree : disk.files.LinkFree) (chain : routes.IsChain fun inner outer => outer.Encloses inner) :
    (createWithin routes (createWithin routes disk).2).2 = (createWithin routes disk).2 := by
  induction routes with
  | nil => rfl
  | cons route enclosing ih =>
    rw [List.isChain_cons] at chain
    replace ih := ih chain.2
    have noFaults' := (createWithin_gains (route :: enclosing) disk).quiet noFaults
    rcases createWithin_cases noFaults route enclosing with
      ⟨base, after, noFaults'', tried, made⟩ | ⟨error, base, tried, around, refused⟩ |
        ⟨error, after, around, same⟩
    · rw [made] at noFaults' ⊢
      exact createWithin_unchanged noFaults' (createDirectory_again noFaults'' tried) (.inl nofun)
    · rw [refused] at noFaults' ⊢
      refine createWithin_unchanged noFaults' tried (around.imp_right fun same => ?_)
      rw [same, ih]
    · rw [same] at noFaults' ⊢
      have gains := createWithin_gains enclosing disk
      rw [around] at gains ih
      have linkFree' := gains.linkFree linkFree
      cases tried : createDirectory route after with
      | mk outcome later =>
        cases outcome with
        | ok result =>
          -- What is made now would stand in what could not be made before.
          obtain ⟨outer, first, missing⟩ := createWithin_failed noFaults linkFree chain.2 around
          exact absurd (isDirectory_of_createDirectory noFaults' linkFree' (chain.1 outer first) tried) missing
        | error error =>
          obtain rfl := createDirectory_error noFaults' tried
          exact createWithin_unchanged noFaults' tried (.inr ih)

/-- Making the directories of a path a second time makes none, whatever came of the first time. -/
theorem createDirectories_again (noFaults : disk.faults = []) (linkFree : disk.files.LinkFree) (path : Bytes) :
    (createDirectories path (createDirectories path disk).2).2 = (createDirectories path disk).2 := by
  rw [createDirectories]
  split
  · next empty => rw [createDirectories, if_pos empty]
  · next below =>
    cases parsed : FileSystem.parsePath path with
    | error error => simp only [createDirectories, if_neg below, parsed]
    | ok route =>
      simp only [createDirectories, if_neg below, parsed]
      exact createWithin_again noFaults linkFree route.isChain_enclosing

end Disk

end Retag
