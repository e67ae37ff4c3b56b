import Mathlib.Data.List.Perm.Basic
import Mathlib.Data.UInt
import Retag.Proofs.Candidate.Selection
import Retag.Proofs.FileSystem.LinkFree

/-! What selection depends on. Sorting forgets the order in which a directory yields its entries; without
faults and links the candidates are the regular files of the source directory that pass the markers, so two
disks with the same ones give the same selection.
-/

set_option autoImplicit false

namespace Retag.Selection

def Sorted (candidates : List Candidate) : Prop :=
  candidates.Pairwise fun first second => Bytes.ofText first.name ≤ Bytes.ofText second.name

theorem sorted_insertByName {candidate : Candidate} {candidates : List Candidate} (sorted : Sorted candidates) :
    Sorted (insertByName candidate candidates) := by
  induction candidates with
  | nil => exact List.pairwise_singleton _ _
  | cons first rest ih =>
    obtain ⟨least, sorted'⟩ := List.pairwise_cons.1 sorted
    rw [insertByName]
    split
    · next below =>
      refine List.pairwise_cons.2 ⟨fun other member => ?_, sorted⟩
      rcases List.mem_cons.1 member with rfl | member
      · exact below
      · exact List.le_trans below (least other member)
    · next above =>
      refine List.pairwise_cons.2 ⟨fun other member => ?_, ih sorted'⟩
      rcases List.mem_cons.1 ((perm_insertByName candidate rest).mem_iff.1 member) with rfl | member
      · exact (List.le_total _ _).resolve_left above
      · exact least other member

theorem sorted_sortByName (candidates : List Candidate) : Sorted (sortByName candidates) := by
  induction candidates with
  | nil => exact List.Pairwise.nil
  | cons candidate candidates ih => exact sorted_insertByName ih

theorem sortByName_eq_of_perm {first second : List Candidate} (same : first.Perm second)
    (distinct : (first.map Candidate.name).Nodup) : sortByName first = sortByName second := by
  refine List.Perm.eq_of_pairwise (fun left right member member' below above => ?_) (sorted_sortByName first)
    (sorted_sortByName second) ((perm_sortByName first).trans (same.trans (perm_sortByName second).symm))
  have named : left.name = right.name := Bytes.ofText_injective (List.le_antisymm below above)
  have member := (perm_sortByName first).mem_iff.1 member
  have member' := same.mem_iff.2 ((perm_sortByName second).mem_iff.1 member')
  exact List.inj_on_of_nodup_map distinct member member' named

variable {source suffix : String} {markers : Markers} {disk : Disk} {directory : Location}

/-! ## Selection without faults -/

theorem select_quiet (noFaults : disk.faults = [])
    (resolved : disk.resolve (Bytes.ofText source) = .ok directory)
    (stands : disk.files.get? directory = some .directory) :
    ∃ log, (select source markers suffix).perform { disk } = (.ok (sortByName
      ((disk.files.listing directory).filterMap (candidate? source markers suffix disk))), { disk, log }) := by
  have opened : Disk.openDirectory (Bytes.ofText source) disk = (.ok directory, disk) := by
    rw [Disk.openDirectory, Disk.call_quiet noFaults, resolved]
    simp only [bind, Except.bind, FileSystem.asDirectory_eq_ok_iff.2 ⟨rfl, stands⟩]
    rfl
  have outcome := select_outcome source suffix markers { disk }
  simp only [opened, noFaults, List.tail_nil, stepFault?_quiet, unrefused_quiet] at outcome
  have performed := Prod.ext (y := (_, ((select source markers suffix).perform { disk }).2)) outcome rfl
  obtain ⟨faults, isSuffix, same⟩ := select_readsOnly.disk_eq performed
  rw [noFaults, List.suffix_nil] at isSuffix
  have kept : ((select source markers suffix).perform { disk }).2.disk = disk := by
    rw [same, isSuffix, ← noFaults]
  exact ⟨_, performed.trans (congrArg (Prod.mk _) (congrArg (World.mk · _) kept))⟩

theorem nodup_names (disk : Disk) {entries : List Bytes} (distinct : entries.Nodup) :
    ((entries.filterMap (candidate? source markers suffix disk)).map Candidate.name).Nodup := by
  refine (nodup_candidates disk distinct).map_on fun left member right member' same => ?_
  obtain ⟨entry, -, made⟩ := List.mem_filterMap.1 member
  obtain ⟨entry', -, made'⟩ := List.mem_filterMap.1 member'
  obtain ⟨name, -, -, rfl, -⟩ := candidate?_eq_some made
  obtain ⟨name', -, -, rfl, -⟩ := candidate?_eq_some made'
  exact congrArg (Candidate.ofName · suffix) same

/-! ## Regular files -/

theorem mem_listing {files : FileSystem} {name : Bytes}
    (present : files.get? (.plain name :: directory) ≠ none) : name ∈ files.listing directory := by
  obtain ⟨entry, found⟩ := Option.ne_none_iff_exists'.1 present
  exact List.mem_filterMap.2 ⟨_, FileSystem.mem_entries_of_get? found, if_pos rfl⟩

/-- A disk without links and with legal names, and where the source directory is on it. -/
structure SourceAt (source : String) (directory : Location) (disk : Disk) : Prop where
  linkFree : disk.files.LinkFree
  legalNames : disk.files.LegalNames
  resolved : disk.resolve (Bytes.ofText source) = .ok directory
  stands : disk.files.get? directory = some .directory

namespace SourceAt

variable {first second : Disk}

theorem of_select (linkFree : disk.files.LinkFree) (legalNames : disk.files.LegalNames)
    {candidates : List Candidate} {world : World}
    (selected : (select source markers suffix).perform { disk } = (.ok candidates, world))
    (resolved : disk.resolve (Bytes.ofText source) = .ok directory) : SourceAt source directory disk := by
  obtain ⟨reached, resolved', stands, -⟩ := select_ok selected
  cases resolved'.symm.trans resolved
  exact ⟨linkFree, legalNames, resolved, stands⟩

theorem content?_join_iff (located : SourceAt source directory disk) {name : String}
    (legal : FileSystem.LegalName (Bytes.ofText name)) :
    (disk.content? (Bytes.ofText (Path.join source name))).isSome = true ↔
      (∃ route, FileSystem.parsePath (Bytes.ofText (Path.join source name)) = .ok route) ∧
      (Bytes.ofText name).length ≤ longestName ∧
      ∃ content, disk.files.get? (.plain (Bytes.ofText name) :: directory) = some (.file content) := by
  obtain ⟨linkFree, -, resolved, stands⟩ := located
  obtain ⟨named, noSlash, notHere, notUp⟩ := legal
  obtain rfl := Disk.eq_spelled_of_resolve linkFree resolved
  have leads := (FileSystem.leads_steps_iff stands).1 ((Disk.resolve_eq_ok_iff linkFree).1 resolved).2
  have joined {location : Location} : disk.resolve (Bytes.ofText (Path.join source name)) = .ok location ↔ _ :=
    Disk.resolve_join_iff linkFree source (mt Bytes.slash_mem_ofText.2 noSlash)
      (fun empty => named (by rw [empty]; rfl)) notHere notUp
  rw [Option.isSome_iff_exists]
  constructor
  · rintro ⟨content, found⟩
    obtain ⟨location, led, read⟩ := Disk.content?_eq_some_iff.1 found
    obtain ⟨parsed, short, -, -, -, rfl⟩ := joined.1 led
    exact ⟨parsed, short, content, read⟩
  · rintro ⟨parsed, short, content, read⟩
    refine ⟨content, Disk.content?_eq_some_iff.2 ⟨_, joined.2 ⟨parsed, short, leads, stands, ?_, rfl⟩, read⟩⟩
    rw [read]
    exact Option.some_ne_none _

theorem candidate?_eq_some_iff (located : SourceAt source directory disk) {entry : Bytes}
    (legal : FileSystem.LegalName entry) {candidate : Candidate} :
    candidate? source markers suffix disk entry = some candidate ↔
      ∃ name, entry = Bytes.ofText name ∧ markers.accept name = true ∧
        (∃ route, FileSystem.parsePath (Bytes.ofText (Path.join source name)) = .ok route) ∧
        entry.length ≤ longestName ∧
        (∃ content, disk.files.get? (.plain entry :: directory) = some (.file content)) ∧
        candidate = Candidate.ofName name suffix := by
  rw [candidate?]
  cases text : entry.text? with
  | none =>
    refine iff_of_false (by simp) ?_
    rintro ⟨name, same, -⟩
    rw [Bytes.text?_eq_some_iff.2 same] at text
    cases text
  | some name =>
    obtain rfl := Bytes.text?_eq_some_iff.1 text
    simp only [Option.ite_none_right_eq_some, Bool.and_eq_true, Option.some.injEq,
      located.content?_join_iff legal]
    constructor
    · rintro ⟨⟨accepted, parsed, short, file⟩, rfl⟩
      exact ⟨name, rfl, accepted, parsed, short, file, rfl⟩
    · rintro ⟨other, same, accepted, parsed, short, file, rfl⟩
      obtain rfl := Bytes.ofText_injective same
      exact ⟨⟨accepted, parsed, short, file⟩, rfl⟩

theorem candidates_subset (located : SourceAt source directory first)
    (located' : SourceAt source directory second)
    (files : ∀ name content, first.files.get? (.plain name :: directory) = some (.file content) →
      second.files.get? (.plain name :: directory) = some (.file content)) :
    (first.files.listing directory).filterMap (candidate? source markers suffix first) ⊆
      (second.files.listing directory).filterMap (candidate? source markers suffix second) := by
  intro candidate member
  obtain ⟨entry, listed, made⟩ := List.mem_filterMap.1 member
  have legal := located.legalNames _ _ (get?_of_mem_listing listed)
  obtain ⟨name, rfl, accepted, parsed, short, ⟨content, found⟩, rfl⟩ :=
    (located.candidate?_eq_some_iff legal).1 made
  have found' := files _ _ found
  refine List.mem_filterMap.2 ⟨_, mem_listing (by rw [found']; exact Option.some_ne_none _), ?_⟩
  exact (located'.candidate?_eq_some_iff legal).2 ⟨name, rfl, accepted, parsed, short, ⟨content, found'⟩, rfl⟩

theorem select_congr (located : SourceAt source directory first) (located' : SourceAt source directory second)
    (noFaults : first.faults = []) (noFaults' : second.faults = [])
    (files : ∀ name content, second.files.get? (.plain name :: directory) = some (.file content) ↔
      first.files.get? (.plain name :: directory) = some (.file content))
    {candidates : List Candidate} {world : World}
    (selected : (select source markers suffix).perform { disk := first } = (.ok candidates, world)) :
    ∃ log, (select source markers suffix).perform { disk := second } =
      (.ok candidates, { disk := second, log }) := by
  obtain ⟨log, first_⟩ := @select_quiet source suffix markers _ _ noFaults located.resolved located.stands
  obtain ⟨log', second_⟩ := @select_quiet source suffix markers _ _ noFaults' located'.resolved located'.stands
  cases first_.symm.trans selected
  have members : ((second.files.listing directory).filterMap (candidate? source markers suffix second)).Perm
      ((first.files.listing directory).filterMap (candidate? source markers suffix first)) := by
    refine (List.perm_ext_iff_of_nodup (nodup_candidates _ (nodup_listing ..))
      (nodup_candidates _ (nodup_listing ..))).2 fun candidate => ⟨?_, ?_⟩
    · exact fun member => located'.candidates_subset located (fun name content => (files name content).1) member
    · exact fun member => located.candidates_subset located' (fun name content => (files name content).2) member
  refine ⟨log', ?_⟩
  rw [second_, sortByName_eq_of_perm members (nodup_names second (nodup_listing ..))]

end SourceAt

end Retag.Selection
