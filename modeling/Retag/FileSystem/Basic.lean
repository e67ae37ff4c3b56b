import Retag.Text.Bytes

/-!
A file system as a finite list of located entries, each location listed once. A location is its
list of names, nearest first, so the entries of a directory are those one name in front of it. The
root is a directory that is not listed.

Temporary names are a constructor of their own, which assumes that a drawn name differs from all
names in use: those of entries, those on written paths, and those of outputs still to be made. So no
written path leads to a temporary entry. One that stays behind keeps its temporary name, and no
listing yields it.
-/

set_option autoImplicit false

namespace Retag

inductive EntryName where
  | plain (bytes : Bytes)
  | temporary (serial : Nat)
  deriving DecidableEq, Repr

/-- The bytes of a name that are known; nothing is known of those of a temporary one. -/
def EntryName.length : EntryName → Nat
  | .plain bytes => bytes.length
  | .temporary _ => 0

abbrev Location := List EntryName

inductive Entry where
  | file (content : Bytes)
  | directory
  | link (target : Bytes)
  deriving DecidableEq, Repr

structure FileSystem where
  entries : List (Location × Entry)
  distinct : (entries.map Prod.fst).Nodup

namespace FileSystem

def empty : FileSystem := ⟨[], List.nodup_nil⟩

instance : Inhabited FileSystem := ⟨empty⟩

/-- The entry at a location; the root is always a directory. -/
def get? (files : FileSystem) : Location → Option Entry
  | [] => some .directory
  | name :: parent =>
      (files.entries.find? fun entry => entry.1 = name :: parent).map Prod.snd

theorem distinct_filter (files : FileSystem) (keep : Location × Entry → Bool) :
    ((files.entries.filter keep).map Prod.fst).Nodup :=
  files.distinct.sublist (List.Sublist.map _ List.filter_sublist)

def filter (files : FileSystem) (keep : Location → Bool) : FileSystem where
  entries := files.entries.filter fun entry => keep entry.1
  distinct := files.distinct_filter _

def erase (files : FileSystem) (location : Location) : FileSystem :=
  files.filter (· ≠ location)

def eraseTree (files : FileSystem) (location : Location) : FileSystem :=
  files.filter fun other => !location.isSuffixOf other

def put (files : FileSystem) (location : Location) (entry : Entry) : FileSystem where
  entries := (files.erase location).entries ++ [(location, entry)]
  distinct := by
    rw [List.map_append, List.nodup_append]
    refine ⟨(files.erase location).distinct, by simp, ?_⟩
    intro first inOthers second inLast
    simp only [List.map_cons, List.map_nil, List.mem_singleton] at inLast
    subst inLast
    obtain ⟨other, member, rfl⟩ := List.mem_map.1 inOthers
    simpa using (List.mem_filter.1 member).2

def listing (files : FileSystem) (directory : Location) : List Bytes :=
  files.entries.filterMap fun entry =>
    match entry.1 with
    | .plain name :: parent => if parent = directory then some name else none
    | _ => none

def freshSerial (files : FileSystem) : Nat :=
  files.entries.foldl (fun bound entry =>
    match entry.1 with
    | .temporary serial :: _ => max bound (serial + 1)
    | _ => bound) 0

theorem find?_entries_filter (files : FileSystem) (keep : Location → Bool) (location : Location) :
    (files.entries.filter fun entry => keep entry.1).find? (fun entry => entry.1 = location) =
      if keep location then files.entries.find? (fun entry => entry.1 = location) else none := by
  rw [List.find?_filter]
  cases kept : keep location with
  | true =>
    rw [if_pos rfl]
    congr 1
    funext entry
    by_cases same : entry.1 = location <;> simp [same, kept]
  | false =>
    simp only [Bool.false_eq_true, if_false, List.find?_eq_none]
    intro entry _
    by_cases same : entry.1 = location <;> simp [same, kept]

theorem get?_filter (files : FileSystem) (keep : Location → Bool) (name : EntryName)
    (parent : Location) :
    (files.filter keep).get? (name :: parent) =
      if keep (name :: parent) then files.get? (name :: parent) else none := by
  simp only [get?, filter, find?_entries_filter]
  split <;> rfl

theorem get?_erase (files : FileSystem) (location : Location) (name : EntryName)
    (parent : Location) :
    (files.erase location).get? (name :: parent) =
      if name :: parent = location then none else files.get? (name :: parent) := by
  rw [erase, get?_filter]
  by_cases same : name :: parent = location <;> simp [same]

theorem get?_put (files : FileSystem) (location : Location) (entry : Entry) (name : EntryName)
    (parent : Location) :
    (files.put location entry).get? (name :: parent) =
      if name :: parent = location then some entry else files.get? (name :: parent) := by
  have erased := get?_erase files location name parent
  simp only [get?] at erased ⊢
  simp only [put, List.find?_append]
  by_cases same : name :: parent = location
  · subst same
    simp only [if_true, Option.map_eq_none_iff] at erased ⊢
    simp [erased]
  · simp only [same, if_false] at erased ⊢
    rw [← erased]
    simp [Ne.symm same]

end FileSystem

end Retag
