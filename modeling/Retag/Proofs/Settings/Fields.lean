import Retag.Proofs.Toml.Keys
import Retag.Settings.Decode

/-! Fields of a section and what they change. A field that is the only one of its section to change
something decides that alone: by the value under its key, or at its place where the section is an array.
-/

set_option autoImplicit false

namespace Retag.Settings

open Toml (Node Key Entries)

variable {Section Value : Type}

/-- Where a section holds a field's value: under its key, or at its place. -/
def valueOf? (key : String) (place : Nat) : Node → Option Node
  | .table _ _ entries => Toml.Entries.get? key entries
  | .array _ items => items[place]?
  | .tables items => items[place]?
  | _ => none

namespace Field

def Keeps (field : Field Section) (read : Section → Value) : Prop :=
  ∀ node state after, field.accept node state = .ok after → read after = read state

/-- What a section comes to where nothing but this field changes what is read. -/
def Sets (field : Field Section) (read : Section → Value) (node? : Option Node) (state final : Section) :
    Prop :=
  match node? with
  | none => read final = read state
  | some node => ∃ before after, field.accept node before = .ok after ∧
      read before = read state ∧ read final = read after

theorem Sets.of_some {field : Field Section} {read : Section → Value} {node? : Option Node}
    {node : Node} {before after final state : Section} (given : node? = some node)
    (accepted : field.accept node before = .ok after) (start : read before = read state)
    (rest : read final = read after) : field.Sets read node? state final := by
  subst given
  exact ⟨before, after, accepted, start, rest⟩

theorem Sets.congr {field : Field Section} {read : Section → Value} {node? : Option Node}
    {state final first last : Section} (start : read state = read first) (rest : read last = read final)
    (sets : field.Sets read node? state final) : field.Sets read node? first last := by
  cases node? with
  | none => exact rest.trans (sets.trans start)
  | some node =>
    obtain ⟨before, after, accepted, begun, done⟩ := sets
    exact ⟨before, after, accepted, begun.trans start, rest.trans done⟩

theorem accept_of_acceptAt {field : Field Section} {span? : Option Toml.Span} {node : Node}
    {state after : Section} (accepted : field.acceptAt span? node state = .ok after) :
    field.accept node state = .ok after := by
  unfold acceptAt at accepted
  cases reached : field.accept node state with
  | error error =>
    rw [reached] at accepted
    cases accepted
  | ok found =>
    rw [reached] at accepted
    exact accepted

theorem Keeps.acceptAt {field : Field Section} {read : Section → Value} (keeps : field.Keeps read)
    {span? : Option Toml.Span} {node : Node} {state after : Section}
    (accepted : field.acceptAt span? node state = .ok after) : read after = read state :=
  keeps _ _ _ (accept_of_acceptAt accepted)

end Field

/-- Of these fields only the one at `place` may change what is read. -/
structure Governs (fields : List (Field Section)) (place : Nat) (field : Field Section)
    (read : Section → Value) : Prop where
  placed : fields[place]? = some field
  distinct : (fields.map Field.key).Nodup
  others : ∀ other ∈ fields, other.key ≠ field.key → other.Keeps read

/-! ## Fields that change nothing -/

section

variable {fields : List (Field Section)} {read : Section → Value} {state final : Section}

theorem acceptEntries_keeps {entries : Entries}
    (keeps : ∀ field ∈ fields, (∃ entry ∈ entries, entry.1.name = field.key) → field.Keeps read)
    (accepted : acceptEntries fields entries state = .ok final) : read final = read state := by
  induction entries generalizing state with
  | nil =>
    cases accepted
    rfl
  | cons entry rest ih =>
    obtain ⟨key, node⟩ := entry
    have below : ∀ field ∈ fields, (∃ entry ∈ rest, entry.1.name = field.key) → field.Keeps read :=
      fun field among ⟨entry, present, named⟩ =>
        keeps field among ⟨entry, List.mem_cons_of_mem _ present, named⟩
    unfold acceptEntries at accepted
    split at accepted
    · exact ih below accepted
    · next field found =>
      split at accepted
      · cases accepted
      · next middle first =>
        have named : field.key = key.name := by simpa using List.find?_some found
        have kept := keeps field (List.mem_of_find?_eq_some found) ⟨_, List.mem_cons_self, named.symm⟩
        exact (ih below accepted).trans (kept.acceptAt first)

theorem acceptItems_keeps {items : List Node} (keeps : ∀ field ∈ fields, field.Keeps read)
    (accepted : acceptItems fields items state = .ok final) : read final = read state := by
  induction fields generalizing items state with
  | nil =>
    cases items <;> cases accepted <;> rfl
  | cons field fields ih =>
    cases items with
    | nil =>
      cases accepted
      rfl
    | cons item items =>
      unfold acceptItems at accepted
      split at accepted
      · cases accepted
      · next middle first =>
        have kept := (keeps field List.mem_cons_self).acceptAt first
        exact (ih (fun other among => keeps other (List.mem_cons_of_mem _ among)) accepted).trans kept

theorem bare_of_within {span? : Option Toml.Span} {outcome : Decoded Section}
    (accepted : outcome.mapError (·.within span?) = .ok final) : outcome = .ok final := by
  cases outcome with
  | error error => cases accepted
  | ok reached => exact accepted

theorem acceptSection_keeps {name : String} {node : Node} (keeps : ∀ field ∈ fields, field.Keeps read)
    (accepted : acceptSection name fields state node = .ok final) : read final = read state := by
  have bare := bare_of_within accepted
  split at bare
  · exact acceptEntries_keeps (fun field among _ => keeps field among) bare
  · exact acceptItems_keeps keeps bare
  · exact acceptItems_keeps keeps bare
  · cases bare
    rfl
  · cases bare

end

/-! ## The field that decides -/

namespace Governs

variable {fields : List (Field Section)} {place : Nat} {field : Field Section} {read : Section → Value}
  {state final : Section}

theorem mem (governs : Governs fields place field read) : field ∈ fields :=
  List.mem_of_getElem? governs.placed

theorem find? (governs : Governs fields place field read) :
    fields.find? (fun other => other.key = field.key) = some field := by
  cases found : fields.find? (fun other => other.key = field.key) with
  | none =>
    have none := List.find?_eq_none.1 found field governs.mem
    simp at none
  | some other =>
    have named : other.key = field.key := by simpa using List.find?_some found
    rw [List.inj_on_of_nodup_map governs.distinct (List.mem_of_find?_eq_some found) governs.mem named]

theorem entries (governs : Governs fields place field read) {entries : Entries}
    (distinct : (entries.map fun entry => entry.1.name).Nodup)
    (accepted : acceptEntries fields entries state = .ok final) :
    field.Sets read (Toml.Entries.get? field.key entries) state final := by
  induction entries generalizing state with
  | nil =>
    cases accepted
    rfl
  | cons entry rest ih =>
    obtain ⟨key, node⟩ := entry
    rw [List.map_cons, List.nodup_cons] at distinct
    unfold acceptEntries at accepted
    by_cases named : key.name = field.key
    · rw [named, governs.find?] at accepted
      have given : Toml.Entries.get? field.key ((key, node) :: rest) = some node := by
        simp [Toml.Entries.get?, named]
      cases first : field.acceptAt (some key.span) node state with
      | error error => simp [first] at accepted
      | ok middle =>
        simp only [first] at accepted
        refine .of_some given (Field.accept_of_acceptAt first) rfl (acceptEntries_keeps ?_ accepted)
        rintro other among ⟨entry, present, same⟩
        -- The keys behind this one have other names.
        refine governs.others other among fun alike => distinct.1 ?_
        rw [named, ← alike, ← same]
        exact List.mem_map_of_mem present
    · have passed : Toml.Entries.get? field.key ((key, node) :: rest) = Toml.Entries.get? field.key rest := by
        simp [Toml.Entries.get?, named]
      rw [passed]
      split at accepted
      · exact ih distinct.2 accepted
      · next other found =>
        split at accepted
        · cases accepted
        · next middle first =>
          have same : other.key = key.name := by simpa using List.find?_some found
          have kept := governs.others other (List.mem_of_find?_eq_some found) (same ▸ named)
          exact (ih distinct.2 accepted).congr (kept.acceptAt first) rfl

theorem items (governs : Governs fields place field read) {items : List Node}
    (accepted : acceptItems fields items state = .ok final) : field.Sets read items[place]? state final := by
  induction fields generalizing place items state with
  | nil => cases governs.placed
  | cons head fields ih =>
    cases items with
    | nil =>
      cases accepted
      rfl
    | cons item items =>
      unfold acceptItems at accepted
      split at accepted
      · cases accepted
      · next middle first =>
        have distinct := List.nodup_cons.1 governs.distinct
        cases place with
        | zero =>
          cases governs.placed
          refine .of_some rfl (Field.accept_of_acceptAt first) rfl (acceptItems_keeps ?_ accepted)
          intro other among
          refine governs.others other (List.mem_cons_of_mem _ among) fun alike => distinct.1 ?_
          rw [← alike]
          exact List.mem_map_of_mem among
        | succ place =>
          have placed : fields[place]? = some field := governs.placed
          have below : Governs fields place field read :=
            ⟨placed, distinct.2, fun other among => governs.others other (List.mem_cons_of_mem _ among)⟩
          have kept : head.Keeps read := by
            refine governs.others head List.mem_cons_self fun alike => distinct.1 ?_
            rw [alike]
            exact List.mem_map_of_mem below.mem
          exact (ih below accepted).congr (kept.acceptAt first) rfl

theorem ofSection (governs : Governs fields place field read) {name : String} {node : Node}
    (distinct : node.Distinct) (accepted : acceptSection name fields state node = .ok final) :
    field.Sets read (valueOf? field.key place node) state final := by
  have bare := bare_of_within accepted
  split at bare
  · exact governs.entries (Toml.Entries.distinct_table_iff.1 distinct).names bare
  · exact governs.items bare
  · exact governs.items bare
  · cases bare
    rfl
  · cases bare

theorem within (governs : Governs fields place field read) {outer : Field Section} {name : String}
    (accepts : ∀ node state, outer.accept node state = acceptSection name fields state node)
    {node? : Option Node} (distinct : ∀ node, node? = some node → node.Distinct)
    (sets : outer.Sets read node? state final) :
    field.Sets read (node?.bind (valueOf? field.key place)) state final := by
  cases node? with
  | none => exact sets
  | some node =>
    obtain ⟨before, after, accepted, start, rest⟩ := sets
    rw [accepts] at accepted
    exact (governs.ofSection (distinct node rfl) accepted).congr start rest

end Governs

/-! ## Fields that decode a value -/

section

variable {Raw : Type} {field : Field Section} {decode : Node → Decoded Raw}
  {change : Raw → Section → Section} {read : Section → Value}

theorem Field.keeps_of_change
    (accepts : ∀ node state, field.accept node state = (decode node).map fun raw => change raw state)
    (same : ∀ raw state, read (change raw state) = read state) : field.Keeps read := by
  intro node state after accepted
  rw [accepts] at accepted
  cases decoded : decode node with
  | error error =>
    rw [decoded] at accepted
    cases accepted
  | ok raw =>
    rw [decoded] at accepted
    cases accepted
    exact same raw state

theorem Field.Sets.value
    (accepts : ∀ node state, field.accept node state = (decode node).map fun raw => change raw state)
    {put : Raw → Value} (puts : ∀ raw state, read (change raw state) = put raw) {node? : Option Node}
    {state final : Section} (sets : field.Sets read node? state final) :
    ∃ raw? : Option Raw, node?.map (fun node => (decode node).toOption) = raw?.map some ∧
      read final = raw?.elim (read state) put := by
  cases node? with
  | none => exact ⟨none, rfl, sets⟩
  | some node =>
    obtain ⟨before, after, accepted, -, rest⟩ := sets
    rw [accepts] at accepted
    cases decoded : decode node with
    | error error =>
      rw [decoded] at accepted
      cases accepted
    | ok raw =>
      rw [decoded] at accepted
      cases accepted
      refine ⟨some raw, ?_, rest.trans (puts raw before)⟩
      rw [Option.map_some, decoded]
      rfl

end

end Retag.Settings
