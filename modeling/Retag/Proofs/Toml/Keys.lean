import Mathlib.Data.List.Nodup
import Retag.Proofs.Toml.Tables

/-! No table of a document that was read holds two keys of one name. Keys are only added where their name is
free, and all other changes of a table leave its names as they are or take some away.
-/

set_option autoImplicit false

namespace Retag.Toml

/-- No table in the value holds a name twice, at any depth. -/
inductive Node.Distinct : Node → Prop where
  | text (span : Span) (value : String) : Distinct (.text span value)
  | integer (span : Span) (value : Int) : Distinct (.integer span value)
  | float (span : Span) (value : Binary64) : Distinct (.float span value)
  | boolean (span : Span) (value : Bool) : Distinct (.boolean span value)
  | moment (span : Span) : Distinct (.moment span)
  | array {span : Span} {items : List Node} : (∀ item ∈ items, Distinct item) →
      Distinct (.array span items)
  | table {span? : Option Span} {form : Form} {entries : List (Key × Node)} :
      (entries.map fun entry => entry.1.name).Nodup → (∀ entry ∈ entries, Distinct entry.2) →
      Distinct (.table span? form entries)
  | tables {items : List Node} : (∀ item ∈ items, Distinct item) → Distinct (.tables items)

namespace Entries

structure Distinct (entries : Entries) : Prop where
  names : (entries.map fun entry => entry.1.name).Nodup
  values : ∀ entry ∈ entries, entry.2.Distinct

theorem distinct_table_iff {span? : Option Span} {form : Form} {entries : Entries} :
    (Node.table span? form entries).Distinct ↔ entries.Distinct := by
  constructor
  · rintro ⟨⟩
    exact ⟨‹_›, ‹_›⟩
  · rintro ⟨names, values⟩
    exact .table names values

theorem Distinct.get? {entries : Entries} (distinct : entries.Distinct) {name : String} {node : Node}
    (found : entries.get? name = some node) : node.Distinct := by
  obtain ⟨key, among, -⟩ := mem_of_get? found
  exact distinct.values _ among

theorem get?_eq_none_iff {name : String} {entries : Entries} :
    entries.get? name = none ↔ name ∉ entries.map fun entry => entry.1.name := by
  rw [get?, Option.map_eq_none_iff, List.find?_eq_none]
  simp

def NamesApart (entries : Entries) : Prop := (entries.map fun entry => entry.1.name).Nodup

theorem map_name_replace (name : String) (node : Node) (entries : Entries) :
    (entries.replace name node).map (fun entry => entry.1.name) = entries.map fun entry => entry.1.name := by
  rw [Entries.replace, List.map_map]
  refine List.map_congr_left fun entry _ => ?_
  rw [Function.comp_apply]
  split <;> rfl

theorem namesApart_grows : Grows (fun _ => True) NamesApart where
  nil := List.nodup_nil
  concat node apart fresh _ := by
    rw [NamesApart, List.map_append, List.map_singleton, ← List.concat_eq_append, List.nodup_concat]
    exact ⟨get?_eq_none_iff.1 fresh, apart⟩
  replace name node apart := by
    rw [NamesApart, map_name_replace]
    exact apart
  remove _ apart := apart.sublist (List.filter_sublist.map _)

end Entries

theorem Node.Every.distinct {node : Node} (every : node.Every Entries.NamesApart) : node.Distinct := by
  induction every with
  | text span value => exact .text span value
  | integer span value => exact .integer span value
  | float span value => exact .float span value
  | boolean span value => exact .boolean span value
  | moment span => exact .moment span
  | array _ ih => exact .array ih
  | table apart _ ih => exact .table apart ih
  | tables _ ih => exact .tables ih

/-- A document that is TOML gives no key twice. -/
theorem parse?_distinct {content : String} {document : Entries} (read : parse? content = some document) :
    document.Distinct := by
  have every := parse?_every Entries.namesApart_grows
    (fun _ _ _ inside found => ⟨trivial, (simpleKey_takesOnLine.takesFront _ _ _ found).trans inside⟩) read
  exact ⟨every.here, fun entry among => (every.below entry among).distinct⟩

end Retag.Toml
