import Retag.Proofs.Text.Places
import Retag.Rule.Table

/-! What a table reports. A rule is reported if its pattern occurs in the line as the rules in front of it
left it; as long as nothing is reported that is the line itself, which is then handed back and not a line of
its own. Rules of two tables one behind the other report what the two report one after the other.
-/

set_option autoImplicit false

namespace Retag

namespace Rule

variable {rule : Rule} {line : Bytes}

def OccursIn (rule : Rule) (line : Bytes) : Prop := Bytes.ofText rule.pattern <:+: line

theorem replaceBytes?_eq_none_iff : rule.replaceBytes? line = none ↔ ¬ rule.OccursIn line := by
  rw [replaceBytes?, Occurrence.replaceFirst?, Option.map_eq_none_iff, Occurrence.splitFirst_eq_none_iff,
    OccursIn]

theorem replaceBytes?_eq_some_iff {next : Bytes} : rule.replaceBytes? line = some next ↔
    ∃ before rest, Occurrence.splitFirst (Bytes.ofText rule.pattern) line = some (before, rest) ∧
      before ++ Bytes.ofText rule.replacement ++ rest = next := by
  simp [replaceBytes?, Occurrence.replaceFirst?]

theorem occursIn_of_replaceBytes? {next : Bytes} (replaced : rule.replaceBytes? line = some next) :
    rule.OccursIn line := by
  by_contra absent
  rw [replaceBytes?_eq_none_iff.2 absent] at replaced
  cases replaced

end Rule

namespace Table

variable {rule : Rule} {table : Table} {line next : Bytes}

/-! ## Rules one after another -/

theorem retagFrom_eq (index : Nat) (table : Table) (line : Bytes) : retagFrom index table line =
    ⟨(table.retag line).bytes, (table.retag line).hits.map (· + index)⟩ := by
  induction table generalizing index line with
  | nil => rfl
  | cons rule table ih =>
    have onward := ih (index + 1)
    have fromOne := ih 1
    simp only [retag, retagFrom, Nat.zero_add] at onward fromOne ⊢
    cases rule.replaceBytes? line with
    | none => simp [onward, fromOne, Nat.add_comm, Nat.add_left_comm]
    | some next => simp [onward, fromOne, Nat.add_comm, Nat.add_left_comm]

@[simp] theorem retag_nil (line : Bytes) : retag [] line = ⟨line, []⟩ := rfl

theorem retag_cons_of_none (absent : rule.replaceBytes? line = none) : retag (rule :: table) line =
    ⟨(table.retag line).bytes, (table.retag line).hits.map (· + 1)⟩ := by
  simp [retag, retagFrom, absent, retagFrom_eq 1]

theorem retag_cons_of_some (replaced : rule.replaceBytes? line = some next) : retag (rule :: table) line =
    ⟨(table.retag next).bytes, 0 :: (table.retag next).hits.map (· + 1)⟩ := by
  simp [retag, retagFrom, replaced, retagFrom_eq 1]

theorem map_shift (hits : List Nat) (first second : Nat) :
    (hits.map (· + first)).map (· + second) = hits.map (· + (first + second)) := by
  rw [List.map_map]
  exact List.map_congr_left fun number _ => Nat.add_assoc number first second

theorem retag_append (first second : Table) (line : Bytes) : (first ++ second).retag line =
    ⟨(second.retag (first.retag line).bytes).bytes, (first.retag line).hits ++
      (second.retag (first.retag line).bytes).hits.map (· + first.length)⟩ := by
  induction first generalizing line with
  | nil => simp
  | cons rule first ih =>
    rw [List.cons_append]
    cases replaced : rule.replaceBytes? line with
    | none =>
      rw [retag_cons_of_none replaced, retag_cons_of_none replaced, ih]
      simp only [List.map_append, map_shift, List.length_cons]
    | some next =>
      rw [retag_cons_of_some replaced, retag_cons_of_some replaced, ih]
      simp only [List.map_append, map_shift, List.length_cons, List.cons_append]

/-! ## Reported positions -/

theorem pairwise_hits (table : Table) (line : Bytes) : (table.retag line).hits.Pairwise (· < ·) := by
  induction table generalizing line with
  | nil => exact .nil
  | cons rule table ih =>
    cases replaced : rule.replaceBytes? line with
    | none => simpa [retag_cons_of_none replaced, List.pairwise_map] using ih line
    | some next => simpa [retag_cons_of_some replaced, List.pairwise_map] using ih next

theorem mem_hits_iff {index : Nat} : index ∈ (table.retag line).hits ↔
    ∃ rule, table[index]? = some rule ∧ rule.OccursIn (retag (table.take index) line).bytes := by
  induction table generalizing index line with
  | nil => simp
  | cons rule table ih =>
    cases replaced : rule.replaceBytes? line with
    | none =>
      have absent := Rule.replaceBytes?_eq_none_iff.1 replaced
      cases index with
      | zero => simpa [retag_cons_of_none replaced] using absent
      | succ index => simp [retag_cons_of_none replaced, ih]
    | some next =>
      have stands := Rule.occursIn_of_replaceBytes? replaced
      cases index with
      | zero => simpa [retag_cons_of_some replaced] using stands
      | succ index => simp [retag_cons_of_some replaced, ih]

theorem hits_eq_nil_iff : (table.retag line).hits = [] ↔ ∀ rule ∈ table, ¬ rule.OccursIn line := by
  induction table with
  | nil => simp
  | cons rule table ih =>
    rw [List.forall_mem_cons, ← Rule.replaceBytes?_eq_none_iff, ← ih]
    cases replaced : rule.replaceBytes? line with
    | none => simp [retag_cons_of_none replaced]
    | some next => simp [retag_cons_of_some replaced]

theorem bytes_of_hits_eq_nil (silent : (table.retag line).hits = []) : (table.retag line).bytes = line := by
  induction table with
  | nil => rfl
  | cons rule table ih =>
    cases replaced : rule.replaceBytes? line with
    | none => simp_all [retag_cons_of_none replaced]
    | some next => simp [retag_cons_of_some replaced] at silent

theorem forall_before_cons {index : Nat} {property : Rule → Prop} :
    (∀ earlier < index + 1, ∀ other, (rule :: table)[earlier]? = some other → property other) ↔
      property rule ∧ ∀ earlier < index, ∀ other, table[earlier]? = some other → property other := by
  rw [Nat.forall_lt_succ_left']
  simp only [List.getElem?_cons_zero, List.getElem?_cons_succ, Option.some.injEq, forall_eq']

theorem head?_hits_eq_some_iff {index : Nat} : (table.retag line).hits.head? = some index ↔
    (∃ rule, table[index]? = some rule ∧ rule.OccursIn line) ∧
      ∀ earlier < index, ∀ rule, table[earlier]? = some rule → ¬ rule.OccursIn line := by
  induction table generalizing index with
  | nil => simp
  | cons rule table ih =>
    cases replaced : rule.replaceBytes? line with
    | none =>
      have absent := Rule.replaceBytes?_eq_none_iff.1 replaced
      cases index with
      | zero => simp [retag_cons_of_none replaced, absent]
      | succ index =>
        rw [forall_before_cons]
        simp [retag_cons_of_none replaced, ih, absent]
    | some next =>
      have stands := Rule.occursIn_of_replaceBytes? replaced
      cases index with
      | zero => simp [retag_cons_of_some replaced, stands]
      | succ index =>
        rw [forall_before_cons]
        simp [retag_cons_of_some replaced, stands]

/-! ## The line handed back -/

/-- A line on its way through the rules: still the one handed in, or one that a rule made. -/
inductive Carried where
  | given
  | made (bytes : Bytes)
  deriving DecidableEq, Repr

def Carried.bytes (line : Bytes) : Carried → Bytes
  | .given => line
  | .made bytes => bytes

def carryOne (line : Bytes) (state : Carried × List Nat) (numbered : Rule × Nat) : Carried × List Nat :=
  match numbered.1.replaceBytes? (state.1.bytes line) with
  | none => state
  | some next => (.made next, state.2 ++ [numbered.2])

/-- The rules as one loop over the numbered table, with what is handed back at its end. -/
def carry (table : Table) (line : Bytes) : Carried × List Nat :=
  table.zipIdx.foldl (carryOne line) (.given, [])

theorem foldl_carryOne (table : Table) (line : Bytes) (index : Nat) (carried : Carried) (numbers : List Nat) :
    (table.zipIdx index).foldl (carryOne line) (carried, numbers) =
      (if (table.retag (carried.bytes line)).hits = [] then carried
        else .made (table.retag (carried.bytes line)).bytes,
        numbers ++ (table.retag (carried.bytes line)).hits.map (· + index)) := by
  induction table generalizing index carried numbers with
  | nil => simp
  | cons rule table ih =>
    rw [List.zipIdx_cons, List.foldl_cons, carryOne]
    cases replaced : rule.replaceBytes? (carried.bytes line) with
    | none =>
      dsimp only
      rw [ih, retag_cons_of_none replaced, map_shift, Nat.add_comm 1]
      simp only [List.map_eq_nil_iff]
    | some next =>
      dsimp only
      rw [ih, retag_cons_of_some replaced, List.map_cons, map_shift, Nat.add_comm 1, Nat.zero_add,
        List.append_assoc, List.singleton_append]
      -- From here on the line is one that a rule made, and stays so whether or not another one matches.
      have made : Carried.bytes line (.made next) = next := rfl
      by_cases silent : (retag table next).hits = []
      · simp [made, silent, bytes_of_hits_eq_nil silent]
      · simp [made, silent]

theorem carry_eq (table : Table) (line : Bytes) : table.carry line =
    (if (table.retag line).hits = [] then .given else .made (table.retag line).bytes, (table.retag line).hits) := by
  rw [carry, foldl_carryOne]
  simp only [Nat.add_zero, List.map_id', List.nil_append]
  rfl

theorem retag_eq_carry (table : Table) (line : Bytes) :
    table.retag line = ⟨(table.carry line).1.bytes line, (table.carry line).2⟩ := by
  rw [carry_eq]
  by_cases silent : (table.retag line).hits = []
  · rw [if_pos silent]
    exact congrArg (Retagged.mk · _) (bytes_of_hits_eq_nil silent)
  · rw [if_neg silent]
    rfl

/-- What a table reports about every line: the reports are in order, each is about the line as the rules in
front left it, and the first one about the line as it came; without one the line itself is handed back. The
last statement cuts a table anywhere. -/
theorem retag_reports_matches (table : Table) (line : Bytes) :
    table.retag line = ⟨(table.carry line).1.bytes line, (table.carry line).2⟩ ∧
    (table.retag line).hits.Pairwise (· < ·) ∧
    (∀ index, index ∈ (table.retag line).hits ↔
      ∃ rule, table[index]? = some rule ∧ rule.OccursIn (retag (table.take index) line).bytes) ∧
    (table.carry line = (.given, []) ↔ ∀ rule ∈ table, ¬ rule.OccursIn line) ∧
    ((table.carry line).1 = .given ↔ (table.carry line).2 = []) ∧
    (∀ index, (table.retag line).hits.head? = some index ↔
      (∃ rule, table[index]? = some rule ∧ rule.OccursIn line) ∧
        ∀ earlier < index, ∀ rule, table[earlier]? = some rule → ¬ rule.OccursIn line) ∧
    ∀ first second : Table, table = first ++ second →
      table.retag line = ⟨(second.retag (first.retag line).bytes).bytes, (first.retag line).hits ++
        (second.retag (first.retag line).bytes).hits.map (· + first.length)⟩ := by
  have handed := carry_eq table line
  refine ⟨retag_eq_carry table line, pairwise_hits table line, fun _ => mem_hits_iff, ?_, ?_,
    fun _ => head?_hits_eq_some_iff, ?_⟩
  · rw [← hits_eq_nil_iff, handed]
    simp
  · rw [handed]
    simp
  · rintro first second rfl
    exact retag_append first second line

end Table

end Retag
