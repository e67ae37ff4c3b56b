import Retag.Proofs.Conversion.Reread
import Retag.Proofs.Rule.Hits

/-! Where the bytes of an output come from. A match takes its pattern out of a line and puts its replacement
in, so the matches that a tally counts say by how much the output is longer or shorter than the lines of the
source and their terminators. A rule matches at most once on a line, and a line without a match stays as it is.
-/

set_option autoImplicit false

namespace Retag

def Table.valueAt (value : Rule → Nat) (table : Table) (index : Nat) : Nat := table[index]?.elim 0 value

/-- Over all rules, how often each one matched times a number that belongs to it. -/
def Table.weigh (value : Rule → Nat) (table : Table) (counts : List Nat) : Nat :=
  (List.zipWith (fun count rule => count * value rule) counts table).sum

namespace Rule

def patternLength (rule : Rule) : Nat := (Bytes.ofText rule.pattern).length

def replacementLength (rule : Rule) : Nat := (Bytes.ofText rule.replacement).length

theorem length_replaceBytes? {rule : Rule} {line next : Bytes}
    (replaced : rule.replaceBytes? line = some next) :
    next.length + rule.patternLength = line.length + rule.replacementLength := by
  obtain ⟨⟨before, rest⟩, split, rfl⟩ := Option.map_eq_some_iff.1 replaced
  have whole := congrArg List.length (Occurrence.eq_of_splitFirst split)
  simp only [List.length_append, patternLength, replacementLength] at whole ⊢
  omega

end Rule

namespace Table

variable {rule : Rule} {table : Table} {line : Bytes} (value : Rule → Nat)

@[simp] theorem valueAt_zero : valueAt value (rule :: table) 0 = value rule := rfl

@[simp] theorem valueAt_succ (index : Nat) :
    valueAt value (rule :: table) (index + 1) = valueAt value table index := rfl

theorem sum_valueAt_shifted (hits : List Nat) :
    ((hits.map (· + 1)).map (valueAt value (rule :: table))).sum = (hits.map (valueAt value table)).sum := by
  rw [List.map_map]
  rfl

theorem length_retag (table : Table) (line : Bytes) :
    (table.retag line).bytes.length + ((table.retag line).hits.map (valueAt Rule.patternLength table)).sum =
      line.length + ((table.retag line).hits.map (valueAt Rule.replacementLength table)).sum := by
  induction table generalizing line with
  | nil => rfl
  | cons rule table ih =>
    cases replaced : rule.replaceBytes? line with
    | none =>
      rw [retag_cons_of_none replaced, sum_valueAt_shifted, sum_valueAt_shifted]
      exact ih line
    | some next =>
      have rest := ih next
      have changed := Rule.length_replaceBytes? replaced
      rw [retag_cons_of_some replaced]
      simp only [List.map_cons, List.sum_cons, valueAt_zero, sum_valueAt_shifted]
      omega

theorem lt_of_mem_hits {index : Nat} (hit : index ∈ (table.retag line).hits) : index < table.length := by
  obtain ⟨rule, placed, -⟩ := mem_hits_iff.1 hit
  exact (List.getElem?_eq_some_iff.1 placed).1

theorem count_hits (table : Table) (line : Bytes) (index : Nat) :
    (table.retag line).hits.count index = if index ∈ (table.retag line).hits then 1 else 0 :=
  List.Nodup.count ((pairwise_hits table line).imp Nat.ne_of_lt)

/-! ## Counting matches -/

theorem weigh_modify (index : Nat) {counts : List Nat} (same : counts.length = table.length) :
    weigh value table (counts.modify index (· + 1)) = weigh value table counts + valueAt value table index := by
  induction table generalizing counts index with
  | nil =>
    cases List.length_eq_zero_iff.1 same
    cases index <;> rfl
  | cons rule table ih =>
    cases counts with
    | nil => cases same
    | cons count counts =>
      have same : counts.length = table.length := Nat.succ.inj same
      cases index with
      | zero =>
        simp only [weigh, List.modify_zero_cons, List.zipWith_cons_cons, List.sum_cons, valueAt_zero,
          Nat.add_mul, Nat.one_mul]
        omega
      | succ index =>
        have rest := ih index same
        simp only [weigh, List.modify_succ_cons, List.zipWith_cons_cons, List.sum_cons, valueAt_succ] at rest ⊢
        omega

end Table

namespace Document

open Table (weigh valueAt weigh_modify)

namespace Tally

variable {table : Table} (value : Rule → Nat)

theorem length_addHits (counts hits : List Nat) : (addHits counts hits).length = counts.length := by
  induction hits generalizing counts with
  | nil => rfl
  | cons index hits ih => exact (ih _).trans (List.length_modify ..)

theorem weigh_addHits (hits : List Nat) {counts : List Nat} (same : counts.length = table.length) :
    weigh value table (addHits counts hits) =
      weigh value table counts + (hits.map (valueAt value table)).sum := by
  induction hits generalizing counts with
  | nil => rfl
  | cons index hits ih =>
    have same' : (counts.modify index (· + 1)).length = table.length := by
      rw [List.length_modify, same]
    have rest := ih same'
    rw [weigh_modify value index same] at rest
    rw [addHits, List.foldl_cons, List.map_cons, List.sum_cons, ← Nat.add_assoc]
    exact rest

theorem getElem?_addHits (counts hits : List Nat) (index : Nat) :
    (addHits counts hits)[index]? = counts[index]?.map (· + hits.count index) := by
  induction hits generalizing counts with
  | nil => simp [addHits]
  | cons hit hits ih =>
    have rest := ih (counts.modify hit (· + 1))
    rw [addHits, List.foldl_cons]
    refine rest.trans ?_
    rw [List.getElem?_modify, List.count_cons]
    cases counts[index]? with
    | none => rfl
    | some count =>
      by_cases here : hit = index
      · simp [here, Nat.add_assoc, Nat.add_comm 1]
      · simp [here]

variable (tally : Tally) (lines : List Bytes)

theorem length_ruleHits_addLines :
    (tally.addLines table lines).ruleHits.length = tally.ruleHits.length := by
  induction lines generalizing tally with
  | nil => rfl
  | cons line lines ih => exact (ih _).trans (length_addHits _ _)

theorem weigh_addLines (same : tally.ruleHits.length = table.length) :
    weigh value table (tally.addLines table lines).ruleHits = weigh value table tally.ruleHits +
      (lines.map fun line => ((table.retag line).hits.map (valueAt value table)).sum).sum := by
  induction lines generalizing tally with
  | nil => rfl
  | cons line lines ih =>
    have same' : (tally.add line (table.retag line)).ruleHits.length = table.length :=
      (length_addHits _ _).trans same
    have rest := ih _ same'
    rw [show (tally.add line (table.retag line)).ruleHits =
      addHits tally.ruleHits (table.retag line).hits from rfl, weigh_addHits value _ same] at rest
    rw [addLines, List.foldl_cons, List.map_cons, List.sum_cons, ← Nat.add_assoc]
    exact rest

theorem ruleHits_addLines (index : Nat) : (tally.addLines table lines).ruleHits[index]? =
    tally.ruleHits[index]?.map (· + lines.countP fun line => index ∈ (table.retag line).hits) := by
  induction lines generalizing tally with
  | nil => simp [addLines]
  | cons line lines ih =>
    have rest := ih (tally.add line (table.retag line))
    have counted : (tally.add line (table.retag line)).ruleHits[index]? =
        tally.ruleHits[index]?.map (· + (table.retag line).hits.count index) := getElem?_addHits _ _ index
    rw [counted, table.count_hits] at rest
    rw [addLines, List.foldl_cons]
    refine rest.trans ?_
    cases tally.ruleHits[index]? with
    | none => rfl
    | some count => simp [List.countP_cons, Nat.add_assoc, Nat.add_comm]

end Tally

variable (table : Table) (ending : LineEnding) (content : Bytes)

theorem ruleHits_retag : (retag table ending content).2.ruleHits =
    ((Tally.start table).addLines table (cutLines content)).ruleHits := by
  rw [retag_eq]

theorem length_ruleHits_retag : (retag table ending content).2.ruleHits.length = table.length := by
  rw [ruleHits_retag, Tally.length_ruleHits_addLines, Tally.start, List.length_replicate]

theorem weigh_start (value : Rule → Nat) : weigh value table (Tally.start table).ruleHits = 0 := by
  rw [Tally.start]
  induction table with
  | nil => rfl
  | cons rule table ih => simpa [weigh, List.replicate_succ] using ih

theorem weigh_retag (value : Rule → Nat) : weigh value table (retag table ending content).2.ruleHits =
    ((cutLines content).map fun line => ((table.retag line).hits.map (valueAt value table)).sum).sum := by
  rw [ruleHits_retag, Tally.weigh_addLines value _ _ (List.length_replicate ..), weigh_start, Nat.zero_add]

theorem length_flatMap_retag (lines : List Bytes) :
    (lines.flatMap fun line => (table.retag line).bytes ++ ending.bytes).length +
        (lines.map fun line => ((table.retag line).hits.map (valueAt Rule.patternLength table)).sum).sum =
      (lines.map List.length).sum + lines.length * ending.bytes.length +
        (lines.map fun line => ((table.retag line).hits.map (valueAt Rule.replacementLength table)).sum).sum := by
  induction lines with
  | nil => simp
  | cons line lines ih =>
    have first := table.length_retag line
    simp only [List.flatMap_cons, List.length_append, List.map_cons, List.sum_cons, List.length_cons,
      Nat.add_mul, Nat.one_mul]
    omega

theorem length_retag : (retag table ending content).1.length +
      weigh Rule.patternLength table (retag table ending content).2.ruleHits =
    ((cutLines content).map List.length).sum +
      (retag table ending content).2.lines * ending.bytes.length +
      weigh Rule.replacementLength table (retag table ending content).2.ruleHits := by
  rw [weigh_retag, weigh_retag, lines_retag, lines_eq_cutLines, retag_eq]
  exact length_flatMap_retag table ending (cutLines content)

theorem getElem?_ruleHits_retag {index : Nat} (inRange : index < table.length) :
    (retag table ending content).2.ruleHits[index]? =
      some ((cutLines content).countP fun line => index ∈ (table.retag line).hits) := by
  have started : (Tally.start table).ruleHits[index]? = some 0 := List.getElem?_replicate_of_lt inRange
  rw [ruleHits_retag, Tally.ruleHits_addLines, started, Option.map_some, Nat.zero_add]

theorem ruleHits_retag_le {count : Nat} (counted : count ∈ (retag table ending content).2.ruleHits) :
    count ≤ (retag table ending content).2.lines := by
  obtain ⟨index, placed⟩ := List.mem_iff_getElem?.1 counted
  have inRange : index < table.length := by
    rw [← length_ruleHits_retag table ending content]
    exact (List.getElem?_eq_some_iff.1 placed).1
  cases placed.symm.trans (getElem?_ruleHits_retag table ending content inRange)
  rw [lines_retag, lines_eq_cutLines]
  exact List.countP_le_length

theorem weigh_one {counts : List Nat} (same : counts.length = table.length) :
    weigh (fun _ => 1) table counts = counts.sum := by
  induction table generalizing counts with
  | nil =>
    cases List.length_eq_zero_iff.1 same
    rfl
  | cons rule table ih =>
    cases counts with
    | nil => cases same
    | cons count counts =>
      have rest := ih (Nat.succ.inj same)
      simp only [weigh, List.zipWith_cons_cons, List.sum_cons, Nat.mul_one] at rest ⊢
      rw [rest]

theorem countP_changed_le (lines : List Bytes) :
    (lines.countP fun line => (table.retag line).bytes ≠ line) ≤
      (lines.map fun line => ((table.retag line).hits.map (valueAt (fun _ => 1) table)).sum).sum := by
  induction lines with
  | nil => exact Nat.le_refl _
  | cons line lines ih =>
    rw [List.countP_cons, List.map_cons, List.sum_cons]
    cases reported : (table.retag line).hits with
    | nil =>
      have same := Table.bytes_of_hits_eq_nil reported
      simpa [same] using ih
    | cons index hits =>
      have inRange : index < table.length := Table.lt_of_mem_hits (reported ▸ List.mem_cons_self)
      have one : valueAt (fun _ => 1) table index = 1 := by
        rw [valueAt, List.getElem?_eq_getElem inRange]
        rfl
      rw [List.map_cons, List.sum_cons, one]
      split <;> omega

theorem changedLines_retag_le :
    (retag table ending content).2.changedLines ≤ (retag table ending content).2.ruleHits.sum := by
  rw [← weigh_one table (length_ruleHits_retag table ending content), weigh_retag, retag_eq,
    Tally.changedLines_addLines, Tally.start, Nat.zero_add]
  exact countP_changed_le table (cutLines content)

end Document

namespace Conversion

/-- Every byte of an output is accounted for by the lines of the source, their terminators and the matches
that are counted. -/
theorem transform_accounts (table : Table) (ending : LineEnding) (content : Bytes) :
    let output := Document.retag table ending content
    Yields table ending content output ∧
      output.1.length + table.weigh (fun rule => (Bytes.ofText rule.pattern).length) output.2.ruleHits =
        ((Document.cutLines content).map List.length).sum + output.2.lines * ending.bytes.length +
          table.weigh (fun rule => (Bytes.ofText rule.replacement).length) output.2.ruleHits ∧
      output.2.ruleHits.length = table.length ∧
      (∀ line, ∀ index ∈ (table.retag line).hits, index < output.2.ruleHits.length) ∧
      (∀ index < table.length, output.2.ruleHits[index]? =
        some ((Document.cutLines content).countP fun line => index ∈ (table.retag line).hits)) ∧
      (∀ count ∈ output.2.ruleHits, count ≤ output.2.lines) ∧
      output.2.changedLines ≤ output.2.ruleHits.sum := by
  intro output
  have entries : output.2.ruleHits.length = table.length :=
    Document.length_ruleHits_retag table ending content
  refine ⟨yields_retag table ending content, Document.length_retag table ending content, entries, ?_, ?_, ?_,
    Document.changedLines_retag_le table ending content⟩
  · intro line index hit
    rw [entries]
    exact Table.lt_of_mem_hits hit
  · intro index inRange
    exact Document.getElem?_ruleHits_retag table ending content inRange
  · intro count counted
    exact Document.ruleHits_retag_le table ending content counted

end Conversion

end Retag
