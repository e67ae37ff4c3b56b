import Retag.Proofs.Rule.Hits

/-! Tables whose order makes no difference. When no place of one rule's pattern can overlap what another rule
looks for or writes, first occurrences are replaced in either order with one result, so every permutation of
such a table retags every line alike. The built-in table is one, but for its two rules that take a text away:
on lines without those texts its order is free.
-/

set_option autoImplicit false

namespace Retag

open Occurrence (Apart Mismatched PlacesBeside places splitFirst)

namespace Rule

variable {rule other : Rule} {line next : Bytes}

def erases (rule : Rule) : Bool := rule.replacement.isEmpty

/-- Replacing the one rule's pattern neither takes away nor brings in a place of the other one's. -/
structure Spares (rule other : Rule) : Prop where
  pattern : Apart (Bytes.ofText other.pattern) (Bytes.ofText rule.pattern)
  replacement : Apart (Bytes.ofText other.pattern) (Bytes.ofText rule.replacement)

theorem ofText_pattern_ne_nil (written : rule.pattern ≠ "") : Bytes.ofText rule.pattern ≠ [] := by
  intro empty
  exact written (Bytes.ofText_injective empty)

theorem occursIn_of_replaced (apart : Apart (Bytes.ofText other.pattern) (Bytes.ofText rule.replacement))
    (replaced : rule.replaceBytes? line = some next) (stands : other.OccursIn next) : other.OccursIn line := by
  obtain ⟨before, rest, split, rfl⟩ := replaceBytes?_eq_some_iff.1 replaced
  rw [Occurrence.eq_of_splitFirst split]
  rcases apart.infix_iff.1 stands with inside | inside
  · exact inside.trans (by simpa using (List.prefix_append before _).isInfix)
  · exact inside.trans (List.suffix_append _ _).isInfix

theorem replace_both {before between after : Bytes} (written : other.pattern ≠ "") (spares : rule.Spares other)
    (first : splitFirst (Bytes.ofText rule.pattern) line =
      some (before, between ++ Bytes.ofText other.pattern ++ after))
    (second : splitFirst (Bytes.ofText other.pattern) line =
      some (before ++ Bytes.ofText rule.pattern ++ between, after)) :
    ∃ both,
      other.replaceBytes? (before ++ Bytes.ofText rule.replacement ++
        (between ++ Bytes.ofText other.pattern ++ after)) = some both ∧
      rule.replaceBytes? (before ++ Bytes.ofText rule.pattern ++ between ++
        Bytes.ofText other.replacement ++ after) = some both := by
  have whole := Occurrence.eq_of_splitFirst first
  subst whole
  refine ⟨before ++ Bytes.ofText rule.replacement ++ between ++ Bytes.ofText other.replacement ++ after, ?_, ?_⟩
  · have moved := Occurrence.splitFirst_exchange (ofText_pattern_ne_nil written) spares.replacement second
    exact replaceBytes?_eq_some_iff.2 ⟨_, _, moved, rfl⟩
  · have kept := Occurrence.splitFirst_congr_rest first (between ++ Bytes.ofText other.replacement ++ after)
    simp only [← List.append_assoc] at kept
    exact replaceBytes?_eq_some_iff.2 ⟨_, _, kept, by simp only [List.append_assoc]⟩

/-- Rules that spare each other replace in either order with one result, wherever their places are. -/
theorem replace_both_of_spares {one two : Bytes} (written : rule.pattern ≠ "") (written' : other.pattern ≠ "")
    (spares : rule.Spares other) (spares' : other.Spares rule) (replaced : rule.replaceBytes? line = some one)
    (replaced' : other.replaceBytes? line = some two) :
    ∃ both, other.replaceBytes? one = some both ∧ rule.replaceBytes? two = some both := by
  obtain ⟨before, rest, first, rfl⟩ := replaceBytes?_eq_some_iff.1 replaced
  obtain ⟨before', rest', second, rfl⟩ := replaceBytes?_eq_some_iff.1 replaced'
  have same := (Occurrence.eq_of_splitFirst first).symm.trans (Occurrence.eq_of_splitFirst second)
  rcases spares.pattern _ _ _ _ same with ⟨between, rfl, rfl⟩ | ⟨between, rfl, rfl⟩
  · obtain ⟨both, inTwo, inOne⟩ := replace_both written spares' second first
    exact ⟨both, inOne, inTwo⟩
  · exact replace_both written' spares first second

end Rule

namespace Table

variable {table other : Table} {rule rule' : Rule} {line next : Bytes}

def matched (table : Table) (line : Bytes) : List Rule :=
  (table.retag line).hits.filterMap fun index => table[index]?

theorem matched_cons_of_none (absent : rule.replaceBytes? line = none) :
    matched (rule :: table) line = table.matched line := by
  simp [matched, retag_cons_of_none absent, List.filterMap_map]

theorem matched_cons_of_some (replaced : rule.replaceBytes? line = some next) :
    matched (rule :: table) line = rule :: table.matched next := by
  simp [matched, retag_cons_of_some replaced, List.filterMap_map]

structure Independent (table : Table) : Prop where
  written : ∀ rule ∈ table, rule.pattern ≠ ""
  spares : ∀ rule ∈ table, ∀ other ∈ table, rule ≠ other → rule.Spares other

theorem Independent.of_subset (independent : table.Independent) (part : other ⊆ table) : other.Independent where
  written rule member := independent.written rule (part member)
  spares rule member rule' member' := independent.spares rule (part member) rule' (part member')

structure Agree (table other : Table) (line : Bytes) : Prop where
  bytes : (table.retag line).bytes = (other.retag line).bytes
  matched : (table.matched line).Perm (other.matched line)

theorem Agree.symm (agree : Agree table other line) : Agree other table line :=
  ⟨agree.bytes.symm, agree.matched.symm⟩

theorem Agree.trans {third : Table} (first : Agree table other line) (second : Agree other third line) :
    Agree table third line :=
  ⟨first.bytes.trans second.bytes, first.matched.trans second.matched⟩

theorem agree_cons (unmatched : rule.replaceBytes? line = none → Agree table other line)
    (matched : ∀ next, rule.replaceBytes? line = some next → Agree table other next) :
    Agree (rule :: table) (rule :: other) line := by
  cases replaced : rule.replaceBytes? line with
  | none =>
    obtain ⟨bytes, rules⟩ := unmatched replaced
    constructor
    · simpa [retag_cons_of_none replaced] using bytes
    · simpa [matched_cons_of_none replaced] using rules
  | some next =>
    obtain ⟨bytes, rules⟩ := matched next replaced
    constructor
    · simpa [retag_cons_of_some replaced] using bytes
    · simpa [matched_cons_of_some replaced] using rules

theorem agree_swap_of_none (table : Table) (spares : rule'.Spares rule)
    (absent : rule.replaceBytes? line = none) (replaced : rule'.replaceBytes? line = some next) :
    Agree (rule :: rule' :: table) (rule' :: rule :: table) line := by
  have absent' : rule.replaceBytes? next = none := by
    rw [Rule.replaceBytes?_eq_none_iff] at absent ⊢
    exact mt (Rule.occursIn_of_replaced spares.replacement replaced) absent
  constructor
  · simp [retag_cons_of_none absent, retag_cons_of_none absent', retag_cons_of_some replaced]
  · simp [matched_cons_of_none absent, matched_cons_of_none absent', matched_cons_of_some replaced]

theorem Independent.agree_swap (independent : Independent (rule :: rule' :: table))
    (line : Bytes) : Agree (rule :: rule' :: table) (rule' :: rule :: table) line := by
  by_cases same : rule = rule'
  · subst same
    exact ⟨rfl, .refl _⟩
  have spares := independent.spares rule (by simp) rule' (by simp) same
  have spares' := independent.spares rule' (by simp) rule (by simp) (Ne.symm same)
  cases replaced : rule.replaceBytes? line with
  | none =>
    cases replaced' : rule'.replaceBytes? line with
    | none =>
      constructor
      · simp [retag_cons_of_none replaced, retag_cons_of_none replaced']
      · simp [matched_cons_of_none replaced, matched_cons_of_none replaced']
    | some two => exact agree_swap_of_none table spares' replaced replaced'
  | some one =>
    cases replaced' : rule'.replaceBytes? line with
    | none => exact (agree_swap_of_none table spares replaced' replaced).symm
    | some two =>
      obtain ⟨both, inOne, inTwo⟩ := Rule.replace_both_of_spares (independent.written rule (by simp))
        (independent.written rule' (by simp)) spares spares' replaced replaced'
      constructor
      · simp [retag_cons_of_some replaced, retag_cons_of_some replaced', retag_cons_of_some inOne,
          retag_cons_of_some inTwo]
      · simpa [matched_cons_of_some replaced, matched_cons_of_some replaced', matched_cons_of_some inOne,
          matched_cons_of_some inTwo] using List.Perm.swap rule' rule _

theorem Independent.agree_of_perm (independent : table.Independent) (order : table.Perm other) (line : Bytes) :
    Agree table other line := by
  induction order generalizing line with
  | nil => exact ⟨rfl, .refl _⟩
  | cons rule order ih =>
    have onward := ih (independent.of_subset (List.subset_cons_self _ _))
    exact agree_cons (fun _ => onward line) fun next _ => onward next
  | swap rule rule' table => exact independent.agree_swap line
  | trans order order' ih ih' => exact (ih independent line).trans (ih' (independent.of_subset order.symm.subset) line)

/-! ## Rules that never match -/

/-- Rules can be left out of a table if their patterns occur nowhere in the line and no other rule writes
what could be part of them. -/
theorem agree_filter {idle : Rule → Bool} (absent : ∀ rule ∈ table, idle rule = true → ¬ rule.OccursIn line)
    (apart : ∀ rule ∈ table, idle rule = false → ∀ other ∈ table, idle other = true →
      Apart (Bytes.ofText other.pattern) (Bytes.ofText rule.replacement)) :
    Agree table (table.filter fun rule => !idle rule) line := by
  induction table generalizing line with
  | nil => exact ⟨rfl, .refl _⟩
  | cons rule table ih =>
    obtain ⟨absentHere, absent⟩ := List.forall_mem_cons.1 absent
    have apartBehind : ∀ rule ∈ table, idle rule = false → ∀ other ∈ table, idle other = true →
        Apart (Bytes.ofText other.pattern) (Bytes.ofText rule.replacement) :=
      fun rule member active other member' => apart rule (.tail _ member) active other (.tail _ member')
    cases active : idle rule with
    | true =>
      have unmatched := Rule.replaceBytes?_eq_none_iff.2 (absentHere active)
      obtain ⟨bytes, rules⟩ := ih absent apartBehind
      constructor
      · simpa [active, retag_cons_of_none unmatched] using bytes
      · simpa [active, matched_cons_of_none unmatched] using rules
    | false =>
      rw [List.filter_cons_of_pos (by simp [active])]
      refine agree_cons (fun _ => ih absent apartBehind) fun next replaced => ih ?_ apartBehind
      -- The rule wrote nothing that an idle pattern could have a part of.
      intro other member idle_ stands
      have written := apart rule (.head _) active other (.tail _ member) idle_
      exact absent other member idle_ (Rule.occursIn_of_replaced written replaced stands)

/-! ## The built-in table -/

theorem mismatched_builtin : ∀ rule ∈ builtin, rule.erases = false → ∀ other ∈ builtin, rule ≠ other →
    Mismatched (Bytes.ofText other.pattern) (Bytes.ofText rule.replacement) ∧
      (other.erases = false → Mismatched (Bytes.ofText other.pattern) (Bytes.ofText rule.pattern)) := by
  decide +kernel

theorem written_of_mem_builtin : ∀ rule ∈ builtin, rule.pattern ≠ "" := by
  decide

theorem independent_builtin : Independent (builtin.filter fun rule => !rule.erases) where
  written rule member := written_of_mem_builtin rule (List.mem_of_mem_filter member)
  spares rule member other member' different := by
    obtain ⟨member, active⟩ := List.mem_filter.1 member
    obtain ⟨member', active'⟩ := List.mem_filter.1 member'
    obtain ⟨replacement, pattern⟩ := mismatched_builtin rule member (by simpa using active) other member' different
    exact ⟨(pattern (by simpa using active')).apart, replacement.apart⟩

theorem apart_builtin_of_erases (member : rule ∈ builtin) (active : rule.erases = false) (member' : rule' ∈ builtin)
    (erases : rule'.erases = true) : Apart (Bytes.ofText rule'.pattern) (Bytes.ofText rule.replacement) := by
  have different : rule ≠ rule' := by
    rintro rfl
    cases active.symm.trans erases
  exact (mismatched_builtin rule member active rule' member' different).1.apart

theorem not_occursIn_of_erases (noInputs : ¬ Bytes.ofText "INPUTS       : None" <:+: line)
    (noOutputs : ¬ Bytes.ofText "OUTPUTS      : None" <:+: line) :
    ∀ rule ∈ builtin, rule.erases = true → ¬ rule.OccursIn line := by
  have patterns : ∀ rule ∈ builtin, rule.erases = true →
      rule.pattern = "INPUTS       : None" ∨ rule.pattern = "OUTPUTS      : None" := by
    decide
  intro rule member erases
  rw [Rule.OccursIn]
  rcases patterns rule member erases with named | named
  · rw [named]
    exact noInputs
  · rw [named]
    exact noOutputs

/-- Neither a built-in pattern nor what is put in its place has a part in the places of another one; only the
two patterns that are taken away would have one, and they occur nowhere. -/
theorem placesBeside_builtin {before rest : Bytes}
    (silent : ∀ rule ∈ builtin, rule.erases = true → ¬ rule.OccursIn (before ++ Bytes.ofText rule'.pattern ++ rest))
    (member' : rule' ∈ builtin) (member : rule ∈ builtin) (different : rule' ≠ rule) :
    PlacesBeside (Bytes.ofText rule.pattern) before (Bytes.ofText rule'.pattern) rest ∧
      PlacesBeside (Bytes.ofText rule.pattern) before (Bytes.ofText rule'.replacement) rest := by
  have active : rule'.erases = false := by
    by_contra erases
    exact silent rule' member' (by simpa using erases) ⟨before, rest, rfl⟩
  obtain ⟨replacement, pattern⟩ := mismatched_builtin rule' member' active rule member different
  have written := Rule.ofText_pattern_ne_nil (written_of_mem_builtin rule member)
  constructor
  · cases erases : rule.erases with
    | false => exact (pattern erases).apart.placesBeside written
    | true => exact Occurrence.placesBeside_of_not_infix (silent rule member erases)
  · exact replacement.apart.placesBeside written

/-- On lines without the two texts that are taken away, the order of the built-in rules makes no difference:
the same bytes come out and the same rules match. For no rule takes away or brings in a place of another
one's pattern; those in front of a replaced text stay, and those behind it move along with it. -/
theorem retag_builtin_perm (table : Table) (line : Bytes) (order : table.Perm builtin)
    (noInputs : ¬ Bytes.ofText "INPUTS       : None" <:+: line)
    (noOutputs : ¬ Bytes.ofText "OUTPUTS      : None" <:+: line) :
    (table.retag line).bytes = (builtin.retag line).bytes ∧
    (table.matched line).Perm (builtin.matched line) ∧
    ∀ rule ∈ builtin, ∀ other ∈ builtin, rule ≠ other →
      ∀ before rest, line = before ++ Bytes.ofText rule.pattern ++ rest →
        PlacesBeside (Bytes.ofText other.pattern) before (Bytes.ofText rule.pattern) rest ∧
          PlacesBeside (Bytes.ofText other.pattern) before (Bytes.ofText rule.replacement) rest := by
  have silent := not_occursIn_of_erases noInputs noOutputs
  have agree : Agree table builtin line := by
    -- The rules that erase are left out on both sides, and the others may be put in order.
    have without : Agree table (table.filter fun rule => !rule.erases) line :=
      agree_filter (fun rule member => silent rule (order.subset member)) fun rule member active other member' =>
        apart_builtin_of_erases (order.subset member) active (order.subset member')
    have ordered := independent_builtin.agree_of_perm (order.filter _).symm line
    have whole := agree_filter silent fun rule member active other member' =>
      apart_builtin_of_erases member active member'
    exact without.trans (ordered.symm.trans whole.symm)
  refine ⟨agree.bytes, agree.matched, ?_⟩
  rintro rule member other member' different before rest rfl
  exact placesBeside_builtin silent member member' different

/-- Three of the tags, one of them twice, in the order opposite to the table's, and a byte that is no text. -/
def mixedLine : Bytes := 233 :: Bytes.ofText " OUTPUTS      : File: INPUTS       :  None File:"

theorem retag_builtin_perm_reversed :
    builtin.reverse.Perm builtin ∧ ¬ Bytes.ofText "INPUTS       : None" <:+: mixedLine ∧
      ¬ Bytes.ofText "OUTPUTS      : None" <:+: mixedLine ∧
      (retag builtin.reverse mixedLine).bytes = 233 :: Bytes.ofText " \\return \\file \\param  None File:" ∧
      (matched builtin.reverse mixedLine).Perm
        [⟨"File:", "\\file"⟩, ⟨"INPUTS       :", "\\param"⟩, ⟨"OUTPUTS      :", "\\return"⟩] ∧
      places (Bytes.ofText "File:")
        ([233, 32] ++ Bytes.ofText "\\return" ++ Bytes.ofText " File: INPUTS       :  None File:") = [10, 37] := by
  have order : builtin.reverse.Perm builtin := List.reverse_perm builtin
  have noInputs : ¬ Bytes.ofText "INPUTS       : None" <:+: mixedLine := by decide +kernel
  have noOutputs : ¬ Bytes.ofText "OUTPUTS      : None" <:+: mixedLine := by decide +kernel
  obtain ⟨bytes, rules, moved⟩ := retag_builtin_perm builtin.reverse mixedLine order noInputs noOutputs
  have inOrder : builtin.retag mixedLine =
      ⟨233 :: Bytes.ofText " \\return \\file \\param  None File:", [0, 11, 13]⟩ := by
    decide +kernel
  rw [inOrder] at bytes
  rw [matched, matched, inOrder] at rules
  obtain ⟨-, places_⟩ := moved ⟨"OUTPUTS      :", "\\return"⟩ (by decide) ⟨"File:", "\\file"⟩ (by decide)
    (by decide) [233, 32] (Bytes.ofText " File: INPUTS       :  None File:") (by decide +kernel)
  exact ⟨order, noInputs, noOutputs, bytes, rules, places_.trans (by decide +kernel)⟩

end Table

end Retag
