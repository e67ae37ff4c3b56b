import Retag.Proofs.FileSystem.Calls
import Retag.Proofs.Settings.Fields

/-! What a settings file gives, setting by setting. A document that is decoded holds each setting at one
place at most, and the settings are those of its layer, with defaults for what the file leaves out.
-/

set_option autoImplicit false

namespace Retag.Settings

open Toml (Node Key Entries)

structure Layer where
  source? : Option String := none
  output? : Option String := none
  includes? : Option String := none
  excludes? : Option String := none
  suffix? : Option String := none
  lineEnding? : Option LineEnding := none
  rules? : Option (List Rule) := none

/-- The value of a section's key, or at its place where the section is an array. -/
def settingOf? (document : Entries) (part key : String) (place : Nat) : Option Node :=
  (Toml.Entries.get? part document).bind (valueOf? key place)

def textOf? : Node → Option String
  | .text _ value => some value
  | _ => none

def isEmptyValue : Node → Bool
  | .table _ _ entries => entries.isEmpty
  | .array _ items => items.isEmpty
  | .tables items => items.isEmpty
  | _ => false

/-- The line ending that a value names: as a text, or as the only key of a table. -/
def endingOf? : Node → Option LineEnding
  | .text _ name => LineEnding.ofName? name
  | .table _ _ [(key, node)] => if isEmptyValue node then LineEnding.ofName? key.name else none
  | _ => none

def itemsOf? : Node → Option (List Node)
  | .array _ items => some items
  | .tables items => some items
  | _ => none

/-- A rule as an item gives it: its pattern must be there, its replacement may be left out. -/
structure ReadsRule (node : Node) (rule : Rule) : Prop where
  pattern : (valueOf? "pattern" 0 node).map textOf? = some (some rule.pattern)
  replacement : ∃ replacement? : Option String,
    (valueOf? "replacement" 1 node).map textOf? = replacement?.map some ∧
      rule.replacement = replacement?.getD ""

def ReadsRules (node : Node) (rules : List Rule) : Prop :=
  ∃ items, itemsOf? node = some items ∧ List.Forall₂ ReadsRule items rules

namespace Layer

/-- The layer holds what stands in the document: nothing where a key is absent, and the value of every key
that is present. -/
structure Reads (layer : Layer) (document : Entries) : Prop where
  source : (settingOf? document "paths" "source" 0).map textOf? = layer.source?.map some
  output : (settingOf? document "paths" "output" 1).map textOf? = layer.output?.map some
  includes : (settingOf? document "filter" "include" 0).map textOf? = layer.includes?.map some
  excludes : (settingOf? document "filter" "exclude" 1).map textOf? = layer.excludes?.map some
  suffix : (settingOf? document "output" "suffix" 0).map textOf? = layer.suffix?.map some
  lineEnding : (settingOf? document "output" "line_ending" 1).map endingOf? = layer.lineEnding?.map some
  rules : Option.Rel ReadsRules (Toml.Entries.get? "rules" document) layer.rules?

def settings (layer : Layer) : Settings where
  source := layer.source?
  output := layer.output?.getD "doxygenFiles"
  includes := layer.includes?.getD ".cs"
  excludes := layer.excludes?.getD ".meta"
  suffix := layer.suffix?.getD "_doxy"
  lineEnding := layer.lineEnding?.getD .lf
  rules := layer.rules?.getD []

end Layer

theorem textOf?_eq (expected : String) : (fun node => (decodeText expected node).toOption) = textOf? := by
  funext node
  cases node <;> rfl

theorem decodeUnit_toOption (node : Node) :
    (decodeUnit node).toOption = if isEmptyValue node then some () else none := by
  cases node with
  | table span? form entries => cases entries <;> rfl
  | array span items => cases items <;> rfl
  | tables items => cases items <;> rfl
  | _ => rfl

theorem decodeEndingName_toOption (name : String) (span : Toml.Span) :
    (decodeEndingName name span).toOption = LineEnding.ofName? name := by
  unfold decodeEndingName
  cases LineEnding.ofName? name <;> rfl

theorem endingOf?_eq : (fun node => (decodeLineEnding node).toOption) = endingOf? := by
  funext node
  cases node with
  | text span name => exact decodeEndingName_toOption name span
  | table span? form entries =>
    match entries with
    | [] => rfl
    | [(key, value)] =>
      have named := decodeEndingName_toOption key.name key.span
      have empty := decodeUnit_toOption value
      rw [decodeLineEnding, endingOf?, ← named]
      cases decodeEndingName key.name key.span with
      | error error => cases decodeUnit value <;> simp [Except.toOption, bind, Except.bind]
      | ok ending =>
        cases decoded : decodeUnit value with
        | error error =>
          have full : isEmptyValue value = false := by simpa [decoded, Except.toOption] using empty
          rw [full]
          rfl
        | ok _ =>
          have bare : isEmptyValue value = true := by simpa [decoded, Except.toOption] using empty
          rw [bare]
          rfl
    | _ :: _ :: _ => rfl
  | _ => rfl

section

variable {Section Value : Type} {key expected : String} {change : String → Section → Section}
  {read : Section → Value}

theorem textField_keeps (same : ∀ value state, read (change value state) = read state) :
    (textField key expected change).Keeps read :=
  Field.keeps_of_change (fun _ _ => rfl) same

theorem textField_value {node? : Option Node} {state final : Section}
    (sets : (textField key expected change).Sets read node? state final) {put : String → Value}
    (puts : ∀ value state, read (change value state) = put value) :
    ∃ value? : Option String, node?.map textOf? = value?.map some ∧
      read final = value?.elim (read state) put := by
  rw [← textOf?_eq expected]
  exact sets.value (fun _ _ => rfl) puts

end

/-! ## The fields at the top -/

def pathsField : Field Settings where
  key := "paths"
  accept node settings := acceptSection "PathsConfig" pathsFields settings node

def filterField : Field Settings where
  key := "filter"
  accept node settings := acceptSection "FilterConfig" filterFields settings node

def outputField : Field Settings where
  key := "output"
  accept node settings := acceptSection "OutputConfig" outputFields settings node

def rulesField : Field Settings where
  key := "rules"
  accept node settings := (decodeRules node).map fun rules => { settings with rules }

def endingField : Field Settings where
  key := "line_ending"
  accept node settings := (decodeLineEnding node).map fun lineEnding => { settings with lineEnding }

theorem topFields_eq : topFields = [pathsField, filterField, outputField, rulesField] := rfl

variable {Value : Type} {read : Settings → Value}

theorem section_keeps {top first second : Field Settings} {name : String}
    (accepts : ∀ node state, top.accept node state = acceptSection name [first, second] state node)
    (one : first.Keeps read) (two : second.Keeps read) : top.Keeps read := by
  intro node state after accepted
  rw [accepts] at accepted
  exact acceptSection_keeps (List.forall_mem_cons.2 ⟨one, List.forall_mem_singleton.2 two⟩) accepted

theorem paths_keeps
    (same : ∀ settings source output, read { settings with source, output } = read settings) :
    pathsField.Keeps read :=
  section_keeps (fun _ _ => rfl)
    (textField_keeps fun value settings => same settings (some value) settings.output)
    (textField_keeps fun value settings => same settings settings.source value)

theorem filter_keeps
    (same : ∀ settings includes excludes, read { settings with includes, excludes } = read settings) :
    filterField.Keeps read :=
  section_keeps (fun _ _ => rfl) (textField_keeps fun value settings => same settings value settings.excludes)
    (textField_keeps fun value settings => same settings settings.includes value)

theorem endingField_accept (node : Node) (settings : Settings) :
    endingField.accept node settings =
      (decodeLineEnding node).map fun lineEnding => { settings with lineEnding } := rfl

theorem ending_keeps (same : ∀ settings lineEnding, read { settings with lineEnding } = read settings) :
    endingField.Keeps read :=
  Field.keeps_of_change endingField_accept fun lineEnding settings => same settings lineEnding

theorem output_keeps
    (same : ∀ settings suffix lineEnding, read { settings with suffix, lineEnding } = read settings) :
    outputField.Keeps read :=
  section_keeps (fun _ _ => rfl) (textField_keeps fun value settings => same settings value settings.lineEnding)
    (ending_keeps fun settings lineEnding => same settings settings.suffix lineEnding)

theorem rulesField_accept (node : Node) (settings : Settings) :
    rulesField.accept node settings = (decodeRules node).map fun rules => { settings with rules } := rfl

theorem rules_keeps (same : ∀ settings rules, read { settings with rules } = read settings) :
    rulesField.Keeps read :=
  Field.keeps_of_change rulesField_accept fun rules settings => same settings rules

theorem topKeys_distinct : (topFields.map Field.key).Nodup := by
  decide

theorem others_keep {key : String} (paths : "paths" ≠ key → pathsField.Keeps read)
    (filter : "filter" ≠ key → filterField.Keeps read) (output : "output" ≠ key → outputField.Keeps read)
    (rules : "rules" ≠ key → rulesField.Keeps read) :
    ∀ other ∈ topFields, other.key ≠ key → other.Keeps read := by
  rw [topFields_eq]
  simp only [List.forall_mem_cons]
  exact ⟨paths, filter, output, rules, List.forall_mem_nil _⟩

theorem governs_paths
    (filter : ∀ settings includes excludes, read { settings with includes, excludes } = read settings)
    (output : ∀ settings suffix lineEnding, read { settings with suffix, lineEnding } = read settings)
    (rules : ∀ settings rules, read { settings with rules } = read settings) :
    Governs topFields 0 pathsField read :=
  ⟨rfl, topKeys_distinct, others_keep (fun other => absurd rfl other) (fun _ => filter_keeps filter)
    (fun _ => output_keeps output) fun _ => rules_keeps rules⟩

theorem governs_filter
    (paths : ∀ settings source output, read { settings with source, output } = read settings)
    (output : ∀ settings suffix lineEnding, read { settings with suffix, lineEnding } = read settings)
    (rules : ∀ settings rules, read { settings with rules } = read settings) :
    Governs topFields 1 filterField read :=
  ⟨rfl, topKeys_distinct, others_keep (fun _ => paths_keeps paths) (fun other => absurd rfl other)
    (fun _ => output_keeps output) fun _ => rules_keeps rules⟩

theorem governs_output
    (paths : ∀ settings source output, read { settings with source, output } = read settings)
    (filter : ∀ settings includes excludes, read { settings with includes, excludes } = read settings)
    (rules : ∀ settings rules, read { settings with rules } = read settings) :
    Governs topFields 2 outputField read :=
  ⟨rfl, topKeys_distinct, others_keep (fun _ => paths_keeps paths) (fun _ => filter_keeps filter)
    (fun other => absurd rfl other) fun _ => rules_keeps rules⟩

theorem governs_rules
    (paths : ∀ settings source output, read { settings with source, output } = read settings)
    (filter : ∀ settings includes excludes, read { settings with includes, excludes } = read settings)
    (output : ∀ settings suffix lineEnding, read { settings with suffix, lineEnding } = read settings) :
    Governs topFields 3 rulesField read :=
  ⟨rfl, topKeys_distinct, others_keep (fun _ => paths_keeps paths) (fun _ => filter_keeps filter)
    (fun _ => output_keeps output) fun other => absurd rfl other⟩

/-! ## The fields of a section -/

section

variable {Section Raw Other : Type} {first second : Field Section}

theorem governs_first {read : Section → Value} (differ : first.key ≠ second.key) (keeps : second.Keeps read) :
    Governs [first, second] 0 first read where
  placed := rfl
  distinct := by simpa using differ
  others := by simpa using fun _ => keeps

theorem governs_second {read : Section → Value} (differ : first.key ≠ second.key) (keeps : first.Keeps read) :
    Governs [first, second] 1 second read where
  placed := rfl
  distinct := by simpa using differ
  others := by simpa using fun _ => keeps

end

/-! ## Decoding -/

section

variable {document : Entries} {settings : Settings} {top field : Field Settings}
  {fields : List (Field Settings)} {name : String} {position place : Nat}

theorem sets_of_decode (outer : Governs topFields position top read)
    (accepts : ∀ node state, top.accept node state = acceptSection name fields state node)
    (inner : Governs fields place field read) (distinct : document.Distinct)
    (decoded : decode document = .ok settings) :
    field.Sets read (settingOf? document top.key field.key place) {} settings :=
  inner.within accepts (fun _ => distinct.get?) (outer.entries distinct.names decoded)

theorem text_of_decode {key expected : String} {change : String → Settings → Settings} {put : String → Value}
    (outer : Governs topFields position top read)
    (accepts : ∀ node state, top.accept node state = acceptSection name fields state node)
    (inner : Governs fields place (textField key expected change) read)
    (puts : ∀ value state, read (change value state) = put value) (distinct : document.Distinct)
    (decoded : decode document = .ok settings) :
    ∃ value? : Option String, (settingOf? document top.key key place).map textOf? = value?.map some ∧
      read settings = value?.elim (read {}) put :=
  textField_value (sets_of_decode outer accepts inner distinct decoded) puts

theorem paths_of_decode (distinct : document.Distinct) (decoded : decode document = .ok settings) :
    ∃ source? output? : Option String,
      (settingOf? document "paths" "source" 0).map textOf? = source?.map some ∧
      (settingOf? document "paths" "output" 1).map textOf? = output?.map some ∧
      settings.source = source? ∧ settings.output = output?.getD "doxygenFiles" := by
  have source : Governs topFields 0 pathsField Settings.source :=
    governs_paths (fun _ _ _ => rfl) (fun _ _ _ => rfl) fun _ _ => rfl
  have output : Governs topFields 0 pathsField Settings.output :=
    governs_paths (fun _ _ _ => rfl) (fun _ _ _ => rfl) fun _ _ => rfl
  obtain ⟨source?, source_given, source_read⟩ := text_of_decode source (fun _ _ => rfl)
    (governs_first (by decide) (textField_keeps fun _ _ => rfl)) (fun _ _ => rfl) distinct decoded
  obtain ⟨output?, output_given, output_read⟩ := text_of_decode output (fun _ _ => rfl)
    (governs_second (by decide) (textField_keeps fun _ _ => rfl)) (fun _ _ => rfl) distinct decoded
  refine ⟨source?, output?, source_given, output_given, source_read.trans ?_, output_read.trans ?_⟩
  · cases source? <;> rfl
  · cases output? <;> rfl

theorem filter_of_decode (distinct : document.Distinct) (decoded : decode document = .ok settings) :
    ∃ includes? excludes? : Option String,
      (settingOf? document "filter" "include" 0).map textOf? = includes?.map some ∧
      (settingOf? document "filter" "exclude" 1).map textOf? = excludes?.map some ∧
      settings.includes = includes?.getD ".cs" ∧ settings.excludes = excludes?.getD ".meta" := by
  have includes : Governs topFields 1 filterField Settings.includes :=
    governs_filter (fun _ _ _ => rfl) (fun _ _ _ => rfl) fun _ _ => rfl
  have excludes : Governs topFields 1 filterField Settings.excludes :=
    governs_filter (fun _ _ _ => rfl) (fun _ _ _ => rfl) fun _ _ => rfl
  obtain ⟨includes?, includes_given, includes_read⟩ := text_of_decode includes (fun _ _ => rfl)
    (governs_first (by decide) (textField_keeps fun _ _ => rfl)) (fun _ _ => rfl) distinct decoded
  obtain ⟨excludes?, excludes_given, excludes_read⟩ := text_of_decode excludes (fun _ _ => rfl)
    (governs_second (by decide) (textField_keeps fun _ _ => rfl)) (fun _ _ => rfl) distinct decoded
  refine ⟨includes?, excludes?, includes_given, excludes_given, includes_read.trans ?_,
    excludes_read.trans ?_⟩
  · cases includes? <;> rfl
  · cases excludes? <;> rfl

theorem output_of_decode (distinct : document.Distinct) (decoded : decode document = .ok settings) :
    ∃ (suffix? : Option String) (lineEnding? : Option LineEnding),
      (settingOf? document "output" "suffix" 0).map textOf? = suffix?.map some ∧
      (settingOf? document "output" "line_ending" 1).map endingOf? = lineEnding?.map some ∧
      settings.suffix = suffix?.getD "_doxy" ∧ settings.lineEnding = lineEnding?.getD .lf := by
  have suffix : Governs topFields 2 outputField Settings.suffix :=
    governs_output (fun _ _ _ => rfl) (fun _ _ _ => rfl) fun _ _ => rfl
  have lineEnding : Governs topFields 2 outputField Settings.lineEnding :=
    governs_output (fun _ _ _ => rfl) (fun _ _ _ => rfl) fun _ _ => rfl
  obtain ⟨suffix?, suffix_given, suffix_read⟩ := text_of_decode suffix (fun _ _ => rfl)
    (governs_first (by decide) (ending_keeps fun _ _ => rfl)) (fun _ _ => rfl) distinct decoded
  have sets := sets_of_decode lineEnding (fun _ _ => rfl)
    (governs_second (by decide) (textField_keeps fun _ _ => rfl)) distinct decoded
  obtain ⟨lineEnding?, ending_given, ending_read⟩ := sets.value endingField_accept fun _ _ => rfl
  rw [endingOf?_eq] at ending_given
  refine ⟨suffix?, lineEnding?, suffix_given, ending_given, suffix_read.trans ?_, ending_read.trans ?_⟩
  · cases suffix? <;> rfl
  · cases lineEnding? <;> rfl

theorem readsRule_of_decodeRule {node : Node} {rule : Rule} (distinct : node.Distinct)
    (decoded : decodeRule node = .ok rule) : ReadsRule node rule := by
  obtain ⟨made, accepted, rest⟩ := bind_eq_ok_iff.1 decoded
  have pattern : Governs ruleFields 0 _ PartialRule.pattern? :=
    governs_first (by decide) (textField_keeps fun _ _ => rfl)
  have replacement : Governs ruleFields 1 _ PartialRule.replacement :=
    governs_second (by decide) (textField_keeps fun _ _ => rfl)
  obtain ⟨pattern?, pattern_given, pattern_read⟩ :=
    textField_value (pattern.ofSection distinct accepted) fun _ _ => rfl
  obtain ⟨replacement?, replacement_given, replacement_read⟩ :=
    textField_value (replacement.ofSection distinct accepted) fun _ _ => rfl
  cases pattern? with
  | none =>
    rw [show made.pattern? = none from pattern_read] at rest
    cases rest
  | some pattern =>
    rw [show made.pattern? = some pattern from pattern_read] at rest
    cases rest
    refine ⟨pattern_given, replacement?, replacement_given, replacement_read.trans ?_⟩
    cases replacement? <;> rfl

theorem readsRule_of_mapM {items : List Node} {rules : List Rule} (distinct : ∀ item ∈ items, item.Distinct)
    (decoded : items.mapM decodeRule = .ok rules) : List.Forall₂ ReadsRule items rules := by
  induction items generalizing rules with
  | nil =>
    cases decoded
    exact .nil
  | cons item items ih =>
    rw [List.mapM_cons] at decoded
    obtain ⟨rule, first, decoded⟩ := bind_eq_ok_iff.1 decoded
    obtain ⟨rest, others, same⟩ := bind_eq_ok_iff.1 decoded
    cases same
    obtain ⟨sound, below⟩ := List.forall_mem_cons.1 distinct
    exact .cons (readsRule_of_decodeRule sound first) (ih below others)

theorem readsRules_of_decodeRules {node : Node} {rules : List Rule} (distinct : node.Distinct)
    (decoded : decodeRules node = .ok rules) : ReadsRules node rules := by
  unfold decodeRules at decoded
  split at decoded
  · cases distinct with
    | array sound => exact ⟨_, rfl, readsRule_of_mapM sound (bare_of_within decoded)⟩
  · cases distinct with
    | tables sound => exact ⟨_, rfl, readsRule_of_mapM sound (bare_of_within decoded)⟩
  · cases decoded

theorem rules_of_decode (distinct : document.Distinct) (decoded : decode document = .ok settings) :
    ∃ rules? : Option (List Rule), Option.Rel ReadsRules (Toml.Entries.get? "rules" document) rules? ∧
      settings.rules = rules?.getD [] := by
  have rules : Governs topFields 3 rulesField Settings.rules :=
    governs_rules (fun _ _ _ => rfl) (fun _ _ _ => rfl) fun _ _ _ => rfl
  have sets : rulesField.Sets Settings.rules (Toml.Entries.get? "rules" document) {} settings :=
    rules.entries distinct.names decoded
  cases found : Toml.Entries.get? "rules" document with
  | none =>
    rw [found] at sets
    exact ⟨none, .none, sets⟩
  | some node =>
    rw [found] at sets
    obtain ⟨before, after, accepted, -, final⟩ := sets
    rw [rulesField_accept] at accepted
    cases decodes : decodeRules node with
    | error error =>
      rw [decodes] at accepted
      cases accepted
    | ok rules =>
      rw [decodes] at accepted
      cases accepted
      exact ⟨some rules, .some (readsRules_of_decodeRules (distinct.get? found) decodes), final⟩

/-- A document that is decoded gives a layer, and the settings are just that layer's. -/
theorem exists_layer (distinct : document.Distinct) (decoded : decode document = .ok settings) :
    ∃ layer : Layer, layer.Reads document ∧ settings = layer.settings := by
  obtain ⟨source?, output?, source, output, hasSource, hasOutput⟩ := paths_of_decode distinct decoded
  obtain ⟨includes?, excludes?, includes, excludes, hasIncludes, hasExcludes⟩ :=
    filter_of_decode distinct decoded
  obtain ⟨suffix?, lineEnding?, suffix, lineEnding, hasSuffix, hasEnding⟩ :=
    output_of_decode distinct decoded
  obtain ⟨rules?, rules, hasRules⟩ := rules_of_decode distinct decoded
  refine ⟨⟨source?, output?, includes?, excludes?, suffix?, lineEnding?, rules?⟩,
    ⟨source, output, includes, excludes, suffix, lineEnding, rules⟩, ?_⟩
  rw [Layer.settings, ← hasSource, ← hasOutput, ← hasIncludes, ← hasExcludes, ← hasSuffix, ← hasEnding,
    ← hasRules]

end

end Retag.Settings
