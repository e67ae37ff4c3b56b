import Retag.Proofs.Settings.Plain
import Retag.Proofs.Settings.Precedence

/-! Unknown keys and the document without them. Without them it comes to the same settings, errors included,
and it has no unknown keys left. A part that is a date or time is the one thing that spoils the count: it
passes for a table, and shows a key that nobody wrote.
-/

set_option autoImplicit false

namespace Retag.Settings

open Toml (Node Key Entries)

/-! ## What a document may hold -/

inductive Part where
  | paths
  | filter
  | output
  | rules

namespace Part

def ofName? : String → Option Part
  | "paths" => some .paths
  | "filter" => some .filter
  | "output" => some .output
  | "rules" => some .rules
  | _ => none

/-- The keys of the part's table, or of the table of each rule. -/
def keys : Part → List String
  | .paths => ["source", "output"]
  | .filter => ["include", "exclude"]
  | .output => ["suffix", "line_ending"]
  | .rules => ["pattern", "replacement"]

end Part

/-- A table without its other keys and what stands below them; anything else as it is. -/
def keepIn (keys : List String) : Node → Node
  | .table span? form entries => .table span? form (entries.filter fun entry => entry.1.name ∈ keys)
  | node => node

def othersIn (keys : List String) : Node → List Key
  | .table _ _ entries => (entries.filter fun entry => entry.1.name ∉ keys).map Prod.fst
  | _ => []

def Part.keep (part : Part) (node : Node) : Node :=
  match part, node with
  | .rules, .array span items => .array span (items.map (keepIn Part.rules.keys))
  | .rules, .tables items => .tables (items.map (keepIn Part.rules.keys))
  | .rules, node => node
  | part, node => keepIn part.keys node

def Part.others (part : Part) (node : Node) : List Key :=
  match part, node with
  | .rules, .array _ items => items.flatMap (othersIn Part.rules.keys)
  | .rules, .tables items => items.flatMap (othersIn Part.rules.keys)
  | .rules, _ => []
  | part, node => othersIn part.keys node

def keepAt (entry : Key × Node) : Option (Key × Node) :=
  (Part.ofName? entry.1.name).map fun part => (entry.1, part.keep entry.2)

def othersAt (entry : Key × Node) : List Key :=
  match Part.ofName? entry.1.name with
  | none => [entry.1]
  | some part => part.others entry.2

/-- The document without its unknown keys and all that stands below them. -/
def known (document : Entries) : Entries := document.filterMap keepAt

/-- The unknown keys of a document that stand below no other one, in order. -/
def unknown (document : Entries) : List Key := document.flatMap othersAt

theorem map_key_pathsFields : pathsFields.map Field.key = Part.paths.keys := rfl

theorem map_key_filterFields : filterFields.map Field.key = Part.filter.keys := rfl

theorem map_key_outputFields : outputFields.map Field.key = Part.output.keys := rfl

theorem map_key_ruleFields : ruleFields.map Field.key = Part.rules.keys := rfl

/-! ## The settings without unknown keys -/

section

variable {Section : Type}

theorem acceptEntries_keep (fields : List (Field Section)) (entries : Entries) (state : Section) :
    acceptEntries fields (entries.filter fun entry => entry.1.name ∈ fields.map Field.key) state =
      acceptEntries fields entries state := by
  induction entries generalizing state with
  | nil => rfl
  | cons entry entries ih =>
    obtain ⟨key, node⟩ := entry
    cases found : fields.find? fun field => field.key = key.name with
    | none =>
      have stranger : key.name ∉ fields.map Field.key := by simpa using found
      rw [List.filter_cons_of_neg (by simpa using stranger), acceptEntries, found]
      exact ih state
    | some field =>
      have among := List.mem_of_find?_eq_some found
      have named : field.key = key.name := by simpa using List.find?_some found
      have belongs : key.name ∈ fields.map Field.key := named ▸ List.mem_map_of_mem among
      rw [List.filter_cons_of_pos (by simpa using belongs), acceptEntries, acceptEntries, found]
      dsimp only
      cases field.acceptAt (some key.span) node state with
      | error error => rfl
      | ok state => exact ih state

theorem ownSpan?_keepIn (keys : List String) (node : Node) : (keepIn keys node).ownSpan? = node.ownSpan? := by
  cases node <;> rfl

theorem map_ownSpan?_keepIn (keys : List String) (items : List Node) :
    (items.map (keepIn keys)).map Node.ownSpan? = items.map Node.ownSpan? := by
  rw [List.map_map]
  exact List.map_congr_left fun item _ => ownSpan?_keepIn keys item

theorem span?_keepIn (keys : List String) (node : Node) : (keepIn keys node).span? = node.span? := by
  cases node <;> rfl

theorem acceptSection_keep {fields : List (Field Section)} {keys : List String}
    (same : fields.map Field.key = keys) (name : String) (state : Section) (node : Node) :
    acceptSection name fields state (keepIn keys node) = acceptSection name fields state node := by
  unfold acceptSection
  rw [span?_keepIn]
  cases node with
  | table span? form entries =>
    subst same
    exact congrArg _ (acceptEntries_keep fields entries state)
  | _ => rfl

end

theorem decodeRule_keep (node : Node) : decodeRule (keepIn Part.rules.keys node) = decodeRule node := by
  unfold decodeRule
  rw [acceptSection_keep map_key_ruleFields, span?_keepIn]
  cases node <;> rfl

theorem decodeRules_keep (node : Node) : decodeRules (Part.rules.keep node) = decodeRules node := by
  have items_keep (items : List Node) :
      (items.map (keepIn Part.rules.keys)).mapM decodeRule = items.mapM decodeRule := by
    rw [List.mapM_map]
    exact congrArg (List.mapM · items) (funext decodeRule_keep)
  cases node with
  | array span items =>
    simp only [Part.keep, decodeRules, items_keep]
    rfl
  | tables items => simp only [Part.keep, decodeRules, items_keep, Node.span?, map_ownSpan?_keepIn]
  | _ => rfl

def Part.field : Part → Field Settings
  | .paths => pathsField
  | .filter => filterField
  | .output => outputField
  | .rules => rulesField

theorem find?_topFields (name : String) :
    topFields.find? (fun field => field.key = name) = (Part.ofName? name).map Part.field := by
  unfold Part.ofName?
  split
  · rfl
  · rfl
  · rfl
  · rfl
  · next paths filter output rules =>
    rw [topFields_eq, Option.map_none, List.find?_eq_none]
    simp only [List.forall_mem_cons, decide_eq_true_eq]
    exact ⟨Ne.symm paths, Ne.symm filter, Ne.symm output, Ne.symm rules, List.forall_mem_nil _⟩

theorem Part.span?_keep (part : Part) (node : Node) : (part.keep node).span? = node.span? := by
  cases part with
  | rules =>
    cases node with
    | tables items => simp only [Part.keep, Node.span?, map_ownSpan?_keepIn]
    | _ => rfl
  | _ => exact span?_keepIn _ node

theorem Part.accept_keep (part : Part) (node : Node) (settings : Settings) :
    part.field.accept (part.keep node) settings = part.field.accept node settings := by
  cases part with
  | rules => exact congrArg (Except.map _) (decodeRules_keep node)
  | paths => exact acceptSection_keep map_key_pathsFields _ _ _
  | filter => exact acceptSection_keep map_key_filterFields _ _ _
  | output => exact acceptSection_keep map_key_outputFields _ _ _

theorem decode_known (document : Entries) : decode (known document) = decode document := by
  unfold decode
  generalize ({} : Settings) = settings
  induction document generalizing settings with
  | nil => rfl
  | cons entry document ih =>
    obtain ⟨key, node⟩ := entry
    unfold known at ih ⊢
    cases named : Part.ofName? key.name with
    | none =>
      rw [List.filterMap_cons_none (by simp [keepAt, named]), acceptEntries, find?_topFields, named]
      exact ih settings
    | some part =>
      rw [List.filterMap_cons_some (b := (key, part.keep node)) (by simp [keepAt, named]), acceptEntries,
        acceptEntries, find?_topFields, named, Option.map_some]
      dsimp only
      rw [Field.acceptAt, Field.acceptAt, part.accept_keep, part.span?_keep]
      cases Except.mapError _ (part.field.accept node settings) with
      | error error => rfl
      | ok settings => exact ih settings

/-! ## The unknown keys that are reported -/

def isDatePart (entry : Key × Node) : Bool :=
  match entry.2 with
  | .moment _ => (Part.ofName? entry.1.name).isSome
  | _ => false

def HasDatePart (document : Entries) : Prop := ∃ entry ∈ document, isDatePart entry = true

instance : DecidablePred HasDatePart := fun document =>
  inferInstanceAs (Decidable (∃ entry ∈ document, isDatePart entry = true))

def Part.reported : Part → Node → List String
  | .paths => unknownInSection pathsFields
  | .filter => unknownInSection filterFields
  | .output => unknownInSection outputFields
  | .rules => unknownInRules

def reportedAt (entry : Key × Node) : List String :=
  match Part.ofName? entry.1.name with
  | none => [entry.1.name]
  | some part => part.reported entry.2

theorem unknownKeys_eq (document : Entries) : unknownKeys document = document.flatMap reportedAt := by
  refine congrArg (List.flatMap · document) (funext fun ⟨⟨name, span⟩, node⟩ => ?_)
  unfold reportedAt Part.ofName?
  dsimp only
  split <;> simp only [Part.reported]

theorem unknownInSection_eq {Section : Type} {fields : List (Field Section)} {keys : List String}
    (same : fields.map Field.key = keys) {node : Node} (noDate : ∀ span, node ≠ .moment span) :
    unknownInSection fields node = (othersIn keys node).map Key.name := by
  cases node with
  | moment span => exact absurd rfl (noDate span)
  | table span? form entries =>
    have unlisted (entry : Key × Node) :
        (!fields.any fun field => field.key = entry.1.name) = decide (entry.1.name ∉ keys) := by
      rw [Bool.eq_iff_iff]
      simp [← same]
    simp only [unknownInSection, othersIn, unlisted, List.map_map]
    rfl
  | _ => rfl

/-- No rule is a date: it would lack its pattern. -/
theorem ne_moment_of_decodeRule {node : Node} {rule : Rule} (decoded : decodeRule node = .ok rule)
    (span : Toml.Span) : node ≠ .moment span := by
  rintro rfl
  cases decoded

theorem forall_ok_of_mapM {items : List Node} {rules : List Rule} (decoded : items.mapM decodeRule = .ok rules) :
    ∀ item ∈ items, ∃ rule, decodeRule item = .ok rule := by
  induction items generalizing rules with
  | nil => exact List.forall_mem_nil _
  | cons item items ih =>
    rw [List.mapM_cons] at decoded
    obtain ⟨rule, first, decoded⟩ := bind_eq_ok_iff.1 decoded
    obtain ⟨more, others, -⟩ := bind_eq_ok_iff.1 decoded
    exact List.forall_mem_cons.2 ⟨⟨rule, first⟩, ih others⟩

theorem unknownInRules_eq {node : Node} {rules : List Rule} (decoded : decodeRules node = .ok rules) :
    unknownInRules node = (Part.rules.others node).map Key.name := by
  have items_eq {items : List Node} {found : List Rule} (decoded : items.mapM decodeRule = .ok found) :
      items.flatMap (unknownInSection ruleFields) =
        (items.flatMap (othersIn Part.rules.keys)).map Key.name := by
    rw [List.map_flatMap]
    refine List.flatMap_congr fun item among => ?_
    obtain ⟨rule, decoded⟩ := forall_ok_of_mapM decoded item among
    exact unknownInSection_eq map_key_ruleFields (ne_moment_of_decodeRule decoded)
  unfold decodeRules at decoded
  split at decoded
  · exact items_eq (bare_of_within decoded)
  · exact items_eq (bare_of_within decoded)
  · cases decoded

theorem Part.reported_eq {part : Part} {node : Node} {before after : Settings}
    (accepted : part.field.accept node before = .ok after) (noDate : ∀ span, node ≠ .moment span) :
    part.reported node = (part.others node).map Key.name := by
  cases part with
  | rules =>
    cases decoded : decodeRules node with
    | error error =>
      rw [Part.field, rulesField_accept, decoded] at accepted
      cases accepted
    | ok rules => exact unknownInRules_eq decoded
  | paths => exact unknownInSection_eq map_key_pathsFields noDate
  | filter => exact unknownInSection_eq map_key_filterFields noDate
  | output => exact unknownInSection_eq map_key_outputFields noDate

theorem Part.reported_moment {part : Part} {span : Toml.Span} {before after : Settings}
    (accepted : part.field.accept (.moment span) before = .ok after) :
    part.reported (.moment span) = [momentKey] := by
  cases part with
  | rules => cases accepted
  | _ => rfl

/-- What is reported are the unknown keys, and the invented key of each part that is a date. -/
theorem unknownKeys_of_accepted {document : Entries} {before after : Settings}
    (accepted : acceptEntries topFields document before = .ok after) :
    unknownKeys document = document.flatMap fun entry =>
      (othersAt entry).map Key.name ++ if isDatePart entry then [momentKey] else [] := by
  rw [unknownKeys_eq]
  induction document generalizing before with
  | nil => rfl
  | cons entry document ih =>
    obtain ⟨key, node⟩ := entry
    rw [acceptEntries, find?_topFields] at accepted
    rw [List.flatMap_cons, List.flatMap_cons]
    cases named : Part.ofName? key.name with
    | none =>
      rw [named] at accepted
      refine congr (congrArg _ ?_) (ih accepted)
      cases node <;> simp [reportedAt, othersAt, isDatePart, named]
    | some part =>
      rw [named] at accepted
      dsimp only [Option.map_some] at accepted
      cases first : part.field.acceptAt (some key.span) node before with
      | error error => simp [first] at accepted
      | ok middle =>
        simp only [first] at accepted
        have bare := Field.accept_of_acceptAt first
        refine congr (congrArg _ ?_) (ih accepted)
        by_cases date : ∃ span, node = .moment span
        · obtain ⟨span, rfl⟩ := date
          have none_ : part.others (.moment span) = [] := by cases part <;> rfl
          simp [reportedAt, othersAt, isDatePart, named, none_, Part.reported_moment bare]
        · have noDate (span : Toml.Span) : node ≠ .moment span := fun same => date ⟨span, same⟩
          have isNone : isDatePart (key, node) = false := by
            unfold isDatePart
            split
            · exact absurd ‹_› (noDate _)
            · rfl
          simp [reportedAt, othersAt, isNone, named, Part.reported_eq bare noDate]

section

variable {document : Entries} {settings : Settings}

theorem length_unknownKeys (decoded : decode document = .ok settings) :
    (unknownKeys document).length = (unknown document).length + document.countP isDatePart := by
  rw [unknownKeys_of_accepted decoded, unknown]
  clear decoded
  induction document with
  | nil => rfl
  | cons entry document ih =>
    rw [List.flatMap_cons, List.flatMap_cons, List.countP_cons, List.length_append, List.length_append, ih,
      List.length_append, List.length_map]
    split <;> simp <;> omega

theorem length_unknownKeys_eq_iff (decoded : decode document = .ok settings) :
    (unknownKeys document).length = (unknown document).length ↔ ¬ HasDatePart document := by
  rw [length_unknownKeys decoded, Nat.add_eq_left, List.countP_eq_zero, HasDatePart]
  simp only [not_exists, not_and]

theorem unknownKeys_eq_of_decode (decoded : decode document = .ok settings) (noDate : ¬ HasDatePart document) :
    unknownKeys document = (unknown document).map Key.name := by
  rw [unknownKeys_of_accepted decoded, unknown, List.map_flatMap]
  refine List.flatMap_congr fun entry among => ?_
  rw [if_neg fun date => noDate ⟨entry, among, date⟩, List.append_nil]

theorem momentKey_mem_of_date (decoded : decode document = .ok settings) (date : HasDatePart document) :
    momentKey ∈ unknownKeys document := by
  obtain ⟨entry, among, isDate⟩ := date
  rw [unknownKeys_of_accepted decoded, List.mem_flatMap]
  exact ⟨entry, among, by simp [isDate]⟩

end

/-! ## Nothing unknown is left -/

theorem othersIn_keepIn (keys : List String) (node : Node) : othersIn keys (keepIn keys node) = [] := by
  cases node with
  | table span? form entries => simp [othersIn, keepIn]
  | _ => rfl

theorem Part.others_keep (part : Part) (node : Node) : part.others (part.keep node) = [] := by
  cases part with
  | rules => cases node <;> simp [Part.others, Part.keep, List.flatMap_map, othersIn_keepIn]
  | _ => exact othersIn_keepIn _ node

theorem othersAt_of_keepAt {entry kept : Key × Node} (keeps : keepAt entry = some kept) : othersAt kept = [] := by
  obtain ⟨part, named, rfl⟩ := Option.map_eq_some_iff.1 keeps
  simp [othersAt, named, Part.others_keep]

theorem isDatePart_of_keepAt {entry kept : Key × Node} (keeps : keepAt entry = some kept) :
    isDatePart kept = isDatePart entry := by
  obtain ⟨part, -, rfl⟩ := Option.map_eq_some_iff.1 keeps
  obtain ⟨key, node⟩ := entry
  cases part <;> cases node <;> rfl

theorem unknown_known (document : Entries) : unknown (known document) = [] := by
  rw [unknown, List.flatMap_eq_nil_iff]
  intro kept among
  obtain ⟨entry, -, keeps⟩ := List.mem_filterMap.1 among
  exact othersAt_of_keepAt keeps

theorem hasDatePart_known (document : Entries) : HasDatePart (known document) ↔ HasDatePart document := by
  constructor
  · rintro ⟨kept, among, date⟩
    obtain ⟨entry, present, keeps⟩ := List.mem_filterMap.1 among
    exact ⟨entry, present, isDatePart_of_keepAt keeps ▸ date⟩
  · rintro ⟨entry, among, date⟩
    have part : (Part.ofName? entry.1.name).isSome := by
      unfold isDatePart at date
      split at date
      · exact date
      · cases date
    obtain ⟨part, named⟩ := Option.isSome_iff_exists.1 part
    have keeps : keepAt entry = some (entry.1, part.keep entry.2) := by rw [keepAt, named, Option.map_some]
    exact ⟨_, List.mem_filterMap.2 ⟨entry, among, keeps⟩, (isDatePart_of_keepAt keeps).trans date⟩

theorem unknownKeys_known_iff {document : Entries} {settings : Settings}
    (decoded : decode document = .ok settings) : unknownKeys (known document) = [] ↔ ¬ HasDatePart document := by
  have same := length_unknownKeys_eq_iff ((decode_known document).trans decoded)
  rwa [unknown_known, List.length_nil, List.length_eq_zero_iff, hasDatePart_known] at same

/-! ## Files -/

/-- The file can be read, and holds a text that is TOML. -/
structure Holds (disk : Disk) (file content : String) (document : Entries) : Prop where
  quiet : disk.faults = []
  stands : disk.content? (Bytes.ofText file) = some (Bytes.ofText content)
  isToml : Toml.parse? content = some document

theorem load_of_content {disk : Disk} {file content : String} (quiet : disk.faults = [])
    (stands : disk.content? (Bytes.ofText file) = some (Bytes.ofText content)) :
    ((load file).perform { disk }).1 = ofContent file content := by
  obtain ⟨location, reached, found⟩ := Disk.content?_eq_some_iff.1 stands
  have opened : Disk.openEntry (Bytes.ofText file) disk = (.ok location, disk) := by
    rw [Disk.openEntry, Disk.call_quiet quiet, reached]
    simp [bind, Except.bind, found, pure, Except.pure]
  have read : Disk.read location disk = (.ok (Bytes.ofText content), disk) := by
    rw [Disk.read, Disk.call_quiet quiet, found]
  rw [load_outcome, opened]
  dsimp only
  rw [read]
  dsimp only [ofBytes]
  rw [Bytes.text?_eq_some_iff.2 rfl]

section

variable {disk : Disk} {file content : String} {document : Entries} {settings : Settings}
  {warnings : List Warning}

theorem Holds.load_eq (holds : Holds disk file content document) :
    ((load file).perform { disk }).1 = ofContent file content :=
  load_of_content holds.quiet holds.stands

theorem Holds.load_ok_iff (holds : Holds disk file content document) :
    ((load file).perform { disk }).1 = .ok (settings, warnings) ↔
      decode document = .ok settings ∧ warnings = (unknownKeys document).map (Warning.ofKey file content) := by
  rw [holds.load_eq, ofContent, holds.isToml]
  dsimp only
  cases decode document with
  | error error => simp
  | ok found => simp [eq_comm]

theorem Holds.loads_iff (holds : Holds disk file content document) :
    (∃ loaded, ((load file).perform { disk }).1 = .ok loaded) ↔ ∃ settings, decode document = .ok settings := by
  constructor
  · rintro ⟨⟨settings, warnings⟩, loaded⟩
    exact ⟨settings, (holds.load_ok_iff.1 loaded).1⟩
  · rintro ⟨settings, decoded⟩
    exact ⟨(settings, _), holds.load_ok_iff.2 ⟨decoded, rfl⟩⟩

end

theorem toOption_eq_some_iff {Error Result : Type} {outcome : Except Error Result} {result : Result} :
    outcome.toOption = some result ↔ outcome = .ok result := by
  cases outcome <;> simp

theorem decode_pruned_iff {document document' : Entries} (pruned : document'.plain = (known document).plain)
    (settings : Settings) : decode document' = .ok settings ↔ decode document = .ok settings := by
  rw [← toOption_eq_some_iff, ← decode_plain, pruned, decode_plain, decode_known, toOption_eq_some_iff]

/-- A file loads just if it does without its unknown keys, and as the same settings. It then gives a warning
for each unknown key below no other one, in order, and without them none, just if no part is a date. -/
theorem load_without_unknown_keys {disk disk' : Disk} {file file' content content' : String}
    {document document' : Entries} (holds : Holds disk file content document)
    (holds' : Holds disk' file' content' document') (pruned : document'.plain = (known document).plain) :
    ((∃ loaded, ((load file).perform { disk }).1 = .ok loaded) ↔
      ∃ loaded, ((load file').perform { disk := disk' }).1 = .ok loaded) ∧
    ∀ settings warnings settings' warnings',
      ((load file).perform { disk }).1 = .ok (settings, warnings) →
      ((load file').perform { disk := disk' }).1 = .ok (settings', warnings') →
      settings' = settings ∧ (warnings' = [] ↔ ¬ HasDatePart document) ∧
        (warnings = (unknown document).map (fun key => Warning.ofKey file content key.name) ↔
          ¬ HasDatePart document) := by
  constructor
  · rw [holds.loads_iff, holds'.loads_iff]
    exact exists_congr fun settings => (decode_pruned_iff pruned settings).symm
  · intro settings warnings settings' warnings' loaded loaded'
    obtain ⟨decoded, rfl⟩ := holds.load_ok_iff.1 loaded
    obtain ⟨decoded', rfl⟩ := holds'.load_ok_iff.1 loaded'
    have same : settings' = settings := by
      have again := (decode_pruned_iff pruned settings').1 decoded'
      rw [decoded] at again
      exact (Except.ok.inj again).symm
    have remaining : unknownKeys document' = unknownKeys (known document) := by
      rw [← unknownKeys_plain, pruned, unknownKeys_plain]
    have nothing : (unknownKeys document').map (Warning.ofKey file' content') = [] ↔ ¬ HasDatePart document := by
      rw [List.map_eq_nil_iff, remaining, unknownKeys_known_iff decoded]
    refine ⟨same, nothing, fun told => ?_, fun noDate => ?_⟩
    · have lengths := congrArg List.length told
      rw [List.length_map, List.length_map] at lengths
      exact (length_unknownKeys_eq_iff decoded).1 lengths
    · rw [unknownKeys_eq_of_decode decoded noDate, List.map_map]
      rfl

def settingsDisk (content : String) : Disk where
  files := FileSystem.empty.put [.plain (Bytes.ofText "d.toml")] (.file (Bytes.ofText content))
  workingDirectory := []

theorem holds_settingsDisk {content : String} {document : Entries}
    (isToml : Toml.parse? content = some document) :
    Holds (settingsDisk content) "d.toml" content document :=
  ⟨rfl, rfl, isToml⟩

theorem exists_load_of_run {content : String} {settings : Settings} {reported : List String}
    {also : Entries → Prop} [DecidablePred also]
    (run : (Toml.parse? content).map (fun document => decide ((decode document).toOption = some settings ∧
      unknownKeys document = reported ∧ also document)) = some true) :
    ∃ document, Holds (settingsDisk content) "d.toml" content document ∧
      ((load "d.toml").perform { disk := settingsDisk content }).1 =
        .ok (settings, reported.map (Warning.ofKey "d.toml" content)) ∧ also document := by
  obtain ⟨document, isToml, run⟩ := Option.map_eq_some_iff.1 run
  obtain ⟨decoded, rfl, also⟩ := of_decide_eq_true run
  have holds := holds_settingsDisk isToml
  exact ⟨document, holds, holds.load_ok_iff.2 ⟨toOption_eq_some_iff.1 decoded, rfl⟩, also⟩

/-- Unknown keys in a table, around tables that would be misshapen, and in a rule. -/
def strayText : String :=
  "[paths]\nsuorce = 1\nsource = \"S\"\n[old.output]\nsuffix = 1\n[[rules]]\nnote = 1979-05-27\npattern = \"a\"\n"

def prunedText : String := "paths.source = \"S\"\nrules = [\x7b pattern = \"a\" \x7d]\n"

theorem load_without_unknown_keys_stray : ∃ document document',
    Holds (settingsDisk strayText) "d.toml" strayText document ∧
    Holds (settingsDisk prunedText) "d.toml" prunedText document' ∧
    document'.plain = (known document).plain ∧ ∃ settings warnings,
      ((load "d.toml").perform { disk := settingsDisk strayText }).1 = .ok (settings, warnings) ∧
      ((load "d.toml").perform { disk := settingsDisk prunedText }).1 = .ok (settings, []) ∧
      warnings = (unknown document).map fun key => Warning.ofKey "d.toml" strayText key.name := by
  have compared : ((Toml.parse? strayText).bind fun document => (Toml.parse? prunedText).map fun document' =>
      decide (document'.plain = (known document).plain ∧ ¬ HasDatePart document ∧
        (decode document).toOption.isSome)) = some true := by
    decide +kernel
  obtain ⟨document, isToml, compared⟩ := Option.bind_eq_some_iff.1 compared
  obtain ⟨document', isToml', compared⟩ := Option.map_eq_some_iff.1 compared
  obtain ⟨pruned, noDate, decodes⟩ := of_decide_eq_true compared
  have holds := holds_settingsDisk isToml
  have holds' := holds_settingsDisk isToml'
  obtain ⟨settings, decoded⟩ := Option.isSome_iff_exists.1 decodes
  have loaded := holds.load_ok_iff.2 ⟨toOption_eq_some_iff.1 decoded, rfl⟩
  have both := load_without_unknown_keys holds holds' pruned
  obtain ⟨⟨settings', warnings'⟩, loaded'⟩ := both.1.1 ⟨_, loaded⟩
  obtain ⟨rfl, nothing, each⟩ := both.2 _ _ _ _ loaded loaded'
  refine ⟨document, document', holds, holds', pruned, settings', _, loaded, ?_, each.2 noDate⟩
  rw [loaded', nothing.2 noDate]

def dateText : String := "paths=1979-05-27\n"

/-- A date in place of a part is no unknown key, and yet it is reported, as a key that is written nowhere. -/
theorem load_reports_date_part : ∃ document, Holds (settingsDisk dateText) "d.toml" dateText document ∧
    unknown document = [] ∧ document.plain = (known document).plain ∧
    ((load "d.toml").perform { disk := settingsDisk dateText }).1 =
      .ok ({}, [⟨"$__toml_private_datetime", "d.toml", none, none⟩]) := by
  have shown : Warning.ofKey "d.toml" dateText momentKey = ⟨"$__toml_private_datetime", "d.toml", none, none⟩ := by
    decide +kernel
  obtain ⟨document, holds, loaded, same, pruned⟩ := @exists_load_of_run dateText {} [momentKey]
    (fun document => unknown document = [] ∧ document.plain = (known document).plain) _ (by decide +kernel)
  refine ⟨document, holds, same, pruned, ?_⟩
  rw [loaded, List.map_singleton, shown]

end Retag.Settings
