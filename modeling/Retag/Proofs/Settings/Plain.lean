import Retag.Proofs.Settings.Fields

/-! What a document says apart from how it is written. Two documents that say the same come to the same
settings and have the same unknown keys, wherever their values stand and however their tables came to be;
only errors tell them apart, by the places that they name.
-/

set_option autoImplicit false

namespace Retag.Toml

mutual

/-- The value without the places of its parts and the forms of its tables. Tables with one header each are
an array. -/
def Node.plain : Node → Node
  | .text _ value => .text default value
  | .integer _ value => .integer default value
  | .float _ value => .float default value
  | .boolean _ value => .boolean default value
  | .moment _ => .moment default
  | .array _ items => .array default (Node.plainItems items)
  | .table _ _ entries => .table none .header (Node.plainEntries entries)
  | .tables items => .array default (Node.plainItems items)

def Node.plainItems : List Node → List Node
  | [] => []
  | item :: items => item.plain :: Node.plainItems items

def Node.plainEntries : List (Key × Node) → List (Key × Node)
  | [] => []
  | (key, node) :: entries => (⟨key.name, default⟩, node.plain) :: Node.plainEntries entries

end

mutual

def Node.same : Node → Node → Bool
  | .text _ value, .text _ other => value = other
  | .integer _ value, .integer _ other => value = other
  | .float _ value, .float _ other => value = other
  | .boolean _ value, .boolean _ other => value = other
  | .moment _, .moment _ => true
  | .array _ items, .array _ others => Node.sameItems items others
  | .array _ items, .tables others => Node.sameItems items others
  | .table _ _ entries, .table _ _ others => Node.sameEntries entries others
  | .tables items, .array _ others => Node.sameItems items others
  | .tables items, .tables others => Node.sameItems items others
  | _, _ => false

def Node.sameItems : List Node → List Node → Bool
  | [], [] => true
  | item :: items, other :: others => item.same other && Node.sameItems items others
  | _, _ => false

def Node.sameEntries : List (Key × Node) → List (Key × Node) → Bool
  | [], [] => true
  | (key, node) :: entries, (other, value) :: others =>
      key.name = other.name && node.same value && Node.sameEntries entries others
  | _, _ => false

end

mutual

theorem Node.plain_eq_iff : (first second : Node) → (first.plain = second.plain ↔ first.same second = true)
  | .text _ _, second => by cases second <;> simp [plain, same]
  | .integer _ _, second => by cases second <;> simp [plain, same]
  | .float _ _, second => by cases second <;> simp [plain, same]
  | .boolean _ _, second => by cases second <;> simp [plain, same]
  | .moment _, second => by cases second <;> simp [plain, same]
  | .array _ items, second => by cases second <;> simp [plain, same, plainItems_eq_iff items]
  | .table _ _ entries, second => by cases second <;> simp [plain, same, plainEntries_eq_iff entries]
  | .tables items, second => by cases second <;> simp [plain, same, plainItems_eq_iff items]

theorem Node.plainItems_eq_iff : (items others : List Node) →
    (plainItems items = plainItems others ↔ sameItems items others = true)
  | [], others => by cases others <;> simp [plainItems, sameItems]
  | item :: items, others => by
      cases others <;> simp [plainItems, sameItems, plain_eq_iff item, plainItems_eq_iff items]

theorem Node.plainEntries_eq_iff : (entries others : List (Key × Node)) →
    (plainEntries entries = plainEntries others ↔ sameEntries entries others = true)
  | [], others => by cases others <;> simp [plainEntries, sameEntries]
  | (key, node) :: entries, others => by
      cases others <;>
        simp [plainEntries, sameEntries, plain_eq_iff node, plainEntries_eq_iff entries, and_assoc]

end

def Entries.plain (entries : Entries) : Entries := Node.plainEntries entries

instance (first second : Entries) : Decidable (first.plain = second.plain) :=
  decidable_of_iff _ (Node.plainEntries_eq_iff first second).symm

@[simp] theorem Node.plainItems_eq (items : List Node) : Node.plainItems items = items.map Node.plain := by
  induction items with
  | nil => simp [plainItems]
  | cons item items ih => simp [plainItems, ih]

@[simp] theorem Entries.plain_nil : Entries.plain [] = [] := by simp [Entries.plain, Node.plainEntries]

@[simp] theorem Entries.plain_cons (key : Key) (node : Node) (entries : Entries) :
    Entries.plain ((key, node) :: entries) = (⟨key.name, default⟩, node.plain) :: entries.plain := by
  simp [Entries.plain, Node.plainEntries]

theorem Entries.map_name_plain (entries : Entries) :
    entries.plain.map (fun entry => entry.1.name) = entries.map fun entry => entry.1.name := by
  induction entries with
  | nil => rw [Entries.plain_nil]
  | cons entry entries ih => rw [Entries.plain_cons, List.map_cons, List.map_cons, ih]

theorem Entries.isEmpty_plain (entries : Entries) : entries.plain.isEmpty = entries.isEmpty := by
  cases entries with
  | nil => rw [Entries.plain_nil]
  | cons entry entries => rw [Entries.plain_cons, List.isEmpty_cons, List.isEmpty_cons]

theorem Node.plain_table (span? : Option Span) (form : Form) (entries : Entries) :
    (Node.table span? form entries).plain = .table none .header entries.plain := by
  simp [plain, Entries.plain]

theorem Node.plain_array (span : Span) (items : List Node) :
    (Node.array span items).plain = .array default (items.map Node.plain) := by
  simp [plain]

theorem Node.plain_tables (items : List Node) :
    (Node.tables items).plain = .array default (items.map Node.plain) := by
  simp [plain]

end Retag.Toml

namespace Retag

/-! ## Outcomes apart from their errors -/

section

variable {Error Result Other : Type}

@[simp] theorem toOption_ok (result : Result) : (Except.ok result : Except Error Result).toOption = some result :=
  rfl

@[simp] theorem toOption_error (error : Error) : (Except.error error : Except Error Result).toOption = none :=
  rfl

@[simp] theorem toOption_mapError (change : Error → Other) (outcome : Except Error Result) :
    (outcome.mapError change).toOption = outcome.toOption := by
  cases outcome <;> rfl

@[simp] theorem toOption_map (change : Result → Other) (outcome : Except Error Result) :
    (outcome.map change).toOption = outcome.toOption.map change := by
  cases outcome <;> rfl

@[simp] theorem toOption_bind (outcome : Except Error Result) (next : Result → Except Error Other) :
    (outcome >>= next).toOption = outcome.toOption.bind fun result => (next result).toOption := by
  cases outcome <;> rfl

theorem toOption_mapM {Item : Type} (read : Item → Except Error Result) (items : List Item) :
    (items.mapM read).toOption = items.mapM fun item => (read item).toOption := by
  induction items with
  | nil => rfl
  | cons item items ih =>
    rw [List.mapM_cons, List.mapM_cons, toOption_bind, ← ih]
    simp only [toOption_bind]
    rfl

end

namespace Settings

open Toml (Node Key Entries)

variable {Section : Type} {fields : List (Field Section)}

namespace Field

/-- Whether the field accepts a value, and what it makes of it, do not depend on the value's places. -/
def ReadsPlain (field : Field Section) : Prop :=
  ∀ node state, (field.accept node.plain state).toOption = (field.accept node state).toOption

theorem acceptAt_toOption (field : Field Section) (span? : Option Toml.Span) (node : Node) (state : Section) :
    (field.acceptAt span? node state).toOption = (field.accept node state).toOption := by
  rw [acceptAt, toOption_mapError]

end Field

theorem acceptEntries_cons_toOption (key : Key) (node : Node) (entries : Entries) (state : Section) :
    (acceptEntries fields ((key, node) :: entries) state).toOption =
      ((fields.find? fun field => field.key = key.name).elim (some state) fun field =>
        (field.accept node state).toOption).bind fun state => (acceptEntries fields entries state).toOption := by
  rw [acceptEntries]
  cases fields.find? fun field => field.key = key.name with
  | none => rfl
  | some field =>
    rw [Option.elim_some, ← field.acceptAt_toOption (some key.span)]
    dsimp only
    cases field.acceptAt (some key.span) node state <;> rfl

theorem acceptItems_cons_toOption (field : Field Section) (item : Node) (items : List Node) (state : Section) :
    (acceptItems (field :: fields) (item :: items) state).toOption =
      (field.accept item state).toOption.bind fun state => (acceptItems fields items state).toOption := by
  rw [acceptItems, ← field.acceptAt_toOption none]
  cases field.acceptAt none item state <;> rfl

theorem acceptEntries_plain (plain : ∀ field ∈ fields, field.ReadsPlain) (entries : Entries) (state : Section) :
    (acceptEntries fields entries.plain state).toOption = (acceptEntries fields entries state).toOption := by
  induction entries generalizing state with
  | nil => simp
  | cons entry entries ih =>
    obtain ⟨key, node⟩ := entry
    rw [Entries.plain_cons, acceptEntries_cons_toOption, acceptEntries_cons_toOption]
    simp only [ih]
    cases found : fields.find? fun field => field.key = key.name with
    | none => rfl
    | some field => rw [Option.elim_some, Option.elim_some, plain field (List.mem_of_find?_eq_some found)]

theorem acceptItems_plain (plain : ∀ field ∈ fields, field.ReadsPlain) (items : List Node) (state : Section) :
    (acceptItems fields (items.map Node.plain) state).toOption = (acceptItems fields items state).toOption := by
  induction fields generalizing items state with
  | nil => cases items <;> rfl
  | cons field fields ih =>
    obtain ⟨first, others⟩ := List.forall_mem_cons.1 plain
    cases items with
    | nil => rfl
    | cons item items =>
      rw [List.map_cons, acceptItems_cons_toOption, acceptItems_cons_toOption, first item state]
      simp only [ih others]

theorem acceptSection_plain (plain : ∀ field ∈ fields, field.ReadsPlain) (name : String) (node : Node)
    (state : Section) : (acceptSection name fields state node.plain).toOption =
      (acceptSection name fields state node).toOption := by
  unfold acceptSection
  rw [toOption_mapError, toOption_mapError]
  cases node with
  | table span? form entries =>
    rw [Node.plain_table]
    exact acceptEntries_plain plain entries state
  | array span items =>
    rw [Node.plain_array]
    exact acceptItems_plain plain items state
  | tables items =>
    rw [Node.plain_tables]
    exact acceptItems_plain plain items state
  | _ => simp [Node.plain]

theorem textField_readsPlain (key expected : String) (change : String → Section → Section) :
    (textField key expected change).ReadsPlain := by
  intro node state
  cases node <;> simp [textField, decodeText, Node.plain]

theorem decodeUnit_plain (node : Node) : (decodeUnit node.plain).toOption = (decodeUnit node).toOption := by
  cases node with
  | table span? form entries =>
    rw [Node.plain_table, decodeUnit, decodeUnit, Entries.isEmpty_plain]
    cases entries.isEmpty <;> rfl
  | array span items => cases items <;> simp [Node.plain_array, decodeUnit]
  | tables items => cases items <;> simp [Node.plain_tables, decodeUnit]
  | _ => simp [Node.plain, decodeUnit]

theorem decodeEndingName_plain (name : String) (span span' : Toml.Span) :
    (decodeEndingName name span).toOption = (decodeEndingName name span').toOption := by
  unfold decodeEndingName
  cases LineEnding.ofName? name <;> rfl

theorem decodeLineEnding_plain (node : Node) :
    (decodeLineEnding node.plain).toOption = (decodeLineEnding node).toOption := by
  cases node with
  | text span name => simpa [Node.plain, decodeLineEnding] using decodeEndingName_plain name _ span
  | table span? form entries =>
    rw [Node.plain_table]
    match entries with
    | [] => simp [decodeLineEnding]
    | [(key, node)] =>
      have named := decodeEndingName_plain key.name default key.span
      simp only [Entries.plain_cons, Entries.plain_nil, decodeLineEnding, toOption_bind, toOption_mapError, named,
        decodeUnit_plain]
    | (_, _) :: (_, _) :: _ => simp [decodeLineEnding]
  | _ => simp [Node.plain, decodeLineEnding]

theorem ruleFields_readPlain : ∀ field ∈ ruleFields, field.ReadsPlain := by
  simp [ruleFields, textField_readsPlain]

theorem decodeRule_plain (node : Node) : (decodeRule node.plain).toOption = (decodeRule node).toOption := by
  unfold decodeRule
  rw [toOption_bind, toOption_bind, acceptSection_plain ruleFields_readPlain]
  congr 1
  funext rule
  cases rule.pattern? <;> rfl

theorem decodeRules_plain (node : Node) : (decodeRules node.plain).toOption = (decodeRules node).toOption := by
  have items_plain (items : List Node) :
      ((items.map Node.plain).mapM decodeRule).toOption = (items.mapM decodeRule).toOption := by
    rw [toOption_mapM, toOption_mapM, List.mapM_map]
    congr 1
    funext item
    exact decodeRule_plain item
  cases node with
  | array span items =>
    rw [Node.plain_array]
    simp only [decodeRules, toOption_mapError, items_plain]
  | tables items =>
    rw [Node.plain_tables]
    simp only [decodeRules, toOption_mapError, items_plain]
  | _ => simp [Node.plain, decodeRules]

theorem topFields_readPlain : ∀ field ∈ topFields, field.ReadsPlain := by
  simp only [topFields, List.forall_mem_cons]
  refine ⟨fun node state => ?_, fun node state => ?_, fun node state => ?_, fun node state => ?_,
    List.forall_mem_nil _⟩
  · refine acceptSection_plain ?_ _ _ _
    simp [pathsFields, textField_readsPlain]
  · refine acceptSection_plain ?_ _ _ _
    simp [filterFields, textField_readsPlain]
  · refine acceptSection_plain ?_ _ _ _
    simp only [outputFields, List.forall_mem_cons]
    refine ⟨textField_readsPlain _ _ _, fun node state => ?_, List.forall_mem_nil _⟩
    rw [toOption_map, toOption_map, decodeLineEnding_plain]
  · rw [toOption_map, toOption_map, decodeRules_plain]

theorem decode_plain (document : Entries) :
    (decode document.plain).toOption = (decode document).toOption :=
  acceptEntries_plain topFields_readPlain document {}

/-! ## Unknown keys -/

theorem unknownInSection_plain (node : Node) :
    unknownInSection fields node.plain = unknownInSection fields node := by
  cases node with
  | table span? form entries =>
    have names := congrArg (List.filter fun name => !fields.any fun field => field.key = name)
      (Entries.map_name_plain entries)
    rw [List.filter_map, List.filter_map] at names
    rw [Node.plain_table]
    exact names
  | _ => simp [Node.plain, unknownInSection]

theorem unknownInRules_plain (node : Node) : unknownInRules node.plain = unknownInRules node := by
  cases node with
  | array span items =>
    rw [Node.plain_array]
    simp [unknownInRules, List.flatMap_map, unknownInSection_plain]
  | tables items =>
    rw [Node.plain_tables]
    simp [unknownInRules, List.flatMap_map, unknownInSection_plain]
  | _ => simp [Node.plain, unknownInRules]

theorem unknownKeys_plain (document : Entries) : unknownKeys document.plain = unknownKeys document := by
  induction document with
  | nil => simp
  | cons entry document ih =>
    obtain ⟨key, node⟩ := entry
    rw [Entries.plain_cons, unknownKeys, unknownKeys, List.flatMap_cons, List.flatMap_cons]
    refine congr (congrArg _ ?_) ih
    simp only [unknownInSection_plain, unknownInRules_plain]

end Settings

end Retag
