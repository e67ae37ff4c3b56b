import Retag.Command.Run
import Retag.Proofs.Action.Perform
import Retag.Proofs.FileSystem.Calls
import Retag.Proofs.Settings.Layer
import Retag.Proofs.Text.Encoding

/-! Where each setting of a run comes from: its flag, its variable, the one file that was chosen, or the
default, each setting apart from the others. Loading fails only for that file or for the variable that
names a line ending.
-/

set_option autoImplicit false

namespace Retag

def Disk.onward (disk : Disk) : Disk := { disk with faults := disk.faults.tail }

namespace Settings

/-! ## The file -/

/-- A look at the path shows a regular file: no error is forced on it, and the path leads to one. -/
def Shows (disk : Disk) (path : Bytes) : Prop :=
  disk.faults.head?.join = none ∧ ∃ content, disk.content? path = some content

/-- The file that a run reads its settings from, if any, and the disk behind the looks that it took to
choose it. -/
inductive Chosen (environment : Environment) (disk : Disk) :
    (explicit? : Option String) → (chosen? : Option Bytes) → (behind : Disk) → Prop where
  | explicit (file : String) : Chosen environment disk (some file) (some (Bytes.ofText file)) disk
  | project : Shows disk (Bytes.ofText "doxytag.toml") →
      Chosen environment disk none (some (Bytes.ofText "doxytag.toml")) disk.onward
  | user {file : Bytes} : ¬ Shows disk (Bytes.ofText "doxytag.toml") →
      environment.userSettings? = some file → Shows disk.onward file →
      Chosen environment disk none (some file) disk.onward.onward
  | absent {file : Bytes} : ¬ Shows disk (Bytes.ofText "doxytag.toml") →
      environment.userSettings? = some file → ¬ Shows disk.onward file →
      Chosen environment disk none none disk.onward.onward
  | nothing : ¬ Shows disk (Bytes.ofText "doxytag.toml") → environment.userSettings? = none →
      Chosen environment disk none none disk.onward

theorem presentFile_of_shows {world : World} {path : Bytes} (shows : Shows world.disk path) :
    (presentFile path).perform world = (.ok (some path), { world with disk := world.disk.onward }) := by
  obtain ⟨unforced, content, found⟩ := shows
  have asked := Action.perform_ask (Disk.isFile path) world
  rw [Disk.isFile_fst, Disk.isFile_snd, unforced, found] at asked
  rw [presentFile, Action.perform_bind_of_ok asked]
  rfl

theorem presentFile_of_not_shows {world : World} {path : Bytes} (hidden : ¬ Shows world.disk path) :
    (presentFile path).perform world = (.ok none, { world with disk := world.disk.onward }) := by
  have asked := Action.perform_ask (Disk.isFile path) world
  have unseen : (Disk.isFile path world.disk).1 = false := by
    rw [Disk.isFile_fst, ← Bool.not_eq_true, Bool.and_eq_true, Option.isNone_iff_eq_none,
      Option.isSome_iff_exists]
    exact hidden
  rw [unseen, Disk.isFile_snd] at asked
  rw [presentFile, Action.perform_bind_of_ok asked]
  rfl

theorem Chosen.performs {environment : Environment} {disk behind : Disk} {explicit? : Option String}
    {chosen? : Option Bytes} (chosen : Chosen environment disk explicit? chosen? behind) :
    (chooseFile environment explicit?).perform { disk } = (.ok chosen?, { disk := behind }) := by
  have passed (hidden : ¬ Shows disk (Bytes.ofText projectFile)) :
      (presentFile (Bytes.ofText projectFile)).perform { disk } = (.ok none, { disk := disk.onward }) :=
    presentFile_of_not_shows hidden
  cases chosen with
  | explicit file => rfl
  | project shows =>
    rw [chooseFile, Action.perform_bind_of_ok (presentFile_of_shows shows)]
    rfl
  | user hidden named shows =>
    rw [chooseFile, Action.perform_bind_of_ok (passed hidden), named]
    exact presentFile_of_shows shows
  | absent hidden named unseen =>
    rw [chooseFile, Action.perform_bind_of_ok (passed hidden), named]
    exact presentFile_of_not_shows unseen
  | nothing hidden named =>
    rw [chooseFile, Action.perform_bind_of_ok (passed hidden), named]
    rfl

theorem Chosen.unique {environment : Environment} {disk behind behind' : Disk} {explicit? : Option String}
    {first second : Option Bytes} (one : Chosen environment disk explicit? first behind)
    (other : Chosen environment disk explicit? second behind') : second = first ∧ behind' = behind := by
  cases other.performs.symm.trans one.performs
  exact ⟨rfl, rfl⟩

theorem exists_chosen (environment : Environment) (explicit? : Option String) (disk : Disk) :
    ∃ chosen? behind, Chosen environment disk explicit? chosen? behind := by
  cases explicit? with
  | some file => exact ⟨_, _, .explicit file⟩
  | none =>
    by_cases project : Shows disk (Bytes.ofText "doxytag.toml")
    · exact ⟨_, _, .project project⟩
    cases named : environment.userSettings? with
    | none => exact ⟨_, _, .nothing project named⟩
    | some file =>
      by_cases user : Shows disk.onward file
      · exact ⟨_, _, .user project named user⟩
      · exact ⟨_, _, .absent project named user⟩

theorem Chosen.content?_eq {environment : Environment} {disk behind : Disk} {explicit? : Option String}
    {chosen? : Option Bytes} (chosen : Chosen environment disk explicit? chosen? behind) :
    behind.content? = disk.content? := by
  cases chosen <;> rfl

def ofBytes (file : String) (bytes : Bytes) : Except Failure Loaded :=
  match bytes.text? with
  | none => .error (.io .notUtf8)
  | some content => ofContent file content

theorem loadFrom_outcome (path : Bytes) (world : World) :
    ((loadFrom path).perform world).1 =
      match Disk.openEntry path world.disk with
      | (.error error, _) => .error (.io error)
      | (.ok location, disk) =>
          match Disk.read location disk with
          | (.error error, _) => .error (.io error)
          | (.ok bytes, _) => ofBytes path.display bytes := by
  unfold loadFrom
  cases opened : Disk.openEntry path world.disk with
  | mk outcome disk =>
    cases outcome with
    | error error => rw [Action.perform_bind_of_error (Action.perform_attempt_of_error opened _)]
    | ok location =>
      rw [Action.perform_bind_of_ok (Action.perform_attempt_of_ok opened _)]
      cases reached : Disk.read location disk with
      | mk outcome after =>
        have called : Disk.read location { world with disk }.disk = (outcome, after) := reached
        cases outcome with
        | error error =>
          rw [Action.perform_bind_of_error (Action.perform_attempt_of_error called _)]
          simp [reached]
        | ok bytes =>
          rw [Action.perform_bind_of_ok (Action.perform_attempt_of_ok called _)]
          simp only [reached, ofBytes]
          cases bytes.text? <;> rfl

theorem load_outcome (file : String) (world : World) :
    ((load file).perform world).1 =
      match Disk.openEntry (Bytes.ofText file) world.disk with
      | (.error error, _) => .error (.io error)
      | (.ok location, disk) =>
          match Disk.read location disk with
          | (.error error, _) => .error (.io error)
          | (.ok bytes, _) => ofBytes file bytes := by
  rw [load, loadFrom_outcome, Bytes.display_ofText]

theorem loadFrom_unlogged (path : Bytes) (world : World) :
    ((loadFrom path).perform world).1 = ((loadFrom path).perform { disk := world.disk }).1 := by
  rw [loadFrom_outcome, loadFrom_outcome]

theorem ofContent_ok {file content : String} {settings : Settings} {warnings : List Warning}
    (loaded : ofContent file content = .ok (settings, warnings)) :
    ∃ document, Toml.parse? content = some document ∧ decode document = .ok settings := by
  unfold ofContent at loaded
  split at loaded
  · cases loaded
  · next document parsed =>
    split at loaded
    · cases loaded
    · next decoded =>
      cases loaded
      exact ⟨document, parsed, decoded⟩

theorem loadFrom_ok {path : Bytes} {disk : Disk} {settings : Settings} {warnings : List Warning}
    (loaded : ((loadFrom path).perform { disk }).1 = .ok (settings, warnings)) :
    ∃ content document, disk.content? path = some (Bytes.ofText content) ∧
      Toml.parse? content = some document ∧ decode document = .ok settings := by
  rw [loadFrom_outcome] at loaded
  split at loaded
  · cases loaded
  · next location reached opened =>
    split at loaded
    · cases loaded
    · next bytes after read =>
      obtain ⟨resolved, -, rfl⟩ := Disk.openEntry_ok opened
      obtain ⟨stands, -⟩ := Disk.read_ok read
      unfold ofBytes at loaded
      split at loaded
      · cases loaded
      · next content decodes =>
        cases Bytes.text?_eq_some_iff.1 decodes
        obtain ⟨document, parsed, decoded⟩ := ofContent_ok loaded
        exact ⟨content, document, Disk.content?_eq_some_iff.2 ⟨location, resolved, stands⟩, parsed, decoded⟩

/-! ## Variables -/

/-- The variable for line endings is set, and to something that names none in any case. -/
def NamesNoEnding (environment : Environment) : Prop :=
  ∃ written, environment.get? "DOXYTAG_LINE_ENDING" = some written ∧
    Letter.lowercase written ≠ "lf" ∧ Letter.lowercase written ≠ "crlf"

def namedEnding? (environment : Environment) : Option LineEnding :=
  (environment.get? "DOXYTAG_LINE_ENDING").bind fun written => LineEnding.ofName? (Letter.lowercase written)

theorem ofName?_eq_none_iff (name : String) :
    LineEnding.ofName? name = none ↔ name ≠ "lf" ∧ name ≠ "crlf" := by
  unfold LineEnding.ofName?
  split
  · next same => simp [same]
  · next other =>
    split
    · next same => simp [same]
    · next another => simp [other, another]

def underVariables (settings : Settings) (environment : Environment) : Settings :=
  { settings with
    source := environment.get? "DOXYTAG_SOURCE" <|> settings.source
    output := (environment.get? "DOXYTAG_OUTPUT").getD settings.output
    includes := (environment.get? "DOXYTAG_INCLUDE").getD settings.includes
    excludes := (environment.get? "DOXYTAG_EXCLUDE").getD settings.excludes
    suffix := (environment.get? "DOXYTAG_SUFFIX").getD settings.suffix
    lineEnding := (namedEnding? environment).getD settings.lineEnding }

theorem withEnvironment_cases (settings : Settings) (environment : Environment) :
    (NamesNoEnding environment ∧ ∃ failure, settings.withEnvironment environment = .error failure) ∨
    (¬ NamesNoEnding environment ∧
      settings.withEnvironment environment = .ok (settings.underVariables environment)) := by
  unfold withEnvironment lineEndingOverride underVariables namedEnding? NamesNoEnding lineEndingVariable
  cases environment.get? "DOXYTAG_LINE_ENDING" with
  | none => exact .inr ⟨by simp, rfl⟩
  | some written =>
    simp only [Option.some.injEq, exists_eq_left', ← ofName?_eq_none_iff, Option.bind_some]
    cases LineEnding.ofName? (Letter.lowercase written) with
    | none => exact .inl ⟨rfl, _, rfl⟩
    | some ending => exact .inr ⟨by simp, rfl⟩

/-! ## All layers -/

theorem resolve_outcome {environment : Environment} {explicit? : Option String} {disk behind : Disk}
    {chosen? : Option Bytes}
    (chooses : (chooseFile environment explicit?).perform { disk } = (.ok chosen?, { disk := behind })) :
    ((resolve environment explicit?).perform { disk }).1 =
      match chosen? with
      | none => (withEnvironment {} environment).map fun settings => (settings, [])
      | some file =>
          match ((loadFrom file).perform { disk := behind }).1 with
          | .error failure => .error failure
          | .ok (settings, warnings) =>
              (settings.withEnvironment environment).map fun settings => (settings, warnings) := by
  unfold resolve
  rw [Action.perform_bind_of_ok chooses]
  cases chosen? with
  | none =>
    dsimp only
    rw [Action.perform_bind_of_ok (Action.perform_pure _ _)]
    cases withEnvironment {} environment <;> rfl
  | some file =>
    dsimp only
    rw [Action.perform_bind_of_ok (Action.perform_note _ _)]
    -- The file's name is noted in the log, which loading does not look at.
    generalize [] ++ [_] = log
    rw [← loadFrom_unlogged file ⟨behind, log⟩]
    cases loads : (loadFrom file).perform ⟨behind, log⟩ with
    | mk outcome final =>
      cases outcome with
      | error failure => rw [Action.perform_bind_of_error loads]
      | ok loaded =>
        rw [Action.perform_bind_of_ok loads]
        obtain ⟨settings, warnings⟩ := loaded
        dsimp only
        cases settings.withEnvironment environment <;> rfl

/-- The layer of the chosen file; nothing where no file is chosen. -/
inductive Layer.From (disk : Disk) : Option Bytes → Layer → Prop where
  | nothing : From disk none {}
  | file {file : Bytes} {content : String} {document : Toml.Entries} {layer : Layer} :
      disk.content? file = some (Bytes.ofText content) →
      Toml.parse? content = some document → layer.Reads document → From disk (some file) layer

/-- Each setting as its own first choice among flag, variable, file and default. -/
structure Merged (overrides : Overrides) (environment : Environment) (layer : Layer)
    (settings : Settings) : Prop where
  source : settings.source =
    (overrides.source <|> environment.get? "DOXYTAG_SOURCE" <|> layer.source?)
  output : settings.output =
    (overrides.output <|> environment.get? "DOXYTAG_OUTPUT" <|> layer.output?).getD "doxygenFiles"
  includes : settings.includes =
    (overrides.includes <|> environment.get? "DOXYTAG_INCLUDE" <|> layer.includes?).getD ".cs"
  excludes : settings.excludes =
    (overrides.excludes <|> environment.get? "DOXYTAG_EXCLUDE" <|> layer.excludes?).getD ".meta"
  suffix : settings.suffix =
    (overrides.suffix <|> environment.get? "DOXYTAG_SUFFIX" <|> layer.suffix?).getD "_doxy"
  lineEnding : settings.lineEnding =
    if overrides.crlf then .crlf else (namedEnding? environment <|> layer.lineEnding?).getD .lf
  rules : settings.rules = layer.rules?.getD []

theorem getD_orElse {Value : Type} (first rest : Option Value) (default : Value) :
    (first <|> rest).getD default = first.getD (rest.getD default) := by
  cases first <;> rfl

theorem merged (overrides : Overrides) (environment : Environment) (layer : Layer) :
    Merged overrides environment layer
      ((layer.settings.underVariables environment).withOverrides overrides) where
  source := rfl
  output := by rw [getD_orElse, getD_orElse]; rfl
  includes := by rw [getD_orElse, getD_orElse]; rfl
  excludes := by rw [getD_orElse, getD_orElse]; rfl
  suffix := by rw [getD_orElse, getD_orElse]; rfl
  lineEnding := by rw [getD_orElse]; rfl
  rules := rfl

theorem resolve_cases {environment : Environment} {explicit? : Option String} {disk behind : Disk}
    {chosen? : Option Bytes} (chosen : Chosen environment disk explicit? chosen? behind) :
    ((∃ failure, ((resolve environment explicit?).perform { disk }).1 = .error failure) ∧
      ((∃ file failure, chosen? = some file ∧ ((loadFrom file).perform { disk := behind }).1 = .error failure) ∨
        NamesNoEnding environment)) ∨
    (¬ NamesNoEnding environment ∧
      (∀ file failure, chosen? = some file →
        ((loadFrom file).perform { disk := behind }).1 ≠ .error failure) ∧
      ∃ layer warnings, Layer.From disk chosen? layer ∧
        ((resolve environment explicit?).perform { disk }).1 =
          .ok (layer.settings.underVariables environment, warnings)) := by
  rw [resolve_outcome chosen.performs]
  cases chosen? with
  | none =>
    rcases withEnvironment_cases {} environment with ⟨noEnding, failure, refused⟩ | ⟨named, accepted⟩
    · exact .inl ⟨⟨failure, by rw [refused]; rfl⟩, .inr noEnding⟩
    · exact .inr ⟨named, by simp, {}, [], .nothing, by rw [accepted]; rfl⟩
  | some file =>
    cases loads : ((loadFrom file).perform { disk := behind }).1 with
    | error failure => exact .inl ⟨⟨failure, by simp only [loads]⟩, .inl ⟨file, failure, rfl, loads⟩⟩
    | ok loaded =>
      obtain ⟨settings, warnings⟩ := loaded
      obtain ⟨content, document, reads, parsed, decoded⟩ := loadFrom_ok loads
      rw [chosen.content?_eq] at reads
      obtain ⟨layer, read, rfl⟩ := exists_layer (Toml.parse?_distinct parsed) decoded
      rcases withEnvironment_cases layer.settings environment with
        ⟨noEnding, failure, refused⟩ | ⟨named, accepted⟩
      · exact .inl ⟨⟨failure, by simp only [loads, refused, Except.map]⟩, .inr noEnding⟩
      · refine .inr ⟨named, ?_, layer, warnings, .file reads parsed read, by simp only [loads, accepted, Except.map]⟩
        intro other failure same failed
        cases same
        cases loads.symm.trans failed

end Settings

namespace Command

theorem settings_outcome (request : Request) (environment : Environment) (disk : Disk) :
    ((request.settings environment).perform { disk }).1 =
      ((Settings.resolve environment request.config).perform { disk }).1.map fun loaded =>
        (loaded.1.withOverrides request.order.overrides, loaded.2) := by
  unfold Request.settings
  cases resolved : (Settings.resolve environment request.config).perform { disk } with
  | mk outcome world =>
    cases outcome with
    | error failure => rw [Action.perform_bind_of_error resolved]; rfl
    | ok loaded => rw [Action.perform_bind_of_ok resolved]; rfl

/-- Loading the settings of a request fails just when its file fails to load or the variable for line
endings names none. Otherwise each setting is that of its flag, else its variable, else the file, else the
default, whatever the other settings are; rules come from the file alone. The file is the given one, else
the project's, else the user's. -/
theorem settings_precedence (request : Request) (environment : Environment) (disk : Disk) :
    ∃ chosen? behind, Settings.Chosen environment disk request.config chosen? behind ∧
      (∀ other? other, Settings.Chosen environment disk request.config other? other →
        other? = chosen? ∧ other = behind) ∧
      ((∃ failure, ((request.settings environment).perform { disk }).1 = .error failure) ↔
        (∃ file failure, chosen? = some file ∧
          ((Settings.loadFrom file).perform { disk := behind }).1 = .error failure) ∨
        Settings.NamesNoEnding environment) ∧
      ∀ settings warnings, ((request.settings environment).perform { disk }).1 = .ok (settings, warnings) →
        ∃ layer, Settings.Layer.From disk chosen? layer ∧
          Settings.Merged request.order.overrides environment layer settings := by
  obtain ⟨chosen?, behind, chosen⟩ := Settings.exists_chosen environment request.config disk
  refine ⟨chosen?, behind, chosen, fun other? other another => chosen.unique another, ?_⟩
  rw [settings_outcome]
  rcases Settings.resolve_cases chosen with
    ⟨⟨failure, refused⟩, cause⟩ | ⟨named, loads, layer, warnings, given, resolved⟩
  · rw [refused]
    exact ⟨iff_of_true ⟨failure, rfl⟩ cause, fun settings warnings accepted => nomatch accepted⟩
  · rw [resolved]
    refine ⟨iff_of_false ?_ ?_, fun settings told accepted => ?_⟩
    · rintro ⟨failure, ⟨⟩⟩
    · rintro (⟨file, failure, same, failed⟩ | noEnding)
      · exact loads file failure same failed
      · exact named noEnding
    · cases accepted
      exact ⟨layer, given, Settings.merged _ _ layer⟩

end Command

end Retag
