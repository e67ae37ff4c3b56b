import Retag.Command.Run

/-! Which lines of a command go to the output stream. Log records and failures never do; what a
conversion tells other programs always does.
-/

set_option autoImplicit false

namespace Retag.Command

def shown (lines : List Line) : List String :=
  (lines.filter fun line => line.stream = .output).map Line.text

theorem printed_output (outcome : Outcome) : outcome.printed .output = shown outcome.lines := rfl

@[simp] theorem shown_nil : shown [] = [] := rfl

@[simp] theorem shown_append (first second : List Line) :
    shown (first ++ second) = shown first ++ shown second := by
  simp [shown]

@[simp] theorem shown_cons_out (text : String) (lines : List Line) :
    shown (.out text :: lines) = text :: shown lines := by
  simp [shown, Line.out]

@[simp] theorem shown_cons_message (message : Message) (lines : List Line) :
    shown (message.line :: lines) = message.json.text :: shown lines :=
  shown_cons_out _ _

theorem printed_after (earlier : List Line) (outcome : Outcome) :
    (outcome.after earlier).printed .output = shown earlier ++ outcome.printed .output :=
  shown_append earlier outcome.lines

theorem shown_map_out {Item : Type} (text : Item → String) (items : List Item) :
    shown (items.map fun item => .out (text item)) = items.map text := by
  induction items with
  | nil => rfl
  | cons item items ih => rw [List.map_cons, shown_cons_out, ih, List.map_cons]

theorem shown_map_message {Item : Type} (message : Item → Message) (items : List Item) :
    shown (items.map fun item => (message item).line) = items.map fun item => (message item).json.text :=
  shown_map_out _ items

theorem shown_map_err {Item : Type} (text : Item → String) (items : List Item) :
    shown (items.map fun item => .err (text item)) = [] := by
  induction items with
  | nil => rfl
  | cons item items ih =>
    rw [List.map_cons, ← ih]
    simp [shown, Line.err]

@[simp] theorem shown_logLines (filter : Log.Filter) (records : List Log.Record) :
    shown (logLines filter records) = [] :=
  shown_map_err _ _

@[simp] theorem shown_troubleLines (summary : String) (causes : List String) :
    shown (Trouble.lines summary causes) = [] := by
  rw [Trouble.lines]
  exact shown_map_err id _

@[simp] theorem shown_ofFailure (failure : Failure) : shown (Trouble.ofFailure failure) = [] :=
  shown_troubleLines _ _

@[simp] theorem shown_ofLoading (failure : Failure) : shown (Trouble.ofLoading failure) = [] :=
  shown_troubleLines _ _

@[simp] theorem shown_warningLines (warnings : List Settings.Warning) :
    shown (warnings.map (warningLine true)) =
      warnings.map fun warning => (Message.warning warning).json.text :=
  shown_map_message _ _

theorem shown_notices (dryRun : Bool) (filter : Log.Filter) (notices : List Batch.Notice) :
    shown (notices.flatMap (noticeLines true dryRun filter)) =
      (notices.filterMap Batch.Notice.event?).map fun event => (Message.batch event).json.text := by
  induction notices with
  | nil => rfl
  | cons notice notices ih =>
    rw [List.flatMap_cons, shown_append, ih]
    cases notice with
    | record told =>
      rw [List.filterMap_cons_none rfl]
      simp [noticeLines]
    | event happened =>
      have happens : Batch.Notice.event? (.event happened) = some happened := rfl
      rw [List.filterMap_cons_some happens]
      simp [noticeLines]

end Retag.Command
