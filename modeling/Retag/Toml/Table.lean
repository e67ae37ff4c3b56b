import Retag.Toml.Document

/-!
Growing tables. A key is added to the table that its path leads to; tables missing on the way are
made. A table that was completed by its own header takes no more keys from dotted keys, one that was
completed by its braces takes none at all, and no key is given twice.
-/

set_option autoImplicit false

namespace Retag.Toml.Entries

def get? (name : String) (entries : Entries) : Option Node :=
  (List.find? (fun entry => entry.1.name = name) entries).map Prod.snd

def replace (name : String) (node : Node) (entries : Entries) : Entries :=
  List.map (fun entry => if entry.1.name = name then (entry.1, node) else entry) entries

def remove (name : String) (entries : Entries) : Entries :=
  List.filter (fun entry => entry.1.name ≠ name) entries

/-- Changes the table that a path leads to. `made` is the form of the tables made on the way. -/
def updateAt (made : Form) (update : Form → Entries → Option Entries) :
    (path : List Key) → Form → Entries → Option Entries
  | [], form, entries => update form entries
  | key :: path, _, entries =>
      match get? key.name entries with
      | none => do
          let inner ← updateAt made update path made []
          return entries ++ [(key, .table none made inner)]
      | some (.table span? form inner) =>
          if !made.passes form then none
          else do
            let inner ← updateAt made update path form inner
            return replace key.name (.table span? form inner) entries
      -- A path into a list of tables leads to its last one.
      | some (.tables items) =>
          match items.getLast? with
          | some (.table span? form inner) => do
              let inner ← updateAt made update path form inner
              return replace key.name (.tables (items.dropLast ++ [.table span? form inner])) entries
          | _ => none
      | some _ => none

def add (key : Key) (node : Node) (entries : Entries) : Option Entries :=
  if (get? key.name entries).isSome then none else some (entries ++ [(key, node)])

/-- Adds a key and value by a dotted path. Only tables made by dotted keys are added to this way. -/
def addAt (made : Form) (path : List Key) (key : Key) (node : Node) (form : Form)
    (entries : Entries) : Option Entries :=
  updateAt made (fun form entries =>
    -- Without a path the key goes to the open table itself, which no dotted key made.
    if form.isDotted = path.isEmpty then none else add key node entries) path form entries

end Retag.Toml.Entries
