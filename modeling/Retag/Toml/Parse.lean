import Retag.Toml.Value

/-!
Reading a whole document. The keys of the open table are gathered apart and put in their place when
the next header or the end comes, so a table stands where its last header put it.
-/

set_option autoImplicit false

namespace Retag.Toml

structure Progress where
  closed : Entries
  /-- Where the open table goes; no path for the keys in front of the first header. -/
  path : List Key
  repeated : Bool
  span? : Option Span
  current : Entries

namespace Progress

def start : Progress := ⟨[], [], false, none, []⟩

def addRepeated (key : Key) (node : Node) (entries : Entries) : Option Entries :=
  match entries.get? key.name with
  | none => some (entries ++ [(key, .tables [node])])
  | some (.tables items) => some (entries.replace key.name (.tables (items ++ [node])))
  | some _ => none

def close (progress : Progress) : Option Entries :=
  match progress.path.getLast? with
  | none => some progress.current
  | some key =>
      let node := Node.table progress.span? .header progress.current
      let put := if progress.repeated then addRepeated key node else Entries.add key node
      progress.closed.updateAt .implied (fun _ entries => put entries) progress.path.dropLast .header

/-- A header of a table that was only implied so far takes it over. -/
def takeImplied (key : Key) (entries : Entries) : Option Entries :=
  match entries.get? key.name with
  | none => some []
  | some (.table _ .implied inner) => some inner
  | some _ => none

/-- Makes way for the header's table: what stands at its key already must be a list of tables. -/
def openRepeated (key : Key) (entries : Entries) : Option Entries :=
  match entries.get? key.name with
  | none => some (entries ++ [(key, .tables [])])
  | some (.tables _) => some entries
  | some _ => none

def lookAt (path : List Key) (entries : Entries) : Option Entries :=
  match path with
  | [] => some entries
  | key :: path =>
      match entries.get? key.name with
      | some (.table _ _ inner) => lookAt path inner
      | some (.tables items) =>
          match items.getLast? with
          | some (.table _ _ inner) => lookAt path inner
          | _ => none
      | _ => none

def openTable (progress : Progress) (path : List Key) (repeated : Bool) (span : Span) :
    Option Progress := do
  let closed ← progress.close
  let key ← path.getLast?
  let above := path.dropLast
  if repeated then
    let closed ← closed.updateAt .implied (fun _ entries => openRepeated key entries) above .header
    return ⟨closed, path, true, some span, []⟩
  else
    -- The keys of an implied table move to the open one, which comes back behind its neighbours.
    let made ← closed.updateAt .implied (fun _ entries => some entries) above .header
    let inner ← takeImplied key (← lookAt above made)
    let closed ← made.updateAt .implied (fun _ entries => some (entries.remove key.name)) above .header
    return ⟨closed, path, false, some span, inner⟩

/-- Adds a key to the open table, whose span then reaches to the value's end. -/
def addKey (progress : Progress) (path : List Key) (key : Key) (node : Node) : Option Progress := do
  let span? := match progress.span?, node.span? with
    | some span, some written => some { span with leftAtEnd := written.leftAtEnd }
    | span?, _ => span?
  let current ← progress.current.addAt .dotted path key node .header
  return { progress with span?, current }

end Progress

def header : Reader (List Key × Bool) := fun input => do
  let repeated := input.take 2 = ['[', '[']
  let ((path, key), rest) ← dottedKey (input.drop (if repeated then 2 else 1))
  let ((), rest) ← Reader.word (if repeated then [']', ']'] else [']']) rest
  return ((path ++ [key], repeated), rest)

def linesWithin : (fuel : Nat) → Progress → List Char → Option Entries
  | 0, _, _ => none
  | fuel + 1, progress, input =>
      match skipBlanks input with
      | [] => progress.close
      | '#' :: rest => do
          let ((), rest) ← lineEnd ('#' :: rest)
          linesWithin fuel progress rest
      | '[' :: rest => do
          let (((path, repeated), span), rest) ← Reader.withSpan header ('[' :: rest)
          let ((), rest) ← lineEnd rest
          linesWithin fuel (← progress.openTable path repeated span) rest
      | char :: rest =>
          if char = '\n' ∨ char = '\r' then do
            let ((), rest) ← newline (char :: rest)
            linesWithin fuel progress rest
          else do
            let ((path, key, node), rest) ← keyValue (value (depthLimit - 1)) (char :: rest)
            let ((), rest) ← lineEnd rest
            linesWithin fuel (← progress.addKey path key node) rest

/-- The top level table of a document, if the document is TOML. A byte order mark in front of it is
skipped. -/
def parse? (document : String) : Option Entries :=
  let input := match document.toList with
    | '\uFEFF' :: rest => rest
    | input => input
  linesWithin (input.length + 1) Progress.start input

end Retag.Toml
