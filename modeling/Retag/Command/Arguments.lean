import Retag.Command.Help
import Retag.Settings.Overrides
import Retag.Text.Occurrence

/-!
Reading a command line. The words in front of a verb and the words behind it are read by the same
rules, with the switches known there. A switch that takes a value holds it attached or waits for the
next word that is no switch. A waiting switch is settled when the next known switch comes, or at the
end; a word that cannot be read at all is refused before that. Words are texts; a path that is no UTF-8
cannot be given.
-/

set_option autoImplicit false

namespace Retag.Command

inductive Refusal where
  | unexpectedArgument (word : String)
  | unknownVerb (word : String)
  | missingValue (switch : Switch)
  | repeated (switch : Switch)
  | unexpectedValue (switch : Switch) (value : String)
  | missingVerb
  deriving DecidableEq, Repr

def Refusal.message : Refusal → String
  | .unexpectedArgument word => "unexpected argument '" ++ word ++ "' found"
  | .unknownVerb word => "unrecognized subcommand '" ++ word ++ "'"
  | .missingValue switch =>
      "a value is required for '" ++ switch.spelling ++ "' but none was supplied"
  | .repeated switch => "the argument '" ++ switch.spelling ++ "' cannot be used multiple times"
  | .unexpectedValue switch value =>
      "unexpected value '" ++ value ++ "' for '" ++ switch.spelling ++
        "' found; no more were expected"
  | .missingVerb => "'" ++ programName ++ "' requires a subcommand but one was not provided"

inductive Reply where
  | help (topic : Topic)
  | version
  | refusal (refusal : Refusal)
  /-- Nothing was asked, so the help is shown as an error. -/
  | nothingAsked
  deriving DecidableEq, Repr

inductive Order where
  | convert (overrides : Overrides) (dryRun : Bool)
  | list (overrides : Overrides)
  | rules
  deriving DecidableEq, Repr

def Order.overrides : Order → Overrides
  | .convert overrides _ => overrides
  | .list overrides => overrides
  | .rules => {}

structure Request where
  order : Order
  config : Option String := none
  json : Bool := false
  verbosity : Nat := 0
  deriving DecidableEq, Repr

namespace Arguments

/-- Switches read so far, and the last one while it may still get a value. -/
structure Reading where
  given : List (Switch × String) := []
  pending : Option (Switch × Option String) := none
  deriving DecidableEq, Repr

namespace Reading

def has (reading : Reading) (switch : Switch) : Bool :=
  reading.given.any fun entry => entry.1 = switch

def value? (reading : Reading) (switch : Switch) : Option String := reading.given.lookup switch

def count (reading : Reading) (switch : Switch) : Nat :=
  (reading.given.filter fun entry => entry.1 = switch).length

end Reading

def topic : Option Verb → Topic
  | none => .program
  | some verb => .verb verb

/-- Takes a switch up with its value: a missing value is found first, then a repetition, then an
empty path. -/
def accept (verb? : Option Verb) (reading : Reading) (switch : Switch) (value? : Option String) :
    Except Reply Reading :=
  match switch.takesValue, value? with
  | true, none => .error (.refusal (.missingValue switch))
  | true, some value =>
      if reading.has switch then .error (.refusal (.repeated switch))
      else if switch.isPath && value.isEmpty then .error (.refusal (.missingValue switch))
      else .ok { reading with given := reading.given ++ [(switch, value)] }
  | false, _ =>
      if switch = .help then .error (.help (topic verb?))
      else if switch = .version then .error .version
      else if reading.has switch && !switch.repeats then .error (.refusal (.repeated switch))
      else .ok { reading with given := reading.given ++ [(switch, "")] }

def settle (verb? : Option Verb) (reading : Reading) : Except Reply Reading :=
  match reading.pending with
  | none => .ok reading
  | some (switch, value?) => accept verb? { reading with pending := none } switch value?

def take (verb? : Option Verb) (reading : Reading) (switch : Switch) (value? : Option String) :
    Except Reply Reading := do
  accept verb? (← settle verb? reading) switch value?

def await (verb? : Option Verb) (reading : Reading) (switch : Switch) : Except Reply Reading := do
  return { ← settle verb? reading with pending := some (switch, none) }

def readLong (verb? : Option Verb) (reading : Reading) (word : List Char) : Except Reply Reading :=
  let (name, value?) := match Occurrence.splitFirst ['='] word with
    | some (name, value) => (String.ofList name, some (String.ofList value))
    | none => (String.ofList word, none)
  match (switches verb?).find? (fun switch => switch.long = name) with
  | none => .error (.refusal (.unexpectedArgument ("--" ++ name)))
  | some switch =>
      match switch.takesValue, value? with
      | true, none => await verb? reading switch
      | true, some value => take verb? reading switch (some value)
      | false, none => take verb? reading switch none
      | false, some value => .error (.refusal (.unexpectedValue switch value))

/-- Reads the letters behind one dash; the first one that takes a value takes the rest for it. -/
def readShort (verb? : Option Verb) (reading : Reading) : List Char → Except Reply Reading
  | [] => .ok reading
  | letter :: rest =>
      match (switches verb?).find? (fun switch => switch.short? = some letter) with
      | none => .error (.refusal (.unexpectedArgument (String.ofList ['-', letter])))
      | some switch =>
          if switch.takesValue then
            match rest with
            | [] => await verb? reading switch
            | '=' :: value => take verb? reading switch (some (String.ofList value))
            | value => take verb? reading switch (some (String.ofList value))
          else
            match take verb? reading switch none with
            | .error reply => .error reply
            | .ok reading => readShort verb? reading rest

def stray (verb? : Option Verb) (word : String) (behindDashes : Bool) : Refusal :=
  let isVerb := (Verb.ofName? word).isSome || word = helpVerb
  if verb?.isNone && !(behindDashes && isVerb) then .unknownVerb word else .unexpectedArgument word

def readHelp : List String → Reply
  | [] => .help .program
  | word :: rest =>
      let topic? := match Verb.ofName? word with
        | some verb => some (Topic.verb verb)
        | none => if word = helpVerb then some .help else none
      match topic?, rest with
      | none, _ => .refusal (.unknownVerb word)
      | some topic, [] => .help topic
      | some _, next :: _ => .refusal (.unknownVerb next)

def verbAt? (verb? : Option Verb) (word : String) : Option Verb :=
  match verb? with
  | some _ => none
  | none => Verb.ofName? word

/-- Reads words up to the end, or up to a verb, which is given back with the words behind it. -/
def readWords (verb? : Option Verb) (reading : Reading) :
    List String → Except Reply (Reading × Option (Verb × List String))
  | [] => (settle verb? reading).map fun reading => (reading, none)
  | word :: rest =>
      match verbAt? verb? word with
      | some verb => .ok (reading, some (verb, rest))
      | none =>
          if verb?.isNone && word = helpVerb then .error (readHelp rest)
          else
            match word.toList with
            | ['-', '-'] =>
                match rest with
                | [] => (settle verb? reading).map fun reading => (reading, none)
                | next :: _ => .error (.refusal (stray verb? next true))
            | '-' :: '-' :: long =>
                match readLong verb? reading long with
                | .error reply => .error reply
                | .ok reading => readWords verb? reading rest
            | '-' :: letter :: letters =>
                match readShort verb? reading (letter :: letters) with
                | .error reply => .error reply
                | .ok reading => readWords verb? reading rest
            | _ =>
                -- A lone dash and the empty word are values like any other.
                match reading.pending with
                | some (switch, none) =>
                    readWords verb? { reading with pending := some (switch, some word) } rest
                | _ => .error (.refusal (stray verb? word false))

def countLimit : Nat := 255

/-- The request that a verb makes with its own switches and those in front of it; of a count the
one behind the verb is taken, if there is any. -/
def request (verb : Verb) (outer own : Reading) : Request :=
  let overrides : Overrides :=
    { source := own.value? .source
      output := own.value? .output
      includes := own.value? .includes
      excludes := own.value? .excludes
      suffix := own.value? .suffix
      crlf := own.has .crlf }
  { order := match verb with
      | .convert => .convert overrides (own.has .dryRun)
      | .list => .list overrides
      | .rules => .rules
    config := own.value? .config
    json := outer.has .json || own.has .json
    verbosity := min countLimit
      (if own.has .verbose then own.count .verbose else outer.count .verbose) }

def read (words : List String) : Except Reply Request := do
  let (outer, next?) ← readWords none {} words
  match next? with
  | none => throw (if outer.given.isEmpty then .nothingAsked else .refusal .missingVerb)
  | some (verb, rest) =>
      -- Behind a verb no further verb is known, so these words are read to the end.
      let (own, _) ← readWords (some verb) {} rest
      return request verb outer own

end Arguments

end Retag.Command
