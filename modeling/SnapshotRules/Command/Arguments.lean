import SnapshotRules.Number.Numeral

/-! # Arguments

The command line: options with one or two dashes, then a command with its own options and
words. A double dash ends the options of a command.
-/

namespace SnapshotRules

inductive Command where
  | check (snapshot tests directory : String) (concurrent json : Bool)
  | eval (rule : String) (document : Option String)
  | serve (port : Option UInt16)
  deriving DecidableEq

inductive Invocation where
  | help
  | run (config : Option String) (command : Command)
  deriving DecidableEq

namespace Arguments

inductive Switch where
  | config
  | snapshot
  | tests
  | directory
  | concurrent
  | json
  | document
  | port
  | help
  | version
  deriving DecidableEq

namespace Switch

def long : Switch → String
  | .config => "config"
  | .snapshot => "snapshot"
  | .tests => "tests"
  | .directory => "base-dir"
  | .concurrent => "concurrent"
  | .json => "json"
  | .document => "document"
  | .port => "port"
  | .help => "help"
  | .version => "version"

def short? : Switch → Option Char
  | .config => some 'c'
  | .snapshot => some 's'
  | .tests => some 't'
  | .directory => some 'b'
  | .concurrent => none
  | .json => none
  | .document => some 'd'
  | .port => some 'p'
  | .help => some 'h'
  | .version => some 'V'

def takesValue : Switch → Bool
  | .concurrent | .json | .help | .version => false
  | _ => true

def isInquiry : Switch → Bool
  | .help | .version => true
  | _ => false

def accepts : Switch → String → Bool
  | .port, text => (readNatural? (2 ^ 16) text.toList).isSome
  | _, text => !text.isEmpty

end Switch

inductive Stop where
  | help
  | misuse

structure Given where
  values : List (Switch × String)
  words : List String

namespace Given

def none : Given := ⟨[], []⟩

def value? (g : Given) (switch : Switch) : Option String :=
  (g.values.find? fun entry => entry.1 = switch).map Prod.snd

def has (g : Given) (switch : Switch) : Bool := (g.value? switch).isSome

/-- Adds a switch. None may be given twice. -/
def add (g : Given) (switch : Switch) (value : String) : Except Stop Given :=
  if switch.isInquiry then .error .help
  else if g.has switch || (switch.takesValue && !switch.accepts value) then .error .misuse
  else .ok { g with values := g.values ++ [(switch, value)] }

def addWord (g : Given) (limit : Nat) (word : String) : Except Stop Given :=
  if g.words.length < limit then .ok { g with words := g.words ++ [word] } else .error .misuse

end Given

/-- A switch with the value that is attached to it, if any. -/
structure Attached where
  switch : Switch
  value : Option String

def splitEquals (cs : List Char) : List Char × Option (List Char) :=
  match cs.dropWhile (· ≠ '=') with
  | '=' :: value => (cs.takeWhile (· ≠ '='), some value)
  | _ => (cs, Option.none)

def attached? (switches : List Switch) : List Char → Option Attached
  | '-' :: '-' :: cs => do
    let (name, value) := splitEquals cs
    let switch ← switches.find? fun s => s.long.toList = name
    return ⟨switch, value.map String.ofList⟩
  | '-' :: c :: rest => do
    let switch ← switches.find? fun s => s.short? = some c
    let value := match rest with
      | [] => Option.none
      | '=' :: value => some (String.ofList value)
      | value => some (String.ofList value)
    return ⟨switch, value⟩
  | _ => Option.none

/-- Whether an argument is a switch or looks like one. A single dash does not. -/
def isDashed (argument : String) : Bool := argument.startsWith "-" && argument ≠ "-"

/-- Reads the switches and words of a command, or, for `limit` none, the switches in front of
a command, and what is left. -/
def scan (switches : List Switch) (limit : Option Nat) (g : Given) :
    List String → Except Stop (Given × List String)
  | [] => .ok (g, [])
  | "--" :: rest =>
    match limit with
    | none => if rest.isEmpty then .ok (g, []) else .error .misuse
    | some limit => (rest.foldlM (fun g word => Given.addWord g limit word) g).map fun g => (g, [])
  | argument :: rest =>
    if isDashed argument then
      match attached? switches argument.toList with
      | none => .error .misuse
      | some ⟨switch, some value⟩ =>
        if switch.takesValue then (g.add switch value).bind fun g => scan switches limit g rest
        else if switch.isInquiry && !argument.startsWith "--" then .error .help
        else .error .misuse
      | some ⟨switch, none⟩ =>
        if switch.takesValue then
          match rest with
          | [] => .error .misuse
          | value :: rest =>
            if isDashed value then .error .misuse
            else (g.add switch value).bind fun g => scan switches limit g rest
        else (g.add switch "").bind fun g => scan switches limit g rest
    else
      match limit with
      | none => .ok (g, argument :: rest)
      | some limit => (g.addWord limit argument).bind fun g => scan switches (some limit) g rest

def required {α : Type} : Option α → Except Stop α
  | some a => .ok a
  | none => .error .misuse

def command (name : String) (arguments : List String) : Except Stop (Given × Command) :=
  match name with
  | "check" => do
    let (g, _) ← scan [.snapshot, .tests, .directory, .concurrent, .json, .config, .help]
      (some 0) .none arguments
    let snapshot ← required (g.value? .snapshot)
    let tests ← required (g.value? .tests)
    return (g, .check snapshot tests ((g.value? .directory).getD ".") (g.has .concurrent)
      (g.has .json))
  | "eval" => do
    let (g, _) ← scan [.document, .config, .help] (some 1) .none arguments
    let rule ← required g.words.head?
    return (g, .eval rule (g.value? .document))
  | "serve" => do
    let (g, _) ← scan [.port, .config, .help] (some 0) .none arguments
    let port := (g.value? .port).bind fun text => readNatural? (2 ^ 16) text.toList
    return (g, .serve (port.map UInt16.ofNat))
  | _ => .error .misuse

def help : List String → Stop
  | [] => .help
  | [topic] => if ["check", "eval", "serve", "help"].contains topic then .help else .misuse
  | _ => .misuse

/-- What all arguments ask for, or `none` when they are not well formed. A configuration that
is named after the command replaces one that is named before it. -/
def invocation? (arguments : List String) : Option Invocation :=
  let result : Except Stop Invocation := do
    let (outer, rest) ← scan [.config, .help, .version] none .none arguments
    match rest with
    | [] => .error .misuse
    | "help" :: rest => .error (help rest)
    | name :: rest =>
      let (inner, command) ← command name rest
      return .run ((inner.value? .config).or (outer.value? .config)) command
  match result with
  | .ok invocation => some invocation
  | .error .help => some .help
  | .error .misuse => none

end Arguments

end SnapshotRules
