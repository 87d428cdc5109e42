import SnapshotRules.Entries
import SnapshotRules.Files.Reading
import SnapshotRules.Text.Alphanumeric
import SnapshotRules.Text.Blank

/-! # Environment files

A file may set variables that the environment does not have. A line that cannot be read ends
it; the lines before it stay in force.
-/

namespace SnapshotRules.EnvironmentFile

/-- Values are made of characters and of the values of other variables. -/
inductive Piece where
  | char (c : Char)
  | variable (name : String)
  deriving DecidableEq

/-- A reference to a variable inside a value, with its name so far. -/
inductive Reference where
  | plain (name : List Char)
  | braced (name : List Char)
  deriving DecidableEq

structure Draft where
  pieces : List Piece
  /-- The quote that is open. -/
  quote : Option Char
  /-- Whether a backslash came last. -/
  escaped : Bool
  reference : Option Reference
  /-- Whether only a comment may follow. -/
  ended : Bool

namespace Draft

def start : Draft := ⟨[], none, false, none, false⟩

def push (d : Draft) (c : Char) : Draft := { d with pieces := d.pieces ++ [.char c] }

/-- The characters that a backslash may stand in front of. -/
def escape? : Char → Option Char
  | 'n' => some '\n'
  | c => if "\\'\"$ ".contains c then some c else none

def refer (d : Draft) (name : List Char) : Draft :=
  { d with pieces := d.pieces ++ [.variable (String.ofList name)], reference := none }

/-- A character inside a reference. The one that ends a plain name is taken as it is. -/
def stepReference (d : Draft) (c : Char) : Reference → Draft
  | .plain name =>
    if isAlphanumeric c then { d with reference := some (.plain (name ++ [c])) }
    else if c = '{' ∧ name = [] then { d with reference := some (.braced []) }
    else if c = '$' then { d.refer name with reference := some (.plain []) }
    else (d.refer name).push c
  | .braced name =>
    if c = '}' then d.refer name else { d with reference := some (.braced (name ++ [c])) }

/-- A character outside of references and escapes. -/
def stepText (d : Draft) (c : Char) : Draft :=
  if d.quote = some '\'' then
    if c = '\'' then { d with quote := none } else d.push c
  else if c = '$' then { d with reference := some (.plain []) }
  else if c = '\\' then { d with escaped := true }
  else if d.quote = some '"' then
    if c = '"' then { d with quote := none } else d.push c
  else if c = '\'' ∨ c = '"' then { d with quote := some c }
  else if c = ' ' ∨ c = '\t' then { d with ended := true }
  else d.push c

def step? (d : Draft) (c : Char) : Option Draft :=
  if d.escaped then (escape? c).map fun c => { d.push c with escaped := false }
  else
    match d.reference with
    | some r => some (d.stepReference c r)
    | none => some (d.stepText c)

/-- The pieces, unless a quote or a brace is still open. -/
def finish? (d : Draft) : Option (List Piece) :=
  match d.quote, d.reference with
  | some _, _ | _, some (.braced _) => none
  | none, some (.plain name) => some (d.refer name).pieces
  | none, none => some d.pieces

end Draft

def value? (d : Draft) : List Char → Option (List Piece)
  | [] => d.finish?
  | c :: rest =>
    if d.ended then
      if c = ' ' ∨ c = '\t' then value? d rest
      else if c = '#' then d.finish?
      else none
    else
      match d.step? c with
      | some d => value? d rest
      | none => none

def isKeyChar (c : Char) : Bool := c.isAlphanum || c = '_' || c = '.'

def key? (cs : List Char) : Option (List Char × List Char) :=
  match cs with
  | c :: _ =>
    if c.isAlpha || c = '_' then
      some (cs.takeWhile isKeyChar, (cs.dropWhile isKeyChar).dropWhile isBlank)
    else none
  | [] => none

/-- The key of an assignment and the text after its equals sign. The word `export` may stand
before the key, or be the key. -/
def assignment? (cs : List Char) : Option (List Char × List Char) := do
  let (key, rest) ← key? cs
  match rest with
  | '=' :: rest => some (key, rest)
  | rest =>
    if key = "export".toList then
      let (key, rest) ← key? rest
      match rest with
      | '=' :: rest => some (key, rest)
      | _ => none
    else none

/-- Whether a line has nothing more to say. -/
def isOver : List Char → Bool
  | [] => true
  | c :: _ => c = '#'

structure Assignment where
  key : String
  value : List Piece
  deriving DecidableEq

def line? (line : List Char) : Option (Option Assignment) :=
  let cs := trimmed line
  if isOver cs then some none
  else do
    let (key, rest) ← assignment? cs
    let rest := rest.dropWhile isBlank
    let value ← if isOver rest then some [] else value? .start rest
    return some ⟨String.ofList key, value⟩

def lines (bytes : ByteArray) : List (List UInt8) := split [] bytes.toList
where
  split (line : List UInt8) : List UInt8 → List (List UInt8)
    | [] => if line = [] then [] else [line.reverse]
    | b :: rest => if b = 10 then line.reverse :: split [] rest else split (b :: line) rest

/-- The assignments up to the first line that cannot be read. -/
def assignmentsOf : List (List UInt8) → List Assignment
  | [] => []
  | bytes :: rest =>
    match (String.fromUTF8? ⟨bytes.toArray⟩).bind fun text => line? text.toList with
    | none => []
    | some none => assignmentsOf rest
    | some (some a) => a :: assignmentsOf rest

def assignments : FileEntry → List Assignment
  | .file bytes => assignmentsOf (lines bytes)
  | _ => []

def dependencies (as : List Assignment) : List String :=
  as.flatMap fun a => a.key :: a.value.filterMap fun
    | .variable name => some name
    | .char _ => none

/-- The text of a value. Unknown variables have none. -/
def textOf (lookup : String → Option String) (value : List Piece) : String :=
  String.join (value.map fun
    | .char c => c.toString
    | .variable name => (lookup name).getD "")

/-- Adds assignments to the variables that are known so far. The first setting of a variable
counts. -/
def assign (environment : String → Option String) (known : Entries String) :
    List Assignment → Entries String
  | [] => known
  | a :: rest =>
    let lookup (key : String) := (environment key).or (known.get? key)
    if (lookup a.key).isSome then assign environment known rest
    else assign environment (known.set a.key (textOf lookup a.value)) rest

/-- The environment with the variables of assignments that it lacks. -/
def extend (environment : String → Option String) (as : List Assignment) :
    String → Option String :=
  let known := assign environment [] as
  fun key => (environment key).or (known.get? key)

end SnapshotRules.EnvironmentFile
