import SnapshotRules.Yaml.Token

/-! # YAML nodes

The tree of a document. Where a key, a value or an element is missing, it is an empty plain
scalar. A node has neither a tag nor an anchor, and none is an alias of another one.
-/

namespace SnapshotRules.Yaml

inductive Node where
  | scalar (plain : Bool) (text : String)
  | sequence (items : List Node)
  | mapping (entries : List (Node × Node))

namespace Node

def empty : Node := .scalar true ""

/-- Whether a token is one of those in front of which a node is left out. -/
def endsBlock (inMapping : Bool) : List Token → Bool
  | .blockEnd :: _ => true
  | .entry :: _ => !inMapping
  | .key :: _ | .value :: _ => inMapping
  | _ => false

def endsFlow : List Token → Bool
  | .value :: _ | .comma :: _ | .flowMappingEnd :: _ | .flowSequenceEnd :: _ => true
  | _ => false

mutual

/-- A node and the tokens after it. Only as part of a block mapping may it be a sequence
that is not indented. -/
def read? (fuel : Nat) (inMapping : Bool) (tokens : List Token) : Option (Node × List Token) :=
  match fuel, tokens with
  | 0, _ => none
  | _, .scalar plain text :: rest => some (.scalar plain text, rest)
  | fuel + 1, .entry :: rest =>
    if inMapping then blockItems? fuel false [] (.entry :: rest) else none
  | fuel + 1, .blockSequence :: rest => blockItems? fuel true [] rest
  | fuel + 1, .blockMapping :: rest => blockEntries? fuel [] rest
  | fuel + 1, .flowSequence :: rest => flowItems? fuel [] rest
  | fuel + 1, .flowMapping :: rest => flowEntries? fuel [] rest
  | _, _ => none
termination_by structural fuel

/-- The elements of a block sequence. One that is not indented has no token at its end. -/
def blockItems? (fuel : Nat) (indented : Bool) (items : List Node) (tokens : List Token) :
    Option (Node × List Token) :=
  match fuel, tokens with
  | 0, _ => none
  | fuel + 1, .entry :: rest =>
    if endsBlock false rest || (!indented && endsBlock true rest) then
      blockItems? fuel indented (items ++ [empty]) rest
    else
      match read? fuel false rest with
      | some (node, rest) => blockItems? fuel indented (items ++ [node]) rest
      | none => none
  | _, rest =>
    if indented then
      match rest with
      | .blockEnd :: rest => some (.sequence items, rest)
      | _ => none
    else some (.sequence items, rest)
termination_by structural fuel

def blockEntries? (fuel : Nat) (entries : List (Node × Node)) (tokens : List Token) :
    Option (Node × List Token) :=
  match fuel, tokens with
  | 0, _ => none
  | fuel + 1, .key :: rest => do
    let (key, rest) ← if endsBlock true rest then some (empty, rest) else read? fuel true rest
    let (value, rest) ← match rest with
      | .value :: rest =>
        if endsBlock true rest then some (empty, rest) else read? fuel true rest
      | rest => some (empty, rest)
    blockEntries? fuel (entries ++ [(key, value)]) rest
  | _, .blockEnd :: rest => some (.mapping entries, rest)
  | _, _ => none
termination_by structural fuel

/-- The elements of a flow sequence. A key in it begins a mapping of one entry. -/
def flowItems? (fuel : Nat) (items : List Node) (tokens : List Token) :
    Option (Node × List Token) :=
  match fuel, tokens with
  | 0, _ => none
  | _, .flowSequenceEnd :: rest => some (.sequence items, rest)
  | fuel + 1, tokens => do
    let (node, rest) ← match tokens with
      | .key :: rest => do
        let (entry, rest) ← flowEntry? fuel rest
        some (.mapping [entry], rest)
      | tokens => read? fuel false tokens
    match rest with
    | .comma :: rest => flowItems? fuel (items ++ [node]) rest
    | .flowSequenceEnd :: rest => some (.sequence (items ++ [node]), rest)
    | _ => none
termination_by structural fuel

def flowEntries? (fuel : Nat) (entries : List (Node × Node)) (tokens : List Token) :
    Option (Node × List Token) :=
  match fuel, tokens with
  | 0, _ => none
  | _, .flowMappingEnd :: rest => some (.mapping entries, rest)
  | fuel + 1, tokens => do
    let (entry, rest) ← match tokens with
      | .key :: rest => flowEntry? fuel rest
      | tokens => do
        let (key, rest) ← read? fuel false tokens
        some ((key, empty), rest)
    match rest with
    | .comma :: rest => flowEntries? fuel (entries ++ [entry]) rest
    | .flowMappingEnd :: rest => some (.mapping (entries ++ [entry]), rest)
    | _ => none
termination_by structural fuel

/-- What follows the token of a key in a flow collection. -/
def flowEntry? (fuel : Nat) (tokens : List Token) : Option ((Node × Node) × List Token) :=
  match fuel, tokens with
  | 0, _ => none
  | fuel + 1, tokens => do
    let (key, rest) ← if endsFlow tokens then some (empty, tokens) else read? fuel false tokens
    match rest with
    | .value :: rest => do
      let (value, rest) ← if endsFlow rest then some (empty, rest) else read? fuel false rest
      some ((key, value), rest)
    | rest => some ((key, empty), rest)
termination_by structural fuel

end

/-- The only document among the tokens of a text, or `none` in it when there is none. -/
def document? (tokens : List Token) : Option (Option Node) := do
  let fuel := 3 * tokens.length + 3
  let (node, rest) ← match tokens with
    | [] => some (none, [])
    | .documentStart :: rest =>
      match rest with
      | [] | .documentStart :: _ | .documentEnd :: _ => some (some empty, rest)
      | rest => do
        let (node, rest) ← read? fuel false rest
        some (some node, rest)
    | tokens => do
      let (node, rest) ← read? fuel false tokens
      some (some node, rest)
  if rest.all (· = .documentEnd) then some node else none

end Node

end SnapshotRules.Yaml
