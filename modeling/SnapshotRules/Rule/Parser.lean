import SnapshotRules.Rule.Error
import SnapshotRules.Rule.Expression
import SnapshotRules.Rule.Lexer

/-! # Parsing

A rule is one operand, or two operands with an operator between them. The parser takes one
token at a time and keeps the calls, lists and maps that are still open on a stack, so the
first token that cannot continue a rule is the one it reports.
-/

namespace SnapshotRules

namespace Parser

/-- A call, list or map that is still open, with the parts it has so far. -/
inductive Frame where
  | call (name : String) (arguments : List Operand)
  | list (items : List Operand)
  | map (entries : List (String × Operand)) (key : String)
  deriving DecidableEq

namespace Frame

def add (o : Operand) : Frame → Frame
  | .call name arguments => .call name (arguments ++ [o])
  | .list items => .list (items ++ [o])
  | .map entries key => .map (entries ++ [(key, o)]) key

def operand : Frame → Operand
  | .call name arguments => .call name arguments
  | .list items => .list items
  | .map entries _ => .map entries

/-- The mark that closes the frame. -/
def close : Frame → Punctuation
  | .call _ _ => .closeParenthesis
  | .list _ => .closeBracket
  | .map _ _ => .closeBrace

end Frame

/-- Which operand of the rule is being read. -/
inductive Side where
  | left
  | right (left : Operand) (operator : Operator)
  deriving DecidableEq

/-- What has been read and what may come next. -/
inductive State where
  /-- An operand. -/
  | operand (side : Side) (opened : List Frame)
  /-- The parenthesis after a function name. -/
  | arguments (side : Side) (name : String) (opened : List Frame)
  /-- An operand, or the mark that closes the empty innermost frame. -/
  | firstItem (side : Side) (frame : Frame) (opened : List Frame)
  /-- A key, or the end of an empty map. -/
  | firstKey (side : Side) (opened : List Frame)
  /-- A key. -/
  | key (side : Side) (entries : List (String × Operand)) (opened : List Frame)
  /-- The colon after a key. -/
  | colon (side : Side) (entries : List (String × Operand)) (key : String) (opened : List Frame)
  /-- A comma, or the mark that closes the innermost frame. -/
  | separator (side : Side) (frame : Frame) (opened : List Frame)
  /-- An operator, or the end of the rule. -/
  | operator (left : Operand)
  /-- The end of the rule. -/
  | finish (e : Expression)
  | accepted (e : Expression)
  deriving DecidableEq

def complete (side : Side) (opened : List Frame) (o : Operand) : State :=
  match opened, side with
  | frame :: opened, side => .separator side (frame.add o) opened
  | [], .left => .operator o
  | [], .right left operator => .finish ⟨left, operator, o⟩

/-- The parts between points. -/
def parts : List Char → List (List Char)
  | [] => [[]]
  | c :: cs =>
    if c = '.' then [] :: parts cs
    else
      match parts cs with
      | part :: rest => (c :: part) :: rest
      | [] => [[c]]

/-- A dotted name as a path, unless one of its parts is empty. -/
def path? (name : String) : Option Operand :=
  match parts name.toList with
  | reference :: segments =>
    if [] ∈ reference :: segments then none
    else some (.path (some (String.ofList reference)) (segments.map String.ofList))
  | [] => none

def begin (side : Side) (opened : List Frame) (kind : TokenKind) : Except Expectation State :=
  match kind with
  | .string s => .ok (complete side opened (.literal (.string s)))
  | .number n => .ok (complete side opened (.literal (.number n)))
  | .boolean b => .ok (complete side opened (.literal (.bool b)))
  | .null => .ok (complete side opened (.literal .null))
  | .function name => .ok (.arguments side name opened)
  | .identifier name =>
    match path? name with
    | some o => .ok (complete side opened o)
    | none => .error .pathSegment
  | .punctuation .openBracket => .ok (.firstItem side (.list []) opened)
  | .punctuation .openBrace => .ok (.firstKey side opened)
  | _ => .error .operand

def readKey (side : Side) (entries : List (String × Operand)) (opened : List Frame)
    (kind : TokenKind) : Except Expectation State :=
  match kind with
  | .string key | .identifier key => .ok (.colon side entries key opened)
  | _ => .error .mapKey

/-- The state after the next token, or what should have come instead of it. -/
def advance (s : State) (kind : TokenKind) : Except Expectation State :=
  match s with
  | .operand side opened => begin side opened kind
  | .arguments side name opened =>
    if kind = .punctuation .openParenthesis then .ok (.firstItem side (.call name []) opened)
    else .error .openParenthesis
  | .firstItem side frame opened =>
    if kind = .punctuation frame.close then .ok (complete side opened frame.operand)
    else begin side (frame :: opened) kind
  | .firstKey side opened =>
    if kind = .punctuation .closeBrace then .ok (complete side opened (.map []))
    else readKey side [] opened kind
  | .key side entries opened => readKey side entries opened kind
  | .colon side entries key opened =>
    if kind = .punctuation .colon then .ok (.operand side (.map entries key :: opened))
    else .error .colon
  | .separator side frame opened =>
    if kind = .punctuation .comma then
      match frame with
      | .map entries _ => .ok (.key side entries opened)
      | frame => .ok (.operand side (frame :: opened))
    else if kind = .punctuation frame.close then .ok (complete side opened frame.operand)
    else .error (.commaOr frame.close)
  | .operator left =>
    match kind with
    | .endOfRule => .ok (.accepted ⟨left, .equal, .literal (.bool true)⟩)
    | .operator op => .ok (.operand (.right left op) [])
    | _ => .error .comparator
  | .finish e =>
    match kind with
    | .endOfRule => .ok (.accepted e)
    | .logical _ => .error .endOfSimpleRule
    | _ => .error .endOfRule
  | .accepted _ => .error .endOfRule

/-- Feeds tokens to the parser. A sequence that stops short of an end of rule is at fault
where it starts. -/
def run (s : State) : List Token → Except ParseError Expression
  | [] =>
    match s with
    | .accepted e => .ok e
    | _ => .error ⟨0, .endOfRule, "end of rule"⟩
  | t :: ts =>
    match advance s t.kind with
    | .ok s => run s ts
    | .error expected => .error ⟨t.position, expected, t.describe⟩

end Parser

def parseTokens (tokens : List Token) : Except ParseError Expression :=
  Parser.run (.operand .left []) tokens

inductive SyntaxError where
  | lex (error : LexError)
  | parse (error : ParseError)
  deriving DecidableEq

def parse (rule : String) : Except SyntaxError Expression :=
  match tokenize rule with
  | .error e => .error (.lex e)
  | .ok tokens => (parseTokens tokens).mapError .parse

end SnapshotRules
