import SnapshotRules.Yaml.Scalar

/-! # YAML tokens

Indentation becomes tokens that open and close block collections. What turns out to be a
key only at the colon after it gets its token afterwards, in front of it.

There are no tokens for anchors, aliases, tags, block scalars and directives. The characters that
begin them (`&`, `*`, `!`, `|`, `>` and `%`) are refused where a token begins.
-/

namespace SnapshotRules.Yaml

inductive Token where
  | documentStart
  | documentEnd
  | blockSequence
  | blockMapping
  | blockEnd
  | flowSequence
  | flowSequenceEnd
  | flowMapping
  | flowMappingEnd
  /-- The dash of a block sequence. -/
  | entry
  | comma
  | key
  | value
  | scalar (plain : Bool) (text : String)
  deriving DecidableEq

/-- Something that is a key if a colon follows it in its line. -/
structure Candidate where
  /-- How many tokens stand before it. -/
  position : Nat
  line : Nat
  column : Nat
  index : Nat
  /-- Whether it cannot be anything but a key. -/
  required : Bool

/-- A key is not longer than 1024 bytes. -/
def Candidate.isStale (k : Candidate) (p : Placed) : Bool :=
  k.line < p.line || k.index + 1024 < p.index

/-- The tokens so far, latest first, and what the next ones depend on. -/
structure Scan where
  tokens : List Token
  /-- The columns of open block collections, innermost first. -/
  indents : List Nat
  candidate : Option Candidate
  /-- The candidates around each open flow collection, innermost first. -/
  outer : List (Option Candidate)
  keyAllowed : Bool

namespace Scan

def start : Scan := ⟨[], [], none, [], true⟩

def inFlow (s : Scan) : Bool := !s.outer.isEmpty

def emit (s : Scan) (t : Token) : Scan := { s with tokens := t :: s.tokens }

def insert (s : Scan) (position : Nat) (t : Token) : Scan :=
  { s with tokens := s.tokens.insertIdx (s.tokens.length - position) t }

/-- Columns from which on a continued line belongs to the innermost block collection. -/
def minColumn (s : Scan) : Nat :=
  match s.indents with
  | [] => 0
  | column :: _ => column + 1

/-- Opens a block collection at a column that is further in than all others. -/
def indentTo (s : Scan) (column position : Nat) (t : Token) : Scan :=
  if !s.inFlow && s.minColumn ≤ column then
    { s.insert position t with indents := column :: s.indents }
  else s

/-- Closes the block collections that are further in than a column. -/
def closeBlocks (s : Scan) (isOutside : Nat → Bool) : Scan :=
  if s.inFlow then s
  else
    let closed := s.indents.takeWhile isOutside
    { s with
      tokens := List.replicate closed.length .blockEnd ++ s.tokens
      indents := s.indents.dropWhile isOutside }

/-- Gives up the candidate, which must not be a required key. -/
def dropKey? (s : Scan) : Option Scan :=
  if s.candidate.any Candidate.required then none else some { s with candidate := none }

/-- Gives up the candidates that end too far in front of a character. -/
def expire? (s : Scan) (p : Placed) : Option Scan :=
  let isLive (k : Candidate) := !k.isStale p
  if (s.candidate :: s.outer).any fun k => k.any fun k => k.isStale p && k.required then none
  else some { s with
    candidate := s.candidate.filter isLive
    outer := s.outer.map fun k => k.filter isLive }

/-- Takes what begins here for a candidate, where keys are allowed. -/
def offerKey? (s : Scan) (p : Placed) : Option Scan :=
  if s.keyAllowed then
    s.dropKey?.map fun s => { s with
      candidate := some {
        position := s.tokens.length, line := p.line, column := p.column, index := p.index
        required := !s.inFlow && s.indents.head? == some p.column } }
  else some s

def openFlow? (s : Scan) (p : Placed) (t : Token) : Option Scan :=
  (s.offerKey? p).map fun s =>
    { s.emit t with candidate := none, outer := s.candidate :: s.outer, keyAllowed := true }

def closeFlow? (s : Scan) (t : Token) : Option Scan :=
  s.dropKey?.map fun s =>
    { s.emit t with
      candidate := (s.outer.head?.getD none), outer := s.outer.tail, keyAllowed := false }

def comma? (s : Scan) : Option Scan :=
  s.dropKey?.map fun s => { s.emit .comma with keyAllowed := true }

def entry? (s : Scan) (p : Placed) : Option Scan :=
  if !s.inFlow && !s.keyAllowed then none
  else
    (s.indentTo p.column s.tokens.length .blockSequence).dropKey?.map fun s =>
      { s.emit .entry with keyAllowed := true }

/-- The question mark of a key that is written out. -/
def key? (s : Scan) (p : Placed) : Option Scan :=
  if !s.inFlow && !s.keyAllowed then none
  else
    (s.indentTo p.column s.tokens.length .blockMapping).dropKey?.map fun s =>
      { s.emit .key with keyAllowed := !s.inFlow }

def value? (s : Scan) (p : Placed) : Option Scan :=
  match s.candidate with
  | some k =>
    let s := (s.insert k.position .key).indentTo k.column k.position .blockMapping
    some { s.emit .value with candidate := none, keyAllowed := false }
  | none =>
    if !s.inFlow && !s.keyAllowed then none
    else
      let s := s.indentTo p.column s.tokens.length .blockMapping
      some { s.emit .value with keyAllowed := !s.inFlow }

/-- A line that begins or ends a document. -/
def boundary? (s : Scan) (t : Token) : Option Scan :=
  (s.closeBlocks fun _ => true).dropKey?.map fun s => { s.emit t with keyAllowed := false }

def scalar (s : Scan) (plain : Bool) (text : List Char) (keyAllowed : Bool) : Scan :=
  { s.emit (.scalar plain (String.ofList text)) with keyAllowed }

end Scan

/-- Skips blanks, comments and breaks. After a break in a block a key may begin. -/
def skip (inComment inFlow keyAllowed : Bool) : List Placed → Bool × List Placed
  | [] => (keyAllowed, [])
  | p :: rest =>
    if isBreak p.char then skip false inFlow (keyAllowed || !inFlow) rest
    else if inComment then skip true inFlow keyAllowed rest
    else if p.char = '#' then skip true inFlow keyAllowed rest
    else if p.char = ' ' || (p.char = '\t' && (inFlow || !keyAllowed)) ||
        (p.index = 0 && p.char = '\ufeff') then skip false inFlow keyAllowed rest
    else (keyAllowed, p :: rest)

/-- Characters that begin something other than a plain scalar. -/
def isIndicator (c : Char) : Bool := "-?:,[]\x7b\x7d#&*!|>'\"%@`".contains c

/-- Whether a plain scalar begins here. -/
def startsPlain (inFlow : Bool) (p : Placed) (rest : List Placed) : Bool :=
  !isIndicator p.char && !isSpace p.char && !isBreak p.char ||
    (p.char = '-' && !(rest.head?.any fun q => isSpace q.char)) ||
    (!inFlow && (p.char = '?' || p.char = ':') && !atGap rest)

/-- The scan after a token that is no scalar, and how many characters after `p` it takes. -/
def indicator? (s : Scan) (p : Placed) (rest : List Placed) : Option (Option Scan × Nat) :=
  if isMark '-' (p :: rest) then some (s.boundary? .documentStart, 2)
  else if isMark '.' (p :: rest) then some (s.boundary? .documentEnd, 2)
  else if p.char = '[' then some (s.openFlow? p .flowSequence, 0)
  else if p.char = '{' then some (s.openFlow? p .flowMapping, 0)
  else if p.char = ']' then some (s.closeFlow? .flowSequenceEnd, 0)
  else if p.char = '}' then some (s.closeFlow? .flowMappingEnd, 0)
  else if p.char = ',' then some (s.comma?, 0)
  else if p.char = '-' && atGap rest then some (s.entry? p, 0)
  else if p.char = '?' && atGap rest then some (s.key? p, 0)
  else if p.char = ':' && (s.inFlow || atGap rest) then some (s.value? p, 0)
  else none

def scalar? (s : Scan) (p : Placed) (rest : List Placed) : Option (Scan × List Placed) :=
  if p.char = '\'' || p.char = '"' then
    (quoted? p.char .none rest).map fun (text, rest) => (s.scalar false text false, rest)
  else if startsPlain s.inFlow p rest then
    (plain? s.inFlow s.minColumn .none rest).map fun (text, broken, rest) =>
      (s.scalar true (p.char :: text) broken, rest)
  else none

def next? (s : Scan) (p : Placed) (rest : List Placed) : Option (Scan × List Placed) :=
  match indicator? s p rest with
  | some (s, length) => s.map fun s => (s, rest.drop length)
  | none => (s.offerKey? p).bind fun s => scalar? s p rest

theorem skip_length (inComment inFlow keyAllowed : Bool) (cs : List Placed) :
    (skip inComment inFlow keyAllowed cs).2.length ≤ cs.length := by
  fun_induction skip inComment inFlow keyAllowed cs <;> grind

theorem scalar?_length {s s' : Scan} {p : Placed} {rest rest' : List Placed}
    (h : scalar? s p rest = some (s', rest')) : rest'.length ≤ rest.length := by
  unfold scalar? at h
  grind [Option.map_eq_some_iff, → quoted?_length, → plain?_length]

theorem next?_length {s s' : Scan} {p : Placed} {rest rest' : List Placed}
    (h : next? s p rest = some (s', rest')) : rest'.length ≤ rest.length := by
  unfold next? at h
  grind [Option.map_eq_some_iff, Option.bind_eq_some_iff, → scalar?_length]

def tokensFrom (s : Scan) (cs : List Placed) : Option (List Token) :=
  match _h : skip false s.inFlow s.keyAllowed cs with
  | (_, []) => (s.closeBlocks fun _ => true).dropKey?.map fun s => s.tokens.reverse
  | (keyAllowed, p :: rest) =>
    match { s with keyAllowed }.expire? p with
    | none => none
    | some s =>
      match _h : next? (s.closeBlocks (p.column < ·)) p rest with
      | none => none
      | some (s, rest) => tokensFrom s rest
termination_by cs.length
decreasing_by grind [skip_length, → next?_length]

def tokens? (text : String) : Option (List Token) := (layout? text).bind (tokensFrom .start)

end SnapshotRules.Yaml
