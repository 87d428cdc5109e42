import SnapshotRules.Json.Number
import SnapshotRules.Value.Basic

/-! # JSON events

JSON text as a stream of brackets, keys and scalars. A stream that breaks off keeps the
events before the fault, so that a reader may stop at an earlier fault of its own. Values
that nobody wants to read are only checked for their outer form.
-/

namespace SnapshotRules.Json

inductive Event where
  | beginSequence
  | endSequence
  | beginMapping
  | endMapping
  | key (name : String)
  | scalar (value : Value)
  deriving DecidableEq

def isWhitespace (c : Char) : Bool := c = ' ' || c = '\t' || c = '\n' || c = '\r'

def hexValue? (c : Char) : Option Nat :=
  if c.isDigit then some (digitValue c)
  else if 'a' ≤ c ∧ c ≤ 'f' then some (c.toNat - 'a'.toNat + 10)
  else if 'A' ≤ c ∧ c ≤ 'F' then some (c.toNat - 'A'.toNat + 10)
  else none

def hexNumber? (cs : List Char) : Option Nat :=
  cs.foldl (fun n c => n.bind fun n => (hexValue? c).map fun d => 16 * n + d) (some 0)

/-- The character after a backslash, four hexadecimal digits aside. -/
def simpleEscape? : Char → Option Char
  | '"' => some '"'
  | '\\' => some '\\'
  | '/' => some '/'
  | 'b' => some '\x08'
  | 'f' => some '\x0c'
  | 'n' => some '\n'
  | 'r' => some '\r'
  | 't' => some '\t'
  | _ => none

/-- What a unit of 16 bits adds to a string, and the half of a pair that it leaves open. -/
def addUnit? (pending : Option Nat) (unit : Nat) : Option (List Char × Option Nat) :=
  match pending with
  | some high =>
    if 0xDC00 ≤ unit ∧ unit < 0xE000 then
      some ([Char.ofNat (0x10000 + (high - 0xD800) * 0x400 + (unit - 0xDC00))], none)
    else none
  | none =>
    if 0xD800 ≤ unit ∧ unit < 0xDC00 then some ([], some unit)
    else if 0xDC00 ≤ unit ∧ unit < 0xE000 then none
    else some ([Char.ofNat unit], none)

def string? (pending : Option Nat) : List Char → Option (List Char × List Char)
  | '"' :: rest => if pending.isSome then none else some ([], rest)
  | '\\' :: 'u' :: a :: b :: c :: d :: rest =>
    match (hexNumber? [a, b, c, d]).bind (addUnit? pending) with
    | some (front, pending) => (string? pending rest).map fun (s, rest) => (front ++ s, rest)
    | none => none
  | '\\' :: e :: rest =>
    match pending, simpleEscape? e with
    | none, some c => (string? none rest).map fun (s, rest) => (c :: s, rest)
    | _, _ => none
  | c :: rest =>
    if pending.isSome || c.toNat < 32 then none
    else (string? none rest).map fun (s, rest) => (c :: s, rest)
  | [] => none

/-- The text after the closing quote of a string. Any unit may be escaped in it. -/
def skipString? : List Char → Option (List Char)
  | '"' :: rest => some rest
  | '\\' :: 'u' :: a :: b :: c :: d :: rest =>
    if (hexNumber? [a, b, c, d]).isSome then skipString? rest else none
  | '\\' :: e :: rest => if (simpleEscape? e).isSome then skipString? rest else none
  | c :: rest => if c.toNat < 32 then none else skipString? rest
  | [] => none

/-- Whether a numeral goes on with a point or an exponent letter that lacks its digits. -/
def breaksOff (n : Numeral) : List Char → Bool
  | '.' :: _ => n.isPlain
  | c :: _ => (c = 'e' || c = 'E') && n.exponent.isNone
  | [] => false

/-- A numeral without superfluous zeros that does not break off. -/
def numeral? (cs : List Char) : Option (Numeral × List Char) :=
  let (n, rest) := Numeral.scan cs
  if n.whole = [] || (n.whole.head? == some '0' && 1 < n.whole.length) || breaksOff n rest then
    none
  else some (n, rest)

/-- A value without brackets in front of a text. One to be skipped counts as null. -/
def scalar? (skipped : Bool) : List Char → Option (Value × List Char)
  | 'n' :: 'u' :: 'l' :: 'l' :: rest => some (.null, rest)
  | 't' :: 'r' :: 'u' :: 'e' :: rest => some (.bool true, rest)
  | 'f' :: 'a' :: 'l' :: 's' :: 'e' :: rest => some (.bool false, rest)
  | '"' :: rest =>
    if skipped then (skipString? rest).map fun rest => (.null, rest)
    else (string? none rest).map fun (s, rest) => (.string (String.ofList s), rest)
  | cs =>
    (numeral? cs).bind fun (n, rest) =>
      if skipped then some (.null, rest) else (numberOf? n).map fun n => (.number n, rest)

/-- The key of an entry in front of a text. One to be skipped counts as empty. -/
def key? (skipped : Bool) : List Char → Option (String × List Char)
  | '"' :: rest =>
    if skipped then (skipString? rest).map fun rest => ("", rest)
    else (string? none rest).map fun (s, rest) => (String.ofList s, rest)
  | _ => none

theorem string?_length {pending : Option Nat} {cs s rest : List Char}
    (h : string? pending cs = some (s, rest)) : rest.length < cs.length := by
  fun_induction string? pending cs generalizing s rest <;> grind [Option.map_eq_some_iff]

theorem skipString?_length {cs rest : List Char} (h : skipString? cs = some rest) :
    rest.length < cs.length := by
  fun_induction skipString? cs generalizing rest <;>
    simp_all only [Option.some.injEq, List.length_cons, reduceCtorEq] <;> grind

theorem numeral?_length {cs rest : List Char} {n : Numeral}
    (h : numeral? cs = some (n, rest)) : rest.length < cs.length := by
  unfold numeral? at h
  have := Numeral.scan_length cs
  grind

theorem scalar?_length {skipped : Bool} {cs rest : List Char} {v : Value}
    (h : scalar? skipped cs = some (v, rest)) : rest.length < cs.length := by
  unfold scalar? at h
  split at h <;>
    grind [Option.map_eq_some_iff, Option.bind_eq_some_iff, → string?_length,
      → skipString?_length, → numeral?_length]

theorem key?_length {skipped : Bool} {cs rest : List Char} {name : String}
    (h : key? skipped cs = some (name, rest)) : rest.length < cs.length := by
  unfold key? at h
  split at h <;>
    grind [Option.map_eq_some_iff, → string?_length, → skipString?_length]

inductive Expected where
  | value
  | item
  | key
  | firstKey
  | colon
  | separator

/-- How many brackets may be open at once. -/
def maxDepth : Nat := 127

/--
The events of a text, and whether the text is complete. `opened` tells of each open
bracket, innermost first, whether it is a mapping's. `isSkipped` picks keys by their depth and
name; while the value of such a key is scanned, `skipping` is that depth.
-/
def scan (isSkipped : Nat → String → Bool) (skipping : Option Nat) (opened : List Bool)
    (expected : Expected) (text : List Char) : List Event × Bool :=
  match text with
  | [] =>
    match opened, expected with
    | [], .separator => ([], true)
    | _, _ => ([], false)
  | c :: rest =>
    if isWhitespace c then scan isSkipped skipping opened expected rest
    else
      match expected, opened with
      | .colon, _ =>
        if c = ':' then scan isSkipped skipping opened .value rest else ([], false)
      | .separator, [] => ([], false)
      | .separator, inMapping :: outer =>
        let skipping := skipping.filter (· < opened.length)
        if c = ',' then
          scan isSkipped skipping opened (if inMapping then .key else .value) rest
        else if inMapping && c = '}' then
          emit .endMapping (scan isSkipped skipping outer .separator rest)
        else if !inMapping && c = ']' then
          emit .endSequence (scan isSkipped skipping outer .separator rest)
        else ([], false)
      | .firstKey, _ =>
        if c = '}' then emit .endMapping (scan isSkipped skipping opened.tail .separator rest)
        else scan isSkipped skipping opened .key (c :: rest)
      | .item, _ =>
        if c = ']' then emit .endSequence (scan isSkipped skipping opened.tail .separator rest)
        else scan isSkipped skipping opened .value (c :: rest)
      | .key, _ =>
        match _h : key? skipping.isSome (c :: rest) with
        | some (name, rest) =>
          let depth := opened.length
          let skipping := skipping.or (if isSkipped depth name then some depth else none)
          emit (.key name) (scan isSkipped skipping opened .colon rest)
        | none => ([], false)
      | .value, _ =>
        let fits := skipping.isSome || opened.length < maxDepth
        if c = '[' ∧ fits then
          emit .beginSequence (scan isSkipped skipping (false :: opened) .item rest)
        else if c = '{' ∧ fits then
          emit .beginMapping (scan isSkipped skipping (true :: opened) .firstKey rest)
        else
          match _h : scalar? skipping.isSome (c :: rest) with
          | some (v, rest) => emit (.scalar v) (scan isSkipped skipping opened .separator rest)
          | none => ([], false)
termination_by (text.length, match expected with | .firstKey | .item => 1 | _ => 0)
decreasing_by all_goals grind [→ key?_length, → scalar?_length]
where
  emit (event : Event) : List Event × Bool → List Event × Bool
    | (events, complete) => (event :: events, complete)

def events (text : String) : List Event × Bool :=
  scan (fun _ _ => false) none [] .value text.toList

/-- The events of a text, of which the values under some keys of the outermost mapping are
skipped. -/
def eventsSkipping (isSkipped : String → Bool) (text : String) : List Event × Bool :=
  scan (fun depth name => depth = 1 && isSkipped name) none [] .value text.toList

end SnapshotRules.Json
