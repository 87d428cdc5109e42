import SnapshotRules.Json.Event
import SnapshotRules.Yaml.Layout

/-! # YAML scalars

Plain and quoted scalars may go on over several lines. A single line break inside of them
counts as a space, and further ones are kept. Block scalars, literal or folded, are not read.
-/

namespace SnapshotRules.Yaml

/-- Blanks and breaks met since the last character of a scalar. -/
inductive Gap where
  | spaces (blanks : List Char)
  /-- A first break, unless it was escaped, and those after it. -/
  | breaks (first : Option Char) (more : List Char)
  deriving DecidableEq

namespace Gap

def none : Gap := .spaces []

/-- Blanks count only while no line has ended. -/
def addSpace (c : Char) : Gap → Gap
  | .spaces blanks => .spaces (blanks ++ [c])
  | gap => gap

def addBreak (c : Char) : Gap → Gap
  | .spaces _ => .breaks (some c) []
  | .breaks first more => .breaks first (more ++ [c])

def isBreaks : Gap → Bool
  | .breaks _ _ => true
  | .spaces _ => false

/-- What a gap contributes when the scalar goes on after it. -/
def text : Gap → List Char
  | .spaces blanks => blanks
  | .breaks (some '\n') [] => [' ']
  | .breaks (some '\n') more => more
  | .breaks (some c) more => c :: more
  | .breaks Option.none more => more

end Gap

def isFlowIndicator (c : Char) : Bool := [',', '[', ']', '{', '}'].contains c

/-- Whether a plain scalar ends in front of a character. -/
def endsPlain (inFlow : Bool) (p : Placed) (rest : List Placed) : Bool :=
  (p.char = ':' && atGap rest) || (inFlow && isFlowIndicator p.char)

/-- Whether a colon stands where flow collections do not allow it. -/
def isStrayColon (p : Placed) : List Placed → Bool
  | q :: _ => p.char = ':' && (isFlowIndicator q.char || q.char = '?')
  | [] => false

/--
The rest of a plain scalar: its text, whether line breaks follow it, and what comes after
them. Lines after the first are indented to column `indent` at least.
-/
def plain? (inFlow : Bool) (indent : Nat) (gap : Gap) :
    List Placed → Option (List Char × Bool × List Placed)
  | [] => some ([], gap.isBreaks, [])
  | p :: rest =>
    if isSpace p.char then
      if gap.isBreaks && p.char = '\t' && p.column < indent then none
      else plain? inFlow indent (gap.addSpace p.char) rest
    else if isBreak p.char then plain? inFlow indent (gap.addBreak p.char) rest
    else if (gap.isBreaks && !inFlow && p.column < indent) ||
        (gap ≠ .none && (p.char = '#' || isDocumentMark (p :: rest))) then
      some ([], gap.isBreaks, p :: rest)
    else if inFlow && isStrayColon p rest then none
    else if endsPlain inFlow p rest then some ([], gap.isBreaks, p :: rest)
    else (plain? inFlow indent .none rest).map fun (s, r) => (gap.text ++ p.char :: s, r)

def namedEscape? : Char → Option Char
  | '0' => some '\x00'
  | 'a' => some '\x07'
  | 'b' => some '\x08'
  | 't' | '\t' => some '\t'
  | 'n' => some '\n'
  | 'v' => some '\x0b'
  | 'f' => some '\x0c'
  | 'r' => some '\r'
  | 'e' => some '\x1b'
  | ' ' => some ' '
  | '"' => some '"'
  | '/' => some '/'
  | '\\' => some '\\'
  | 'N' => some '\u0085'
  | '_' => some '\u00a0'
  | 'L' => some '\u2028'
  | 'P' => some '\u2029'
  | _ => none

def escapeLength? : Char → Option Nat
  | 'x' => some 2
  | 'u' => some 4
  | 'U' => some 8
  | _ => none

def charOfCode? (code : Nat) : Option Char :=
  if h : code.isValidChar then some (Char.ofNatAux code h) else none

/-- The character that an escape stands for and the text after it. -/
def escape? : List Placed → Option (Char × List Placed)
  | [] => none
  | e :: rest =>
    match escapeLength? e.char with
    | none => (namedEscape? e.char).map fun c => (c, rest)
    | some length => do
      let digits := (rest.take length).map Placed.char
      let code ← if digits.length = length then Json.hexNumber? digits else none
      (charOfCode? code).map fun c => (c, rest.drop length)

theorem escape?_length {cs rest : List Placed} {c : Char} (h : escape? cs = some (c, rest)) :
    rest.length < cs.length := by
  unfold escape? at h
  split at h
  · simp at h
  · split at h
    · grind [Option.map_eq_some_iff]
    · simp only [bind, Option.bind] at h
      grind [Option.map_eq_some_iff]

/-- The text of a quoted scalar up to the closing quote, and what comes after it. -/
def quoted? (quote : Char) (gap : Gap) (cs : List Placed) : Option (List Char × List Placed) :=
  match cs with
  | [] => none
  | p :: rest =>
    if isSpace p.char then quoted? quote (gap.addSpace p.char) rest
    else if isBreak p.char then quoted? quote (gap.addBreak p.char) rest
    else if isDocumentMark (p :: rest) then none
    else if p.char = quote then
      match quote, rest with
      | '\'', q :: rest =>
        if q.char = '\'' then
          (quoted? quote .none rest).map fun (s, r) => (gap.text ++ '\'' :: s, r)
        else some (gap.text, q :: rest)
      | _, rest => some (gap.text, rest)
    else if quote = '"' ∧ p.char = '\\' then
      match rest with
      | [] => none
      | q :: after =>
        if isBreak q.char then
          (quoted? quote (.breaks none []) after).map fun (s, r) => (gap.text ++ s, r)
        else
          match _h : escape? (q :: after) with
          | none => none
          | some (c, rest) =>
            (quoted? quote .none rest).map fun (s, r) => (gap.text ++ c :: s, r)
    else (quoted? quote .none rest).map fun (s, r) => (gap.text ++ p.char :: s, r)
termination_by cs.length
decreasing_by all_goals grind [→ escape?_length]

theorem plain?_length {inFlow : Bool} {indent : Nat} {gap : Gap} {cs rest : List Placed}
    {s : List Char} {broken : Bool} (h : plain? inFlow indent gap cs = some (s, broken, rest)) :
    rest.length ≤ cs.length := by
  fun_induction plain? inFlow indent gap cs generalizing s broken rest <;>
    grind [Option.map_eq_some_iff]

theorem quoted?_length {quote : Char} {gap : Gap} {cs rest : List Placed} {s : List Char}
    (h : quoted? quote gap cs = some (s, rest)) : rest.length < cs.length := by
  induction hn : cs.length using Nat.strongRecOn generalizing gap cs rest s with
  | _ n ih =>
    have shorter {gap : Gap} {cs : List Placed} {f : List Char × List Placed → _ × _}
        (hq : (quoted? quote gap cs).map f = some (s, rest)) (hf : ∀ r, (f r).2 = r.2)
        (hl : cs.length < n) : rest.length < n := by
      obtain ⟨r, hr, he⟩ := Option.map_eq_some_iff.mp hq
      have hs : rest = r.2 := by rw [← hf r, he]
      exact hs ▸ Nat.lt_trans (ih cs.length hl hr rfl) hl
    subst hn
    rw [quoted?.eq_def] at h
    split at h
    · exact absurd h (by simp)
    · next p cs =>
      simp only [List.length_cons] at *
      split at h
      · have := ih cs.length (by omega) h rfl
        omega
      · split at h
        · have := ih cs.length (by omega) h rfl
          omega
        · split at h
          · exact absurd h (by simp)
          · split at h
            · split at h
              · split at h
                · exact shorter h (fun _ => rfl) (by rw [List.length_cons]; omega)
                · obtain ⟨-, rfl⟩ := Prod.mk.inj (Option.some.inj h)
                  exact Nat.lt_succ_self _
              · obtain ⟨-, rfl⟩ := Prod.mk.inj (Option.some.inj h)
                exact Nat.lt_succ_self _
            · split at h
              · split at h
                · exact absurd h (by simp)
                · split at h
                  · exact shorter h (fun _ => rfl) (by rw [List.length_cons]; omega)
                  · split at h
                    · exact absurd h (by simp)
                    · next he =>
                      have hl := escape?_length he
                      rw [List.length_cons] at hl
                      exact shorter h (fun _ => rfl) (by rw [List.length_cons]; omega)
              · exact shorter h (fun _ => rfl) (by omega)

end SnapshotRules.Yaml
