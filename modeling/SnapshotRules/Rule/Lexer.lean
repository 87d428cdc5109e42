import SnapshotRules.Rule.Error
import SnapshotRules.Text.Blank

/-! # Tokens of a text

Blanks separate tokens and are dropped. Every token is the longest one that starts at its
place.
-/

namespace SnapshotRules

def isWordStart (c : Char) : Bool := c.isAlpha || c = '_'

def isWordChar (c : Char) : Bool := c.isAlphanum || c = '_' || c = '.'

def byteLength (cs : List Char) : Nat := cs.foldr (fun c n => c.utf8Size + n) 0

namespace Lexer

/-- A token without its place, and the text after it. -/
structure Lexeme where
  kind : TokenKind
  text : List Char
  rest : List Char

/-- Where a fault lies, counted in bytes from the start of the token. -/
structure Fault where
  offset : Nat
  fault : LexFault

/--
Value and text of a string up to its closing quote, and the text after it. A backslash
escapes the quote and stands for itself before anything else.
-/
def closeQuote (quote : Char) : List Char → Option (List Char × List Char × List Char)
  | [] => none
  | '\\' :: c :: rest =>
    if c = quote then
      (closeQuote quote rest).map fun (value, text, rest) => (c :: value, '\\' :: c :: text, rest)
    else
      (closeQuote quote (c :: rest)).map fun (value, text, rest) =>
        ('\\' :: value, '\\' :: text, rest)
  | c :: rest =>
    if c = quote then some ([], [c], rest)
    else (closeQuote quote rest).map fun (value, text, rest) => (c :: value, c :: text, rest)

def string (quote : Char) (rest : List Char) : Except Fault Lexeme :=
  match closeQuote quote rest with
  | some (value, text, rest) => .ok ⟨.string (String.ofList value), quote :: text, rest⟩
  | none => .error ⟨0, .unterminatedString⟩

def operator (c : Char) (rest : List Char) : Except Fault Lexeme :=
  match c, rest with
  | '=', '=' :: rest => .ok ⟨.operator .equal, ['=', '='], rest⟩
  | '!', '=' :: rest => .ok ⟨.operator .notEqual, ['!', '='], rest⟩
  | '<', '=' :: rest => .ok ⟨.operator .lessOrEqual, ['<', '='], rest⟩
  | '>', '=' :: rest => .ok ⟨.operator .greaterOrEqual, ['>', '='], rest⟩
  | '<', rest => .ok ⟨.operator .less, ['<'], rest⟩
  | '>', rest => .ok ⟨.operator .greater, ['>'], rest⟩
  | c, _ => .error ⟨0, .halfOperator c⟩

/-- The value of a numeral. One without fraction and exponent must be an integer below 2^63. -/
def numberOf (n : Numeral) : Except Fault Number :=
  if n.isPlain then
    if h : -2 ^ 63 ≤ n.integer ∧ n.integer < 2 ^ 63 then
      .ok (.integer n.integer h.1 (by omega))
    else .error ⟨0, .integerOutOfRange n.chars⟩
  else
    match n.double? with
    | some d => .ok (.double d)
    | none => .error ⟨0, .numberTooLarge n.chars⟩

/-- A numeral must not run into a word. -/
def number (cs : List Char) : Except Fault Lexeme :=
  let (n, rest) := Numeral.scan cs
  if (rest.head?.any fun c => isWordStart c || c = '.') then
    .error ⟨byteLength n.chars, .malformedNumber⟩
  else (numberOf n).map fun value => ⟨.number value, n.chars, rest⟩

/-- The kind of a word that no parenthesis follows. -/
def wordKind (word : String) : TokenKind :=
  if word = "true" then .boolean true
  else if word = "false" then .boolean false
  else if word = "null" then .null
  else if word = "in" then .operator .memberOf
  else if word = "contains" then .operator .contains
  else if word = "and" ∨ word = "or" then .logical word
  else .identifier word

def word (cs : List Char) : Lexeme :=
  let text := cs.takeWhile isWordChar
  let rest := cs.dropWhile isWordChar
  let kind :=
    if rest.head? = some '(' then .function (String.ofList text)
    else wordKind (String.ofList text)
  ⟨kind, text, rest⟩

/-- The token that starts with `c`, which is no blank. -/
def lexeme (c : Char) (rest : List Char) : Except Fault Lexeme :=
  match Punctuation.ofChar? c with
  | some mark => .ok ⟨.punctuation mark, [c], rest⟩
  | none =>
    if c = '\'' ∨ c = '"' then string c rest
    else if c = '=' ∨ c = '!' ∨ c = '<' ∨ c = '>' then operator c rest
    else if c.isDigit ∨ c = '-' ∧ rest.head?.any Char.isDigit then number (c :: rest)
    else if isWordStart c then .ok (word (c :: rest))
    else .error ⟨0, .unexpectedCharacter c⟩

theorem closeQuote_append {quote : Char} {cs value text rest : List Char}
    (h : closeQuote quote cs = some (value, text, rest)) : text ++ rest = cs := by
  fun_induction closeQuote quote cs generalizing value text rest <;>
    grind [Option.map_eq_some_iff]

theorem isWordChar_of_isWordStart {c : Char} (h : isWordStart c = true) :
    isWordChar c = true := by
  simp only [isWordStart, Bool.or_eq_true, decide_eq_true_eq] at h
  simp only [isWordChar, Char.isAlphanum, Bool.or_eq_true, decide_eq_true_eq]
  grind

theorem lexeme_append {c : Char} {rest : List Char} {l : Lexeme}
    (h : lexeme c rest = .ok l) : l.text ++ l.rest = c :: rest ∧ l.text ≠ [] := by
  unfold lexeme at h
  split at h
  · grind
  · split at h
    · unfold string at h
      split at h
      · next h' => have := closeQuote_append h'; grind
      · simp at h
    · split at h
      · unfold operator at h
        split at h <;> grind
      · split at h
        · next hn =>
          have whole := Numeral.scan_append (c :: rest)
          have nonempty := Numeral.scan_chars_ne_nil rest (show c = '-' ∨ c.isDigit = true by grind)
          simp only [number] at h
          split at h
          · simp at h
          · cases hv : numberOf (Numeral.scan (c :: rest)).1 with
            | error => simp [hv, Except.map] at h
            | ok value =>
              simp only [hv, Except.map, Except.ok.injEq] at h
              subst h
              exact ⟨whole, nonempty⟩
        · split at h
          · next hw =>
            have := isWordChar_of_isWordStart hw
            obtain rfl := Except.ok.inj h
            simp [word, List.takeWhile_append_dropWhile, this]
          · simp at h

theorem lexeme_length {c : Char} {rest : List Char} {l : Lexeme}
    (h : lexeme c rest = .ok l) : l.rest.length < rest.length + 1 := by
  obtain ⟨whole, nonempty⟩ := lexeme_append h
  have := congrArg List.length whole
  have := List.length_pos_iff.mpr nonempty
  simp only [List.length_append, List.length_cons] at *
  omega

/-- The tokens of a text that starts at a position. An end of rule closes them. -/
def tokensFrom (position : Nat) : List Char → Except LexError (List Token)
  | [] => .ok [⟨.endOfRule, "", position⟩]
  | c :: rest =>
    if isBlank c then tokensFrom (position + c.utf8Size) rest
    else
      match _h : lexeme c rest with
      | .error fault => .error ⟨position + fault.offset, fault.fault⟩
      | .ok l =>
        (tokensFrom (position + byteLength l.text) l.rest).map fun tokens =>
          ⟨l.kind, String.ofList l.text, position⟩ :: tokens
termination_by cs => cs.length
decreasing_by all_goals grind [→ lexeme_length]

end Lexer

def tokenize (rule : String) : Except LexError (List Token) := Lexer.tokensFrom 0 rule.toList

end SnapshotRules
