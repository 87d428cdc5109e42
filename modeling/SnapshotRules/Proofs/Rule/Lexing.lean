import Mathlib
import SnapshotRules.Proofs.Number.Numerals
import SnapshotRules.Rule.Lexer
import SnapshotRules.Value.Text

/-! # Lexing of printed tokens

Every printed token is read back as one token, provided that the text after it does not run
into it. Conversely the tokens of any text have values that can be printed.
-/

namespace SnapshotRules

/-! ## Characters -/

def IsWordCode (n : Nat) : Prop :=
  n = 46 ∨ (48 ≤ n ∧ n ≤ 57) ∨ (65 ≤ n ∧ n ≤ 90) ∨ n = 95 ∨ (97 ≤ n ∧ n ≤ 122)

theorem isDigit_iff {c : Char} : c.isDigit = true ↔ 48 ≤ c.toNat ∧ c.toNat ≤ 57 := by
  simp [Char.isDigit, UInt32.le_iff_toNat_le]

theorem isAlpha_iff {c : Char} : c.isAlpha = true ↔
    (65 ≤ c.toNat ∧ c.toNat ≤ 90) ∨ (97 ≤ c.toNat ∧ c.toNat ≤ 122) := by
  simp [Char.isAlpha, Char.isUpper, Char.isLower, UInt32.le_iff_toNat_le]

theorem eq_iff_toNat_eq {c d : Char} : c = d ↔ c.toNat = d.toNat :=
  ⟨congrArg _, fun h => Char.ext (UInt32.toNat_inj.mp h)⟩

theorem isWordChar_iff {c : Char} : isWordChar c = true ↔ IsWordCode c.toNat := by
  simp only [isWordChar, Char.isAlphanum, Bool.or_eq_true, decide_eq_true_eq, isDigit_iff,
    isAlpha_iff, eq_iff_toNat_eq, IsWordCode]
  change _ ∨ c.toNat = 46 ↔ _
  change (_ ∨ c.toNat = 95) ∨ _ ↔ _
  omega

theorem isWordStart_iff {c : Char} : isWordStart c = true ↔
    isWordChar c = true ∧ c.isDigit = false ∧ c ≠ '.' := by
  rw [isWordChar_iff, ← Bool.not_eq_true, isDigit_iff, ne_eq, eq_iff_toNat_eq]
  simp only [isWordStart, Bool.or_eq_true, decide_eq_true_eq, isAlpha_iff, eq_iff_toNat_eq,
    IsWordCode]
  change _ ∨ c.toNat = 95 ↔ _ ∧ _ ∧ ¬ c.toNat = 46
  omega

theorem isBlank_eq_false {c : Char} (h : isWordChar c = true ∨ c = '-') : isBlank c = false := by
  have hc : IsWordCode c.toNat ∨ c.toNat = 45 :=
    h.imp isWordChar_iff.mp fun h => by rw [h]; rfl
  unfold IsWordCode at hc
  simp only [isBlank, isBlankCode, Bool.or_eq_false_iff, Bool.and_eq_false_iff,
    decide_eq_false_iff_not]
  omega

theorem isWordChar_of_isDigit {c : Char} (h : c.isDigit = true) : isWordChar c = true :=
  isWordChar_iff.mpr (.inr (.inl (isDigit_iff.mp h)))

theorem ofChar?_eq_none {c : Char} (h : isWordChar c = true ∨ c = '-') :
    Punctuation.ofChar? c = none := by
  unfold Punctuation.ofChar?
  split <;> first | rfl | exact absurd h (by decide)

theorem not_isQuote {c : Char} (h : isWordChar c = true ∨ c = '-') : ¬ (c = '\'' ∨ c = '"') := by
  rintro (rfl | rfl) <;> exact absurd h (by decide)

theorem not_isOperatorStart {c : Char} (h : isWordChar c = true ∨ c = '-') :
    ¬ (c = '=' ∨ c = '!' ∨ c = '<' ∨ c = '>') := by
  rintro (rfl | rfl | rfl | rfl) <;> exact absurd h (by decide)

/-- A text that neither continues a word nor opens a parenthesis. -/
def Boundary (cs : List Char) : Prop := ∀ c ∈ cs.head?, isWordChar c = false ∧ c ≠ '('

theorem boundary_nil : Boundary [] := by simp [Boundary]

theorem boundary_cons {c : Char} (hw : isWordChar c = false) (hp : c ≠ '(') (cs : List Char) :
    Boundary (c :: cs) := by
  rintro d ⟨⟩
  exact ⟨hw, hp⟩

namespace Lexer

/-! ## Token by token -/

/-- In front of the rest, the text is read as one token of this kind. -/
def Takes (kind : TokenKind) (text rest : List Char) : Prop :=
  ∃ c cs, text ++ rest = c :: cs ∧ isBlank c = false ∧ lexeme c cs = .ok ⟨kind, text, rest⟩

/-- The kinds of the tokens of a text. -/
def Lexes (cs : List Char) (kinds : List TokenKind) : Prop :=
  ∀ position, (tokensFrom position cs).map (List.map Token.kind) = .ok kinds

variable {c : Char} {cs text rest : List Char} {kind : TokenKind} {kinds : List TokenKind}

theorem takes_of_lexeme {l : Lexeme} (hb : isBlank c = false) (hl : lexeme c cs = .ok l) :
    Takes l.kind l.text l.rest := ⟨c, cs, (lexeme_append hl).1, hb, hl⟩

theorem Takes.text_ne_nil (h : Takes kind text rest) : text ≠ [] := by
  obtain ⟨c, cs, -, -, hl⟩ := h
  exact (lexeme_append hl).2

theorem Takes.tokensFrom_append (h : Takes kind text rest) (position : Nat) :
    tokensFrom position (text ++ rest) =
      (tokensFrom (position + byteLength text) rest).map
        (⟨kind, String.ofList text, position⟩ :: ·) := by
  obtain ⟨c, cs, hc, hb, hl⟩ := h
  rw [hc, tokensFrom, if_neg (by simp [hb])]
  split
  · next heq => rw [hl] at heq; exact absurd heq (by simp)
  · next heq => obtain rfl := Except.ok.inj (hl.symm.trans heq); rfl

theorem lexes_nil : Lexes [] [.endOfRule] := fun position => by
  rw [tokensFrom]; rfl

theorem Lexes.blank (hb : isBlank c = true) (h : Lexes cs kinds) : Lexes (c :: cs) kinds := by
  intro position
  rw [tokensFrom, if_pos hb, h]

theorem Takes.lexes (ht : Takes kind text rest) (h : Lexes rest kinds) :
    Lexes (text ++ rest) (kind :: kinds) := by
  intro position
  obtain ⟨tokens, hr, rfl⟩ := map_eq_ok_iff.mp (h (position + byteLength text))
  rw [ht.tokensFrom_append, hr]
  rfl

theorem tokenize_of_lexes {cs : List Char} (h : Lexes cs kinds) :
    ∃ tokens, tokenize (String.ofList cs) = .ok tokens ∧ tokens.map Token.kind = kinds := by
  rw [tokenize, String.toList_ofList]
  exact map_eq_ok_iff.mp (h 0)

theorem takes_mark (mark : Punctuation) (rest : List Char) :
    Takes (.punctuation mark) [mark.char] rest := by
  refine ⟨mark.char, rest, rfl, ?_, ?_⟩
  · cases mark <;> decide
  · rw [lexeme, Punctuation.ofChar?_char]

theorem lexes_mark (mark : Punctuation) (h : Lexes cs kinds) :
    Lexes (mark.char :: cs) (.punctuation mark :: kinds) := (takes_mark mark cs).lexes h

/-! ## Strings -/

def NoFinalBackslash (cs : List Char) : Prop := cs.getLast? ≠ some '\\'

theorem NoFinalBackslash.tail (h : NoFinalBackslash (c :: cs)) : NoFinalBackslash cs := by
  cases cs with
  | nil => simp [NoFinalBackslash]
  | cons d cs => rwa [NoFinalBackslash, List.getLast?_cons_cons] at h

theorem NoFinalBackslash.cons_of_ne_nil (h : NoFinalBackslash cs) (hn : cs ≠ []) :
    NoFinalBackslash (c :: cs) := by
  obtain ⟨d, ds, rfl⟩ := List.exists_cons_of_ne_nil hn
  rwa [NoFinalBackslash, List.getLast?_cons_cons]

theorem NoFinalBackslash.cons (h : NoFinalBackslash cs) (hc : c ≠ '\\') :
    NoFinalBackslash (c :: cs) := by
  by_cases hn : cs = []
  · subst hn
    simpa [NoFinalBackslash] using hc
  · exact h.cons_of_ne_nil hn

def quotedInside (cs : List Char) : List Char :=
  cs.flatMap fun c => if c = '\'' then ['\\', '\''] else [c]

theorem singleQuoted_eq (s : String) :
    singleQuoted s = '\'' :: (quotedInside s.toList ++ ['\'']) := rfl

theorem quotedInside_cons (c : Char) (cs : List Char) :
    quotedInside (c :: cs) = (if c = '\'' then ['\\', '\''] else [c]) ++ quotedInside cs := by
  simp [quotedInside]

theorem exists_quotedInside_eq_cons (h : cs ≠ []) :
    ∃ d tail, quotedInside cs = d :: tail ∧ d ≠ '\'' := by
  obtain ⟨e, es, rfl⟩ := List.exists_cons_of_ne_nil h
  rw [quotedInside_cons]
  by_cases he : e = '\''
  · exact ⟨'\\', _, by rw [if_pos he]; rfl, by decide⟩
  · exact ⟨e, _, by rw [if_neg he]; rfl, he⟩

theorem closeQuote_cons {quote : Char} (hc : c ≠ '\\') (rest : List Char) :
    closeQuote quote (c :: rest) =
      if c = quote then some ([], [c], rest)
      else (closeQuote quote rest).map fun (value, text, rest) =>
        (c :: value, c :: text, rest) := by
  rw [closeQuote.eq_def]
  split
  · next h => exact absurd h (by simp)
  · next h => exact absurd (List.cons.inj h).1 hc
  · next h =>
    obtain ⟨rfl, rfl⟩ := List.cons.inj h
    rfl

/-- A character ahead of a closing quote is no backslash, unless the next one is read with it. -/
theorem ne_backslash_of_closeQuote {quote : Char} {closed : List Char × List Char × List Char}
    (h : closeQuote quote cs = some closed) (hn : ∀ d ds, c = '\\' → cs = d :: ds → False) :
    c ≠ '\\' := by
  intro hc
  cases cs with
  | nil => exact absurd h (by simp [closeQuote])
  | cons d ds => exact hn d ds hc rfl

theorem closeQuote_quotedInside (hn : NoFinalBackslash cs) (rest : List Char) :
    ∃ text, closeQuote '\'' (quotedInside cs ++ '\'' :: rest) = some (cs, text, rest) := by
  induction cs with
  | nil => exact ⟨['\''], by simp [quotedInside, closeQuote]⟩
  | cons c cs ih =>
    obtain ⟨text, ih⟩ := ih hn.tail
    rw [quotedInside_cons]
    by_cases hq : c = '\''
    · subst hq
      exact ⟨'\\' :: '\'' :: text, by simp [closeQuote, ih]⟩
    · rw [if_neg hq, List.singleton_append, List.cons_append]
      by_cases hb : c = '\\'
      · subst hb
        obtain ⟨d, tail, hd, hne⟩ : ∃ d tail, quotedInside cs = d :: tail ∧ d ≠ '\'' :=
          exists_quotedInside_eq_cons fun hcs => hn (by rw [hcs]; rfl)
        rw [hd, List.cons_append] at ih ⊢
        exact ⟨'\\' :: text, by simp [closeQuote, hne, ih]⟩
      · refine ⟨c :: text, ?_⟩
        rw [closeQuote_cons hb, if_neg hq, ih]
        rfl

theorem takes_string {quote : Char} {value : List Char} (hq : quote = '\'' ∨ quote = '"')
    (h : closeQuote quote (text ++ rest) = some (value, text, rest)) :
    Takes (.string (String.ofList value)) (quote :: text) rest := by
  refine ⟨quote, text ++ rest, rfl, ?_, ?_⟩
  · rcases hq with rfl | rfl <;> decide
  · have hn : Punctuation.ofChar? quote = none := by rcases hq with rfl | rfl <;> rfl
    rw [lexeme, hn]
    simp only
    rw [if_pos hq, string, h]

theorem takes_singleQuoted {s : String} (hn : NoFinalBackslash s.toList) (rest : List Char) :
    Takes (.string s) (singleQuoted s) rest := by
  obtain ⟨text, hc⟩ := closeQuote_quotedInside hn rest
  have htext : text = quotedInside s.toList ++ ['\''] :=
    List.append_cancel_right ((closeQuote_append hc).trans (by simp))
  have ht := takes_string (.inl rfl) ((closeQuote_append hc).symm ▸ hc)
  rwa [String.ofList_toList, htext, ← singleQuoted_eq] at ht

theorem lexes_singleQuoted {s : String} (hn : NoFinalBackslash s.toList)
    (h : Lexes rest kinds) : Lexes (singleQuoted s ++ rest) (.string s :: kinds) :=
  (takes_singleQuoted hn rest).lexes h

theorem closeQuote_ne_nil {quote : Char} {value text rest' : List Char} (hc : c ≠ quote)
    (h : closeQuote quote (c :: rest) = some (value, text, rest')) : value ≠ [] := by
  unfold closeQuote at h
  split at h <;> grind [Option.map_eq_some_iff]

/-- No string that is read ends in a backslash, for that would have escaped the quote. -/
theorem noFinalBackslash_of_closeQuote {quote : Char} {value text rest : List Char}
    (hq : quote ≠ '\\') (h : closeQuote quote cs = some (value, text, rest)) :
    NoFinalBackslash value := by
  fun_induction closeQuote quote cs generalizing value text rest with
  | case1 => exact absurd h (by simp)
  | case2 rest' ih =>
    obtain ⟨⟨value', text', rest''⟩, h', he⟩ := Option.map_eq_some_iff.mp h
    obtain ⟨rfl, -⟩ := Prod.mk.inj he
    exact (ih h').cons hq
  | case3 c rest' hc ih =>
    obtain ⟨⟨value', text', rest''⟩, h', he⟩ := Option.map_eq_some_iff.mp h
    obtain ⟨rfl, -⟩ := Prod.mk.inj he
    exact (ih h').cons_of_ne_nil (closeQuote_ne_nil hc h')
  | case4 rest' hn =>
    obtain ⟨rfl, -⟩ := Prod.mk.inj (Option.some.inj h)
    simp [NoFinalBackslash]
  | case5 c rest' hn hc ih =>
    obtain ⟨⟨value', text', rest''⟩, h', he⟩ := Option.map_eq_some_iff.mp h
    obtain ⟨rfl, -⟩ := Prod.mk.inj he
    exact (ih h').cons (ne_backslash_of_closeQuote h' hn)

/-! ## Numbers -/

theorem stops_of_isWordChar {c : Char} (h : isWordChar c = false) : Numeral.Stops c := by
  rw [← Bool.not_eq_true, isWordChar_iff] at h
  rw [Numeral.Stops, ← Bool.not_eq_true, isDigit_iff, ne_eq, ne_eq, ne_eq, eq_iff_toNat_eq,
    eq_iff_toNat_eq, eq_iff_toNat_eq]
  change _ ∧ ¬ c.toNat = 46 ∧ ¬ c.toNat = 101 ∧ ¬ c.toNat = 69
  unfold IsWordCode at h
  omega

theorem number_chars_append {n : Numeral} {value : Number} (hn : n.Proper)
    (hv : numberOf n = .ok value) (hr : Boundary rest) :
    number (n.chars ++ rest) = .ok ⟨.number value, n.chars, rest⟩ := by
  rw [number, Numeral.scan_chars_append hn fun c hc => stops_of_isWordChar (hr c hc).1]
  have hw : (rest.head?.any fun c => isWordStart c || c = '.') = false := by
    cases rest with
    | nil => rfl
    | cons c rest =>
      have hc := (hr c rfl).1
      have hs : isWordStart c = false := by
        by_contra hs
        exact Bool.false_ne_true (hc.symm.trans (isWordStart_iff.mp (by simpa using hs)).1)
      simp only [isWordChar, Bool.or_eq_false_iff] at hc
      simp [hs, hc.2]
  simp only [hw, hv]
  rfl

theorem takes_numeral {n : Numeral} {value : Number} (hn : n.Proper)
    (hv : numberOf n = .ok value) (hr : Boundary rest) : Takes (.number value) n.chars rest := by
  have hl := number_chars_append hn hv hr
  obtain ⟨c, cs, hc, hs⟩ := Numeral.exists_chars_eq_cons hn
  have hd : isWordChar c = true ∨ c = '-' := hs.imp isWordChar_of_isDigit And.left
  rw [hc, List.cons_append] at hl
  refine ⟨c, cs ++ rest, by rw [hc, List.cons_append], isBlank_eq_false hd, ?_⟩
  rw [lexeme, ofChar?_eq_none hd]
  simp only
  rw [if_neg (not_isQuote hd), if_neg (not_isOperatorStart hd),
    if_pos (hs.imp_right fun hm => ⟨hm.1, hm.2 rest⟩), hl, hc]

end Lexer

/-- A number that a rule can write: a double, or an integer below 2^63. -/
def Number.IsLiteral : Number → Prop
  | .integer i _ _ => i < 2 ^ 63
  | .double _ => True

namespace Lexer

variable {c : Char} {cs rest : List Char} {kinds : List TokenKind}

theorem exists_numeral {value : Number} (hv : value.IsLiteral) :
    ∃ n : Numeral, n.Proper ∧ n.chars = value.chars ∧ numberOf n = .ok value := by
  cases value with
  | integer i lower upper =>
    obtain ⟨n, hn, hp, hc, hi⟩ := exists_plain_numeral i
    refine ⟨n, hn, hc, ?_⟩
    subst hi
    rw [numberOf, if_pos hp, dif_pos ⟨lower, hv⟩]
  | double d =>
    obtain ⟨n, hn, hp, hc, hd⟩ := d.exists_numeral
    refine ⟨n, hn, hc, ?_⟩
    rw [numberOf, if_neg (by simp [hp]), hd]

theorem lexes_number {value : Number} (hv : value.IsLiteral) (hr : Boundary rest)
    (h : Lexes rest kinds) : Lexes (value.chars ++ rest) (.number value :: kinds) := by
  obtain ⟨n, hn, hc, hv⟩ := exists_numeral hv
  rw [← hc]
  exact (takes_numeral hn hv hr).lexes h

theorem isLiteral_of_numberOf {n : Numeral} {value : Number} (h : numberOf n = .ok value) :
    value.IsLiteral := by
  unfold numberOf at h
  split at h
  · split at h
    · next hi =>
      obtain rfl := Except.ok.inj h
      exact hi.2
    · exact absurd h (by simp)
  · split at h
    · obtain rfl := Except.ok.inj h
      trivial
    · exact absurd h (by simp)

end Lexer

/-! ## Words -/

/-- A word starts with a letter or an underscore and goes on with letters, digits, underscores
and points. -/
def IsWord (name : String) : Prop :=
  ∃ c cs, name.toList = c :: cs ∧ isWordStart c = true ∧ ∀ d ∈ cs, isWordChar d = true

theorem isWord_of_all {name : String} {c : Char} {cs : List Char} (h : name.toList = c :: cs)
    (hs : isWordStart c = true) (hcs : cs.all isWordChar = true) : IsWord name :=
  ⟨c, cs, h, hs, List.all_eq_true.mp hcs⟩

def reservedWords : List String := ["true", "false", "null", "in", "contains", "and", "or"]

namespace Lexer

variable {c : Char} {cs rest : List Char} {kinds : List TokenKind} {name : String}

theorem wordKind_of_not_mem (h : name ∉ reservedWords) : wordKind name = .identifier name := by
  simp only [reservedWords, List.mem_cons, List.not_mem_nil, or_false, not_or] at h
  obtain ⟨h1, h2, h3, h4, h5, h6, h7⟩ := h
  rw [wordKind, if_neg h1, if_neg h2, if_neg h3, if_neg h4, if_neg h5, if_neg (not_or.mpr ⟨h6, h7⟩)]

theorem wordKind_ne_function (word name : String) : wordKind word ≠ .function name := by
  rw [wordKind]
  split_ifs <;> simp

theorem wordKind_ne_endOfRule (word : String) : wordKind word ≠ .endOfRule := by
  rw [wordKind]
  split_ifs <;> simp

theorem takes_word (hw : IsWord name) (hr : ∀ c ∈ rest.head?, isWordChar c = false) :
    Takes (if rest.head? = some '(' then .function name else wordKind name) name.toList rest := by
  obtain ⟨c, cs, hc, hs, hcs⟩ := hw
  have hw := isWordChar_of_isWordStart hs
  have hall : ∀ d ∈ name.toList, isWordChar d = true := by
    rw [hc]
    exact List.forall_mem_cons.mpr ⟨hw, hcs⟩
  refine ⟨c, cs ++ rest, by rw [hc, List.cons_append], isBlank_eq_false (.inl hw), ?_⟩
  have hn : ¬ (c.isDigit = true ∨ c = '-' ∧ (cs ++ rest).head?.any Char.isDigit = true) := by
    rintro (hd | ⟨rfl, -⟩)
    · exact absurd hd (by simp [(isWordStart_iff.mp hs).2.1])
    · exact absurd hs (by decide)
  rw [lexeme, ofChar?_eq_none (.inl hw)]
  simp only
  rw [if_neg (not_isQuote (.inl hw)), if_neg (not_isOperatorStart (.inl hw)), if_neg hn,
    if_pos hs, word, ← List.cons_append, ← hc, takeWhile_append_of_head hall hr,
    dropWhile_append_of_head hall hr, String.ofList_toList]

theorem takes_wordKind (hw : IsWord name) (hr : Boundary rest) :
    Takes (wordKind name) name.toList rest := by
  have h := takes_word hw fun c hc => (hr c hc).1
  rwa [if_neg fun hp : rest.head? = some '(' => (hr _ hp).2 rfl] at h

theorem takes_function (hw : IsWord name) (hr : rest.head? = some '(') :
    Takes (.function name) name.toList rest := by
  have h := takes_word hw fun c hc => Option.some.inj (hr.symm.trans hc) ▸ by decide
  rwa [if_pos hr] at h

theorem lexes_word (hw : IsWord name) (hr : Boundary rest) (h : Lexes rest kinds) :
    Lexes (name.toList ++ rest) (wordKind name :: kinds) := (takes_wordKind hw hr).lexes h

theorem lexes_function (hw : IsWord name) (h : Lexes ('(' :: rest) kinds) :
    Lexes (name.toList ++ '(' :: rest) (.function name :: kinds) := (takes_function hw rfl).lexes h

/-! ## Operators -/

/-- Operators that are no words. -/
def IsSymbol (op : Operator) : Prop := op ≠ .memberOf ∧ op ≠ .contains

theorem operator_single (hr : rest.head? ≠ some '=') :
    operator '<' rest = .ok ⟨.operator .less, ['<'], rest⟩ ∧
      operator '>' rest = .ok ⟨.operator .greater, ['>'], rest⟩ := by
  cases rest with
  | nil => exact ⟨rfl, rfl⟩
  | cons c rest =>
    have hc : c ≠ '=' := fun h => hr (congrArg some h)
    simp [operator, hc]

theorem takes_symbol {op : Operator} (hop : IsSymbol op) (hr : rest.head? ≠ some '=') :
    Takes (.operator op) op.symbol.toList rest := by
  have hs (c : Char) (cs : List Char) (hb : isBlank c = false)
      (hl : lexeme c (cs ++ rest) = .ok ⟨.operator op, c :: cs, rest⟩) :
      Takes (.operator op) (c :: cs) rest := ⟨c, cs ++ rest, rfl, hb, hl⟩
  cases op with
  | equal => exact hs '=' ['='] (by decide) rfl
  | notEqual => exact hs '!' ['='] (by decide) rfl
  | greaterOrEqual => exact hs '>' ['='] (by decide) rfl
  | lessOrEqual => exact hs '<' ['='] (by decide) rfl
  | memberOf => exact absurd rfl hop.1
  | contains => exact absurd rfl hop.2
  | greater => exact hs '>' [] (by decide) (operator_single hr).2
  | less => exact hs '<' [] (by decide) (operator_single hr).1

theorem lexes_operator (op : Operator) (h : Lexes (' ' :: rest) kinds) :
    Lexes (op.symbol.toList ++ ' ' :: rest) (.operator op :: kinds) := by
  have hr : Boundary (' ' :: rest) := boundary_cons (by decide) (by decide) rest
  cases op with
  | memberOf => exact lexes_word (isWord_of_all rfl rfl rfl) hr h
  | contains => exact lexes_word (isWord_of_all rfl rfl rfl) hr h
  | _ => exact (takes_symbol (by simp [IsSymbol]) (by simp)).lexes h

end Lexer

/-! ## All tokens -/

namespace Lexer

/-- The texts of the kinds of tokens. A word is a function name right before a parenthesis. -/
inductive Shape : TokenKind → List Char → List Char → Prop
  | mark (mark : Punctuation) (rest : List Char) : Shape (.punctuation mark) [mark.char] rest
  | string {quote : Char} {value text rest : List Char} : quote = '\'' ∨ quote = '"' →
      closeQuote quote (text ++ rest) = some (value, text, rest) →
      Shape (.string (String.ofList value)) (quote :: text) rest
  | symbol {op : Operator} (rest : List Char) : IsSymbol op →
      Shape (.operator op) op.symbol.toList rest
  | numeral {n : Numeral} {value : Number} (rest : List Char) : n.Proper →
      numberOf n = .ok value → Shape (.number value) n.chars rest
  | word {name : String} (rest : List Char) : IsWord name →
      Shape (if rest.head? = some '(' then .function name else wordKind name) name.toList rest

variable {c : Char} {cs text rest : List Char} {kind : TokenKind}

theorem char_of_ofChar? {mark : Punctuation} (h : Punctuation.ofChar? c = some mark) :
    c = mark.char := by
  unfold Punctuation.ofChar? at h
  split at h <;> first | (obtain rfl := Option.some.inj h; rfl) | exact absurd h (by simp)

theorem shape_of_lexeme {l : Lexeme} (h : lexeme c cs = .ok l) : Shape l.kind l.text l.rest := by
  unfold lexeme at h
  split at h
  · next mark hm =>
    obtain rfl := Except.ok.inj h
    rw [char_of_ofChar? hm]
    exact .mark mark cs
  · split at h
    · next hq =>
      unfold string at h
      split at h
      · next value text rest hc =>
        obtain rfl := Except.ok.inj h
        exact .string hq (by rwa [closeQuote_append hc])
      · exact absurd h (by simp)
    · split at h
      · unfold operator at h
        split at h <;> first
          | (obtain rfl := Except.ok.inj h; exact .symbol _ (by simp [IsSymbol]))
          | exact absurd h (by simp)
      · split at h
        · next hd =>
          have hn := Numeral.proper_scan hd
          simp only [number] at h
          split at h
          · exact absurd h (by simp)
          · obtain ⟨value, hv, rfl⟩ := map_eq_ok_iff.mp h
            exact .numeral _ hn hv
        · split at h
          · next hs =>
            obtain rfl := Except.ok.inj h
            have hw : IsWord (String.ofList ((c :: cs).takeWhile isWordChar)) := by
              refine ⟨c, cs.takeWhile isWordChar, ?_, hs, fun d => List.mem_takeWhile_imp⟩
              rw [String.toList_ofList, List.takeWhile_cons_of_pos (isWordChar_of_isWordStart hs)]
            have h := Shape.word ((c :: cs).dropWhile isWordChar) hw
            rwa [String.toList_ofList] at h
          · exact absurd h (by simp)

theorem Takes.shape (h : Takes kind text rest) : Shape kind text rest := by
  obtain ⟨c, cs, -, -, hl⟩ := h
  exact shape_of_lexeme hl

end Lexer

/-- The kinds of tokens whose values a rule can write. -/
def TokenKind.Lexical : TokenKind → Prop
  | .string value => Lexer.NoFinalBackslash value.toList
  | .number value => value.IsLiteral
  | .identifier name => IsWord name ∧ name ∉ reservedWords
  | .function name => IsWord name
  | _ => True

namespace Lexer

theorem lexical_wordKind {name : String} (hw : IsWord name) : (wordKind name).Lexical := by
  by_cases hn : name ∈ reservedWords
  · simp only [reservedWords, List.mem_cons, List.not_mem_nil, or_false] at hn
    rcases hn with rfl | rfl | rfl | rfl | rfl | rfl | rfl <;> exact trivial
  · rw [wordKind_of_not_mem hn]
    exact ⟨hw, hn⟩

theorem Shape.lexical {kind : TokenKind} {text rest : List Char} (h : Shape kind text rest) :
    kind.Lexical := by
  cases h with
  | mark => trivial
  | symbol => trivial
  | numeral _ _ hv => exact isLiteral_of_numberOf hv
  | word _ hw =>
    split
    · exact hw
    · exact lexical_wordKind hw
  | string hq hc =>
    change NoFinalBackslash (String.ofList _).toList
    rw [String.toList_ofList]
    exact noFinalBackslash_of_closeQuote (by rcases hq with rfl | rfl <;> decide) hc

theorem lexical_of_tokensFrom {position : Nat} {cs : List Char} {tokens : List Token}
    (h : tokensFrom position cs = .ok tokens) : ∀ t ∈ tokens, t.kind.Lexical := by
  fun_induction tokensFrom position cs generalizing tokens with
  | case1 position =>
    obtain rfl := Except.ok.inj h
    simp [TokenKind.Lexical]
  | case2 position c rest hb ih => exact ih h
  | case3 position c rest hb fault hl => exact absurd h (by simp)
  | case4 position c rest hb l hl ih =>
    obtain ⟨ts, ht, rfl⟩ := map_eq_ok_iff.mp h
    exact List.forall_mem_cons.mpr ⟨(shape_of_lexeme hl).lexical, ih ht⟩

end Lexer

end SnapshotRules
