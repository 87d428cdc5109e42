import Mathlib
import SnapshotRules.Proofs.Rule.Spacing

/-! # Rules that are a number

The numerals that the scanner takes whole are the words of a regular expression. A rule has a
number as its only token just when it is such a word with blanks around it, and the word denotes
the number.
-/

namespace SnapshotRules

namespace Pattern

open RegularExpression

def oneOf (cs : List Char) : RegularExpression Char := (cs.map char).sum

def optional (P : RegularExpression Char) : RegularExpression Char := 1 + P

def digit : RegularExpression Char := oneOf ['0', '1', '2', '3', '4', '5', '6', '7', '8', '9']

def digits : RegularExpression Char := digit * digit.star

/-- The expression `(\.[0-9]+)?`. -/
def fraction : RegularExpression Char := optional (char '.' * digits)

/-- The expression `([eE][+-]?[0-9]+)?`. -/
def exponent : RegularExpression Char :=
  optional (oneOf ['e', 'E'] * (optional (oneOf ['+', '-']) * digits))

/-- The expression `-?[0-9]+(\.[0-9]+)?([eE][+-]?[0-9]+)?`. -/
def numeral : RegularExpression Char := optional (char '-') * (digits * (fraction * exponent))

variable {P : RegularExpression Char} {cs ds : List Char}

theorem mem_char {c : Char} : cs ∈ (char c).matches' ↔ cs = [c] := by
  rw [matches'_char]
  exact Set.mem_singleton_iff

theorem mem_oneOf : ds ∈ (oneOf cs).matches' ↔ ∃ c ∈ cs, ds = [c] := by
  induction cs with
  | nil => simp [oneOf, Language.notMem_zero]
  | cons c cs ih =>
    rw [oneOf, List.map_cons, List.sum_cons, matches'_add, Language.mem_add, mem_char,
      List.exists_mem_cons_iff, ← ih, oneOf]

theorem mem_optional : cs ∈ (optional P).matches' ↔ cs = [] ∨ cs ∈ P.matches' := by
  rw [optional, matches'_add, matches'_epsilon, Language.mem_add, Language.mem_one]

theorem mem_digit : cs ∈ digit.matches' ↔ ∃ c : Char, c.isDigit = true ∧ cs = [c] := by
  rw [digit, mem_oneOf]
  constructor
  · rintro ⟨c, hc, rfl⟩
    exact ⟨c, List.all_eq_true.mp rfl c hc, rfl⟩
  · rintro ⟨c, hc, rfl⟩
    refine ⟨c, ?_, rfl⟩
    obtain ⟨hl, hu⟩ := isDigit_iff.mp hc
    rw [← Char.ofNat_toNat c]
    interval_cases c.toNat <;> decide

theorem mem_star_digit : cs ∈ digit.star.matches' ↔ AllDigits cs := by
  rw [matches'_star, Language.mem_kstar]
  constructor
  · rintro ⟨words, rfl, hw⟩ c hc
    obtain ⟨word, hm, hc⟩ := List.mem_flatten.mp hc
    obtain ⟨d, hd, rfl⟩ := mem_digit.mp (hw word hm)
    rwa [List.mem_singleton.mp hc]
  · intro h
    refine ⟨cs.map fun c => [c], by rw [← List.flatMap_def, List.flatMap_singleton'], ?_⟩
    intro word hw
    obtain ⟨c, hc, rfl⟩ := List.mem_map.mp hw
    exact mem_digit.mpr ⟨c, h c hc, rfl⟩

theorem mem_digits : cs ∈ digits.matches' ↔ cs ≠ [] ∧ AllDigits cs := by
  rw [digits, matches'_mul, Language.mem_mul]
  constructor
  · rintro ⟨_, hc, ds, hds, rfl⟩
    obtain ⟨d, hd, rfl⟩ := mem_digit.mp hc
    exact ⟨List.cons_ne_nil d ds, List.forall_mem_cons.mpr ⟨hd, mem_star_digit.mp hds⟩⟩
  · rintro ⟨hn, h⟩
    obtain ⟨d, ds, rfl⟩ := List.exists_cons_of_ne_nil hn
    obtain ⟨hd, hds⟩ := List.forall_mem_cons.mp h
    exact ⟨[d], mem_digit.mpr ⟨d, hd, rfl⟩, ds, mem_star_digit.mpr hds, rfl⟩

theorem mem_sign : cs ∈ (optional (char '-')).matches' ↔
    ∃ negative, Numeral.signChars negative = cs := by
  rw [mem_optional, mem_char]
  constructor
  · rintro (rfl | rfl)
    · exact ⟨false, rfl⟩
    · exact ⟨true, rfl⟩
  · rintro ⟨negative, rfl⟩
    cases negative with
    | false => exact .inl rfl
    | true => exact .inr rfl

theorem mem_fraction : cs ∈ fraction.matches' ↔
    ∃ ds, AllDigits ds ∧ Numeral.fractionChars ds = cs := by
  rw [fraction, mem_optional, matches'_mul, Language.mem_mul]
  constructor
  · rintro (rfl | ⟨_, hp, ds, hds, rfl⟩)
    · exact ⟨[], by simp [AllDigits], rfl⟩
    · obtain rfl := mem_char.mp hp
      obtain ⟨hn, hd⟩ := mem_digits.mp hds
      obtain ⟨d, ds, rfl⟩ := List.exists_cons_of_ne_nil hn
      exact ⟨d :: ds, hd, rfl⟩
  · rintro ⟨ds, hd, rfl⟩
    cases ds with
    | nil => exact .inl rfl
    | cons d ds =>
      exact .inr ⟨['.'], mem_char.mpr rfl, d :: ds,
        mem_digits.mpr ⟨List.cons_ne_nil d ds, hd⟩, rfl⟩

theorem mem_exponent : cs ∈ exponent.matches' ↔
    ∃ e : Option Exponent, (∀ x ∈ e, x.Proper) ∧ Numeral.exponentChars e = cs := by
  rw [exponent, mem_optional, matches'_mul, matches'_mul, Language.mem_mul]
  simp only [Language.mem_mul, mem_oneOf, mem_optional, mem_digits]
  constructor
  · rintro (rfl | ⟨_, ⟨letter, hl, rfl⟩, _, ⟨sign, hs, ds, ⟨hn, hd⟩, rfl⟩, rfl⟩)
    · exact ⟨none, by simp, rfl⟩
    · refine ⟨some ⟨letter, sign, ds⟩, ?_, rfl⟩
      rintro _ ⟨⟩
      exact ⟨by simpa using hl, by simpa using hs, hn, hd⟩
  · rintro ⟨e, he, rfl⟩
    cases e with
    | none => exact .inl rfl
    | some e =>
      obtain ⟨hl, hs, hn, hd⟩ := he e rfl
      exact .inr ⟨[e.letter], ⟨e.letter, by simpa using hl, rfl⟩, e.sign ++ e.digits,
        ⟨e.sign, by simpa using hs, e.digits, ⟨hn, hd⟩, rfl⟩, rfl⟩

/-- The words of the expression are the numerals that the scanner takes whole. -/
theorem mem_numeral : cs ∈ numeral.matches' ↔ ∃ n : Numeral, n.Proper ∧ n.chars = cs := by
  simp only [numeral, matches'_mul, Language.mem_mul, mem_sign, mem_digits, mem_fraction,
    mem_exponent]
  constructor
  · rintro ⟨_, ⟨negative, rfl⟩, _, ⟨whole, ⟨hn, hw⟩, _, ⟨_, ⟨fraction, hf, rfl⟩, _,
      ⟨exponent, he, rfl⟩, rfl⟩, rfl⟩, rfl⟩
    exact ⟨⟨negative, whole, fraction, exponent⟩, ⟨hn, hw, hf, he⟩, by simp [Numeral.chars]⟩
  · rintro ⟨n, ⟨hn, hw, hf, he⟩, rfl⟩
    exact ⟨_, ⟨n.negative, rfl⟩, _, ⟨n.whole, ⟨hn, hw⟩, _, ⟨_, ⟨n.fraction, hf, rfl⟩, _,
      ⟨n.exponent, he, rfl⟩, rfl⟩, rfl⟩, by simp [Numeral.chars]⟩

end Pattern

/-- The number that a text stands for: an integer of 64 bits with its sign, or a finite double if
there is a fraction or an exponent. -/
inductive Denotes : List Char → Number → Prop
  | integer {n : Numeral} (proper : n.Proper) (plain : n.isPlain = true)
      (lower : -2 ^ 63 ≤ n.integer) (upper : n.integer < 2 ^ 63) :
      Denotes n.chars (.integer n.integer lower (by omega))
  | double {n : Numeral} {d : Double} (proper : n.Proper) (plain : n.isPlain = false)
      (nearest : n.double? = some d) : Denotes n.chars (.double d)

variable {cs : List Char} {value : Number}

theorem denotes_iff : Denotes cs value ↔
    ∃ n : Numeral, n.Proper ∧ n.chars = cs ∧ Lexer.numberOf n = .ok value := by
  constructor
  · rintro (⟨hn, hp, lower, upper⟩ | ⟨hn, hp, hd⟩)
    · exact ⟨_, hn, rfl, by rw [Lexer.numberOf, if_pos hp, dif_pos ⟨lower, upper⟩]⟩
    · exact ⟨_, hn, rfl, by rw [Lexer.numberOf, if_neg (by simp [hp]), hd]⟩
  · rintro ⟨n, hn, rfl, hv⟩
    unfold Lexer.numberOf at hv
    split at hv
    · next hp =>
      split at hv
      · next hi =>
        obtain rfl := Except.ok.inj hv
        exact .integer hn hp hi.1 hi.2
      · exact absurd hv (by simp)
    · next hp =>
      split at hv
      · next d hd =>
        obtain rfl := Except.ok.inj hv
        exact .double hn (by simpa using hp) hd
      · exact absurd hv (by simp)

/-! ## Blanks around a text -/

theorem exists_eq_append_trimmed (cs : List Char) :
    ∃ before after, Blank before ∧ Blank after ∧ cs = before ++ (trimmed cs ++ after) := by
  refine ⟨cs.takeWhile isBlank, (cs.dropWhile isBlank).rtakeWhile isBlank,
    fun c => List.mem_takeWhile_imp, fun c => List.mem_rtakeWhile_imp, ?_⟩
  have h : trimmed cs = (cs.dropWhile isBlank).rdropWhile isBlank := rfl
  rw [h, List.rdropWhile_append_rtakeWhile, List.takeWhile_append_dropWhile]

theorem trimmed_of_blank {before after : List Char} (hb : Blank before) (ha : Blank after)
    (hn : cs ≠ []) (hc : ∀ c ∈ cs, isBlank c = false) :
    trimmed (before ++ (cs ++ after)) = cs := by
  have hhead : ∀ c ∈ (cs ++ after).head?, isBlank c = false := by
    rw [List.head?_append_of_ne_nil _ hn]
    exact fun c h => hc c (List.mem_of_head? h)
  have hlast : ∀ c ∈ cs.reverse.head?, isBlank c = false := fun c h =>
    hc c (List.mem_reverse.mp (List.mem_of_head? h))
  have hafter : ∀ c ∈ after.reverse, isBlank c = true := fun c h => ha c (List.mem_reverse.mp h)
  rw [trimmed, dropWhile_append_of_head hb hhead, List.reverse_append,
    dropWhile_append_of_head hafter hlast, List.reverse_reverse]

theorem AllDigits.not_blank (h : AllDigits cs) : ∀ c ∈ cs, isBlank c = false :=
  fun c hc => isBlank_eq_false (.inl (isWordChar_of_isDigit (h c hc)))

theorem Exponent.Proper.not_blank {e : Exponent} (h : e.Proper) :
    ∀ c ∈ e.letter :: (e.sign ++ e.digits), isBlank c = false := by
  rw [List.forall_mem_cons, List.forall_mem_append]
  refine ⟨?_, ?_, h.digits.not_blank⟩
  · rcases h.letter with hl | hl <;> rw [hl] <;> decide
  · rcases h.sign with hs | hs | hs <;> rw [hs]
    · exact fun c hc => absurd hc List.not_mem_nil
    · exact List.forall_mem_singleton.mpr (by decide)
    · exact List.forall_mem_singleton.mpr (by decide)

theorem Numeral.Proper.not_blank {n : Numeral} (h : n.Proper) :
    ∀ c ∈ n.chars, isBlank c = false := by
  rw [Numeral.chars, List.forall_mem_append, List.forall_mem_append, List.forall_mem_append]
  refine ⟨⟨⟨?_, h.whole.not_blank⟩, ?_⟩, ?_⟩
  · cases n.negative with
    | false => exact fun c hc => absurd hc List.not_mem_nil
    | true => exact List.forall_mem_singleton.mpr (by decide)
  · cases hf : n.fraction with
    | nil => exact fun c hc => absurd hc List.not_mem_nil
    | cons d ds => exact List.forall_mem_cons.mpr ⟨by decide, (hf ▸ h.fraction).not_blank⟩
  · cases he : n.exponent with
    | none => exact fun c hc => absurd hc List.not_mem_nil
    | some e => exact (h.exponent e he).not_blank

theorem Numeral.Proper.chars_ne_nil {n : Numeral} (h : n.Proper) : n.chars ≠ [] := by
  obtain ⟨c, cs, hc, -⟩ := Numeral.exists_chars_eq_cons h
  exact hc ▸ List.cons_ne_nil c cs

/-! ## Numbers alone -/

namespace Lexer

theorem tokenize_numeral {n : Numeral} {rule : String} {before after : List Char}
    (hn : n.Proper) (hv : numberOf n = .ok value) (hb : Blank before) (ha : Blank after)
    (hr : rule.toList = before ++ (n.chars ++ after)) :
    ∃ tokens, tokenize rule = .ok tokens ∧
      tokens.map Token.kind = [.number value, .endOfRule] := by
  have hafter : ∀ c ∈ after.head?, isBlank c = true := fun c hc => ha c (List.mem_of_head? hc)
  have ht := takes_numeral hn hv (boundary_of_blank hafter)
  let piece : Piece := ⟨before, ⟨.number value, String.ofList n.chars, 0⟩⟩
  have hread : Readable [piece] after := ⟨hb, by rwa [String.toList_ofList], ha⟩
  have hrule : rule.toList = written [piece] after := by
    rw [hr, written_cons, written_nil, String.toList_ofList]
  exact ⟨placed 0 [piece] after, by rw [tokenize, hrule, tokensFrom_written hread], rfl⟩

theorem Shape.exists_numeral {text rest : List Char} (h : Shape (.number value) text rest) :
    ∃ n : Numeral, n.Proper ∧ numberOf n = .ok value ∧ text = n.chars := by
  generalize hk : TokenKind.number value = kind at h
  cases h with
  | numeral _ hn hv =>
    obtain rfl := TokenKind.number.inj hk
    exact ⟨_, hn, hv, rfl⟩
  | word =>
    unfold wordKind at hk
    split_ifs at hk
  | _ => exact absurd hk (by simp)

theorem exists_numeral_of_tokenize {rule : String} {tokens : List Token}
    (h : tokenize rule = .ok tokens)
    (hk : tokens.map Token.kind = [.number value, .endOfRule]) :
    ∃ (n : Numeral) (before after : List Char), n.Proper ∧ numberOf n = .ok value ∧
      Blank before ∧ Blank after ∧ rule.toList = before ++ (n.chars ++ after) := by
  obtain ⟨pieces, last, hr, hw, rfl⟩ := exists_readable h
  rw [map_kind_placed] at hk
  have hkinds : pieces.map (·.token.kind) = [.number value] := List.append_cancel_right hk
  obtain ⟨p, rfl, hkind⟩ := List.map_eq_singleton_iff.mp hkinds
  obtain ⟨hb, ht, ha⟩ := hr
  have hs := ht.shape
  rw [hkind] at hs
  obtain ⟨n, hn, hv, htext⟩ := hs.exists_numeral
  exact ⟨n, p.gap, last, hn, hv, hb, ha, by rw [hw, written_cons, written_nil, htext]⟩

end Lexer

/-- A rule has a number as its only token just when it is a numeral with blanks around it that
denotes the number. -/
theorem tokenize_number_iff (rule : String) (value : Number) :
    (∃ tokens, tokenize rule = .ok tokens ∧
        tokens.map Token.kind = [.number value, .endOfRule]) ↔
      trimmed rule.toList ∈ Pattern.numeral.matches' ∧ Denotes (trimmed rule.toList) value := by
  constructor
  · rintro ⟨tokens, h, hk⟩
    obtain ⟨n, before, after, hn, hv, hb, ha, hr⟩ := Lexer.exists_numeral_of_tokenize h hk
    rw [hr, trimmed_of_blank hb ha hn.chars_ne_nil hn.not_blank]
    exact ⟨Pattern.mem_numeral.mpr ⟨n, hn, rfl⟩, denotes_iff.mpr ⟨n, hn, rfl, hv⟩⟩
  · rintro ⟨-, hd⟩
    obtain ⟨n, hn, hc, hv⟩ := denotes_iff.mp hd
    obtain ⟨before, after, hb, ha, hr⟩ := exists_eq_append_trimmed rule.toList
    rw [← hc] at hr
    exact Lexer.tokenize_numeral hn hv hb ha hr

example : tokenize "1.2.3" = .error ⟨3, .malformedNumber⟩ := by cbv

end SnapshotRules
