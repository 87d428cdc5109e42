import Mathlib
import SnapshotRules.Proofs.Rule.Lexing

/-! # Places of tokens

A rule that can be read is made up of its tokens and of blanks around them. Every token stands in
the text at its position, counted in bytes, and the end of rule stands at the end. A rule that
cannot be read is at fault where one of its characters starts.
-/

namespace SnapshotRules

/-- The part stands in the text behind so many bytes. -/
def StandsAt (text part : String) (position : Nat) : Prop :=
  ∃ before after, text = before ++ part ++ after ∧ before.utf8ByteSize = position

def Blank (cs : List Char) : Prop := ∀ c ∈ cs, isBlank c = true

def Token.content (t : Token) : TokenKind × String := (t.kind, t.text)

/-- A token and what stands between it and the token before. -/
structure Piece where
  gap : List Char
  token : Token

def Piece.chars (p : Piece) : List Char := p.gap ++ p.token.text.toList

/-- The text of pieces, with more text behind the last of them. -/
def written (pieces : List Piece) (last : List Char) : List Char :=
  pieces.flatMap Piece.chars ++ last

/-- The tokens of a written text that starts at a position, and the end of rule behind them. -/
def placed (position : Nat) : List Piece → List Char → List Token
  | [], last => [⟨.endOfRule, "", position + byteLength last⟩]
  | p :: pieces, last =>
    { p.token with position := position + byteLength p.gap } ::
      placed (position + byteLength p.chars) pieces last

variable {cs ds last : List Char} {p : Piece} {pieces : List Piece} {position : Nat} {t : Token}

/-! ## Bytes -/

@[simp] theorem byteLength_nil : byteLength [] = 0 := rfl

theorem byteLength_append : byteLength (cs ++ ds) = byteLength cs + byteLength ds := by
  induction cs with
  | nil => simp
  | cons c cs ih =>
    change c.utf8Size + byteLength (cs ++ ds) = c.utf8Size + byteLength cs + byteLength ds
    omega

theorem byteLength_pos (h : cs ≠ []) : 0 < byteLength cs := by
  obtain ⟨c, cs, rfl⟩ := List.exists_cons_of_ne_nil h
  exact Nat.add_pos_left c.utf8Size_pos _

theorem utf8ByteSize_ofList (cs : List Char) : (String.ofList cs).utf8ByteSize = byteLength cs := by
  rw [String.utf8ByteSize_ofList]
  induction cs with
  | nil => rfl
  | cons c cs ih => rw [String.utf8Len_cons, ih, Nat.add_comm]; rfl

theorem utf8ByteSize_eq (s : String) : s.utf8ByteSize = byteLength s.toList := by
  rw [← utf8ByteSize_ofList, String.ofList_toList]

/-! ## Written texts -/

@[simp] theorem written_nil (last : List Char) : written [] last = last := rfl

@[simp] theorem written_cons (p : Piece) (pieces : List Piece) (last : List Char) :
    written (p :: pieces) last = p.gap ++ (p.token.text.toList ++ written pieces last) := by
  simp [written, Piece.chars]

/-- All tokens but the last one are those of the pieces, and that one stands behind the text. -/
theorem exists_placed_eq_append (position : Nat) (pieces : List Piece) (last : List Char) :
    ∃ tokens, placed position pieces last =
        tokens ++ [⟨.endOfRule, "", position + byteLength (written pieces last)⟩] ∧
      tokens.map Token.content = pieces.map (·.token.content) := by
  induction pieces generalizing position with
  | nil => exact ⟨[], rfl, rfl⟩
  | cons p pieces ih =>
    obtain ⟨tokens, h, hk⟩ := ih (position + byteLength p.chars)
    refine ⟨{ p.token with position := position + byteLength p.gap } :: tokens, ?_,
      congrArg (p.token.content :: ·) hk⟩
    rw [placed, h, List.cons_append, written_cons, ← List.append_assoc, byteLength_append,
      Nat.add_assoc]
    rfl

theorem map_content_placed (position : Nat) (pieces : List Piece) (last : List Char) :
    (placed position pieces last).map Token.content =
      pieces.map (·.token.content) ++ [(.endOfRule, "")] := by
  obtain ⟨tokens, h, hc⟩ := exists_placed_eq_append position pieces last
  rw [h, List.map_append, hc]
  rfl

theorem map_kind_placed (position : Nat) (pieces : List Piece) (last : List Char) :
    (placed position pieces last).map Token.kind =
      pieces.map (·.token.kind) ++ [.endOfRule] := by
  have h := congrArg (List.map Prod.fst) (map_content_placed position pieces last)
  rwa [List.map_append, List.map_map, List.map_map] at h

theorem exists_append_of_mem_placed (h : t ∈ placed position pieces last) :
    ∃ before after, written pieces last = before ++ t.text.toList ++ after ∧
      t.position = position + byteLength before := by
  induction pieces generalizing position with
  | nil =>
    obtain rfl := List.mem_singleton.mp h
    exact ⟨last, [], by simp, rfl⟩
  | cons p pieces ih =>
    rcases List.mem_cons.mp h with rfl | h
    · exact ⟨p.gap, written pieces last, by simp, rfl⟩
    · obtain ⟨before, after, hw, hp⟩ := ih h
      refine ⟨p.chars ++ before, after, ?_, ?_⟩
      · rw [written_cons, hw]
        simp [Piece.chars]
      · rw [hp, byteLength_append, Nat.add_assoc]

theorem le_position_of_mem_placed (h : t ∈ placed position pieces last) :
    position ≤ t.position := by
  obtain ⟨before, _, _, hp⟩ := exists_append_of_mem_placed h
  omega

theorem pairwise_placed (h : ∀ p ∈ pieces, p.token.text.toList ≠ []) (position : Nat) :
    (placed position pieces last).Pairwise fun t u =>
      t.position < u.position ∧ t.position + byteLength t.text.toList ≤ u.position := by
  induction pieces generalizing position with
  | nil => exact List.pairwise_singleton _ _
  | cons p pieces ih =>
    obtain ⟨hp, hpieces⟩ := List.forall_mem_cons.mp h
    refine List.pairwise_cons.mpr ⟨fun u hu => ?_, ih hpieces _⟩
    have hle := le_position_of_mem_placed hu
    have hpos := byteLength_pos hp
    rw [Piece.chars, byteLength_append] at hle
    simp only
    omega

namespace Lexer

/-! ## Reading written texts -/

/-- The gaps are blank, and every token is read in front of what follows it. -/
def Readable : List Piece → List Char → Prop
  | [], last => Blank last
  | p :: pieces, last =>
    Blank p.gap ∧ Takes p.token.kind p.token.text.toList (written pieces last) ∧
      Readable pieces last

theorem tokensFrom_of_blank {gap : List Char} (h : Blank gap) (position : Nat) (cs : List Char) :
    tokensFrom position (gap ++ cs) = tokensFrom (position + byteLength gap) cs := by
  induction gap generalizing position with
  | nil => rfl
  | cons c gap ih =>
    obtain ⟨hc, hgap⟩ := List.forall_mem_cons.mp h
    rw [List.cons_append, tokensFrom, if_pos hc, ih hgap, Nat.add_assoc]
    rfl

theorem tokensFrom_written (h : Readable pieces last) (position : Nat) :
    tokensFrom position (written pieces last) = .ok (placed position pieces last) := by
  induction pieces generalizing position with
  | nil =>
    have := tokensFrom_of_blank h position []
    rw [List.append_nil] at this
    rw [written_nil, this, tokensFrom]
    rfl
  | cons p pieces ih =>
    obtain ⟨hgap, htakes, hpieces⟩ := h
    rw [written_cons, tokensFrom_of_blank hgap, htakes.tokensFrom_append, ih hpieces, placed,
      Piece.chars, byteLength_append, Nat.add_assoc, String.ofList_toList]
    rfl

/-- What is read is a written text with blanks around its tokens. -/
theorem exists_readable {tokens : List Token} (h : tokensFrom position cs = .ok tokens) :
    ∃ pieces last, Readable pieces last ∧ cs = written pieces last ∧
      tokens = placed position pieces last := by
  fun_induction tokensFrom position cs generalizing tokens with
  | case1 position => exact ⟨[], [], by simp [Readable, Blank], rfl, (Except.ok.inj h).symm⟩
  | case2 position c rest hb ih =>
    obtain ⟨pieces, last, hr, rfl, rfl⟩ := ih h
    cases pieces with
    | nil =>
      refine ⟨[], c :: last, List.forall_mem_cons.mpr ⟨hb, hr⟩, rfl, ?_⟩
      rw [placed, placed, Nat.add_assoc]
      rfl
    | cons p pieces =>
      obtain ⟨hgap, hr⟩ := hr
      refine ⟨⟨c :: p.gap, p.token⟩ :: pieces, last, ⟨List.forall_mem_cons.mpr ⟨hb, hgap⟩, hr⟩,
        rfl, ?_⟩
      rw [placed, placed, Nat.add_assoc, Nat.add_assoc]
      rfl
  | case3 position c rest hb fault hl => exact absurd h (by simp)
  | case4 position c rest hb l hl ih =>
    obtain ⟨ts, ht, rfl⟩ := map_eq_ok_iff.mp h
    obtain ⟨pieces, last, hr, hrest, rfl⟩ := ih ht
    have htakes := takes_of_lexeme (by simpa using hb) hl
    refine ⟨⟨[], ⟨l.kind, String.ofList l.text, position⟩⟩ :: pieces, last, ⟨?_, ?_, hr⟩, ?_, ?_⟩
    · simp [Blank]
    · rw [String.toList_ofList, ← hrest]
      exact htakes
    · rw [written_cons, String.toList_ofList, ← hrest, (lexeme_append hl).1]
      rfl
    · simp [placed, Piece.chars]

theorem Readable.blank (h : Readable pieces last) : (∀ p ∈ pieces, Blank p.gap) ∧ Blank last := by
  induction pieces with
  | nil => exact ⟨by simp, h⟩
  | cons p pieces ih =>
    obtain ⟨hgap, -, hpieces⟩ := h
    exact ⟨List.forall_mem_cons.mpr ⟨hgap, (ih hpieces).1⟩, (ih hpieces).2⟩

theorem Readable.exists_takes (h : Readable pieces last) :
    ∀ p ∈ pieces, ∃ rest, Takes p.token.kind p.token.text.toList rest := by
  induction pieces with
  | nil => simp
  | cons p pieces ih => exact List.forall_mem_cons.mpr ⟨⟨_, h.2.1⟩, ih h.2.2⟩

theorem Shape.kind_ne_endOfRule {kind : TokenKind} {text rest : List Char}
    (h : Shape kind text rest) : kind ≠ .endOfRule := by
  cases h with
  | word =>
    split
    · simp
    · exact wordKind_ne_endOfRule _
  | _ => simp

theorem Shape.head?_of_function {name : String} {text rest : List Char}
    (h : Shape (.function name) text rest) : rest.head? = some '(' := by
  generalize hk : TokenKind.function name = kind at h
  cases h with
  | word =>
    by_contra hn
    rw [if_neg hn] at hk
    exact wordKind_ne_function _ name hk.symm
  | _ => simp at hk

theorem Takes.of_mark {kind : TokenKind} {text rest : List Char} (h : Takes kind text rest)
    (mark : Punctuation) (hm : (text ++ rest).head? = some mark.char) :
    kind = .punctuation mark ∧ text = [mark.char] := by
  obtain ⟨c, cs, hc, -, hl⟩ := h
  rw [hc] at hm
  obtain rfl : c = mark.char := Option.some.inj hm
  rw [lexeme, Punctuation.ofChar?_char] at hl
  obtain ⟨rfl, rfl, -⟩ := Lexeme.mk.inj (Except.ok.inj hl)
  exact ⟨rfl, rfl⟩

theorem Readable.call {name : String} (h : Readable (p :: pieces) last)
    (hk : p.token.kind = .function name) : ∃ q rest, pieces = q :: rest ∧ q.gap = [] ∧
      q.token.kind = .punctuation .openParenthesis ∧ q.token.text = "(" := by
  obtain ⟨-, htakes, hpieces⟩ := h
  have hhead := (hk ▸ htakes.shape).head?_of_function
  have hblank : isBlank '(' = false := by decide
  cases pieces with
  | nil => exact absurd (hpieces '(' (List.mem_of_head? hhead)) (by simp [hblank])
  | cons q rest =>
    obtain ⟨hgap, hq, -⟩ := hpieces
    rw [written_cons] at hhead
    have hnil : q.gap = [] := by
      by_contra hn
      rw [List.head?_append_of_ne_nil _ hn] at hhead
      exact absurd (hgap '(' (List.mem_of_head? hhead)) (by simp [hblank])
    rw [hnil, List.nil_append] at hhead
    obtain ⟨hkind, htext⟩ := hq.of_mark .openParenthesis hhead
    exact ⟨q, rest, rfl, hnil, hkind, String.toList_injective htext⟩

/-! ## Faults -/

theorem offset_of_numberOf_error {n : Numeral} {fault : Fault} (h : numberOf n = .error fault) :
    fault.offset = 0 := by
  unfold numberOf at h
  split at h <;> split at h <;>
    first | (obtain rfl := Except.error.inj h; rfl) | exact absurd h (by simp)

theorem exists_append_of_lexeme_error {c : Char} {fault : Fault} (h : lexeme c cs = .error fault) :
    ∃ before d after, c :: cs = before ++ d :: after ∧ fault.offset = byteLength before := by
  have hfirst (h0 : fault.offset = 0) :
      ∃ before d after, c :: cs = before ++ d :: after ∧ fault.offset = byteLength before :=
    ⟨[], c, cs, rfl, h0⟩
  unfold lexeme at h
  split at h
  · exact absurd h (by simp)
  · split at h
    · unfold string at h
      split at h
      · exact absurd h (by simp)
      · exact hfirst (Except.error.inj h ▸ rfl)
    · split at h
      · unfold operator at h
        split at h <;> first | exact hfirst (Except.error.inj h ▸ rfl) | exact absurd h (by simp)
      · split at h
        · have hscan := Numeral.scan_append (c :: cs)
          simp only [number] at h
          split at h
          · next hd =>
            obtain ⟨d, hd, -⟩ := (Option.any_eq_true _ _).mp hd
            obtain ⟨after, hafter⟩ := List.head?_eq_some_iff.mp hd
            rw [hafter] at hscan
            exact ⟨_, d, after, hscan.symm, Except.error.inj h ▸ rfl⟩
          · exact hfirst (offset_of_numberOf_error (map_eq_error_iff.mp h))
        · split at h
          · exact absurd h (by simp)
          · exact hfirst (Except.error.inj h ▸ rfl)

theorem exists_append_of_error {e : LexError} (h : tokensFrom position cs = .error e) :
    ∃ before d after, cs = before ++ d :: after ∧ e.position = position + byteLength before := by
  fun_induction tokensFrom position cs with
  | case1 => exact absurd h (by simp)
  | case2 position c rest hb ih =>
    obtain ⟨before, d, after, rfl, hp⟩ := ih h
    exact ⟨c :: before, d, after, rfl, hp.trans (Nat.add_assoc ..)⟩
  | case3 position c rest hb fault hl =>
    obtain ⟨before, d, after, hc, ho⟩ := exists_append_of_lexeme_error hl
    obtain rfl := Except.error.inj h
    exact ⟨before, d, after, hc, by rw [ho]⟩
  | case4 position c rest hb l hl ih =>
    obtain ⟨before, d, after, hrest, hp⟩ := ih (map_eq_error_iff.mp h)
    refine ⟨l.text ++ before, d, after, ?_, ?_⟩
    · rw [← (lexeme_append hl).1, hrest, List.append_assoc]
    · rw [hp, byteLength_append, Nat.add_assoc]

theorem Readable.calls (h : Readable pieces last) {before after : List Token} {name : String}
    (hs : placed position pieces last = before ++ t :: after) (hk : t.kind = .function name) :
    ∃ u rest, after = u :: rest ∧ u.kind = .punctuation .openParenthesis ∧ u.text = "(" ∧
      u.position = t.position + t.text.utf8ByteSize := by
  induction pieces generalizing position before with
  | nil =>
    have ht : t ∈ placed position [] last := hs ▸ List.mem_append_right _ List.mem_cons_self
    rw [List.mem_singleton.mp ht] at hk
    exact absurd hk (by simp)
  | cons p pieces ih =>
    cases before with
    | nil =>
      obtain ⟨rfl, rfl⟩ := List.cons.inj hs
      obtain ⟨q, rest, rfl, hgap, hkind, htext⟩ := h.call hk
      refine ⟨_, _, rfl, hkind, htext, ?_⟩
      simp only [Piece.chars, byteLength_append, hgap, byteLength_nil, utf8ByteSize_eq]
      omega
    | cons b before => exact ih h.2.2 (List.cons.inj hs).2

end Lexer

/-- What can be said of the tokens of a rule. -/
structure Layout (rule : String) (tokens : List Token) : Prop where
  /-- The last token, and no other, is the end of rule. It stands behind the whole text. -/
  ends : ∃ body, tokens = body ++ [⟨.endOfRule, "", rule.utf8ByteSize⟩] ∧
    ∀ t ∈ body, t.kind ≠ .endOfRule
  /-- The text of a token is the part of the rule that starts at its position. -/
  stands : ∀ t ∈ tokens, StandsAt rule t.text t.position
  /-- Every token starts behind the ones before it, and they end before it. -/
  apart : tokens.Pairwise fun t u =>
    t.position < u.position ∧ t.position + t.text.utf8ByteSize ≤ u.position
  /-- The rule is written from the tokens at their positions, with blanks around them. -/
  rebuilt : ∃ pieces last, rule.toList = written pieces last ∧ tokens = placed 0 pieces last ∧
    (∀ p ∈ pieces, Blank p.gap) ∧ Blank last
  /-- A function name is followed by a parenthesis that starts where the name ends. -/
  calls : ∀ before t after name, tokens = before ++ t :: after → t.kind = .function name →
    ∃ u rest, after = u :: rest ∧ u.kind = .punctuation .openParenthesis ∧ u.text = "(" ∧
      u.position = t.position + t.text.utf8ByteSize

open Lexer in
/-- The tokens of a rule lie apart in its text, with nothing but blanks around them. Without tokens
there is a fault at the start of a character. -/
theorem tokenize_layout (rule : String) :
    (∀ tokens, tokenize rule = .ok tokens → Layout rule tokens) ∧
    ∀ e, tokenize rule = .error e →
      (String.Pos.Raw.mk e.position).IsValid rule ∧ e.position < rule.utf8ByteSize := by
  have hrule {cs : List Char} (h : rule.toList = cs) : rule = String.ofList cs := by
    rw [← h, String.ofList_toList]
  constructor
  · intro tokens h
    obtain ⟨pieces, last, hr, hw, rfl⟩ := exists_readable h
    refine ⟨?_, fun t ht => ?_, ?_, ⟨pieces, last, hw, rfl, hr.blank⟩,
      fun before t after name hs hk => hr.calls hs hk⟩
    · obtain ⟨body, hp, hk⟩ := exists_placed_eq_append 0 pieces last
      refine ⟨body, by rw [hp, utf8ByteSize_eq, hw, Nat.zero_add], fun t ht he => ?_⟩
      have hm : t.content ∈ pieces.map (·.token.content) := hk ▸ List.mem_map_of_mem ht
      obtain ⟨p, hp, hpt⟩ := List.mem_map.mp hm
      obtain ⟨rest, ht⟩ := hr.exists_takes p hp
      exact ht.shape.kind_ne_endOfRule ((congrArg Prod.fst hpt).trans he)
    · obtain ⟨before, after, hwt, hp⟩ := exists_append_of_mem_placed ht
      refine ⟨String.ofList before, String.ofList after, ?_, ?_⟩
      · rw [hrule (hw.trans hwt), String.ofList_append, String.ofList_append, String.ofList_toList]
      · rw [utf8ByteSize_ofList, hp, Nat.zero_add]
    · simp only [utf8ByteSize_eq]
      refine pairwise_placed (fun p hp => ?_) 0
      obtain ⟨rest, ht⟩ := hr.exists_takes p hp
      exact ht.text_ne_nil
  · intro e h
    obtain ⟨before, d, after, hc, hp⟩ := exists_append_of_error h
    rw [hrule hc, String.ofList_append, hp, Nat.zero_add]
    constructor
    · refine String.Pos.Raw.isValid_iff_exists_append.mpr
        ⟨String.ofList before, String.ofList (d :: after), rfl, ?_⟩
      exact String.Pos.Raw.ext (utf8ByteSize_ofList before).symm
    · rw [String.utf8ByteSize_append, utf8ByteSize_ofList, utf8ByteSize_ofList]
      exact Nat.lt_add_of_pos_right (byteLength_pos (List.cons_ne_nil d after))

/-- Positions count bytes, of which the letter in quotes takes two. -/
theorem tokenize_layout_of_accent :
    (∃ tokens, tokenize " f('é') " = .ok tokens ∧ Layout " f('é') " tokens ∧
      tokens.map Token.position = [1, 2, 3, 7, 9]) ∧
    ∃ e, tokenize "'é' == 12a" = .error e ∧ e.position = 10 ∧
      (String.Pos.Raw.mk e.position).IsValid "'é' == 12a" ∧
      e.position < "'é' == 12a".utf8ByteSize := by
  have hok : tokenize " f('é') " = .ok [
      ⟨.function "f", "f", 1⟩, ⟨.punctuation .openParenthesis, "(", 2⟩,
      ⟨.string "é", "'é'", 3⟩, ⟨.punctuation .closeParenthesis, ")", 7⟩,
      ⟨.endOfRule, "", 9⟩] := by cbv
  have herror : tokenize "'é' == 12a" = .error ⟨10, .malformedNumber⟩ := by cbv
  exact ⟨⟨_, hok, (tokenize_layout _).1 _ hok, rfl⟩,
    ⟨_, herror, rfl, (tokenize_layout _).2 _ herror⟩⟩

end SnapshotRules
