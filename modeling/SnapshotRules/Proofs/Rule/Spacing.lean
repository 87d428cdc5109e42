import Mathlib
import SnapshotRules.Proofs.Rule.Parsing
import SnapshotRules.Proofs.Rule.Placing

/-! # Spacing

The blanks between tokens carry no meaning. A token that is read in one text is read in front of
any blank, and a function name in front of any parenthesis. So a rule may be spaced in another way:
its tokens keep their kinds and texts, and the parser either makes the same expression of them or
finds fault with the same token.
-/

namespace SnapshotRules

/-- Blanks stand anywhere, at least one between two tokens, but none behind a function name. -/
structure Spaced (pieces : List Piece) (last : List Char) : Prop where
  blank : ∀ p ∈ pieces, Blank p.gap
  blank_last : Blank last
  gaps : pieces.IsChain fun p q => q.gap = [] ↔ ∃ name, p.token.kind = .function name

variable {last : List Char} {p : Piece} {pieces : List Piece}

theorem Spaced.tail (h : Spaced (p :: pieces) last) : Spaced pieces last :=
  ⟨(List.forall_mem_cons.mp h.blank).2, h.blank_last, h.gaps.tail⟩

theorem Spaced.blank_head (h : Spaced (p :: pieces) last)
    (hk : ¬ ∃ name, p.token.kind = .function name) :
    ∀ c ∈ (written pieces last).head?, isBlank c = true := by
  cases pieces with
  | nil => exact fun c hc => h.blank_last c (List.mem_of_head? hc)
  | cons q pieces =>
    have hgap : q.gap ≠ [] := mt (List.isChain_cons_cons.mp h.gaps).1.mp hk
    rw [written_cons, List.head?_append_of_ne_nil _ hgap]
    exact fun c hc => h.blank q (by simp) c (List.mem_of_head? hc)

namespace Lexer

variable {text rest rest' : List Char} {kind : TokenKind}

/-! ## Tokens in front of blanks -/

/-- What may follow a token, so that it does not run into it. -/
def Admits : TokenKind → List Char → Prop
  | .function _, rest => rest.head? = some '('
  | _, rest => ∀ c ∈ rest.head?, isBlank c = true

theorem admits_iff_blank (hk : ¬ ∃ name, kind = .function name) :
    Admits kind rest ↔ ∀ c ∈ rest.head?, isBlank c = true := by
  cases kind with
  | function name => exact absurd ⟨name, rfl⟩ hk
  | _ => exact Iff.rfl

theorem boundary_of_blank (h : ∀ c ∈ rest.head?, isBlank c = true) : Boundary rest := by
  intro c hc
  have hb := h c hc
  constructor
  · by_contra hw
    rw [isBlank_eq_false (.inl (by simpa using hw))] at hb
    exact Bool.false_ne_true hb
  · rintro rfl
    exact absurd hb (by decide)

theorem exists_text_eq_cons {quote c : Char} {cs value : List Char}
    (h : closeQuote quote (c :: cs) = some (value, text, rest)) : ∃ tail, text = c :: tail := by
  unfold closeQuote at h
  split at h <;> grind [Option.map_eq_some_iff]

theorem closeQuote_append_right {quote : Char} {cs value : List Char} (hq : quote ≠ '\\')
    (h : closeQuote quote cs = some (value, text, rest)) (rest' : List Char) :
    closeQuote quote (text ++ rest') = some (value, text, rest') := by
  fun_induction closeQuote quote cs generalizing value text rest with
  | case1 => exact absurd h (by simp)
  | case2 cs ih =>
    obtain ⟨⟨value', text', rest''⟩, h', he⟩ := Option.map_eq_some_iff.mp h
    obtain ⟨rfl, rfl, rfl⟩ := by simpa using he
    rw [List.cons_append, List.cons_append, closeQuote, if_pos rfl, ih h']
    rfl
  | case3 c cs hc ih =>
    obtain ⟨⟨value', text', rest''⟩, h', he⟩ := Option.map_eq_some_iff.mp h
    obtain ⟨rfl, rfl, rfl⟩ := by simpa using he
    have hi := ih h'
    obtain ⟨tail, rfl⟩ := exists_text_eq_cons h'
    rw [List.cons_append, List.cons_append] at *
    rw [closeQuote, if_neg hc, hi]
    rfl
  | case4 cs hn =>
    obtain ⟨rfl, rfl, rfl⟩ := by simpa using h
    rw [List.singleton_append, closeQuote_cons hq, if_pos rfl]
  | case5 c cs hn hc ih =>
    obtain ⟨⟨value', text', rest''⟩, h', he⟩ := Option.map_eq_some_iff.mp h
    obtain ⟨rfl, rfl, rfl⟩ := by simpa using he
    rw [List.cons_append, closeQuote_cons (ne_backslash_of_closeQuote h' hn), if_neg hc, ih h']
    rfl

theorem Shape.takes (h : Shape kind text rest) (ha : Admits kind rest') :
    Takes kind text rest' := by
  cases h with
  | mark mark => exact takes_mark mark rest'
  | string hq hc =>
    exact takes_string hq
      (closeQuote_append_right (by rcases hq with rfl | rfl <;> decide) hc rest')
  | symbol _ hop =>
    refine takes_symbol hop fun he => ?_
    exact absurd ((admits_iff_blank (by simp)).mp ha '=' he) (by decide)
  | numeral _ hn hv =>
    exact takes_numeral hn hv (boundary_of_blank ((admits_iff_blank (by simp)).mp ha))
  | word _ hw =>
    by_cases hp : rest.head? = some '('
    · rw [if_pos hp] at ha ⊢
      exact takes_function hw ha
    · rw [if_neg hp] at ha ⊢
      refine takes_wordKind hw (boundary_of_blank ((admits_iff_blank ?_).mp ha))
      exact fun ⟨name, hn⟩ => wordKind_ne_function _ name hn

/-! ## Texts with other blanks -/

theorem Readable.respaced {pieces' : List Piece} {last' : List Char} (h : Readable pieces last)
    (hs : Spaced pieces' last')
    (hc : pieces.map (·.token.content) = pieces'.map (·.token.content)) :
    Readable pieces' last' := by
  induction pieces generalizing pieces' with
  | nil =>
    obtain rfl := List.map_eq_nil_iff.mp hc.symm
    exact hs.blank_last
  | cons p pieces ih =>
    obtain ⟨q, pieces', rfl, hpq, hrest⟩ := List.map_eq_cons_iff.mp hc.symm
    obtain ⟨hkind, htext⟩ : q.token.kind = p.token.kind ∧ q.token.text = p.token.text :=
      Prod.mk.inj hpq
    refine ⟨hs.blank q List.mem_cons_self, ?_, ih h.2.2 hs.tail hrest.symm⟩
    have hshape := h.2.1.shape
    rw [← hkind, ← htext] at hshape
    refine hshape.takes ?_
    by_cases hf : ∃ name, q.token.kind = .function name
    · obtain ⟨name, hf⟩ := hf
      obtain ⟨r, pieces, rfl, -, -, hr⟩ := h.call (hkind ▸ hf)
      obtain ⟨s, pieces', rfl, hrs, -⟩ := List.map_eq_cons_iff.mp hrest
      have hgap : s.gap = [] := (List.isChain_cons_cons.mp hs.gaps).1.mpr ⟨name, hf⟩
      have htext : s.token.text = "(" := (Prod.mk.inj hrs).2.trans hr
      rw [hf, written_cons, hgap, htext]
      rfl
    · exact (admits_iff_blank hf).mpr (hs.blank_head hf)

end Lexer

/-! ## Parsing -/

theorem Token.describe_eq {t t' : Token} (h : t.content = t'.content) :
    t.describe = t'.describe := by
  obtain ⟨hkind, htext⟩ : t.kind = t'.kind ∧ t.text = t'.text := Prod.mk.inj h
  rw [describe, describe, hkind, htext]

namespace Parser

variable {s s' : State}

theorem accepted_of_advance (h : advance s .endOfRule = .ok s') : ∃ e, s' = .accepted e := by
  cases s <;> simp [advance, begin, readKey] at h
  all_goals exact ⟨_, h.symm⟩

theorem accepted_of_feed {kinds : List TokenKind} (h : feed s (kinds ++ [.endOfRule]) = some s') :
    ∃ e, s' = .accepted e := by
  rw [feed_append] at h
  obtain ⟨middle, -, h⟩ := Option.bind_eq_some_iff.mp h
  obtain ⟨next, ha, hn⟩ := exists_advance h
  obtain rfl := Option.some.inj hn
  exact accepted_of_advance ha

/-- Where tokens stand does not matter, except for the place that a fault is reported at. -/
theorem run_of_content {ts ts' : List Token} (h : ts.map Token.content = ts'.map Token.content)
    (hs : ∀ s', feed s (ts.map Token.kind) = some s' → ∃ e, s' = .accepted e) :
    (∃ e, run s ts = .ok e ∧ run s ts' = .ok e) ∨
      ∃ (n : Nat) (t t' : Token) (expected : Expectation), ts[n]? = some t ∧ ts'[n]? = some t' ∧
        run s ts = .error ⟨t.position, expected, t.describe⟩ ∧
        run s ts' = .error ⟨t'.position, expected, t.describe⟩ := by
  induction ts generalizing s ts' with
  | nil =>
    obtain rfl := List.map_eq_nil_iff.mp h.symm
    obtain ⟨e, rfl⟩ := hs s rfl
    exact .inl ⟨e, rfl, rfl⟩
  | cons t ts ih =>
    obtain ⟨t', ts', rfl, ht, hts⟩ := List.map_eq_cons_iff.mp h.symm
    have hkind : t'.kind = t.kind := congrArg Prod.fst ht
    rw [run, run, hkind]
    cases ha : advance s t.kind with
    | ok next =>
      refine (ih hts.symm fun s' hf => hs s' ?_).imp_right ?_
      · rwa [List.map_cons, feed_cons ha]
      · rintro ⟨n, u, u', expected, hu⟩
        exact ⟨n + 1, u, u', expected, hu⟩
    | error expected =>
      exact .inr ⟨0, t, t', expected, rfl, rfl, rfl, by rw [Token.describe_eq ht]⟩

end Parser

theorem parse_of_tokenize {rule : String} {tokens : List Token} (h : tokenize rule = .ok tokens) :
    parse rule = (Parser.run (.operand .left []) tokens).mapError .parse := by
  rw [parse, h]
  rfl

open Lexer in
/-- A rule with other blanks between its tokens has tokens of the same kinds and texts. Either both
rules have the same expression, or both are at fault at the same token for the same reason. -/
theorem tokenize_respaced {rule : String} {tokens : List Token} {pieces : List Piece}
    {last : List Char} {position : Nat} (h : tokenize rule = .ok tokens)
    (ht : tokens = pieces.map Piece.token ++ [⟨.endOfRule, "", position⟩])
    (hs : Spaced pieces last) :
    ∃ tokens', tokenize (String.ofList (written pieces last)) = .ok tokens' ∧
      tokens'.map Token.kind = tokens.map Token.kind ∧
      tokens'.map Token.text = tokens.map Token.text ∧
      ((∃ e, parse rule = .ok e ∧ parse (String.ofList (written pieces last)) = .ok e) ∨
        ∃ (n : Nat) (t t' : Token) (expected : Expectation),
          tokens[n]? = some t ∧ tokens'[n]? = some t' ∧
          parse rule = .error (.parse ⟨t.position, expected, t.describe⟩) ∧
          parse (String.ofList (written pieces last)) =
            .error (.parse ⟨t'.position, expected, t.describe⟩)) := by
  obtain ⟨original, end', hr, -, hplaced⟩ := exists_readable h
  have hcontent : tokens.map Token.content =
      pieces.map (·.token.content) ++ [(.endOfRule, "")] := by
    rw [ht, List.map_append, List.map_map]
    rfl
  have hsame : original.map (·.token.content) = pieces.map (·.token.content) := by
    rw [hplaced, map_content_placed] at hcontent
    exact List.append_cancel_right hcontent
  have htokens : tokenize (String.ofList (written pieces last)) = .ok (placed 0 pieces last) := by
    rw [tokenize, String.toList_ofList]
    exact tokensFrom_written (hr.respaced hs hsame) 0
  have hc : tokens.map Token.content = (placed 0 pieces last).map Token.content :=
    hcontent.trans (map_content_placed 0 pieces last).symm
  have hmap {α : Type} (f : TokenKind × String → α) :
      (placed 0 pieces last).map (f ∘ Token.content) = tokens.map (f ∘ Token.content) := by
    rw [← List.map_map, ← hc, List.map_map]
  refine ⟨_, htokens, hmap Prod.fst, hmap Prod.snd, ?_⟩
  have hend (s : Parser.State) (hf : Parser.feed (.operand .left []) (tokens.map Token.kind) =
      some s) : ∃ e, s = .accepted e := by
    rw [ht, List.map_append] at hf
    exact Parser.accepted_of_feed hf
  rw [parse_of_tokenize h, parse_of_tokenize htokens]
  rcases Parser.run_of_content hc hend with
    ⟨e, hrun, hrun'⟩ | ⟨n, t, t', expected, hn, hn', hrun, hrun'⟩
  · rw [hrun, hrun']
    exact .inl ⟨e, rfl, rfl⟩
  · rw [hrun, hrun']
    exact .inr ⟨n, t, t', expected, hn, hn', rfl, rfl⟩

/-- Without its blanks the rule has a sign right behind an operator. -/
theorem tokenize_respaced_call :
    let pieces : List Piece := [
      ⟨[' '], ⟨.function "f", "f", 0⟩⟩, ⟨[], ⟨.punctuation .openParenthesis, "(", 1⟩⟩,
      ⟨['\n', '\u3000'], ⟨.identifier "a.b", "a.b", 2⟩⟩,
      ⟨[' '], ⟨.punctuation .closeParenthesis, ")", 5⟩⟩, ⟨['\t'], ⟨.operator .less, "<", 6⟩⟩,
      ⟨[' '], ⟨.number (.integer (-1) (by decide) (by decide)), "-1", 7⟩⟩]
    tokenize "f(a.b)<-1" = .ok (pieces.map Piece.token ++ [⟨.endOfRule, "", 9⟩]) ∧
      Spaced pieces [' '] ∧
      ∃ tokens, tokenize " f(\n\u3000a.b )\t< -1 " = .ok tokens ∧
        tokens.map Token.text = ["f", "(", "a.b", ")", "<", "-1", ""] ∧
        ∃ e, parse "f(a.b)<-1" = .ok e ∧ parse " f(\n\u3000a.b )\t< -1 " = .ok e := by
  intro pieces
  have h : tokenize "f(a.b)<-1" = .ok (pieces.map Piece.token ++ [⟨.endOfRule, "", 9⟩]) := by cbv
  have hb : isBlank ' ' = true ∧ isBlank '\t' = true ∧ isBlank '\n' = true ∧
      isBlank '\u3000' = true := by decide
  have hs : Spaced pieces [' '] :=
    ⟨by simp [pieces, Blank, hb], by simp [Blank, hb], by simp [pieces]⟩
  have hwritten : String.ofList (written pieces [' ']) = " f(\n\u3000a.b )\t< -1 " := by cbv
  obtain ⟨tokens, htokens, -, htexts, hsame⟩ := tokenize_respaced h rfl hs
  rw [hwritten] at htokens hsame
  refine ⟨h, hs, tokens, htokens, htexts.trans rfl, hsame.resolve_right ?_⟩
  rintro ⟨-, t, -, expected, -, -, herror, -⟩
  have hparse : parse "f(a.b)<-1" = .ok ⟨.call "f" [.path (some "a") ["b"]], .less,
      .literal (.number (.integer (-1) (by decide) (by decide)))⟩ := by cbv
  rw [hparse] at herror
  exact absurd herror (by simp)

end SnapshotRules
