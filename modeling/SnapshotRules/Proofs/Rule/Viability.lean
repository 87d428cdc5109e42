import Mathlib
import SnapshotRules.Proofs.Rule.Spacing

/-! # Viable prefixes

From every state of the parser a rule can be finished, so what has been read without a fault is
the beginning of a rule. Thus the parser never reads beyond the first token that no rule goes on
with, and it is that token which it reports.
-/

namespace SnapshotRules

open Grammar

/-- Some rule begins with these tokens. -/
def Viable (kinds : List TokenKind) : Prop := ∃ d : Derivation, kinds <+: d.kinds

namespace Parser

variable {s s' : State}

/-! ## Rules can be finished -/

/-- Some tokens lead from the state to an expression. -/
def Finishable (s : State) : Prop := ∃ kinds e, feed s kinds = some (.accepted e)

theorem Finishable.of_advance (kind : TokenKind) (ha : advance s kind = .ok s')
    (h : Finishable s') : Finishable s := by
  obtain ⟨kinds, e, he⟩ := h
  exact ⟨kind :: kinds, e, by rw [feed_cons ha, he]⟩

theorem finishable_finish (e : Expression) : Finishable (.finish e) := ⟨[.endOfRule], e, rfl⟩

theorem finishable_operator (left : Operand) : Finishable (.operator left) :=
  ⟨[.endOfRule], _, rfl⟩

theorem finishable_complete (side : Side) (opened : List Frame) (o : Operand) :
    Finishable (complete side opened o) := by
  induction opened generalizing o with
  | nil =>
    cases side with
    | left => exact finishable_operator o
    | right left operator => exact finishable_finish ⟨left, operator, o⟩
  | cons frame opened ih => exact .of_advance _ (advance_close side (frame.add o) opened) (ih _)

theorem finishable_operand (side : Side) (opened : List Frame) :
    Finishable (.operand side opened) :=
  .of_advance .null rfl (finishable_complete side opened _)

theorem finishable_firstItem (side : Side) (frame : Frame) (opened : List Frame) :
    Finishable (.firstItem side frame opened) :=
  .of_advance (.punctuation frame.close) (if_pos rfl) (finishable_complete side opened _)

theorem finishable_colon (side : Side) (done : List (String × Operand)) (key : String)
    (opened : List Frame) : Finishable (.colon side done key opened) :=
  .of_advance (.punctuation .colon) rfl (finishable_operand side _)

theorem finishable (s : State) : Finishable s := by
  cases s with
  | operand side opened => exact finishable_operand side opened
  | arguments side name opened =>
    exact .of_advance (.punctuation .openParenthesis) rfl (finishable_firstItem side _ opened)
  | firstItem side frame opened => exact finishable_firstItem side frame opened
  | firstKey side opened =>
    exact .of_advance (.punctuation .closeBrace) rfl (finishable_complete side opened _)
  | key side done opened =>
    exact .of_advance (.string "") rfl (finishable_colon side done "" opened)
  | colon side done key opened => exact finishable_colon side done key opened
  | separator side frame opened =>
    exact .of_advance _ (advance_close side frame opened) (finishable_complete side opened _)
  | operator left => exact finishable_operator left
  | finish e => exact finishable_finish e
  | accepted e => exact ⟨[], e, rfl⟩

/-! ## The token at fault -/

/-- The prefixes of rules are what the parser reads without a fault. -/
theorem viable_iff_exists_feed {kinds : List TokenKind} :
    Viable kinds ↔ ∃ s, feed (.operand .left []) kinds = some s := by
  constructor
  · rintro ⟨d, rest, hd⟩
    have h := feed_derivation d
    rw [← hd, feed_append] at h
    obtain ⟨s, hs, -⟩ := Option.bind_eq_some_iff.mp h
    exact ⟨s, hs⟩
  · rintro ⟨s, hs⟩
    obtain ⟨rest, e, he⟩ := finishable s
    have h : feed (.operand .left []) (kinds ++ rest) = some (.accepted e) := by
      rw [feed_append, hs, Option.bind_some, he]
    obtain ⟨d, hd, -⟩ := exists_derivation h
    exact ⟨d, rest, hd.symm⟩

theorem exists_of_run_eq_error {tokens : List Token} {error : ParseError}
    (h : run s tokens = .error error)
    (hs : ∀ s', feed s (tokens.map Token.kind) = some s' → ∃ e, s' = .accepted e) :
    ∃ before t after s' expected, tokens = before ++ t :: after ∧
      feed s (before.map Token.kind) = some s' ∧ advance s' t.kind = .error expected ∧
      error = ⟨t.position, expected, t.describe⟩ := by
  induction tokens generalizing s with
  | nil =>
    obtain ⟨e, rfl⟩ := hs s rfl
    exact absurd h (by simp [run])
  | cons t tokens ih =>
    rw [run] at h
    cases ha : advance s t.kind with
    | ok next =>
      rw [ha] at h
      obtain ⟨before, u, after, s', expected, rfl, hb, hu, he⟩ :=
        ih h fun s' hf => hs s' (by rwa [List.map_cons, feed_cons ha])
      exact ⟨t :: before, u, after, s', expected, rfl, by rwa [List.map_cons, feed_cons ha], hu, he⟩
    | error expected =>
      rw [ha] at h
      exact ⟨[], t, tokens, s, expected, rfl, rfl, ha, (Except.error.inj h).symm⟩

/-- The tokens of a text end a rule, so nothing is missing behind them. -/
theorem accepted_of_tokenize {rule : String} {tokens : List Token}
    (h : tokenize rule = .ok tokens) (hf : feed s (tokens.map Token.kind) = some s') :
    ∃ e, s' = .accepted e := by
  obtain ⟨pieces, last, -, -, rfl⟩ := Lexer.exists_readable h
  rw [map_kind_placed] at hf
  exact accepted_of_feed hf

theorem exists_run_eq_error {rule : String} {tokens : List Token} {error : SyntaxError}
    (h : tokenize rule = .ok tokens) (he : parse rule = .error error) :
    ∃ e, run (.operand .left []) tokens = .error e ∧ error = .parse e := by
  rw [parse_of_tokenize h] at he
  cases hr : run (.operand .left []) tokens with
  | ok e => rw [hr] at he; exact absurd he (by simp [Except.mapError])
  | error e => rw [hr] at he; exact ⟨e, rfl, (Except.error.inj he).symm⟩

end Parser

/-- The parser reports the first token at fault: some rule begins with the tokens before it, but
none begins with these and the token itself. -/
theorem viable_before_parse_error {rule : String} {tokens : List Token} {error : SyntaxError}
    (h : tokenize rule = .ok tokens) (he : parse rule = .error error) :
    ∃ before t after expected, tokens = before ++ t :: after ∧
      error = .parse ⟨t.position, expected, t.describe⟩ ∧
      Viable (before.map Token.kind) ∧ ¬ Viable ((before ++ [t]).map Token.kind) := by
  obtain ⟨error, hrun, rfl⟩ := Parser.exists_run_eq_error h he
  obtain ⟨before, t, after, s, expected, rfl, hb, ha, rfl⟩ :=
    Parser.exists_of_run_eq_error hrun fun _ => Parser.accepted_of_tokenize h
  refine ⟨before, t, after, expected, rfl, rfl, Parser.viable_iff_exists_feed.mpr ⟨s, hb⟩,
    fun hv => ?_⟩
  obtain ⟨s', hs'⟩ := Parser.viable_iff_exists_feed.mp hv
  rw [List.map_append, Parser.feed_append, hb, Option.bind_some, List.map_singleton,
    Parser.feed_cons_error ha] at hs'
  exact absurd hs' (by simp)

/-- A name with an empty part may be a key, but not an operand. -/
theorem viable_before_parse_error_in_map :
    ∃ tokens, tokenize "\x7ba..b: c..d, x]" = .ok tokens ∧
      parse "\x7ba..b: c..d, x]" = .error (.parse ⟨7, .pathSegment, "'c..d'"⟩) ∧
      ∃ before t after expected, tokens = before ++ t :: after ∧
        SyntaxError.parse ⟨7, .pathSegment, "'c..d'"⟩ =
          .parse ⟨t.position, expected, t.describe⟩ ∧
        Viable (before.map Token.kind) ∧ ¬ Viable ((before ++ [t]).map Token.kind) := by
  have h : tokenize "\x7ba..b: c..d, x]" = .ok [
      ⟨.punctuation .openBrace, "\x7b", 0⟩, ⟨.identifier "a..b", "a..b", 1⟩,
      ⟨.punctuation .colon, ":", 5⟩, ⟨.identifier "c..d", "c..d", 7⟩,
      ⟨.punctuation .comma, ",", 11⟩, ⟨.identifier "x", "x", 13⟩,
      ⟨.punctuation .closeBracket, "]", 14⟩, ⟨.endOfRule, "", 15⟩] := by cbv
  have he : parse "\x7ba..b: c..d, x]" = .error (.parse ⟨7, .pathSegment, "'c..d'"⟩) := by cbv
  exact ⟨_, h, he, viable_before_parse_error h he⟩

end SnapshotRules
