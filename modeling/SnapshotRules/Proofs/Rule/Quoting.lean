import Mathlib
import SnapshotRules.Proofs.Rule.Placing

/-! # Quoted strings

A string in single quotes is read back as the string, unless it ends in a backslash. In that case
the backslash is read with the closing quote and the string goes on. No rule can write such a
string.
-/

namespace SnapshotRules

namespace Lexer

variable {cs : List Char}

/-- A backslash at the end takes the closing quote with it. -/
theorem closeQuote_quotedInside_eq_none (h : ¬ NoFinalBackslash cs) :
    closeQuote '\'' (quotedInside cs ++ ['\'']) = none := by
  induction cs with
  | nil => exact absurd h (by simp [NoFinalBackslash])
  | cons c cs ih =>
    rw [quotedInside_cons]
    by_cases hq : c = '\''
    · subst hq
      rw [if_pos rfl, List.append_assoc, List.cons_append, List.singleton_append, closeQuote,
        if_pos rfl, ih (mt (·.cons (by decide)) h), Option.map_none]
    · rw [if_neg hq, List.append_assoc, List.singleton_append]
      by_cases hb : c = '\\'
      · subst hb
        cases cs with
        | nil => rfl
        | cons e es =>
          have hcs : e :: es ≠ [] := List.cons_ne_nil e es
          have hi := ih (mt (·.cons_of_ne_nil hcs) h)
          obtain ⟨d, tail, hd, hne⟩ := exists_quotedInside_eq_cons hcs
          rw [hd, List.cons_append] at hi ⊢
          rw [closeQuote, if_neg hne, hi, Option.map_none]
      · rw [closeQuote_cons hb, if_neg hq, ih (mt (·.cons hb) h), Option.map_none]

theorem tokenize_singleQuoted {s : String} (h : NoFinalBackslash s.toList) :
    tokenize (String.ofList (singleQuoted s)) = .ok [
      ⟨.string s, String.ofList (singleQuoted s), 0⟩,
      ⟨.endOfRule, "", (String.ofList (singleQuoted s)).utf8ByteSize⟩] := by
  have ht := (takes_singleQuoted h []).tokensFrom_append 0
  rw [List.append_nil, tokensFrom, Nat.zero_add, ← utf8ByteSize_ofList] at ht
  rw [tokenize, String.toList_ofList, ht]
  rfl

theorem tokenize_singleQuoted_eq_error {s : String} (h : ¬ NoFinalBackslash s.toList) :
    tokenize (String.ofList (singleQuoted s)) = .error ⟨0, .unterminatedString⟩ := by
  have hl : lexeme '\'' (quotedInside s.toList ++ ['\'']) = .error ⟨0, .unterminatedString⟩ := by
    change string '\'' _ = _
    rw [string, closeQuote_quotedInside_eq_none h]
  rw [tokenize, String.toList_ofList, singleQuoted_eq, tokensFrom, if_neg (by decide)]
  split
  · next heq => obtain rfl := Except.error.inj (hl.symm.trans heq); rfl
  · next heq => rw [hl] at heq; exact absurd heq (by simp)

theorem exists_string_iff {s : String} :
    (∃ rule tokens, tokenize rule = .ok tokens ∧ .string s ∈ tokens.map Token.kind) ↔
      NoFinalBackslash s.toList := by
  constructor
  · rintro ⟨rule, tokens, h, hs⟩
    obtain ⟨t, ht, hk⟩ := List.mem_map.mp hs
    have hl := lexical_of_tokensFrom h t ht
    rwa [hk] at hl
  · intro h
    exact ⟨_, _, tokenize_singleQuoted h, List.mem_cons_self⟩

end Lexer

open Lexer in
/-- The text of a string is read as that string alone, and a string that ends in a backslash is
neither read from its text nor written by any other rule. -/
theorem tokenize_text_of_string (s : String) :
    tokenize (Value.string s).text =
        (if s.toList.getLast? = some '\\' then .error ⟨0, .unterminatedString⟩
        else .ok [⟨.string s, (Value.string s).text, 0⟩,
          ⟨.endOfRule, "", (Value.string s).text.utf8ByteSize⟩]) ∧
      ((∃ rule tokens, tokenize rule = .ok tokens ∧ .string s ∈ tokens.map Token.kind) ↔
        s.toList.getLast? ≠ some '\\') := by
  refine ⟨?_, exists_string_iff⟩
  split
  · next h => exact tokenize_singleQuoted_eq_error (not_not_intro h)
  · next h => exact tokenize_singleQuoted h

/-- The quote that should close the text of this string is read as part of it. -/
theorem not_tokenize_text_of_final_backslash :
    (Value.string "a\\").text = "'a\\'" ∧
      tokenize "'a\\'" = .error ⟨0, .unterminatedString⟩ ∧
      ¬ ∀ s : String, ∃ tokens, tokenize (Value.string s).text = .ok tokens ∧
        tokens.map Token.kind = [.string s, .endOfRule] := by
  have htext : (Value.string "a\\").text = "'a\\'" := by cbv
  have herror : tokenize "'a\\'" = .error ⟨0, .unterminatedString⟩ := by cbv
  refine ⟨htext, herror, fun h => ?_⟩
  obtain ⟨tokens, ht, -⟩ := h "a\\"
  rw [htext, herror] at ht
  exact absurd ht (by simp)

end SnapshotRules
