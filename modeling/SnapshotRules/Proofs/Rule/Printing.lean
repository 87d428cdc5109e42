import Mathlib
import SnapshotRules.Proofs.Rule.Lexing
import SnapshotRules.Proofs.Rule.Parsing

/-! # Printing and parsing

The well-formed expressions are those that parsing yields. Each of them is printed as a rule
that parses to it again.
-/

namespace SnapshotRules

open Grammar Lexer

/-! ## Well-formed expressions -/

/-- A value that a rule can write. -/
def Value.IsLiteral : Value → Prop
  | .null | .bool _ => True
  | .number n => n.IsLiteral
  | .string s => NoFinalBackslash s.toList
  | .sequence _ | .mapping _ => False

/-- Letters, digits and underscores, at least one of them. -/
def IsPathPart (part : String) : Prop :=
  part ≠ "" ∧ ∀ c ∈ part.toList, c.isAlphanum = true ∨ c = '_'

/-- A path whose dotted text is a word and no reserved one. -/
structure IsPath (reference : String) (segments : List String) : Prop where
  part : ∀ part ∈ reference :: segments, IsPathPart part
  start : ∀ c ∈ reference.toList.head?, c.isDigit = false
  not_mem_reservedWords : dotted (reference :: segments) ∉ reservedWords

namespace Operand

mutual

def WellFormed : Operand → Prop
  | .literal v => v.IsLiteral
  | .path reference segments => ∃ name, reference = some name ∧ IsPath name segments
  | .call name arguments => IsWord name ∧ WellFormedItems arguments
  | .list items => WellFormedItems items
  | .map entries => WellFormedEntries entries
termination_by structural o => o

def WellFormedItems : List Operand → Prop
  | [] => True
  | x :: xs => x.WellFormed ∧ WellFormedItems xs
termination_by structural xs => xs

def WellFormedEntries : List (String × Operand) → Prop
  | [] => True
  | (k, x) :: xs => NoFinalBackslash k.toList ∧ x.WellFormed ∧ WellFormedEntries xs
termination_by structural xs => xs

end

end Operand

def Expression.WellFormed (e : Expression) : Prop := e.left.WellFormed ∧ e.right.WellFormed

/-! ## Paths -/

theorem mem_joined {part : List Char} {parts : List (List Char)} {c : Char} (hp : part ∈ parts)
    (hc : c ∈ part) : c ∈ joined ['.'] parts := by
  induction parts with
  | nil => exact absurd hp (by simp)
  | cons p ps ih =>
    cases ps with
    | nil =>
      obtain rfl := List.mem_singleton.mp hp
      exact hc
    | cons q ps =>
      rw [joined_cons_cons, List.mem_append]
      rcases List.mem_cons.mp hp with rfl | hp
      · exact .inl (List.mem_append_left _ hc)
      · exact .inr (ih hp)

theorem eq_point_or_mem_of_mem_joined {parts : List (List Char)} {c : Char}
    (h : c ∈ joined ['.'] parts) : c = '.' ∨ ∃ part ∈ parts, c ∈ part := by
  induction parts with
  | nil => exact absurd h (by simp)
  | cons p ps ih =>
    cases ps with
    | nil => exact .inr ⟨p, List.mem_cons_self, h⟩
    | cons q ps =>
      rw [joined_cons_cons, List.mem_append, List.mem_append, List.mem_singleton] at h
      rcases h with (h | h) | h
      · exact .inr ⟨p, List.mem_cons_self, h⟩
      · exact .inl h
      · exact (ih h).imp_right fun ⟨part, hp, hc⟩ => ⟨part, List.mem_cons_of_mem p hp, hc⟩

theorem isWordChar_iff_alphanum {c : Char} (hc : c ≠ '.') :
    isWordChar c = true ↔ c.isAlphanum = true ∨ c = '_' := by
  simp [isWordChar, hc]

theorem IsPathPart.isPart {part : String} (h : IsPathPart part) : IsPart part :=
  ⟨h.1, fun hc => absurd (h.2 '.' hc) (by decide)⟩

variable {reference : String} {segments : List String}

theorem IsPath.isWord (h : IsPath reference segments) :
    IsWord (dotted (reference :: segments)) := by
  have hw : ∀ c ∈ (dotted (reference :: segments)).toList, isWordChar c = true := by
    intro c hc
    rw [dotted, String.toList_ofList] at hc
    rcases eq_point_or_mem_of_mem_joined hc with rfl | ⟨part, hp, hc⟩
    · decide
    · obtain ⟨q, hq, rfl⟩ := List.mem_map.mp hp
      have hq := (h.part q hq).2 c hc
      exact (isWordChar_iff_alphanum (by rintro rfl; exact absurd hq (by decide))).mpr hq
  obtain ⟨c, cs, hc⟩ := List.exists_cons_of_ne_nil
    fun he => (h.part reference List.mem_cons_self).1 (String.toList_eq_nil_iff.mp he)
  have hd : (dotted (reference :: segments)).toList =
      c :: joined ['.'] (cs :: segments.map String.toList) := by
    rw [dotted, String.toList_ofList, List.map_cons, hc, Parser.joined_cons_head]
  have hs := (h.part reference List.mem_cons_self).2 c (by rw [hc]; exact List.mem_cons_self)
  rw [hd] at hw
  refine ⟨c, _, hd, isWordStart_iff.mpr ⟨hw c List.mem_cons_self, ?_, ?_⟩,
    fun d hd => hw d (List.mem_cons_of_mem c hd)⟩
  · exact h.start c (by rw [hc]; rfl)
  · rintro rfl
    exact absurd hs (by decide)

theorem isPath_of_isWord (hp : ∀ part ∈ reference :: segments, IsPart part)
    (hw : IsWord (dotted (reference :: segments)))
    (hr : dotted (reference :: segments) ∉ reservedWords) : IsPath reference segments := by
  obtain ⟨c, cs, hc, hs, hcs⟩ := hw
  have hall : ∀ d ∈ (dotted (reference :: segments)).toList, isWordChar d = true := by
    rw [hc]
    exact List.forall_mem_cons.mpr ⟨isWordChar_of_isWordStart hs, hcs⟩
  rw [dotted, String.toList_ofList] at hall hc
  refine ⟨fun part hm => ⟨(hp part hm).1, fun d hd => ?_⟩, fun d hd => ?_, hr⟩
  · have hne : d ≠ '.' := by
      rintro rfl
      exact (hp part hm).2 hd
    exact (isWordChar_iff_alphanum hne).mp (hall d (mem_joined (List.mem_map_of_mem hm) hd))
  · obtain ⟨ds, hds⟩ := List.head?_eq_some_iff.mp hd
    rw [List.map_cons, hds, Parser.joined_cons_head] at hc
    rw [(List.cons.inj hc).1]
    exact (isWordStart_iff.mp hs).2.1

/-! ## Printing -/

namespace Lexer

/-- The text is read as the tokens `kinds` before every text that does not run into it. -/
def Spells (cs : List Char) (kinds : List TokenKind) : Prop :=
  ∀ ⦃rest kinds'⦄, Boundary rest → Lexes rest kinds' → Lexes (cs ++ rest) (kinds ++ kinds')

theorem boundary_mark {mark : Punctuation} (h : mark ≠ .openParenthesis) (cs : List Char) :
    Boundary (mark.char :: cs) := by
  refine boundary_cons ?_ ?_ cs
  · cases mark <;> rfl
  · cases mark <;> first | exact absurd rfl h | decide

theorem joined_comma_cons (part : List Char) (parts : List (List Char)) :
    joined [',', ' '] (part :: parts) = part ++ parts.flatMap (',' :: ' ' :: ·) := by
  induction parts generalizing part with
  | nil => simp
  | cons p ps ih => rw [joined_cons_cons, ih]; simp

section Enclosed

variable {close : Punctuation} {rest : List Char} {kinds : List TokenKind}
  {parts : List (List Char)} {spelled : List (List TokenKind)}

theorem boundary_following (hc : IsClosing close) (parts : List (List Char)) :
    Boundary (parts.flatMap (',' :: ' ' :: ·) ++ close.char :: rest) := by
  cases parts with
  | nil => exact boundary_mark (by rcases hc with rfl | rfl | rfl <;> decide) rest
  | cons p ps => exact boundary_cons (by decide) (by decide) _

theorem lexes_following (hc : IsClosing close) (hl : Lexes rest kinds)
    (h : List.Forall₂ Spells parts spelled) :
    Lexes (parts.flatMap (',' :: ' ' :: ·) ++ close.char :: rest)
      (following close spelled ++ kinds) := by
  induction h with
  | nil => exact lexes_mark close hl
  | @cons p s ps ss hp _ ih =>
    rw [following_cons, List.cons_append, List.append_assoc, List.flatMap_cons, List.append_assoc]
    exact lexes_mark .comma (.blank (by decide) (hp (boundary_following hc ps) ih))

theorem lexes_enclosed (hc : IsClosing close) (hl : Lexes rest kinds)
    (h : List.Forall₂ Spells parts spelled) :
    Lexes (joined [',', ' '] parts ++ close.char :: rest) (enclosed close spelled ++ kinds) := by
  cases h with
  | nil => exact lexes_mark close hl
  | @cons p s ps ss hp hps =>
    rw [joined_comma_cons, enclosed, List.append_assoc, List.append_assoc]
    exact hp (boundary_following hc ps) (lexes_following hc hl hps)

end Enclosed

theorem spells_word {name : String} (hw : IsWord name) :
    Spells name.toList [wordKind name] := fun _ _ hr hl => lexes_word hw hr hl

end Lexer

namespace Operand

theorem exists_spelled_literal {v : Value} (hv : v.IsLiteral) :
    ∃ t : Tree, t.operand = .literal v ∧ Spells v.textChars t.kinds := by
  cases v with
  | null => exact ⟨.null, rfl, spells_word (isWord_of_all rfl rfl rfl)⟩
  | bool b =>
    refine ⟨.boolean b, rfl, ?_⟩
    cases b with
    | false => exact spells_word (isWord_of_all rfl rfl rfl)
    | true => exact spells_word (isWord_of_all rfl rfl rfl)
  | number n => exact ⟨.number n, rfl, fun _ _ hr hl => lexes_number hv hr hl⟩
  | string s => exact ⟨.string s, rfl, fun _ _ _ hl => lexes_singleQuoted hv hl⟩
  | sequence items => exact hv.elim
  | mapping entries => exact hv.elim

mutual

/-- A well-formed operand is printed as the tokens of a derivation of it. -/
theorem exists_spelled : ∀ o : Operand, o.WellFormed →
    ∃ t : Tree, t.operand = o ∧ Spells o.chars t.kinds
  | .literal v, h => exists_spelled_literal h
  | .path reference segments, h => by
    obtain ⟨name, rfl, hp⟩ := h
    refine ⟨.path name segments fun part hm => (hp.part part hm).isPart, rfl, ?_⟩
    have hs := spells_word hp.isWord
    rw [wordKind_of_not_mem hp.not_mem_reservedWords, dotted, String.toList_ofList] at hs
    exact hs
  | .call name arguments, h => by
    obtain ⟨ts, rfl, hs⟩ := exists_spelled_items arguments h.2
    refine ⟨.call name ts, by simp [Tree.operand], fun rest kinds hr hl => ?_⟩
    have he := lexes_enclosed isClosing_closeParenthesis hl hs
    have hf := lexes_function h.1 (lexes_mark .openParenthesis he)
    simpa [chars, Tree.kinds, Punctuation.char] using hf
  | .list items, h => by
    obtain ⟨ts, rfl, hs⟩ := exists_spelled_items items h
    refine ⟨.list ts, by simp [Tree.operand], fun rest kinds hr hl => ?_⟩
    have he := lexes_enclosed isClosing_closeBracket hl hs
    simpa [chars, Tree.kinds, Punctuation.char] using lexes_mark .openBracket he
  | .map entries, h => by
    obtain ⟨ts, rfl, hs⟩ := exists_spelled_entries entries h
    refine ⟨.map ts, by simp [Tree.operand], fun rest kinds hr hl => ?_⟩
    have he := lexes_enclosed isClosing_closeBrace hl hs
    simpa [chars, Tree.kinds, Punctuation.char] using lexes_mark .openBrace he
termination_by structural o => o

theorem exists_spelled_items : ∀ os : List Operand, WellFormedItems os →
    ∃ ts : List Tree, ts.map Tree.operand = os ∧
      List.Forall₂ Spells (charsOfItems os) (ts.map Tree.kinds)
  | [], _ => ⟨[], rfl, .nil⟩
  | o :: os, h => by
    obtain ⟨t, rfl, ht⟩ := exists_spelled o h.1
    obtain ⟨ts, rfl, hts⟩ := exists_spelled_items os h.2
    exact ⟨t :: ts, rfl, .cons ht hts⟩
termination_by structural os => os

theorem exists_spelled_entries : ∀ es : List (String × Operand), WellFormedEntries es →
    ∃ ts : List (Key × Tree), ts.map Tree.operandOfEntry = es ∧
      List.Forall₂ Spells (charsOfEntries es) (ts.map Tree.kindsOfEntry)
  | [], _ => ⟨[], rfl, .nil⟩
  | (k, o) :: es, h => by
    obtain ⟨t, rfl, ht⟩ := exists_spelled o h.2.1
    obtain ⟨ts, rfl, hts⟩ := exists_spelled_entries es h.2.2
    refine ⟨(.string k, t) :: ts, rfl, .cons (fun rest kinds hr hl => ?_) hts⟩
    have hv := lexes_mark .colon (.blank (by decide : isBlank ' ' = true) (ht hr hl))
    simpa [Tree.kindsOfEntry, Key.kind, Punctuation.char] using lexes_singleQuoted h.1 hv
termination_by structural es => es

end

end Operand

theorem Expression.WellFormed.exists_derivation {e : Expression} (h : e.WellFormed) :
    ∃ d : Derivation, d.expression = e ∧ Lexes e.chars d.kinds := by
  obtain ⟨left, op, right⟩ := e
  obtain ⟨l, hl, hls⟩ := left.exists_spelled h.1
  obtain ⟨r, hr, hrs⟩ := right.exists_spelled h.2
  subst hl hr
  refine ⟨.comparison l op r, rfl, ?_⟩
  have hright := hrs boundary_nil lexes_nil
  rw [List.append_nil] at hright
  have hblank : isBlank ' ' = true := by decide
  have hop := Lexes.blank hblank (lexes_operator op (.blank hblank hright))
  rw [Expression.chars, List.append_assoc]
  exact hls (boundary_cons (by decide) (by decide) _) hop

/-! ## Parsed expressions -/

namespace Grammar

theorem mem_following {close : Punctuation} {parts : List (List TokenKind)}
    {part : List TokenKind} {kind : TokenKind} (hp : part ∈ parts) (hk : kind ∈ part) :
    kind ∈ following close parts := by
  rw [following, List.mem_append, List.mem_flatMap]
  exact .inl ⟨part, hp, List.mem_cons_of_mem _ hk⟩

theorem mem_enclosed {close : Punctuation} {parts : List (List TokenKind)}
    {part : List TokenKind} {kind : TokenKind} (hp : part ∈ parts) (hk : kind ∈ part) :
    kind ∈ enclosed close parts := by
  cases parts with
  | nil => exact absurd hp (by simp)
  | cons p ps =>
    rw [enclosed, List.mem_append]
    rcases List.mem_cons.mp hp with rfl | hp
    · exact .inl hk
    · exact .inr (mem_following hp hk)

theorem Key.noFinalBackslash {k : Key} (h : k.kind.Lexical) : NoFinalBackslash k.text.toList := by
  cases k with
  | string text => exact h
  | word name =>
    obtain ⟨⟨c, cs, hc, hs, hcs⟩, -⟩ := h
    intro hl
    have hm : '\\' ∈ c :: cs := hc ▸ List.mem_of_getLast? hl
    have hw : isWordChar '\\' = true := by
      rcases List.mem_cons.mp hm with rfl | hm
      · exact isWordChar_of_isWordStart hs
      · exact hcs _ hm
    exact absurd hw (by decide)

namespace Tree

mutual

theorem wellFormed : ∀ t : Tree, (∀ kind ∈ t.kinds, kind.Lexical) → t.operand.WellFormed
  | .string _, h => h _ List.mem_cons_self
  | .number _, h => h _ List.mem_cons_self
  | .boolean _, _ => trivial
  | .null, _ => trivial
  | .path reference segments proper, h => by
    obtain ⟨hw, hr⟩ := h _ List.mem_cons_self
    exact ⟨reference, rfl, isPath_of_isWord proper hw hr⟩
  | .call name arguments, h =>
    ⟨h _ List.mem_cons_self, wellFormed_items arguments fun _ ht _ hk =>
      h _ (List.mem_cons_of_mem _ (List.mem_cons_of_mem _ (mem_enclosed ht hk)))⟩
  | .list items, h =>
    wellFormed_items items fun _ ht _ hk => h _ (List.mem_cons_of_mem _ (mem_enclosed ht hk))
  | .map entries, h =>
    wellFormed_entries entries fun _ ht _ hk => h _ (List.mem_cons_of_mem _ (mem_enclosed ht hk))
termination_by structural t => t

theorem wellFormed_items : ∀ ts : List Tree,
    (∀ part ∈ kindsOfItems ts, ∀ kind ∈ part, kind.Lexical) →
      Operand.WellFormedItems (operandOfItems ts)
  | [], _ => trivial
  | t :: ts, h => ⟨wellFormed t (h _ List.mem_cons_self),
      wellFormed_items ts fun part hp => h part (List.mem_cons_of_mem _ hp)⟩
termination_by structural ts => ts

theorem wellFormed_entries : ∀ ts : List (Key × Tree),
    (∀ part ∈ kindsOfEntries ts, ∀ kind ∈ part, kind.Lexical) →
      Operand.WellFormedEntries (operandOfEntries ts)
  | [], _ => trivial
  | (k, t) :: ts, h => by
    have hk := h _ List.mem_cons_self
    refine ⟨Key.noFinalBackslash (hk _ List.mem_cons_self), wellFormed t fun kind hm => ?_,
      wellFormed_entries ts fun part hp => h part (List.mem_cons_of_mem _ hp)⟩
    exact hk kind (List.mem_cons_of_mem _ (List.mem_cons_of_mem _ hm))
termination_by structural ts => ts

end

end Tree

theorem Derivation.wellFormed {d : Derivation} (h : ∀ kind ∈ d.kinds, kind.Lexical) :
    d.expression.WellFormed := by
  cases d with
  | lone operand =>
    exact ⟨operand.wellFormed fun kind hk => h kind (List.mem_append_left _ hk), trivial⟩
  | comparison left operator right =>
    refine ⟨left.wellFormed fun kind hk => h kind (List.mem_append_left _ hk),
      right.wellFormed fun kind hk => h kind (List.mem_append_right _ ?_)⟩
    exact List.mem_cons_of_mem _ (List.mem_append_left _ hk)

end Grammar

theorem wellFormed_of_parse {rule : String} {e : Expression} (h : parse rule = .ok e) :
    e.WellFormed := by
  cases ht : tokenize rule with
  | error error => rw [parse, ht] at h; exact absurd h (by simp)
  | ok tokens =>
    obtain ⟨d, hd, rfl⟩ := Parser.exists_derivation ((Parser.parse_eq_ok_iff ht).mp h)
    refine d.wellFormed fun kind hk => ?_
    rw [hd] at hk
    obtain ⟨t, hm, rfl⟩ := List.mem_map.mp hk
    exact lexical_of_tokensFrom ht t hm

theorem parse_text {e : Expression} (h : e.WellFormed) : parse e.text = .ok e := by
  obtain ⟨d, rfl, hd⟩ := h.exists_derivation
  obtain ⟨tokens, ht, hk⟩ := tokenize_of_lexes hd
  rw [Expression.text, Parser.parse_eq_ok_iff ht, hk]
  exact Parser.feed_derivation d

/-- Printing and parsing are inverse on the well-formed expressions, and these are all that
parsing yields. -/
theorem parse_text_eq_ok_iff : (∀ e : Expression, parse e.text = .ok e ↔ e.WellFormed) ∧
    ∀ (rule : String) (e : Expression), parse rule = .ok e → parse e.text = .ok e :=
  ⟨fun _ => ⟨wellFormed_of_parse, parse_text⟩, fun _ _ h => parse_text (wellFormed_of_parse h)⟩

end SnapshotRules
