import Mathlib
import SnapshotRules.Proofs.Rule.DottedName

/-! # The grammar of rules

A derivation is a tree whose leaves, from left to right, are the tokens of a rule. It names
the expression that the rule stands for. Every sequence of tokens has at most one derivation.
-/

namespace SnapshotRules

namespace Grammar

inductive Key where
  | string (text : String)
  | word (name : String)

/-- The derivation of an operand. -/
inductive Tree where
  | string (value : String)
  | number (value : Number)
  | boolean (value : Bool)
  | null
  | path (reference : String) (segments : List String)
      (proper : ∀ part ∈ reference :: segments, IsPart part)
  | call (name : String) (arguments : List Tree)
  | list (items : List Tree)
  | map (entries : List (Key × Tree))

/-- The derivation of a rule. -/
inductive Derivation where
  | lone (operand : Tree)
  | comparison (left : Tree) (operator : Operator) (right : Tree)

def Key.kind : Key → TokenKind
  | .string text => .string text
  | .word name => .identifier name

def Key.text : Key → String
  | .string text => text
  | .word name => name

/-- Further parts, each after a comma, up to and including the closing mark. -/
def following (close : Punctuation) (parts : List (List TokenKind)) : List TokenKind :=
  parts.flatMap (.punctuation .comma :: ·) ++ [.punctuation close]

/-- Parts with commas between them, up to and including the closing mark. -/
def enclosed (close : Punctuation) : List (List TokenKind) → List TokenKind
  | [] => [.punctuation close]
  | part :: parts => part ++ following close parts

@[simp] theorem following_nil (close : Punctuation) :
    following close [] = [.punctuation close] := rfl

@[simp] theorem following_cons (close : Punctuation) (part : List TokenKind)
    (parts : List (List TokenKind)) :
    following close (part :: parts) = .punctuation .comma :: (part ++ following close parts) := by
  simp [following]

namespace Tree

mutual

def kinds : Tree → List TokenKind
  | .string value => [.string value]
  | .number value => [.number value]
  | .boolean value => [.boolean value]
  | .null => [.null]
  | .path reference segments _ => [.identifier (dotted (reference :: segments))]
  | .call name arguments =>
    .function name :: .punctuation .openParenthesis ::
      enclosed .closeParenthesis (kindsOfItems arguments)
  | .list items => .punctuation .openBracket :: enclosed .closeBracket (kindsOfItems items)
  | .map entries => .punctuation .openBrace :: enclosed .closeBrace (kindsOfEntries entries)
termination_by structural t => t

def kindsOfItems : List Tree → List (List TokenKind)
  | [] => []
  | t :: ts => t.kinds :: kindsOfItems ts
termination_by structural ts => ts

def kindsOfEntries : List (Key × Tree) → List (List TokenKind)
  | [] => []
  | (k, t) :: ts => (k.kind :: .punctuation .colon :: t.kinds) :: kindsOfEntries ts
termination_by structural ts => ts

end

mutual

def operand : Tree → Operand
  | .string value => .literal (.string value)
  | .number value => .literal (.number value)
  | .boolean value => .literal (.bool value)
  | .null => .literal .null
  | .path reference segments _ => .path (some reference) segments
  | .call name arguments => .call name (operandOfItems arguments)
  | .list items => .list (operandOfItems items)
  | .map entries => .map (operandOfEntries entries)
termination_by structural t => t

def operandOfItems : List Tree → List Operand
  | [] => []
  | t :: ts => t.operand :: operandOfItems ts
termination_by structural ts => ts

def operandOfEntries : List (Key × Tree) → List (String × Operand)
  | [] => []
  | (k, t) :: ts => (k.text, t.operand) :: operandOfEntries ts
termination_by structural ts => ts

end

end Tree

namespace Derivation

/-- The tokens of a rule, its end included. -/
def kinds : Derivation → List TokenKind
  | .lone operand => operand.kinds ++ [.endOfRule]
  | .comparison left operator right =>
    left.kinds ++ .operator operator :: (right.kinds ++ [.endOfRule])

/-- The expression that a rule stands for. An operand on its own must be true. -/
def expression : Derivation → Expression
  | .lone operand => ⟨operand.operand, .equal, .literal (.bool true)⟩
  | .comparison left operator right => ⟨left.operand, operator, right.operand⟩

end Derivation

/-! ## Unambiguity -/

theorem Key.kind_inj {k k' : Key} (h : k.kind = k'.kind) : k = k' := by
  cases k <;> cases k' <;> simp_all [Key.kind]

/-- The marks that end a call, a list or a map. -/
def IsClosing (mark : Punctuation) : Prop :=
  mark = .closeParenthesis ∨ mark = .closeBracket ∨ mark = .closeBrace

theorem isClosing_closeParenthesis : IsClosing .closeParenthesis := .inl rfl

theorem isClosing_closeBracket : IsClosing .closeBracket := .inr (.inl rfl)

theorem isClosing_closeBrace : IsClosing .closeBrace := .inr (.inr rfl)

theorem not_isClosing_comma : ¬ IsClosing .comma := by simp [IsClosing]

section Delimited

variable {α : Type} {f : α → List TokenKind} {close : Punctuation}

/-- The tokens of `a` end at the same place whatever comes after them. -/
def Delimited (f : α → List TokenKind) (a : α) : Prop :=
  ∀ ⦃b rest rest'⦄, f a ++ rest = f b ++ rest' → a = b ∧ rest = rest'

theorem following_inj (hc : IsClosing close) : ∀ {xs ys : List α} {rest rest' : List TokenKind},
    (∀ x ∈ xs, Delimited f x) →
    following close (xs.map f) ++ rest = following close (ys.map f) ++ rest' →
      xs = ys ∧ rest = rest'
  | [], [], _, _, _, h => by simpa using h
  | [], y :: ys, _, _, _, h => by
    simp only [List.map_nil, List.map_cons, following_nil, following_cons, List.cons_append,
      List.cons.injEq, TokenKind.punctuation.injEq] at h
    exact absurd (h.1 ▸ hc) not_isClosing_comma
  | x :: xs, [], _, _, _, h => by
    simp only [List.map_nil, List.map_cons, following_nil, following_cons, List.cons_append,
      List.cons.injEq, TokenKind.punctuation.injEq] at h
    exact absurd (h.1 ▸ hc) not_isClosing_comma
  | x :: xs, y :: ys, _, _, hx, h => by
    simp only [List.map_cons, following_cons, List.cons_append, List.append_assoc,
      List.cons.injEq, true_and] at h
    obtain ⟨rfl, he⟩ := hx x List.mem_cons_self h
    obtain ⟨rfl, rfl⟩ := following_inj hc (fun z hz => hx z (List.mem_cons_of_mem x hz)) he
    exact ⟨rfl, rfl⟩

theorem enclosed_inj (hc : IsClosing close)
    (hs : ∀ x rest rest', f x ++ rest ≠ .punctuation close :: rest') {xs ys : List α}
    {rest rest' : List TokenKind} (hx : ∀ x ∈ xs, Delimited f x)
    (h : enclosed close (xs.map f) ++ rest = enclosed close (ys.map f) ++ rest') :
    xs = ys ∧ rest = rest' := by
  cases xs with
  | nil =>
    cases ys with
    | nil => simpa [enclosed] using h
    | cons y ys =>
      simp only [List.map_nil, List.map_cons, enclosed, List.append_assoc] at h
      exact absurd h.symm (hs y _ _)
  | cons x xs =>
    cases ys with
    | nil =>
      simp only [List.map_nil, List.map_cons, enclosed, List.append_assoc] at h
      exact absurd h (hs x _ _)
    | cons y ys =>
      simp only [List.map_cons, enclosed, List.append_assoc] at h
      obtain ⟨rfl, he⟩ := hx x List.mem_cons_self h
      obtain ⟨rfl, rfl⟩ := following_inj hc (fun z hz => hx z (List.mem_cons_of_mem x hz)) he
      exact ⟨rfl, rfl⟩

end Delimited

namespace Tree

def kindsOfEntry (entry : Key × Tree) : List TokenKind :=
  entry.1.kind :: .punctuation .colon :: entry.2.kinds

@[simp] theorem kindsOfItems_eq_map (ts : List Tree) : kindsOfItems ts = ts.map kinds := by
  induction ts with
  | nil => rfl
  | cons t ts ih => rw [kindsOfItems, ih, List.map_cons]

@[simp] theorem kindsOfEntries_eq_map (ts : List (Key × Tree)) :
    kindsOfEntries ts = ts.map kindsOfEntry := by
  induction ts with
  | nil => rfl
  | cons t ts ih => rw [kindsOfEntries, ih, List.map_cons, kindsOfEntry]

def operandOfEntry (entry : Key × Tree) : String × Operand := (entry.1.text, entry.2.operand)

@[simp] theorem operandOfItems_eq_map (ts : List Tree) :
    operandOfItems ts = ts.map operand := by
  induction ts with
  | nil => rfl
  | cons t ts ih => rw [operandOfItems, ih, List.map_cons]

@[simp] theorem operandOfEntries_eq_map (ts : List (Key × Tree)) :
    operandOfEntries ts = ts.map operandOfEntry := by
  induction ts with
  | nil => rfl
  | cons t ts ih => rw [operandOfEntries, ih, List.map_cons, operandOfEntry]

theorem exists_kinds (t : Tree) : ∃ kind rest, t.kinds = kind :: rest := by
  cases t <;> exact ⟨_, _, rfl⟩

theorem kinds_append_ne {close : Punctuation} (hc : IsClosing close) (t : Tree)
    (rest rest' : List TokenKind) : t.kinds ++ rest ≠ .punctuation close :: rest' := by
  rcases hc with rfl | rfl | rfl <;> cases t <;> simp [kinds]

theorem kindsOfEntry_append_ne (close : Punctuation) (entry : Key × Tree)
    (rest rest' : List TokenKind) : kindsOfEntry entry ++ rest ≠ .punctuation close :: rest' := by
  obtain ⟨k, t⟩ := entry
  cases k <;> simp [kindsOfEntry, Key.kind]

mutual

theorem delimited : ∀ t : Tree, Delimited kinds t
  | .string _, t', _, _, h => by cases t' <;> simp_all [kinds]
  | .number _, t', _, _, h => by cases t' <;> simp_all [kinds]
  | .boolean _, t', _, _, h => by cases t' <;> simp_all [kinds]
  | .null, t', _, _, h => by cases t' <;> simp_all [kinds]
  | .path r s hp, t', _, _, h => by
    cases t' <;> simp only [kinds, List.cons_append, List.cons.injEq, List.nil_append,
      TokenKind.identifier.injEq, reduceCtorEq, false_and] at h
    case path r' s' hp' =>
      obtain ⟨rfl, rfl⟩ := List.cons.inj
        (dotted_inj (List.cons_ne_nil _ _) (List.cons_ne_nil _ _) hp hp' h.1)
      exact ⟨rfl, h.2⟩
  | .call name xs, t', _, _, h => by
    cases t' <;> simp only [kinds, List.cons_append, List.cons.injEq, List.nil_append,
      TokenKind.function.injEq, reduceCtorEq, false_and, kindsOfItems_eq_map] at h
    case call name' ys =>
      obtain ⟨rfl, -, h⟩ := h
      obtain ⟨rfl, rfl⟩ := enclosed_inj (.inl rfl) (kinds_append_ne (.inl rfl))
        (delimited_items xs) h
      exact ⟨rfl, rfl⟩
  | .list xs, t', _, _, h => by
    cases t' <;> simp only [kinds, List.cons_append, List.cons.injEq, List.nil_append,
      TokenKind.punctuation.injEq, reduceCtorEq, false_and, kindsOfItems_eq_map] at h
    case list ys =>
      obtain ⟨rfl, rfl⟩ := enclosed_inj (.inr (.inl rfl)) (kinds_append_ne (.inr (.inl rfl)))
        (delimited_items xs) h.2
      exact ⟨rfl, rfl⟩
  | .map xs, t', _, _, h => by
    cases t' <;> simp only [kinds, List.cons_append, List.cons.injEq, List.nil_append,
      TokenKind.punctuation.injEq, reduceCtorEq, false_and, kindsOfEntries_eq_map] at h
    case map ys =>
      obtain ⟨rfl, rfl⟩ := enclosed_inj (.inr (.inr rfl)) (kindsOfEntry_append_ne _)
        (delimited_entries xs) h.2
      exact ⟨rfl, rfl⟩

theorem delimited_items : ∀ (ts : List Tree), ∀ t ∈ ts, Delimited kinds t
  | [] => fun _ ht => absurd ht List.not_mem_nil
  | t :: ts => List.forall_mem_cons.mpr ⟨delimited t, delimited_items ts⟩

theorem delimited_entries : ∀ (ts : List (Key × Tree)), ∀ e ∈ ts, Delimited kindsOfEntry e
  | [] => fun _ ht => absurd ht List.not_mem_nil
  | (k, t) :: ts => by
    refine List.forall_mem_cons.mpr ⟨?_, delimited_entries ts⟩
    rintro ⟨k', t'⟩ rest rest' h
    simp only [kindsOfEntry, List.cons_append, List.cons.injEq, true_and] at h
    obtain ⟨rfl, rfl⟩ := delimited t h.2
    rw [Key.kind_inj h.1]
    exact ⟨rfl, rfl⟩

end

end Tree

/-- A sequence of tokens is derived in one way only. -/
theorem Derivation.kinds_inj : ∀ {d d' : Derivation}, d.kinds = d'.kinds → d = d'
  | .lone t, .lone t', h => by
    obtain ⟨rfl, -⟩ := t.delimited h
    rfl
  | .lone t, .comparison l op r, h => by
    have := (t.delimited h).2
    simp at this
  | .comparison l op r, .lone t', h => by
    have := (l.delimited h).2
    simp at this
  | .comparison l op r, .comparison l' op' r', h => by
    obtain ⟨rfl, he⟩ := l.delimited h
    simp only [List.cons.injEq, TokenKind.operator.injEq] at he
    obtain ⟨rfl, he⟩ := he
    obtain ⟨rfl, -⟩ := r.delimited he
    rfl

end Grammar

end SnapshotRules
