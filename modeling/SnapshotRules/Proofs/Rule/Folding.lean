import Mathlib
import SnapshotRules.Proofs.Rule.Dependence

/-! # Folding operands

Operands with the same result may stand for one another in any surroundings, and a literal has its
value as its result. So an operand may be replaced by its value, and one without paths by the value
that it has wherever it is resolved.
-/

namespace SnapshotRules

/-- An operand with a hole in the place of one of its parts. -/
inductive Surrounding where
  | here
  | argument (name : String) (before : List Operand) (inner : Surrounding) (after : List Operand)
  | item (before : List Operand) (inner : Surrounding) (after : List Operand)
  | entry (before : List (String × Operand)) (key : String) (inner : Surrounding)
      (after : List (String × Operand))

namespace Surrounding

/-- The operand with this part in the hole. -/
def fill : Surrounding → Operand → Operand
  | .here, o => o
  | .argument name before inner after, o => .call name (before ++ inner.fill o :: after)
  | .item before inner after, o => .list (before ++ inner.fill o :: after)
  | .entry before key inner after, o => .map (before ++ (key, inner.fill o) :: after)

end Surrounding

namespace Operand

variable {scope : Scope} {cancelled : Bool} {o o' : Operand}

/-- What stands before the part is resolved first, and a fault there hides the part. -/
theorem resolveItems_append_congr (h : o.resolve scope cancelled = o'.resolve scope cancelled)
    (before after : List Operand) :
    resolveItems scope cancelled (before ++ o :: after) =
      resolveItems scope cancelled (before ++ o' :: after) := by
  induction before with
  | nil => rw [List.nil_append, List.nil_append, resolveItems, resolveItems, h]
  | cons x before ih =>
    rw [List.cons_append, List.cons_append, resolveItems, resolveItems, ih]

theorem resolveEntries_append_congr (h : o.resolve scope cancelled = o'.resolve scope cancelled)
    (before : List (String × Operand)) (key : String) (after : List (String × Operand))
    (done : Entries Value) :
    resolveEntries scope cancelled done (before ++ (key, o) :: after) =
      resolveEntries scope cancelled done (before ++ (key, o') :: after) := by
  induction before generalizing done with
  | nil => rw [List.nil_append, List.nil_append, resolveEntries, resolveEntries, h]
  | cons entry before ih =>
    rw [List.cons_append, List.cons_append, resolveEntries, resolveEntries]
    cases entry.2.resolve scope cancelled with
    | ok v => exact ih (done.set entry.1 v)
    | error e => rfl

/-- Operands with the same result may stand for one another. -/
theorem resolve_fill_congr (h : o.resolve scope cancelled = o'.resolve scope cancelled)
    (around : Surrounding) :
    (around.fill o).resolve scope cancelled = (around.fill o').resolve scope cancelled := by
  induction around with
  | here => exact h
  | argument name before inner after ih =>
    rw [Surrounding.fill, Surrounding.fill, resolve, resolve,
      resolveItems_append_congr ih before after]
  | item before inner after ih =>
    rw [Surrounding.fill, Surrounding.fill, resolve, resolve,
      resolveItems_append_congr ih before after]
  | entry before key inner after ih =>
    rw [Surrounding.fill, Surrounding.fill, resolve, resolve,
      resolveEntries_append_congr ih before key after]

theorem resolve_of_paths_eq_nil {scope' : Scope} (hp : o.paths = [])
    (hr : scope.registry = scope'.registry) :
    o.resolve scope cancelled = o.resolve scope' cancelled :=
  resolve_congr o (.of_registry_eq hr fun _ hm => absurd (hp ▸ hm) List.not_mem_nil)

theorem resolve_literal_eq {v : Value} (h : o.resolve scope cancelled = .ok v) :
    (literal v).resolve scope cancelled = o.resolve scope cancelled := by
  rw [h, resolve]

/-- A part that has a value may be replaced by it. If there are no paths in the part, this holds
whatever the documents are. -/
theorem resolve_fill_literal {v : Value} (h : o.resolve scope cancelled = .ok v)
    (around : Surrounding) :
    (around.fill (.literal v)).resolve scope cancelled =
        (around.fill o).resolve scope cancelled ∧
      (o.paths = [] → ∀ scope' : Scope, scope'.registry = scope.registry →
        (around.fill (.literal v)).resolve scope' cancelled =
          (around.fill o).resolve scope' cancelled) := by
  constructor
  · exact resolve_fill_congr (resolve_literal_eq h) around
  · intro hp scope' hr
    have h' : o.resolve scope' cancelled = .ok v := (resolve_of_paths_eq_nil hp hr).trans h
    exact resolve_fill_congr (resolve_literal_eq h') around

/-- The call is folded although a later call fails, and although its key is written again. -/
theorem resolve_fill_literal_in_map :
    let scope : Scope := ⟨.builtins, [("a", .bool true)], none⟩
    let o : Operand := .call "length" [.list [.literal .null, .literal .null]]
    let two : Value := .number (.ofNat 2)
    let around : Surrounding :=
      .entry [("k", .path (some "a") [])] "k" (.item [] .here [.path (some "b") []])
        [("k", .call "none" [])]
    o.resolve scope false = .ok two ∧
      (around.fill o).resolve scope false = .error (.call (.unknownFunction "none")) ∧
      (around.fill (.literal two)).resolve scope false = (around.fill o).resolve scope false ∧
      ∀ scope' : Scope, scope'.registry = .builtins →
        (around.fill (.literal two)).resolve scope' false =
          (around.fill o).resolve scope' false := by
  intro scope o two around
  have h : o.resolve scope false = .ok two := by cbv
  have he : (around.fill o).resolve scope false = .error (.call (.unknownFunction "none")) := by
    cbv
  obtain ⟨heq, hall⟩ := resolve_fill_literal h around
  exact ⟨h, he, heq, hall rfl⟩

end Operand

end SnapshotRules
