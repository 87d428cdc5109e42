import Mathlib
import SnapshotRules.Proofs.Rule.Printing
import SnapshotRules.Rule.Evaluation

/-! # What rules depend on

An operand is resolved through the functions that it calls and the look-ups of its paths, and
through nothing else. So a rule depends on the functions with the names of its calls, on the
documents that its paths begin with, and on the default document only if some path begins
otherwise.
-/

namespace SnapshotRules

/-! ## Distinct elements -/

section

variable {α : Type _} [BEq α] [LawfulBEq α] {xs kept : List α}

theorem pairwise_distinctOnto (before : List α) (hk : ∀ y, y ∈ kept ↔ y ∈ before)
    (hp : kept.Pairwise fun a b => (before ++ xs).idxOf a < (before ++ xs).idxOf b) :
    (distinctOnto (· == ·) kept xs).Pairwise
      fun a b => (before ++ xs).idxOf a < (before ++ xs).idxOf b := by
  induction xs generalizing kept before with
  | nil => exact hp
  | cons y ys ih =>
    rw [List.append_cons] at hp ⊢
    rw [distinctOnto]
    split
    · next h =>
      obtain ⟨z, hz, he⟩ := List.any_eq_true.mp h
      obtain rfl := eq_of_beq he
      refine ih (before ++ [z]) (fun a => ?_) hp
      rw [hk, List.mem_append, List.mem_singleton]
      exact (or_iff_left_of_imp fun ha => ha ▸ (hk z).mp hz).symm
    · next h =>
      have hy : y ∉ before := fun hb =>
        h (List.any_eq_true.mpr ⟨y, (hk y).mpr hb, beq_self_eq_true y⟩)
      refine ih (before ++ [y]) (fun a => ?_) (List.pairwise_append.mpr ⟨hp, by simp, ?_⟩)
      · rw [List.mem_append, List.mem_append, hk]
      · rintro a ha b hb
        obtain rfl := List.mem_singleton.mp hb
        have hlt := List.idxOf_lt_length_of_mem ((hk a).mp ha)
        rw [List.append_assoc, List.idxOf_append_of_mem ((hk a).mp ha),
          List.idxOf_append_of_notMem hy]
        omega

theorem pairwise_distinctBy (xs : List α) :
    (distinctBy (· == ·) xs).Pairwise fun a b => xs.idxOf a < xs.idxOf b :=
  pairwise_distinctOnto [] (by simp) .nil

theorem nodup_distinctBy (xs : List α) : (distinctBy (· == ·) xs).Nodup :=
  (pairwise_distinctBy xs).imp fun h he => absurd h (by rw [he]; exact Nat.lt_irrefl _)

end

/-! ## Paths -/

namespace Operand

mutual

def paths : Operand → List (Option String × List String)
  | .literal _ => []
  | .path reference segments => [(reference, segments)]
  | .call _ arguments => pathsOfItems arguments
  | .list items => pathsOfItems items
  | .map entries => pathsOfEntries entries
termination_by structural o => o

def pathsOfItems : List Operand → List (Option String × List String)
  | [] => []
  | x :: xs => x.paths ++ pathsOfItems xs
termination_by structural xs => xs

def pathsOfEntries : List (String × Operand) → List (Option String × List String)
  | [] => []
  | (_, x) :: xs => x.paths ++ pathsOfEntries xs
termination_by structural xs => xs

end

mutual

theorem references_eq : ∀ o : Operand, o.references = o.paths.filterMap Prod.fst
  | .literal _ => rfl
  | .path reference _ => by cases reference <;> rfl
  | .call _ arguments => referencesOfItems_eq arguments
  | .list items => referencesOfItems_eq items
  | .map entries => referencesOfEntries_eq entries
termination_by structural o => o

theorem referencesOfItems_eq : ∀ os : List Operand,
    referencesOfItems os = (pathsOfItems os).filterMap Prod.fst
  | [] => rfl
  | o :: os => by
    rw [referencesOfItems, pathsOfItems, List.filterMap_append, references_eq o,
      referencesOfItems_eq os]
termination_by structural os => os

theorem referencesOfEntries_eq : ∀ es : List (String × Operand),
    referencesOfEntries es = (pathsOfEntries es).filterMap Prod.fst
  | [] => rfl
  | (_, o) :: es => by
    rw [referencesOfEntries, pathsOfEntries, List.filterMap_append, references_eq o,
      referencesOfEntries_eq es]
termination_by structural es => es

end

mutual

theorem WellFormed.isSome : ∀ {o : Operand}, o.WellFormed → ∀ path ∈ o.paths, path.1.isSome = true
  | .literal _, _ => by simp [paths]
  | .path reference segments, h => by
    obtain ⟨name, rfl, -⟩ := h
    simp [paths]
  | .call _ _, h => WellFormedItems.isSome h.2
  | .list _, h => WellFormedItems.isSome h
  | .map _, h => WellFormedEntries.isSome h
termination_by structural o => o

theorem WellFormedItems.isSome : ∀ {os : List Operand}, WellFormedItems os →
    ∀ path ∈ pathsOfItems os, path.1.isSome = true
  | [], _ => by simp [pathsOfItems]
  | _ :: _, h => List.forall_mem_append.mpr ⟨WellFormed.isSome h.1, WellFormedItems.isSome h.2⟩
termination_by structural os => os

theorem WellFormedEntries.isSome : ∀ {es : List (String × Operand)}, WellFormedEntries es →
    ∀ path ∈ pathsOfEntries es, path.1.isSome = true
  | [], _ => by simp [pathsOfEntries]
  | (_, _) :: _, h =>
    List.forall_mem_append.mpr ⟨WellFormed.isSome h.2.1, WellFormedEntries.isSome h.2.2⟩
termination_by structural es => es

end

end Operand

/-! ## Calls -/

structure CallSite where
  name : String
  arguments : List Operand

namespace Operand

mutual

/-- All calls in post-order: those inside the arguments of a call come before it. -/
def calls : Operand → List CallSite
  | .literal _ => []
  | .path _ _ => []
  | .call name arguments => callsOfItems arguments ++ [⟨name, arguments⟩]
  | .list items => callsOfItems items
  | .map entries => callsOfEntries entries
termination_by structural o => o

def callsOfItems : List Operand → List CallSite
  | [] => []
  | x :: xs => x.calls ++ callsOfItems xs
termination_by structural xs => xs

def callsOfEntries : List (String × Operand) → List CallSite
  | [] => []
  | (_, x) :: xs => x.calls ++ callsOfEntries xs
termination_by structural xs => xs

end

end Operand

/-! ## Resolution -/

/-- The scopes have the same functions for these calls, and these paths lead to the same values. -/
structure Scope.Agrees (scope scope' : Scope) (calls : List CallSite)
    (paths : List (Option String × List String)) : Prop where
  calls : ∀ call ∈ calls,
    scope.registry.functions.get? call.name = scope'.registry.functions.get? call.name
  paths : ∀ path ∈ paths, scope.lookup path.1 path.2 = scope'.lookup path.1 path.2

namespace Scope.Agrees

variable {scope scope' : Scope} {calls calls' : List CallSite}
  {paths paths' : List (Option String × List String)}

theorem of_registry_eq (hr : scope.registry = scope'.registry)
    (h : ∀ path ∈ paths, scope.lookup path.1 path.2 = scope'.lookup path.1 path.2) :
    scope.Agrees scope' calls paths := by
  constructor
  · intro call _
    rw [hr]
  · exact h

theorem append (h : scope.Agrees scope' (calls ++ calls') (paths ++ paths')) :
    scope.Agrees scope' calls paths ∧ scope.Agrees scope' calls' paths' := by
  obtain ⟨hc, hc'⟩ := List.forall_mem_append.mp h.calls
  obtain ⟨hp, hp'⟩ := List.forall_mem_append.mp h.paths
  exact ⟨⟨hc, hp⟩, ⟨hc', hp'⟩⟩

end Scope.Agrees

namespace Operand

variable {scope scope' : Scope} {cancelled : Bool}

mutual

theorem resolve_congr : ∀ o : Operand, scope.Agrees scope' o.calls o.paths →
    o.resolve scope cancelled = o.resolve scope' cancelled
  | .literal _, _ => rfl
  | .path reference segments, h => by
    rw [resolve, resolve, h.paths (reference, segments) (List.mem_singleton_self _)]
  | .call name arguments, h => by
    obtain ⟨hc, hname⟩ := List.forall_mem_append.mp h.calls
    have hget := hname ⟨name, arguments⟩ (List.mem_singleton_self _)
    rw [resolve, resolve, resolveItems_congr arguments ⟨hc, h.paths⟩]
    simp only [Registry.call, hget]
  | .list items, h => by
    rw [resolve, resolve, resolveItems_congr items h]
  | .map entries, h => by
    rw [resolve, resolve, resolveEntries_congr entries [] h]
termination_by structural o => o

theorem resolveItems_congr : ∀ os : List Operand,
    scope.Agrees scope' (callsOfItems os) (pathsOfItems os) →
      resolveItems scope cancelled os = resolveItems scope' cancelled os
  | [], _ => rfl
  | o :: os, h => by
    obtain ⟨ho, hos⟩ := h.append
    rw [resolveItems, resolveItems, resolve_congr o ho, resolveItems_congr os hos]
termination_by structural os => os

theorem resolveEntries_congr : ∀ (es : List (String × Operand)) (done : Entries Value),
    scope.Agrees scope' (callsOfEntries es) (pathsOfEntries es) →
      resolveEntries scope cancelled done es = resolveEntries scope' cancelled done es
  | [], _, _ => rfl
  | (k, o) :: es, done, h => by
    obtain ⟨ho, hes⟩ := h.append
    rw [resolveEntries, resolveEntries, resolve_congr o ho]
    simp only [resolveEntries_congr es _ hes]
termination_by structural es => es

end

end Operand

namespace Expression

variable {scope scope' : Scope} {cancelled : Bool} {rule : String} {e : Expression}

def paths (e : Expression) : List (Option String × List String) := e.left.paths ++ e.right.paths

def calls (e : Expression) : List CallSite := e.left.calls ++ e.right.calls

def references (e : Expression) : List String := e.left.references ++ e.right.references

theorem references_eq : e.references = e.paths.filterMap Prod.fst := by
  rw [references, paths, List.filterMap_append, e.left.references_eq, e.right.references_eq]

theorem mem_snapshotRefs {id : String} : id ∈ e.snapshotRefs ↔ id ∈ e.references := mem_distinctBy

theorem exists_reference_of_parse (h : parse rule = .ok e) {path : Option String × List String}
    (hp : path ∈ e.paths) : ∃ id ∈ e.snapshotRefs, path.1 = some id := by
  have hw := wellFormed_of_parse h
  have hs : ∀ path ∈ e.paths, path.1.isSome = true :=
    List.forall_mem_append.mpr ⟨hw.1.isSome, hw.2.isSome⟩
  obtain ⟨id, hid⟩ := Option.isSome_iff_exists.mp (hs path hp)
  refine ⟨id, ?_, hid⟩
  rw [mem_snapshotRefs, references_eq]
  exact List.mem_filterMap.mpr ⟨path, hp, hid⟩

theorem evaluateIn_congr (h : scope.Agrees scope' e.calls e.paths) :
    e.evaluateIn scope cancelled rule = e.evaluateIn scope' cancelled rule := by
  obtain ⟨hleft, hright⟩ := h.append
  rw [evaluateIn, evaluateIn, e.left.resolve_congr hleft, e.right.resolve_congr hright]

end Expression

namespace Scope

variable {scope scope' : Scope} {id : String} {segments : List String}

/-- A document of the scope hides the default document. -/
theorem lookup_congr (hd : scope.documents.get? id = scope'.documents.get? id)
    (hn : scope.documents.get? id = none → scope.defaultDocument = scope'.defaultDocument) :
    scope.lookup (some id) segments = scope'.lookup (some id) segments := by
  unfold lookup
  rw [Option.bind_some, Option.bind_some, ← hd]
  cases h : scope.documents.get? id with
  | some document => rfl
  | none => rw [hn h]

end Scope

end SnapshotRules
