import Mathlib
import SnapshotRules.Proofs.Rule.Folding

/-! # Failing calls

With the flag clear resolution fails in calls and nowhere else. Calls are made in post-order, so an
operand has a value if all its calls succeed, and otherwise the error of the first one that fails.
-/

namespace SnapshotRules

namespace Operand

theorem resolveItems_eq_ok_iff {scope : Scope} {cancelled : Bool} {os : List Operand}
    {values : List Value} : resolveItems scope cancelled os = .ok values ↔
      List.Forall₂ (fun o v => o.resolve scope cancelled = .ok v) os values := by
  induction os generalizing values with
  | nil => simp [resolveItems, eq_comm]
  | cons o os ih =>
    rw [resolveItems, List.forall₂_cons_left_iff]
    cases o.resolve scope cancelled with
    | error e => simp
    | ok v => simp [map_eq_ok_iff, ih, @eq_comm _ values]

end Operand

/-! ## Calls in a row -/

namespace CallSite

variable {scope : Scope} {call : CallSite} {before after : List CallSite} {e e' : CallError}

def Receives (scope : Scope) (call : CallSite) (values : List Value) : Prop :=
  List.Forall₂ (fun o v => o.resolve scope false = .ok v) call.arguments values

def Succeeds (scope : Scope) (call : CallSite) : Prop :=
  ∃ function values v, scope.registry.functions.get? call.name = some function ∧
    call.Receives scope values ∧ function values = .ok v

/-- No function has the name, or the function refuses the values of the arguments. -/
inductive Fails (scope : Scope) (call : CallSite) : CallError → Prop where
  | unknown (h : scope.registry.functions.get? call.name = none) :
      Fails scope call (.unknownFunction call.name)
  | refused {function : Function} {values : List Value} {e : CallError}
      (h : scope.registry.functions.get? call.name = some function)
      (hv : call.Receives scope values) (he : function values = .error e) : Fails scope call e

/-- The first call that does not succeed fails with this error. -/
inductive FirstFails (scope : Scope) : List CallSite → CallError → Prop where
  | here {call : CallSite} {after : List CallSite} {e : CallError} (h : call.Fails scope e) :
      FirstFails scope (call :: after) e
  | later {call : CallSite} {after : List CallSite} {e : CallError} (h : call.Succeeds scope)
      (hs : FirstFails scope after e) : FirstFails scope (call :: after) e

theorem Receives.unique {values values' : List Value} (h : call.Receives scope values)
    (h' : call.Receives scope values') : values = values' := by
  have hv := Operand.resolveItems_eq_ok_iff.mpr h
  have hv' := Operand.resolveItems_eq_ok_iff.mpr h'
  exact Except.ok.inj (hv.symm.trans hv')

theorem Fails.not_succeeds (h : call.Fails scope e) : ¬ call.Succeeds scope := by
  rintro ⟨function, values, v, hf, hv, hok⟩
  cases h with
  | unknown hn => exact absurd (hn.symm.trans hf) (by simp)
  | refused hf' hv' he =>
    obtain rfl := Option.some.inj (hf.symm.trans hf')
    obtain rfl := hv.unique hv'
    exact absurd (hok.symm.trans he) (by simp)

theorem Fails.unique (h : call.Fails scope e) (h' : call.Fails scope e') : e = e' := by
  cases h with
  | unknown hn =>
    cases h' with
    | unknown => rfl
    | refused hf => exact absurd (hn.symm.trans hf) (by simp)
  | refused hf hv he =>
    cases h' with
    | unknown hn => exact absurd (hn.symm.trans hf) (by simp)
    | refused hf' hv' he' =>
      obtain rfl := Option.some.inj (hf.symm.trans hf')
      obtain rfl := hv.unique hv'
      exact Except.error.inj (he.symm.trans he')

theorem FirstFails.append (h : FirstFails scope before e) (after : List CallSite) :
    FirstFails scope (before ++ after) e := by
  induction h with
  | here h => exact .here h
  | later h _ ih => exact .later h ih

theorem FirstFails.after_succeeds (h : FirstFails scope after e)
    (hb : ∀ call ∈ before, call.Succeeds scope) : FirstFails scope (before ++ after) e := by
  induction before with
  | nil => exact h
  | cons call before ih =>
    obtain ⟨hc, hb⟩ := List.forall_mem_cons.mp hb
    exact .later hc (ih hb)

theorem FirstFails.not_all_succeed {calls : List CallSite} (h : FirstFails scope calls e) :
    ¬ ∀ call ∈ calls, call.Succeeds scope := by
  induction h with
  | here h =>
    intro hall
    obtain ⟨hs, -⟩ := List.forall_mem_cons.mp hall
    exact h.not_succeeds hs
  | later _ _ ih =>
    intro hall
    obtain ⟨-, hafter⟩ := List.forall_mem_cons.mp hall
    exact ih hafter

theorem FirstFails.unique {calls : List CallSite} (h : FirstFails scope calls e)
    (h' : FirstFails scope calls e') : e = e' := by
  induction h with
  | here h =>
    cases h' with
    | here h' => exact h.unique h'
    | later hs _ => exact absurd hs h.not_succeeds
  | later hs _ ih =>
    cases h' with
    | here h' => exact absurd hs h'.not_succeeds
    | later _ h' => exact ih h'

/-- The calls decide whether there is a result, and which error there is otherwise. -/
def Decides {α : Type _} (scope : Scope) (calls : List CallSite) : Except RuleError α → Prop
  | .ok _ => ∀ call ∈ calls, call.Succeeds scope
  | .error error => ∃ e, FirstFails scope calls e ∧ error = .call e

section

variable {α β : Type _} {error : RuleError} {result : Except RuleError α}

theorem Decides.map {calls : List CallSite} (h : Decides scope calls result) (f : α → β) :
    Decides scope calls (result.map f) := by
  cases result with
  | ok v => exact h
  | error error => exact h

theorem Decides.append_error (h : Decides scope before (.error error : Except RuleError α))
    (after : List CallSite) :
    Decides scope (before ++ after) (.error error : Except RuleError β) := by
  obtain ⟨e, he, heq⟩ := h
  exact ⟨e, he.append after, heq⟩

theorem Decides.after_succeeds (h : Decides scope after result)
    (hb : ∀ call ∈ before, call.Succeeds scope) : Decides scope (before ++ after) result := by
  cases result with
  | ok v => exact List.forall_mem_append.mpr ⟨hb, h⟩
  | error error =>
    obtain ⟨e, he, heq⟩ := h
    exact ⟨e, he.after_succeeds hb, heq⟩

theorem decides_call {values : List Value} (hv : call.Receives scope values) :
    Decides scope [call] ((scope.registry.call call.name values).mapError .call) := by
  cases hf : scope.registry.functions.get? call.name with
  | none =>
    rw [Registry.call_of_get?_eq_none hf]
    exact ⟨_, .here (.unknown hf), rfl⟩
  | some function =>
    rw [Registry.call_of_get?_eq_some hf]
    cases hr : function values with
    | error e => exact ⟨e, .here (.refused hf hv hr), rfl⟩
    | ok v => exact List.forall_mem_singleton.mpr ⟨function, values, v, hf, hv, hr⟩

end

end CallSite

/-! ## Resolution -/

namespace Operand

open CallSite

variable {scope : Scope}

mutual

theorem decides_resolve (scope : Scope) : ∀ o : Operand,
    Decides scope o.calls (o.resolve scope false)
  | .literal _ => by simp [Decides, calls, resolve]
  | .path _ _ => by simp [Decides, calls, resolve]
  | .call name arguments => by
    have h := decides_resolveItems scope arguments
    rw [resolve, if_neg Bool.false_ne_true, calls]
    cases hr : resolveItems scope false arguments with
    | error error =>
      rw [hr] at h
      exact h.append_error _
    | ok values =>
      rw [hr] at h
      have hv : Receives scope ⟨name, arguments⟩ values := resolveItems_eq_ok_iff.mp hr
      exact (decides_call hv).after_succeeds h
  | .list items => by
    rw [resolve, calls]
    exact (decides_resolveItems scope items).map _
  | .map entries => by
    rw [resolve, calls]
    exact (decides_resolveEntries scope [] entries).map _
termination_by structural o => o

theorem decides_resolveItems (scope : Scope) : ∀ os : List Operand,
    Decides scope (callsOfItems os) (resolveItems scope false os)
  | [] => by simp [Decides, callsOfItems, resolveItems]
  | o :: os => by
    have h := decides_resolve scope o
    rw [resolveItems, callsOfItems]
    cases hr : o.resolve scope false with
    | error error => rw [hr] at h; exact h.append_error _
    | ok v => rw [hr] at h; exact ((decides_resolveItems scope os).map _).after_succeeds h
termination_by structural os => os

theorem decides_resolveEntries (scope : Scope) (done : Entries Value) :
    ∀ es : List (String × Operand),
      Decides scope (callsOfEntries es) (resolveEntries scope false done es)
  | [] => by simp [Decides, callsOfEntries, resolveEntries]
  | (k, o) :: es => by
    have h := decides_resolve scope o
    rw [resolveEntries, callsOfEntries]
    cases hr : o.resolve scope false with
    | error error => rw [hr] at h; exact h.append_error _
    | ok v => rw [hr] at h; exact (decides_resolveEntries scope (done.set k v) es).after_succeeds h
termination_by structural es => es

end

theorem resolve_eq_ok_iff_calls {o : Operand} :
    (∃ v, o.resolve scope false = .ok v) ↔ ∀ call ∈ o.calls, call.Succeeds scope := by
  have h := o.decides_resolve scope
  cases hr : o.resolve scope false with
  | ok v => rw [hr] at h; exact iff_of_true ⟨v, rfl⟩ h
  | error error =>
    rw [hr] at h
    obtain ⟨e, he, -⟩ := h
    exact iff_of_false (by simp) he.not_all_succeed

theorem resolve_eq_error_iff_calls {o : Operand} {error : RuleError} :
    o.resolve scope false = .error error ↔
      ∃ e, FirstFails scope o.calls e ∧ error = .call e := by
  have h := o.decides_resolve scope
  cases hr : o.resolve scope false with
  | ok v =>
    rw [hr] at h
    refine iff_of_false (by simp) ?_
    rintro ⟨e, he, -⟩
    exact he.not_all_succeed h
  | error error' =>
    rw [hr] at h
    obtain ⟨e, he, rfl⟩ := h
    constructor
    · intro heq
      exact ⟨e, he, (Except.error.inj heq).symm⟩
    · rintro ⟨e', he', rfl⟩
      rw [he.unique he']

end Operand

/-! ## Absent fields -/

def Scope.find? (scope : Scope) (reference : Option String) (segments : List String) :
    Option Value :=
  match reference.bind fun id => scope.documents.get? id with
  | some document => document.path? segments
  | none => scope.defaultDocument.bind fun document =>
    document.path? (reference.toList ++ segments)

theorem Scope.lookup_eq_getD (scope : Scope) (reference : Option String)
    (segments : List String) :
    scope.lookup reference segments = (scope.find? reference segments).getD .null := by
  rw [lookup, find?]
  cases reference.bind fun id => scope.documents.get? id with
  | some document => rfl
  | none => cases scope.defaultDocument <;> rfl

namespace Operand

variable {scope : Scope}

theorem resolve_path_eq_null {reference : Option String} {segments : List String}
    (h : scope.find? reference segments = none) :
    (path reference segments).resolve scope false = (literal .null).resolve scope false := by
  rw [resolve, resolve, if_neg Bool.false_ne_true, Scope.lookup_eq_getD, h, Option.getD_none]

/-- An operand has a value if every call in it succeeds, and otherwise the error of the first call
in post-order that fails. Without calls it has a value whatever the documents are, since an absent
field counts as null wherever it stands. -/
theorem resolve_decided_by_calls (scope : Scope) (o : Operand) :
    ((∃ v, o.resolve scope false = .ok v) ↔ ∀ call ∈ o.calls, call.Succeeds scope) ∧
    (∀ error, o.resolve scope false = .error error ↔
      ∃ e, CallSite.FirstFails scope o.calls e ∧ error = .call e) ∧
    (o.calls = [] → ∃ v, o.resolve scope false = .ok v) ∧
    ∀ (around : Surrounding) (reference : Option String) (segments : List String),
      scope.find? reference segments = none →
      (around.fill (.path reference segments)).resolve scope false =
        (around.fill (.literal .null)).resolve scope false := by
  refine ⟨resolve_eq_ok_iff_calls, fun error => resolve_eq_error_iff_calls, fun h => ?_, ?_⟩
  · rw [resolve_eq_ok_iff_calls, h]
    exact List.forall_mem_nil _
  · intro around reference segments h
    exact resolve_fill_congr (resolve_path_eq_null h) around

/-- The absent field has null as its length, and the call that names no function comes last. -/
theorem resolve_decided_by_nested_calls :
    let scope : Scope := ⟨.builtins, [("a", .mapping [])], none⟩
    let absent : Operand := .path (some "a") ["b"]
    let o : Operand :=
      .call "none" [.call "length" [absent], .call "element" [.list [], .literal .null]]
    o.calls.map CallSite.name = ["length", "element", "none"] ∧
      o.resolve scope false = .error (.call (.invalidArguments "element" .emptySequence)) := by
  intro scope absent o
  have hn : absent.resolve scope false = .ok .null := by cbv
  have hl : CallSite.Succeeds scope ⟨"length", [absent]⟩ :=
    ⟨Collection.length, [.null], .null, rfl, .cons hn .nil, rfl⟩
  have he : CallSite.Fails scope ⟨"element", [.list [], .literal .null]⟩
      (.invalidArguments "element" .emptySequence) :=
    .refused rfl (.cons rfl (.cons rfl .nil)) rfl
  exact ⟨rfl, ((resolve_decided_by_calls scope o).2.1 _).mpr ⟨_, .later hl (.here he), rfl⟩⟩

end Operand

end SnapshotRules
