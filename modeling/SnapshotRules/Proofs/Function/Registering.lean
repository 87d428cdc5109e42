import Mathlib
import SnapshotRules.Proofs.Function.Guarding
import SnapshotRules.Proofs.Rule.Dependence

/-! # Registering functions

A registry answers for the functions that were registered last under their names. A rule sees the
functions whose names it calls, so registering others does not change its outcome.
-/

namespace SnapshotRules

namespace Entries

variable {α : Type _} {before after : Entries α} {key : String}

theorem get?_reverse_eq_none_iff {entries : Entries α} :
    get? entries.reverse key = none ↔ key ∉ entries.keys := by
  rw [get?_eq_none_iff, keys, List.map_reverse, List.mem_reverse]
  rfl

theorem get?_reverse_of_last (before : Entries α) (value : α) (h : key ∉ after.keys) :
    get? (before ++ (key, value) :: after).reverse key = some value := by
  have hafter : key ∉ keys after.reverse :=
    get?_eq_none_iff.mp (get?_reverse_eq_none_iff.mpr h)
  rw [List.reverse_append, List.reverse_cons, List.append_assoc,
    get?_append_of_notMem_left hafter, List.singleton_append, get?, if_pos rfl]

end Entries

namespace Registry

variable {r : Registry} {history more : List (String × Function)} {name : String}
  {function : Function}

theorem registerAll_append (r : Registry) (steps more : List (String × Function)) :
    r.registerAll (steps ++ more) = (r.registerAll steps).registerAll more := List.foldl_append

theorem get?_registerAll_empty (history : List (String × Function)) (name : String) :
    (empty.registerAll history).functions.get? name = Entries.get? history.reverse name := by
  rw [get?_registerAll, empty, Entries.get?_nil, Option.or_none]

theorem get?_registerAll_of_notMem (r : Registry) (h : name ∉ Entries.keys more) :
    (r.registerAll more).functions.get? name = r.functions.get? name := by
  rw [get?_registerAll, Entries.get?_reverse_eq_none_iff.mpr h, Option.none_or]

theorem mem_names_registerAll_iff :
    name ∈ (empty.registerAll history).names ↔ name ∈ Entries.keys history := by
  rw [mem_names_iff, get?_registerAll_empty, ← Option.ne_none_iff_exists', Ne,
    Entries.get?_reverse_eq_none_iff, not_not]

theorem call_registerAll_of_last {before after : List (String × Function)}
    (h : name ∉ Entries.keys after) (arguments : List Value) :
    (empty.registerAll (before ++ (name, function) :: after)).call name arguments =
      function arguments := by
  apply call_of_get?_eq_some
  rw [get?_registerAll_empty]
  exact Entries.get?_reverse_of_last before function h

theorem call_registerAll_of_notMem (h : name ∉ Entries.keys history) (arguments : List Value) :
    (empty.registerAll history).call name arguments = .error (.unknownFunction name) := by
  apply call_of_get?_eq_none
  rw [get?_registerAll_empty]
  exact Entries.get?_reverse_eq_none_iff.mpr h

/-- Among functions that do not say it themselves, a call fails for want of a function exactly if
its name was never registered. -/
theorem exists_unknownFunction_iff {arguments : List Value}
    (h : ∀ entry ∈ history, ∀ other, entry.2 arguments ≠ .error (.unknownFunction other)) :
    (∃ other, (empty.registerAll history).call name arguments =
      .error (.unknownFunction other)) ↔ name ∉ Entries.keys history := by
  constructor
  · rintro ⟨other, hother⟩ hmem
    rw [← mem_names_registerAll_iff, mem_names_iff] at hmem
    obtain ⟨function, hget⟩ := hmem
    rw [call_of_get?_eq_some hget] at hother
    rw [get?_registerAll_empty] at hget
    exact h _ (List.mem_reverse.mp (Entries.mem_of_get? hget)) other hother
  · intro hname
    exact ⟨name, call_registerAll_of_notMem hname arguments⟩

theorem builtin_ne_unknownFunction (h : (name, function) ∈ builtinFunctions)
    (arguments : List Value) (other : String) :
    function arguments ≠ .error (.unknownFunction other) := by
  intro he
  obtain ⟨fault, hfault⟩ := Stepwise.exists_fault_of_builtin h he
  exact absurd hfault (by simp)

end Registry

/-! ## Functions that a rule does not call -/

namespace Context

variable {σ : Type} {ctx : Context σ} {registry registry' : Registry} {cancelled : Bool}
  {rule : String} {e : Expression} {s : Session σ}

theorem evaluateExpression_congr_registry
    (h : ∀ call ∈ e.calls,
      registry.functions.get? call.name = registry'.functions.get? call.name) :
    ctx.evaluateExpression registry cancelled rule e s =
      ctx.evaluateExpression registry' cancelled rule e s := by
  have heval (documents : Entries Value) :
      e.evaluateIn (ctx.scope registry documents) cancelled rule =
        e.evaluateIn (ctx.scope registry' documents) cancelled rule := by
    apply Expression.evaluateIn_congr
    constructor
    · exact h
    · intro path _
      rfl
  unfold evaluateExpression
  simp only [heval]

theorem evaluate_congr_registry
    (h : ∀ e, parse rule = .ok e → ∀ call ∈ e.calls,
      registry.functions.get? call.name = registry'.functions.get? call.name) :
    ctx.evaluate registry cancelled rule s = ctx.evaluate registry' cancelled rule s := by
  unfold evaluate
  split
  · rfl
  · cases hp : parse rule with
    | error error => rfl
    | ok e => exact evaluateExpression_congr_registry (h e hp)

end Context

namespace Registry

/-- A registry that began empty or with the built-in functions has every name registered since
then or built in, in ascending order, and calls the function that a name was last registered with.
A call fails for want of a function if its name was never registered, and then only, unless a
function that was registered says so itself. Functions that a rule does not call may be registered
without effect on its outcome. -/
theorem registerAll_answers (base : Registry) (known steps : List (String × Function))
    (hb : base = empty ∧ known = [] ∨ base = builtins ∧ known = builtinFunctions) :
    let r := base.registerAll steps
    let history := known ++ steps
    r.names.Pairwise (· < ·) ∧
    (∀ name, name ∈ r.names ↔ name ∈ Entries.keys history) ∧
    (∀ name, r.has name = true ↔ name ∈ Entries.keys history) ∧
    (∀ before name function after, history = before ++ (name, function) :: after →
      name ∉ Entries.keys after → ∀ arguments, r.call name arguments = function arguments) ∧
    (∀ name, name ∉ Entries.keys history →
      ∀ arguments, r.call name arguments = .error (.unknownFunction name)) ∧
    (∀ arguments, (∀ entry ∈ steps, ∀ other, entry.2 arguments ≠ .error (.unknownFunction other)) →
      ∀ name, (∃ other, r.call name arguments = .error (.unknownFunction other)) ↔
        name ∉ Entries.keys history) ∧
    ∀ {σ : Type} (ctx : Context σ) (cancelled : Bool) (rule : String) (s : Session σ)
      (more : List (String × Function)),
      (∀ e, parse rule = .ok e → ∀ call ∈ e.calls, call.name ∉ Entries.keys more) →
      ctx.evaluate (r.registerAll more) cancelled rule s = ctx.evaluate r cancelled rule s := by
  intro r history
  have hr : r = empty.registerAll history := by
    rcases hb with ⟨rfl, rfl⟩ | ⟨rfl, rfl⟩
    · rfl
    · exact (registerAll_append empty builtinFunctions steps).symm
  have hknown : ∀ entry ∈ known, entry ∈ builtinFunctions := by
    rcases hb with ⟨-, rfl⟩ | ⟨-, rfl⟩
    · exact List.forall_mem_nil _
    · intro entry hentry
      exact hentry
  rw [hr]
  refine ⟨pairwise_names_registerAll .nil history, fun _ => mem_names_registerAll_iff, ?_, ?_,
    fun _ => call_registerAll_of_notMem, ?_, ?_⟩
  · intro name
    rw [has_iff_mem_names, mem_names_registerAll_iff]
  · intro before name function after hhistory hlast
    rw [hhistory]
    exact call_registerAll_of_last hlast
  · intro arguments hsteps name
    apply exists_unknownFunction_iff
    intro entry hentry
    rcases List.mem_append.mp hentry with hentry | hentry
    · exact builtin_ne_unknownFunction (hknown entry hentry) arguments
    · exact hsteps entry hentry
  · intro σ ctx cancelled rule s more hmore
    apply Context.evaluate_congr_registry
    intro e hp call hcall
    exact get?_registerAll_of_notMem _ (hmore e hp call hcall)

/-- The built-in `length` is replaced twice, and `keys` is replaced after a rule that calls
`length`. -/
theorem registerAll_answers_after_replacing :
    let steps : List (String × Function) :=
      [("length", Collection.keys), ("length", Collection.toList)]
    let r := builtins.registerAll steps
    let ctx : Context MemoryStore := ⟨MemoryStore.source, [("a", "c")], none, 1000⟩
    let s : Session MemoryStore := .start .empty
    r.names.Pairwise (· < ·) ∧ "length" ∈ r.names ∧
      r.call "length" [.null] = .ok (.sequence [.null]) ∧
      (¬ ∃ other, r.call "reverse" [.null] = .error (.unknownFunction other)) ∧
      r.call "none" [.null] = .error (.unknownFunction "none") ∧
      ctx.evaluate (r.registerAll [("keys", Collection.length)]) false "length(a) == [a]" s =
        ctx.evaluate r false "length(a) == [a]" s := by
  intro steps r ctx s
  obtain ⟨hpairwise, hnames, -, hlast, hnone, hexact, hframe⟩ :=
    registerAll_answers builtins builtinFunctions steps (.inr ⟨rfl, rfl⟩)
  have hsteps : ∀ entry ∈ steps, ∀ other,
      entry.2 [.null] ≠ .error (.unknownFunction other) := by
    simp [steps, Collection.keys, Collection.toList, Collection.asMapping, bind, Except.bind]
  have hp : parse "length(a) == [a]" = .ok ⟨.call "length" [.path (some "a") []], .equal,
      .list [.path (some "a") []]⟩ := by cbv
  refine ⟨hpairwise, (hnames "length").mpr (by decide), ?_, ?_, ?_, ?_⟩
  · exact hlast (builtinFunctions ++ [("length", Collection.keys)]) "length" Collection.toList []
      (by simp [steps]) (by simp) [.null]
  · rw [hexact [.null] hsteps "reverse"]
    decide
  · exact hnone "none" (by decide) [.null]
  · apply hframe
    intro e he call hcall
    obtain rfl := Except.ok.inj (hp.symm.trans he)
    simp only [Expression.calls, Operand.calls, Operand.callsOfItems, List.append_nil,
      List.nil_append, List.mem_singleton] at hcall
    rw [hcall]
    decide

end Registry

end SnapshotRules
