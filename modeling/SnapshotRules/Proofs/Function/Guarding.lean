import Mathlib
import SnapshotRules.Function.Registry

/-! # Guarded operations

A function reads its arguments and their elements by position, takes remainders and cuts chunks, and
none of these operations is defined for all numbers. Here the built-in functions are written in
steps that end where an operation is undefined. Every call by steps answers what the function
answers, so the checks in front of the operations let none pass that is undefined.
-/

namespace SnapshotRules

/-- An operation that is not defined for all numbers. -/
inductive Operation where
  | access
  | remainder
  | chunks
  deriving DecidableEq

/-- Why a call ends without a value. -/
inductive Halt where
  | refused (fault : ArgumentFault)
  | undefined (operation : Operation)
  deriving DecidableEq

abbrev Stepwise := Except Halt

namespace Stepwise

variable {α β : Type}

abbrev refuse (fault : ArgumentFault) : Stepwise α := .error (.refused fault)

def read (xs : List α) (i : ℕ) : Stepwise α :=
  match xs[i]? with
  | some x => .ok x
  | none => .error (.undefined .access)

def readFrom (xs : List α) (i : ℕ) : Stepwise (List α) :=
  if i ≤ xs.length then .ok (xs.drop i) else .error (.undefined .access)

def remainder (m n : ℕ) : Stepwise ℕ :=
  if n = 0 then .error (.undefined .remainder) else .ok (m % n)

def cut (size : ℕ) (xs : List α) : Stepwise (List (List α)) :=
  if size = 0 then .error (.undefined .chunks) else .ok (chunks size xs)

/-! ## The built-in functions in steps -/

def expect (count : ℕ) (arguments : List Value) : Stepwise Unit :=
  if arguments.length = count then .ok () else refuse (.count count arguments.length)

def sequence : Value → Stepwise (List Value)
  | .sequence items => .ok items
  | v => refuse (.notSequence v.kind)

def mapping : Value → Stepwise (Entries Value)
  | .mapping entries => .ok entries
  | v => refuse (.notMapping v.kind)

def key : Value → Stepwise String
  | .string s => .ok s
  | .number n => .ok n.text
  | .bool b => .ok (if b then "true" else "false")
  | v => refuse (.notKey v.kind)

def element (arguments : List Value) : Stepwise Value := do
  expect 2 arguments
  let items ← sequence (← read arguments 0)
  if items.isEmpty then refuse .emptySequence
  else
    let index ← read arguments 1
    match index.index? with
    | none => refuse (.indexNotInteger index)
    | some i =>
      if i < 0 then refuse (.negativeIndex i)
      else read items (← remainder i.toNat items.length)

def length (arguments : List Value) : Stepwise Value := do
  expect 1 arguments
  match ← read arguments 0 with
  | .null => return .null
  | .sequence items => return .ofNat items.length
  | .mapping entries => return .ofNat entries.length
  | .string s => return .ofNat s.length
  | v => refuse (.noLength v.kind)

def chunklist (arguments : List Value) : Stepwise Value := do
  expect 2 arguments
  let items ← sequence (← read arguments 0)
  let size ← read arguments 1
  match size.index? with
  | some n =>
    if 0 < n then return .sequence ((← cut n.toNat items).map .sequence)
    else refuse (.chunkSize size)
  | none => refuse (.chunkSize size)

def concat (arguments : List Value) : Stepwise Value := do
  let lists ← arguments.mapM sequence
  return .sequence lists.flatten

def coalesce (arguments : List Value) : Stepwise Value :=
  return (arguments.find? fun v => !v.isEmpty).getD .null

def compact (arguments : List Value) : Stepwise Value := do
  expect 1 arguments
  let items ← sequence (← read arguments 0)
  return .sequence (items.filter fun v => v ≠ .string "")

def distinct (arguments : List Value) : Stepwise Value := do
  expect 1 arguments
  let items ← sequence (← read arguments 0)
  return .sequence (distinctBy Value.equal items)

def index (arguments : List Value) : Stepwise Value := do
  expect 2 arguments
  let items ← sequence (← read arguments 0)
  let v ← read arguments 1
  match items.findIdx? fun item => item.equal v with
  | some i => return .ofNat i
  | none => return .minusOne

def lookup (arguments : List Value) : Stepwise Value := do
  if arguments.length = 2 ∨ arguments.length = 3 then
    let entries ← mapping (← read arguments 0)
    match ← read arguments 1 with
    | .string key => return (entries.get? key).getD (arguments[2]?.getD .null)
    | v => refuse (.keyNotString v.kind)
  else refuse (.countTwoOrThree arguments.length)

def contains (arguments : List Value) : Stepwise Value := do
  expect 2 arguments
  match ← read arguments 0, ← read arguments 1 with
  | .sequence items, v => return .bool ((Value.sequence items).hasMember v)
  | .mapping entries, v => return .bool ((Value.mapping entries).hasMember v)
  | .string text, .string part => return .bool (Collection.hasInfix part.toList text.toList)
  | container, _ => refuse (.notSearchable container.kind)

def keys (arguments : List Value) : Stepwise Value := do
  expect 1 arguments
  let entries ← mapping (← read arguments 0)
  return .sequence (entries.keys.map .string)

def toList (arguments : List Value) : Stepwise Value := return .sequence arguments

def setPair (entries : Entries Value) (pair : List Value) : Stepwise (Entries Value) := do
  let k ← key (← read pair 0)
  return entries.set k (← read pair 1)

def toMap (arguments : List Value) : Stepwise Value := do
  if (← remainder arguments.length 2) ≠ 0 then refuse (.countOdd arguments.length)
  else return .mapping (← (← cut 2 arguments).foldlM setPair [])

def setEntries (entries : Entries Value) (v : Value) : Stepwise (Entries Value) := do
  let more ← mapping v
  return more.foldl (fun entries entry => entries.set entry.1 entry.2) entries

def merge (arguments : List Value) : Stepwise Value := do
  return .mapping (← arguments.foldlM setEntries [])

def reverse (arguments : List Value) : Stepwise Value := do
  expect 1 arguments
  let items ← sequence (← read arguments 0)
  return .sequence items.reverse

def setintersection (arguments : List Value) : Stepwise Value := do
  if arguments.length < 2 then refuse (.countAtLeastTwo arguments.length)
  else
    let lists ← arguments.mapM sequence
    let first ← read lists 0
    let others ← readFrom lists 1
    return .sequence ((distinctBy Value.equal first).filter fun v =>
      others.all fun items => items.any fun item => item.equal v)

def builtinSteps : List (String × (List Value → Stepwise Value)) := [
  ("element", element),
  ("length", length),
  ("chunklist", chunklist),
  ("concat", concat),
  ("coalesce", coalesce),
  ("coalescelist", coalesce),
  ("compact", compact),
  ("distinct", distinct),
  ("index", index),
  ("lookup", lookup),
  ("contains", contains),
  ("keys", keys),
  ("to_list", toList),
  ("to_map", toMap),
  ("merge", merge),
  ("reverse", reverse),
  ("setintersection", setintersection)]

/-! ## Answers -/

/-- The steps end with the value of the call, or with the fault that it refuses its arguments for
under this name. No operation is undefined. -/
inductive Answers (name : String) : Stepwise α → Except CallError α → Prop where
  | value (a : α) : Answers name (.ok a) (.ok a)
  | refusal (fault : ArgumentFault) :
      Answers name (refuse fault) (Collection.refuse name fault)

variable {name : String}

theorem Answers.bind {steps : Stepwise α} {call : Except CallError α} {next : α → Stepwise β}
    {next' : α → Except CallError β} (h : Answers name steps call)
    (hnext : ∀ a, steps = .ok a → Answers name (next a) (next' a)) :
    Answers name (steps >>= next) (call >>= next') := by
  cases h with
  | value a => exact hnext a rfl
  | refusal fault => exact .refusal fault

theorem Answers.ite {p : Prop} [Decidable p] {steps steps' : Stepwise α}
    {call call' : Except CallError α} (h : p → Answers name steps call)
    (h' : ¬ p → Answers name steps' call') :
    Answers name (if p then steps else steps') (if p then call else call') := by
  split
  · next hp => exact h hp
  · next hp => exact h' hp

theorem answers_sequence (name : String) (v : Value) :
    Answers name (sequence v) (Collection.asSequence name v) := by
  cases v <;> constructor

theorem answers_mapping (name : String) (v : Value) :
    Answers name (mapping v) (Collection.asMapping name v) := by
  cases v <;> constructor

theorem answers_key (v : Value) : Answers "to_map" (key v) (Collection.keyOf v) := by
  cases v <;> constructor

theorem answers_sequences (name : String) (arguments : List Value) :
    Answers name (arguments.mapM sequence) (Collection.asSequences name arguments) := by
  induction arguments with
  | nil => exact .value []
  | cons v vs ih =>
    rw [List.mapM_cons, Collection.asSequences]
    apply (answers_sequence name v).bind
    intro items _
    apply ih.bind
    intro lists _
    exact .value _

/-! A function of one or two arguments refuses all other counts before it reads any argument. -/

section

variable {f : Function} {steps : List Value → Stepwise Value}

theorem answers_unary (hnone : f [] = Collection.refuse name (.count 1 0))
    (hmany : ∀ v w rest, f (v :: w :: rest) =
      Collection.refuse name (.count 1 (v :: w :: rest).length))
    (h : ∀ v, Answers name (steps [v]) (f [v])) (arguments : List Value) :
    Answers name (expect 1 arguments >>= fun _ => steps arguments) (f arguments) := by
  rcases arguments with _ | ⟨v, _ | ⟨w, rest⟩⟩
  · rw [hnone]
    exact .refusal _
  · exact h v
  · rw [hmany, expect, if_neg (by simp)]
    exact .refusal _

theorem answers_binary (hnone : f [] = Collection.refuse name (.count 2 0))
    (hone : ∀ v, f [v] = Collection.refuse name (.count 2 1))
    (hmany : ∀ v w x rest, f (v :: w :: x :: rest) =
      Collection.refuse name (.count 2 (v :: w :: x :: rest).length))
    (h : ∀ v w, Answers name (steps [v, w]) (f [v, w])) (arguments : List Value) :
    Answers name (expect 2 arguments >>= fun _ => steps arguments) (f arguments) := by
  rcases arguments with _ | ⟨v, _ | ⟨w, _ | ⟨x, rest⟩⟩⟩
  · rw [hnone]
    exact .refusal _
  · rw [hone]
    exact .refusal _
  · exact h v w
  · rw [hmany, expect, if_neg (by simp)]
    exact .refusal _

end

/-! Every guard is the condition under which the operation behind it is defined. -/

theorem read_of_lt {xs : List α} {i : ℕ} (h : i < xs.length) (default : α) :
    read xs i = .ok (xs.getD i default) := by
  unfold read
  rw [List.getElem?_eq_getElem h, List.getD_eq_getElem _ _ h]

theorem remainder_of_pos (m : ℕ) {n : ℕ} (h : 0 < n) : remainder m n = .ok (m % n) :=
  if_neg h.ne'

theorem cut_of_pos {size : ℕ} (h : 0 < size) (xs : List α) : cut size xs = .ok (chunks size xs) :=
  if_neg h.ne'

theorem answers_element (arguments : List Value) :
    Answers "element" (element arguments) (Collection.element arguments) := by
  apply answers_binary rfl (fun _ => rfl) (fun _ _ _ _ => rfl)
  intro collection index
  apply (answers_sequence "element" collection).bind
  intro items _
  apply Answers.ite
  · intro _
    exact .refusal _
  · intro hitems
    have hpos : 0 < items.length := by
      rw [List.isEmpty_iff] at hitems
      exact List.length_pos_iff.mpr hitems
    change Answers "element" (match index.index? with | none => _ | some i => _) _
    cases index.index? with
    | none => exact .refusal _
    | some i =>
      apply Answers.ite
      · intro _
        exact .refusal _
      · intro _
        rw [remainder_of_pos _ hpos]
        change Answers "element" (read items (i.toNat % items.length)) _
        rw [read_of_lt (Nat.mod_lt _ hpos) .null]
        exact .value _

theorem answers_length (arguments : List Value) :
    Answers "length" (length arguments) (Collection.length arguments) := by
  apply answers_unary rfl
  · intro v w rest
    cases v <;> rfl
  · intro v
    cases v <;> constructor

theorem answers_chunklist (arguments : List Value) :
    Answers "chunklist" (chunklist arguments) (Collection.chunklist arguments) := by
  apply answers_binary rfl (fun _ => rfl) (fun _ _ _ _ => rfl)
  intro collection size
  apply (answers_sequence "chunklist" collection).bind
  intro items _
  change Answers "chunklist" (match size.index? with | some n => _ | none => _) _
  cases size.index? with
  | none => exact .refusal _
  | some n =>
    apply Answers.ite
    · intro hn
      rw [cut_of_pos (Int.pos_iff_toNat_pos.mp hn)]
      exact .value _
    · intro _
      exact .refusal _

theorem answers_concat (arguments : List Value) :
    Answers "concat" (concat arguments) (Collection.concat arguments) := by
  apply (answers_sequences "concat" arguments).bind
  intro lists _
  exact .value _

theorem answers_coalesce (name : String) (arguments : List Value) :
    Answers name (coalesce arguments) (Collection.coalesce arguments) := .value _

theorem answers_ofSequence {f : Function} (value : List Value → Value)
    (hnone : f [] = Collection.refuse name (.count 1 0))
    (hmany : ∀ v w rest, f (v :: w :: rest) =
      Collection.refuse name (.count 1 (v :: w :: rest).length))
    (h : ∀ v, f [v] = Collection.asSequence name v >>= fun items => .ok (value items))
    (arguments : List Value) :
    Answers name (do
      expect 1 arguments
      let items ← sequence (← read arguments 0)
      return value items) (f arguments) := by
  apply answers_unary hnone hmany
  intro v
  rw [h]
  apply (answers_sequence name v).bind
  intro items _
  exact .value _

theorem answers_compact (arguments : List Value) :
    Answers "compact" (compact arguments) (Collection.compact arguments) := by
  apply answers_ofSequence _ rfl (fun _ _ _ => rfl)
  intro v
  rfl

theorem answers_distinct (arguments : List Value) :
    Answers "distinct" (distinct arguments) (Collection.distinct arguments) := by
  apply answers_ofSequence _ rfl (fun _ _ _ => rfl)
  intro v
  rfl

theorem answers_index (arguments : List Value) :
    Answers "index" (index arguments) (Collection.index arguments) := by
  apply answers_binary rfl (fun _ => rfl) (fun _ _ _ _ => rfl)
  intro collection v
  apply (answers_sequence "index" collection).bind
  intro items _
  change Answers "index" (match items.findIdx? _ with | some i => _ | none => _) _
  cases items.findIdx? fun item => item.equal v <;> exact .value _

theorem answers_lookupOr (collection key default : Value) :
    Answers "lookup" (mapping collection >>= fun entries => match key with
      | .string key => .ok ((entries.get? key).getD default)
      | v => refuse (.keyNotString v.kind)) (Collection.lookupOr collection key default) := by
  apply (answers_mapping "lookup" collection).bind
  intro entries _
  cases key <;> constructor

theorem answers_lookup (arguments : List Value) :
    Answers "lookup" (lookup arguments) (Collection.lookup arguments) := by
  rcases arguments with _ | ⟨collection, _ | ⟨key, _ | ⟨default, _ | ⟨v, rest⟩⟩⟩⟩
  · exact .refusal _
  · exact .refusal _
  · exact answers_lookupOr collection key .null
  · exact answers_lookupOr collection key default
  · rw [lookup, if_neg (by simp)]
    exact .refusal _

theorem answers_contains (arguments : List Value) :
    Answers "contains" (contains arguments) (Collection.contains arguments) := by
  apply answers_binary rfl
  · intro container
    cases container <;> rfl
  · intro container v w rest
    cases container <;> cases v <;> rfl
  · intro container v
    cases container <;> cases v <;> constructor

theorem answers_keys (arguments : List Value) :
    Answers "keys" (keys arguments) (Collection.keys arguments) := by
  apply answers_unary rfl (fun _ _ _ => rfl)
  intro collection
  apply (answers_mapping "keys" collection).bind
  intro entries _
  exact .value _

theorem answers_toList (arguments : List Value) :
    Answers "to_list" (toList arguments) (Collection.toList arguments) := .value _

/-- An even number of arguments is cut into pairs, so both elements of each are there. -/
theorem answers_addPairs : ∀ (entries : Entries Value) (arguments : List Value),
    arguments.length % 2 = 0 → Answers "to_map" ((chunks 2 arguments).foldlM setPair entries)
      (Collection.addPairs entries arguments)
  | entries, [], _ => by
    rw [chunks_nil]
    exact .value entries
  | _, [_], h => absurd h (by simp)
  | entries, k :: v :: rest, h => by
    rw [chunks_cons, List.foldlM_cons, Collection.addPairs]
    change Answers "to_map" ((key k >>= fun k => .ok (entries.set k v)) >>= fun entries =>
      (chunks 2 rest).foldlM setPair entries) _
    rw [bind_assoc]
    apply (answers_key k).bind
    intro k _
    rw [List.length_cons, List.length_cons] at h
    exact answers_addPairs (entries.set k v) rest (by omega)

theorem answers_toMap (arguments : List Value) :
    Answers "to_map" (toMap arguments) (Collection.toMap arguments) := by
  unfold toMap
  rw [remainder_of_pos _ (by decide), cut_of_pos (by decide)]
  apply Answers.ite
  · intro _
    exact .refusal _
  · intro heven
    apply (answers_addPairs [] arguments (by simpa using heven)).bind
    intro entries _
    exact .value _

theorem answers_addMappings (entries : Entries Value) (arguments : List Value) :
    Answers "merge" (arguments.foldlM setEntries entries)
      (Collection.addMappings entries arguments) := by
  induction arguments generalizing entries with
  | nil => exact .value entries
  | cons v vs ih =>
    rw [List.foldlM_cons, setEntries, Collection.addMappings, bind_assoc]
    apply (answers_mapping "merge" v).bind
    intro more _
    exact ih _

theorem answers_merge (arguments : List Value) :
    Answers "merge" (merge arguments) (Collection.merge arguments) := by
  apply (answers_addMappings [] arguments).bind
  intro entries _
  exact .value _

theorem answers_reverse (arguments : List Value) :
    Answers "reverse" (reverse arguments) (Collection.reverse arguments) := by
  apply answers_ofSequence _ rfl (fun _ _ _ => rfl)
  intro v
  rfl

theorem mapM_sequence_ne_nil (v : Value) (vs : List Value) : (v :: vs).mapM sequence ≠ .ok [] := by
  rw [List.mapM_cons]
  cases sequence v with
  | error halt => exact nofun
  | ok items => cases vs.mapM sequence <;> exact nofun

theorem answers_setintersection (arguments : List Value) :
    Answers "setintersection" (setintersection arguments)
      (Collection.setintersection arguments) := by
  apply Answers.ite
  · intro _
    exact .refusal _
  · intro hlen
    apply (answers_sequences "setintersection" arguments).bind
    intro lists hlists
    cases lists with
    | nil =>
      cases arguments with
      | nil => exact absurd (by decide) hlen
      | cons v vs => exact absurd hlists (mapM_sequence_ne_nil v vs)
    | cons first others => exact .value _

/-! ## All built-in functions -/

theorem answers_builtins : List.Forall₂ (fun builtin steps => builtin.1 = steps.1 ∧
    ∀ arguments, Answers builtin.1 (steps.2 arguments) (builtin.2 arguments))
    Registry.builtinFunctions builtinSteps :=
  .cons ⟨rfl, answers_element⟩ <| .cons ⟨rfl, answers_length⟩ <|
  .cons ⟨rfl, answers_chunklist⟩ <| .cons ⟨rfl, answers_concat⟩ <|
  .cons ⟨rfl, answers_coalesce "coalesce"⟩ <| .cons ⟨rfl, answers_coalesce "coalescelist"⟩ <|
  .cons ⟨rfl, answers_compact⟩ <| .cons ⟨rfl, answers_distinct⟩ <|
  .cons ⟨rfl, answers_index⟩ <| .cons ⟨rfl, answers_lookup⟩ <|
  .cons ⟨rfl, answers_contains⟩ <| .cons ⟨rfl, answers_keys⟩ <|
  .cons ⟨rfl, answers_toList⟩ <| .cons ⟨rfl, answers_toMap⟩ <|
  .cons ⟨rfl, answers_merge⟩ <| .cons ⟨rfl, answers_reverse⟩ <|
  .cons ⟨rfl, answers_setintersection⟩ .nil

theorem exists_steps {function : Function} (h : (name, function) ∈ Registry.builtinFunctions) :
    ∃ steps, (name, steps) ∈ builtinSteps ∧
      ∀ arguments, Answers name (steps arguments) (function arguments) := by
  obtain ⟨i, hi, he⟩ := List.mem_iff_getElem.mp h
  have hi' : i < builtinSteps.length := answers_builtins.length_eq ▸ hi
  obtain ⟨hname, hanswers⟩ := answers_builtins.get hi hi'
  simp only [List.get_eq_getElem, he] at hname hanswers
  refine ⟨builtinSteps[i].2, ?_, hanswers⟩
  rw [hname]
  exact List.getElem_mem hi'

theorem exists_fault_of_builtin {function : Function} {arguments : List Value} {e : CallError}
    (h : (name, function) ∈ Registry.builtinFunctions) (he : function arguments = .error e) :
    ∃ fault, e = .invalidArguments name fault := by
  obtain ⟨steps, -, hsteps⟩ := exists_steps h
  have hanswers := hsteps arguments
  rw [he] at hanswers
  generalize steps arguments = result at hanswers
  cases hanswers with
  | refusal fault => exact ⟨fault, rfl⟩

/-- Every call of a built-in function ends. No element that is not there is read, nothing is
divided by zero and no chunks of size zero are cut, and the answer is a value or refuses the
arguments in the name of the function. -/
theorem builtins_guarded (h : name ∈ Registry.builtins.names) (arguments : List Value) :
    ∃ steps, (name, steps) ∈ builtinSteps ∧
      ((∃ v, steps arguments = .ok v ∧ Registry.builtins.call name arguments = .ok v) ∨
        ∃ fault, steps arguments = .error (.refused fault) ∧
          Registry.builtins.call name arguments = .error (.invalidArguments name fault)) := by
  obtain ⟨function, hget⟩ := Registry.mem_names_iff.mp h
  obtain ⟨steps, hmem, hsteps⟩ := exists_steps (Registry.get?_builtins.mp hget)
  refine ⟨steps, hmem, ?_⟩
  rw [Registry.call_of_get?_eq_some hget]
  have hanswers := hsteps arguments
  generalize steps arguments = result at hanswers ⊢
  generalize function arguments = answer at hanswers ⊢
  cases hanswers with
  | value v => exact .inl ⟨v, rfl, rfl⟩
  | refusal fault => exact .inr ⟨fault, rfl, rfl⟩

/-- A remainder by the length of an empty sequence and chunks of size zero are both prevented. -/
theorem builtins_guarded_at_zero :
    let zero : Value := .number (.integer 0 (by decide) (by decide))
    (∃ steps, ("element", steps) ∈ builtinSteps ∧
      steps [.sequence [], zero] = .error (.refused .emptySequence) ∧
      Registry.builtins.call "element" [.sequence [], zero] =
        .error (.invalidArguments "element" .emptySequence)) ∧
    ∃ steps, ("chunklist", steps) ∈ builtinSteps ∧
      steps [.sequence [zero], zero] = .error (.refused (.chunkSize zero)) ∧
      Registry.builtins.call "chunklist" [.sequence [zero], zero] =
        .error (.invalidArguments "chunklist" (.chunkSize zero)) := by
  intro zero
  have refuses {name : String} {arguments : List Value} {fault : ArgumentFault}
      (hname : name ∈ Registry.builtins.names)
      (hcall : Registry.builtins.call name arguments = .error (.invalidArguments name fault)) :
      ∃ steps, (name, steps) ∈ builtinSteps ∧ steps arguments = .error (.refused fault) ∧
        Registry.builtins.call name arguments = .error (.invalidArguments name fault) := by
    obtain ⟨steps, hmem, ⟨v, -, hv⟩ | ⟨fault', hsteps, hfault⟩⟩ := builtins_guarded hname arguments
    · exact absurd (hcall.symm.trans hv) (by simp)
    · obtain ⟨-, rfl⟩ := CallError.invalidArguments.inj
        (Except.error.inj (hcall.symm.trans hfault))
      exact ⟨steps, hmem, hsteps, hcall⟩
  constructor
  · apply refuses <;> decide +kernel
  · apply refuses <;> decide +kernel

end Stepwise

end SnapshotRules
