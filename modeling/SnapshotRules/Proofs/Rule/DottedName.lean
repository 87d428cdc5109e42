import Mathlib
import SnapshotRules.Rule.Parser

/-! # Dotted names

A dotted name falls into its parts at the points. Joining the parts again gives the name, and
parts without points are the parts of the name that joins them.
-/

namespace SnapshotRules

def dotted (parts : List String) : String :=
  String.ofList (joined ['.'] (parts.map String.toList))

/-- Neither empty nor with a point inside. -/
def IsPart (part : String) : Prop := part ≠ "" ∧ '.' ∉ part.toList

@[simp] theorem joined_nil (separator : List Char) : joined separator [] = [] := rfl

@[simp] theorem joined_singleton (separator part : List Char) :
    joined separator [part] = part := rfl

@[simp] theorem joined_cons_cons (separator part next : List Char) (rest : List (List Char)) :
    joined separator (part :: next :: rest) =
      part ++ separator ++ joined separator (next :: rest) := rfl

namespace Parser

theorem parts_cons_of_ne {c : Char} {cs part : List Char} {rest : List (List Char)}
    (hc : c ≠ '.') (h : parts cs = part :: rest) : parts (c :: cs) = (c :: part) :: rest := by
  simp [parts, hc, h]

theorem parts_point (cs : List Char) : parts ('.' :: cs) = [] :: parts cs := by
  simp [parts]

theorem exists_parts (cs : List Char) : ∃ part rest, parts cs = part :: rest := by
  induction cs with
  | nil => exact ⟨[], [], rfl⟩
  | cons c cs ih =>
    obtain ⟨part, rest, h⟩ := ih
    by_cases hc : c = '.'
    · subst hc; exact ⟨[], _, parts_point cs⟩
    · exact ⟨_, _, parts_cons_of_ne hc h⟩

theorem parts_of_not_mem {part : List Char} (h : '.' ∉ part) : parts part = [part] := by
  induction part with
  | nil => rfl
  | cons c part ih =>
    obtain ⟨hc, hp⟩ := List.ne_and_not_mem_of_not_mem_cons h
    exact parts_cons_of_ne hc.symm (ih hp)

theorem parts_append_point {part : List Char} (h : '.' ∉ part) (cs : List Char) :
    parts (part ++ '.' :: cs) = part :: parts cs := by
  induction part with
  | nil => exact parts_point cs
  | cons c part ih =>
    obtain ⟨hc, hp⟩ := List.ne_and_not_mem_of_not_mem_cons h
    exact parts_cons_of_ne hc.symm (ih hp)

theorem parts_joined : ∀ {ps : List (List Char)}, ps ≠ [] → (∀ p ∈ ps, '.' ∉ p) →
    parts (joined ['.'] ps) = ps
  | [], h, _ => absurd rfl h
  | [p], _, h => parts_of_not_mem (h p List.mem_cons_self)
  | p :: q :: ps, _, h => by
    rw [joined_cons_cons, List.append_assoc, List.singleton_append,
      parts_append_point (h p List.mem_cons_self),
      parts_joined (List.cons_ne_nil q ps) fun r hr => h r (List.mem_cons_of_mem p hr)]

theorem joined_cons_head (c : Char) (part : List Char) (rest : List (List Char)) :
    joined ['.'] ((c :: part) :: rest) = c :: joined ['.'] (part :: rest) := by
  cases rest <;> rfl

theorem joined_parts (cs : List Char) : joined ['.'] (parts cs) = cs := by
  induction cs with
  | nil => rfl
  | cons c cs ih =>
    obtain ⟨part, rest, h⟩ := exists_parts cs
    by_cases hc : c = '.'
    · subst hc
      rw [parts_point, h, joined_cons_cons, ← h, ih]
      rfl
    · rw [parts_cons_of_ne hc h, joined_cons_head, ← h, ih]

theorem point_not_mem_parts (cs : List Char) : ∀ part ∈ parts cs, '.' ∉ part := by
  induction cs with
  | nil => simp [parts]
  | cons c cs ih =>
    obtain ⟨part, rest, h⟩ := exists_parts cs
    by_cases hc : c = '.'
    · subst hc
      rw [parts_point]
      simpa using ih
    · rw [parts_cons_of_ne hc h]
      rw [h] at ih
      simp only [List.mem_cons, forall_eq_or_imp] at ih ⊢
      refine ⟨?_, ih.2⟩
      rintro (hp | hp)
      · exact hc hp.symm
      · exact ih.1 hp

theorem parts_dotted {ps : List String} (hn : ps ≠ []) (h : ∀ p ∈ ps, IsPart p) :
    parts (dotted ps).toList = ps.map String.toList := by
  rw [dotted, String.toList_ofList]
  refine parts_joined (by simpa using hn) fun p hp => ?_
  obtain ⟨q, hq, rfl⟩ := List.mem_map.mp hp
  exact (h q hq).2

theorem path?_dotted {reference : String} {segments : List String}
    (h : ∀ part ∈ reference :: segments, IsPart part) :
    path? (dotted (reference :: segments)) = some (.path (some reference) segments) := by
  have hn : [] ∉ (reference :: segments).map String.toList := by
    intro hm
    obtain ⟨part, hp, he⟩ := List.mem_map.mp hm
    exact (h part hp).1 (String.toList_eq_nil_iff.mp he)
  rw [path?, parts_dotted (List.cons_ne_nil _ _) h]
  simp only [List.map_cons] at hn ⊢
  simp [hn, String.ofList_toList, Function.comp_def]

/-- The paths are the dotted names without empty parts. -/
theorem path?_eq_some {name : String} {o : Operand} (h : path? name = some o) :
    ∃ reference segments, (∀ part ∈ reference :: segments, IsPart part) ∧
      name = dotted (reference :: segments) ∧ o = .path (some reference) segments := by
  obtain ⟨part, rest, hp⟩ := exists_parts name.toList
  have hj := joined_parts name.toList
  have hpoint := point_not_mem_parts name.toList
  simp only [path?, hp] at h hj hpoint
  split at h
  · exact absurd h (by simp)
  · next hn =>
    refine ⟨String.ofList part, rest.map String.ofList, ?_, ?_, (Option.some.inj h).symm⟩
    · rw [← List.map_cons]
      intro s hs
      obtain ⟨q, hq, rfl⟩ := List.mem_map.mp hs
      refine ⟨fun he => hn ?_, by simpa using hpoint q hq⟩
      rwa [String.ofList_eq_empty_iff.mp he] at hq
    · rw [dotted, ← List.map_cons, List.map_map]
      simp only [Function.comp_def, String.toList_ofList, List.map_id', hj, String.ofList_toList]

end Parser

theorem dotted_inj {ps qs : List String} (hp : ps ≠ []) (hq : qs ≠ [])
    (hps : ∀ p ∈ ps, IsPart p) (hqs : ∀ q ∈ qs, IsPart q) (h : dotted ps = dotted qs) :
    ps = qs := by
  have hm : ps.map String.toList = qs.map String.toList := by
    rw [← Parser.parts_dotted hp hps, ← Parser.parts_dotted hq hqs, h]
  exact (List.map_inj_right fun _ _ => String.toList_inj.mp).mp hm

end SnapshotRules
