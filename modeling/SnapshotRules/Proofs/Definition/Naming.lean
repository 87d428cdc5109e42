import Mathlib
import SnapshotRules.Definition.Tests
import SnapshotRules.Proofs.Number.Numerals
import SnapshotRules.Proofs.Rule.DottedName

/-! # Names of cases

The cases of a test file are those that its sets list, in that order. A case without an id is named
by the numbers of its set and of itself, which no other case has.
-/

namespace SnapshotRules

theorem isPart_decimalText (n : Nat) : IsPart (decimalText n) := by
  constructor
  · rw [decimalText, ne_eq, String.ofList_eq_empty_iff]
    exact digitsOf_ne_nil n
  · rw [decimalText, String.toList_ofList]
    intro h
    exact absurd (allDigits_digitsOf n '.' h) (by decide)

theorem decimalText_injective : Function.Injective decimalText := by
  intro m n h
  rw [← digitsValue_digitsOf m, ← digitsValue_digitsOf n, String.ofList_inj.mp h]

namespace TestFile

variable {file : TestFile}

/-- The name is the dotted name of both numbers, so each of them is a part of it. -/
theorem caseName_eq_dotted (set case : Nat) :
    caseName set case = dotted [decimalText set, decimalText case] := by
  rw [caseName, dotted, List.map_cons, List.map_singleton, joined_cons_cons, joined_singleton,
    String.ofList_append, String.ofList_append, String.ofList_toList, String.ofList_toList]

theorem caseName_inj {s c s' c' : Nat} (h : caseName s c = caseName s' c') : s = s' ∧ c = c' := by
  have isPart (m n : Nat) : ∀ part ∈ [decimalText m, decimalText n], IsPart part := by
    simp [isPart_decimalText]
  rw [caseName_eq_dotted, caseName_eq_dotted] at h
  have h := dotted_inj (List.cons_ne_nil _ _) (List.cons_ne_nil _ _) (isPart s c) (isPart s' c') h
  simpa only [List.cons.injEq, decimalText_injective.eq_iff, and_true] using h

/-- The case that is run for a listed one. -/
def caseAt (place : Nat × Nat) (case : TestCase) : Case :=
  ⟨case.testId.getD (caseName place.1 place.2), case.rule⟩

theorem id_caseAt_of_eq_some {place : Nat × Nat} {case : TestCase} {id : String}
    (h : case.testId = some id) : (caseAt place case).id = id := by
  simp [caseAt, h]

theorem id_caseAt_of_eq_none {place : Nat × Nat} {case : TestCase} (h : case.testId = none) :
    (caseAt place case).id = caseName place.1 place.2 := by
  simp [caseAt, h]

/-! ## Places -/

/-- What the sets of a file list, one set after the other. -/
def listed (file : TestFile) : List TestCase := file.testSets.flatMap TestSet.cases

/-- The cases of a set with the number of the set and their own. -/
def placedIn (set : Nat) (cases : List TestCase) : List ((Nat × Nat) × TestCase) :=
  cases.zipIdx.map fun (case, i) => ((set, i + 1), case)

def placed (file : TestFile) : List ((Nat × Nat) × TestCase) :=
  file.testSets.zipIdx.flatMap fun (set, i) => placedIn (i + 1) set.cases

@[simp] theorem map_snd_placedIn (set : Nat) (cases : List TestCase) :
    (placedIn set cases).map Prod.snd = cases := by
  rw [placedIn, List.map_map]
  exact List.zipIdx_map_fst 0 cases

@[simp] theorem length_placedIn (set : Nat) (cases : List TestCase) :
    (placedIn set cases).length = cases.length := by
  rw [placedIn, List.length_map, List.length_zipIdx]

theorem setCases_eq_map (set : Nat) (cases : List TestCase) :
    setCases set cases = (placedIn set cases).map fun (place, case) => caseAt place case := by
  rw [setCases, List.mapIdx_eq_zipIdx_map, placedIn, List.map_map]
  rfl

theorem map_snd_placed (file : TestFile) : file.placed.map Prod.snd = file.listed := by
  simp only [placed, List.map_flatMap, map_snd_placedIn]
  rw [listed, ← List.flatMap_map Prod.fst TestSet.cases, List.zipIdx_map_fst]

theorem cases_eq_map (file : TestFile) :
    file.cases = file.placed.map fun (place, case) => caseAt place case := by
  rw [cases, List.mapIdx_eq_zipIdx_map, ← List.flatMap_def, placed, List.map_flatMap]
  simp only [setCases_eq_map]

def countBefore (file : TestFile) (s : Nat) : Nat :=
  ((file.testSets.map fun set => set.cases.length).take s).sum

theorem getElem?_placed {s c : Nat} {set : TestSet} {case : TestCase}
    (hs : file.testSets[s]? = some set) (hc : set.cases[c]? = some case) :
    file.placed[file.countBefore s + c]? = some ((s + 1, c + 1), case) := by
  let parts := file.testSets.zipIdx.map fun (set, i) => placedIn (i + 1) set.cases
  have hlength : parts.map List.length = file.testSets.map fun set => set.cases.length := by
    have h := congrArg (List.map fun set : TestSet => set.cases.length)
      (List.zipIdx_map_fst 0 file.testSets)
    rw [← h, List.map_map, List.map_map]
    simp only [Function.comp_def, length_placedIn]
  have hpart : parts[s]? = some (placedIn (s + 1) set.cases) := by
    simp [parts, hs]
  obtain ⟨hlt, hpart⟩ := List.getElem?_eq_some_iff.mp hpart
  have hcase : (placedIn (s + 1) set.cases)[c]? = some ((s + 1, c + 1), case) := by
    simp [placedIn, hc]
  rw [placed, List.flatMap_def, countBefore, ← hlength, ← List.getElem?_drop,
    List.drop_sum_flatten, List.drop_eq_getElem_cons hlt, hpart, List.flatten_cons,
    List.getElem?_append_left (List.getElem?_eq_some_iff.mp hcase).1, hcase]

/-! ## Different places -/

theorem nodup_zipIdx {α : Type} (l : List α) : l.zipIdx.Pairwise fun x y => x.2 ≠ y.2 := by
  refine List.pairwise_map.mp ?_
  rw [List.zipIdx_map_snd]
  exact List.nodup_range' 1

theorem nodup_places (file : TestFile) : (file.placed.map Prod.fst).Nodup := by
  simp only [placed, placedIn, List.map_flatMap, List.map_map, Function.comp_def]
  refine List.nodup_flatMap.mpr ⟨?_, ?_⟩
  · rintro ⟨set, i⟩ -
    refine List.pairwise_map.mpr ((nodup_zipIdx set.cases).imp ?_)
    exact fun hne heq => hne (by simpa using heq)
  · refine (nodup_zipIdx file.testSets).imp ?_
    intro x y hne place hx hy
    obtain ⟨_, -, rfl⟩ := List.mem_map.mp hx
    obtain ⟨_, -, heq⟩ := List.mem_map.mp hy
    obtain ⟨hset, -⟩ := Prod.mk.inj heq
    omega

/-! ## Cases -/

/-- The cases are the listed ones, in their order and one for each, with their rules and with the
ids that they have. No two cases without an id have one name. Exactly, a case stands behind those
of the sets before its own and is named by its place, counted from one. -/
theorem cases_as_listed (file : TestFile) :
    List.Forall₂ (fun listed case => case.rule = listed.rule ∧
      ∀ id, listed.testId = some id → case.id = id) file.listed file.cases ∧
    ((file.listed.zip file.cases).Pairwise fun (listed, case) (listed', case') =>
      listed.testId = none → listed'.testId = none → case.id ≠ case'.id) ∧
    ∀ s c set listed, file.testSets[s]? = some set → set.cases[c]? = some listed →
      file.cases[file.countBefore s + c]? =
        some ⟨listed.testId.getD (caseName (s + 1) (c + 1)), listed.rule⟩ := by
  rw [← map_snd_placed, cases_eq_map]
  refine ⟨?_, ?_, ?_⟩
  · rw [List.forall₂_map_left_iff, List.forall₂_map_right_iff, List.forall₂_same]
    rintro ⟨place, listed⟩ -
    exact ⟨rfl, fun id h => id_caseAt_of_eq_some h⟩
  · rw [List.zip_map', List.pairwise_map]
    refine (List.pairwise_map.mp file.nodup_places).imp ?_
    intro x y hne hx hy hid
    rw [id_caseAt_of_eq_none hx, id_caseAt_of_eq_none hy] at hid
    exact hne (Prod.ext_iff.mpr (caseName_inj hid))
  · intro s c set listed hs hc
    rw [List.getElem?_map, getElem?_placed hs hc]
    rfl

/-- The eleventh case of the first set and the first case of the eleventh set. -/
theorem cases_as_listed_one_eleven :
    let case : TestCase := ⟨none, "1 == 1"⟩
    let file : TestFile :=
      ⟨none, ⟨none, List.replicate 11 case⟩ :: List.replicate 10 ⟨none, [case]⟩⟩
    file.cases[10]? = some ⟨"1.11", "1 == 1"⟩ ∧ file.cases[20]? = some ⟨"11.1", "1 == 1"⟩ := by
  intro case file
  obtain ⟨-, -, h⟩ := cases_as_listed file
  have hone : caseName 1 11 = "1.11" := by cbv
  have heleven : caseName 11 1 = "11.1" := by cbv
  have hfirst := h 0 10 _ case rfl rfl
  have hlast := h 10 0 _ case rfl rfl
  exact ⟨hone ▸ hfirst, heleven ▸ hlast⟩

end TestFile

end SnapshotRules
