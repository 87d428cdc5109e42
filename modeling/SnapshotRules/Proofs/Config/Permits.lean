import Mathlib
import SnapshotRules.Batch.Concurrent
import SnapshotRules.Definition.Loading
import SnapshotRules.Proofs.Config.Overriding
import SnapshotRules.Proofs.Record.RoundTrip
import SnapshotRules.Proofs.Rule.Numbers

/-! # Permits of accepted configurations

A concurrent batch has as many permits as its configuration says. Every number from one to the
largest of 64 bits is accepted, although not that many permits can be given out.
-/

namespace SnapshotRules.Config

variable {lookup : String → Option String} {c d : Config} {limit n : Nat} {text : String}

/-! ## Numbers in overrides -/

theorem readNumber?_lt (h : readNumber? limit text = some n) : n < limit := by
  have digits {cs : List Char} (h : readDigits? limit cs = some n) : n < limit := by
    unfold readDigits? at h
    split at h
    · next hd => exact Option.some.inj h ▸ hd.2.2
    · exact absurd h (by simp)
  unfold readNumber? readNatural? at h
  split at h <;> exact digits h

theorem readNatural?_of_allDigits {cs : List Char} (hn : cs ≠ []) (hd : AllDigits cs)
    (h : digitsValue cs < limit) : readNatural? limit cs = some (digitsValue cs) := by
  unfold readNatural?
  split
  · exact absurd (hd '+' List.mem_cons_self) (by decide)
  · exact if_pos ⟨hn, List.all_eq_true.mpr hd, h⟩

theorem readNumber?_decimalText (h : n < limit) : readNumber? limit (decimalText n) = some n := by
  have hd := allDigits_digitsOf n
  have htrimmed : trimmed (digitsOf n) = digitsOf n := by
    have hb : Blank [] := fun c hc => absurd hc List.not_mem_nil
    have ht := trimmed_of_blank hb hb (digitsOf_ne_nil n) hd.not_blank
    rwa [List.nil_append, List.append_nil] at ht
  rw [readNumber?, decimalText, String.toList_ofList, htrimmed,
    readNatural?_of_allDigits (digitsOf_ne_nil n) hd (by rwa [digitsValue_digitsOf]),
    digitsValue_digitsOf]

/-! ## Accepted overrides -/

theorem overridden_eq_ok_iff :
    c.overridden lookup = .ok d ↔ Applies lookup overrides c d ∧ d.fault? = none := by
  constructor
  · intro h
    obtain ⟨before, after, d', hos, hd, ⟨rfl, he⟩ | ⟨o, rest, fault, -, -, he⟩⟩ :=
      exists_applies lookup overrides c
    · rw [List.append_nil] at hos
      rw [overridden, he] at h
      cases hf : d'.fault? with
      | some fault => exact absurd (hf ▸ h) (by simp)
      | none =>
        obtain rfl : d' = d := Except.ok.inj (hf ▸ h)
        exact ⟨hos ▸ hd, hf⟩
    · rw [overridden, he] at h
      exact absurd h (by simp)
  · rintro ⟨hd, hf⟩
    rw [overridden, applyOverrides_of_applies hd, hf]

theorem Applies.fields_overrides (h : Applies lookup overrides c d) :
    List.Forall₂ (fun o name => (o.given? lookup c).map (field · name) = some (d.field name))
      overrides fieldNames :=
  h.fields sets_overrides (by decide) fun _ _ => rfl

theorem field_concurrency (c : Config) :
    c.field "concurrency" = some (.ofNat c.concurrency.toNat) := by
  simp [field_eq]

theorem ofNat_toNat_inj {m n : UInt64} (h : Value.ofNat m.toNat = Value.ofNat n.toNat) : m = n := by
  have hm := natural?_uint64 m
  rw [h, natural?_uint64 n] at hm
  exact (Option.some.inj hm).symm

theorem eq_of_field_concurrency (h : c.field "concurrency" = d.field "concurrency") :
    c.concurrency = d.concurrency := by
  rw [field_concurrency, field_concurrency] at h
  exact ofNat_toNat_inj (Option.some.inj h)

def concurrencyKey : String := "SNAPCHECK_CONCURRENCY"

theorem Applies.concurrency_eq (h : Applies lookup overrides c d) :
    (∀ text, lookup concurrencyKey = some text →
      readNumber? (2 ^ 64) text = some d.concurrency.toNat) ∧
    (lookup concurrencyKey = none → d.concurrency = c.concurrency) := by
  have hall := h.fields_overrides
  simp only [overrides, fieldNames, List.forall₂_cons, Override.given?] at hall
  obtain ⟨-, -, hc, -⟩ := hall
  constructor
  · intro text hl
    rw [concurrencyKey] at hl
    simp only [hl, Option.map_map, Option.map_eq_some_iff] at hc
    obtain ⟨n, hr, hf⟩ := hc
    have hd : UInt64.ofNat n = d.concurrency := eq_of_field_concurrency hf
    rw [hr, ← hd, UInt64.toNat_ofNat_of_lt' (readNumber?_lt hr)]
  · intro hl
    rw [concurrencyKey] at hl
    simp only [hl, Option.map_some] at hc
    exact (eq_of_field_concurrency (Option.some.inj hc)).symm

theorem Override.Sets.isSome_given? {o : Override} {name : String} (hs : o.Sets name)
    (c d : Config) : (o.given? lookup c).isSome = (o.given? lookup d).isSome := by
  unfold given?
  split
  · rfl
  · next text _ => simpa using congrArg Option.isSome (hs.field_congr c d text)

theorem Applies.isSome_given? (h : Applies lookup overrides c d) :
    ∀ o ∈ overrides, (o.given? lookup c).isSome := by
  have hall := h.fields_overrides
  refine ((List.forall₂_and_left _ _).mp (hall.imp fun o name ho => ⟨?_, ho⟩)).1
  rw [← Option.isSome_map, ho, Option.isSome_some]

theorem exists_applies_overrides (h : ∀ o ∈ overrides, (o.given? lookup c).isSome) :
    ∃ d, Applies lookup overrides c d := by
  obtain ⟨before, after, d, hos, hd, ⟨rfl, -⟩ | ⟨o, rest, fault, rfl, ⟨text, hl, hn, -⟩, -⟩⟩ :=
    exists_applies lookup overrides c
  · exact ⟨d, by rwa [hos, List.append_nil]⟩
  · have ho : o ∈ overrides := by simp [hos]
    have hsets : ∀ o ∈ overrides, ∃ name, o.Sets name :=
      ((List.forall₂_and_left _ _).mp (sets_overrides.imp fun o name hs => ⟨⟨name, hs⟩, hs⟩)).1
    obtain ⟨name, hs⟩ := hsets o ho
    have hsome := h o ho
    rw [hs.isSome_given? c d] at hsome
    simp only [Override.given?, hl, hn] at hsome
    exact absurd hsome (by simp)

theorem Override.given?_update_of_ne {o : Override} {key : String} {text : Option String}
    (h : o.key ≠ key) (c : Config) :
    o.given? (Function.update lookup key text) c = o.given? lookup c := by
  rw [given?, given?, Function.update_of_ne h]

theorem fault?_eq_none_iff :
    c.fault? = none ↔ c.concurrency ≠ 0 ∧ trimmed c.defaultCollection.toList ≠ [] := by
  unfold fault?
  split <;> simp_all

theorem Applies.defaultCollection_eq_of_update {key : String} {text : Option String} {d' : Config}
    (h : Applies lookup overrides c d)
    (h' : Applies (Function.update lookup key text) overrides c d')
    (hne : "SNAPCHECK_DEFAULT_COLLECTION" ≠ key) : d'.defaultCollection = d.defaultCollection := by
  have hall := h.fields_overrides
  have hall' := h'.fields_overrides
  simp only [overrides, fieldNames, List.forall₂_cons] at hall hall'
  obtain ⟨-, hc, -⟩ := hall
  obtain ⟨-, hc', -⟩ := hall'
  rw [Override.given?_update_of_ne hne, hc] at hc'
  simpa [field_eq] using hc'.symm

/-- The override of the concurrency means something with any number, and the others mean what they
have meant. -/
theorem isSome_given?_update (h : ∀ o ∈ overrides, (o.given? lookup c).isSome) (hn : n < 2 ^ 64) :
    ∀ o ∈ overrides,
      (o.given? (Function.update lookup concurrencyKey (some (decimalText n))) c).isSome := by
  intro o ho
  have hsome := h o ho
  by_cases hkey : o.key = concurrencyKey
  · simp only [overrides, List.mem_cons, List.not_mem_nil, or_false] at ho
    rcases ho with rfl | rfl | rfl | rfl
    · exact absurd hkey (by decide)
    · exact absurd hkey (by decide)
    · rw [Override.given?, hkey, Function.update_self]
      simp only [readNumber?_decimalText hn, Option.map_some, Option.isSome_some]
    · exact absurd hkey (by decide)
  · rwa [Override.given?_update_of_ne hkey]

theorem exists_applies_update (h : Applies lookup overrides c d) (hf : d.fault? = none)
    (hpos : 1 ≤ n) (hn : n < 2 ^ 64) :
    ∃ d', Applies (Function.update lookup concurrencyKey (some (decimalText n))) overrides c d' ∧
      d'.fault? = none ∧ d'.concurrency.toNat = n := by
  obtain ⟨d', hd'⟩ := exists_applies_overrides (isSome_given?_update h.isSome_given? hn)
  have hconcurrency : d'.concurrency.toNat = n := by
    have hread := hd'.concurrency_eq.1 _ (Function.update_self ..)
    exact Option.some.inj (hread.symm.trans (readNumber?_decimalText hn))
  obtain ⟨-, hcollection⟩ := fault?_eq_none_iff.mp hf
  refine ⟨d', hd', fault?_eq_none_iff.mpr ⟨?_, ?_⟩, hconcurrency⟩
  · intro hzero
    rw [hzero, UInt64.toNat_zero] at hconcurrency
    omega
  · rwa [h.defaultCollection_eq_of_update hd' (by decide)]

/-! ## Loading -/

/-- What a configuration is before it is overridden: the default, or that of a file. -/
def base (path : Option String) (files : String → FileEntry) : Except LoadError Config :=
  match path with
  | none => .ok default
  | some path => ((existingText path).answer files).bind ofText

theorem answer_load (path : Option String) (lookup : String → Option String)
    (files : String → FileEntry) :
    (load path lookup).answer files =
      (base path files).bind fun c => (c.overridden lookup).mapError .config := by
  cases path <;> simp only [load, base, Reading.answer_bind, Reading.answer_pure]

theorem bind_eq_ok_iff {ε α β : Type} {result : Except ε α} {f : α → Except ε β} {b : β} :
    result.bind f = .ok b ↔ ∃ a, result = .ok a ∧ f a = .ok b := by
  cases result <;> simp [Except.bind]

theorem mapError_eq_ok_iff {ε ε' α : Type} {result : Except ε α} {f : ε → ε'} {a : α} :
    result.mapError f = .ok a ↔ result = .ok a := by
  cases result <;> simp [Except.mapError]

theorem answer_load_eq_ok_iff {path : Option String} {files : String → FileEntry} :
    (load path lookup).answer files = .ok d ↔
      ∃ c, base path files = .ok c ∧ Applies lookup overrides c d ∧ d.fault? = none := by
  simp only [answer_load, bind_eq_ok_iff, mapError_eq_ok_iff, overridden_eq_ok_iff]

theorem validated_eq_ok_iff : c.validated = .ok d ↔ c = d ∧ d.fault? = none := by
  unfold validated
  constructor
  · intro h
    split at h
    · exact absurd h (by simp)
    · next hf => exact Except.ok.inj h ▸ ⟨rfl, hf⟩
  · rintro ⟨rfl, hf⟩
    rw [hf]

theorem fault?_of_ofText (h : ofText text = .ok c) : c.fault? = none := by
  unfold ofText at h
  split at h
  · exact (validated_eq_ok_iff.mp (mapError_eq_ok_iff.mp h)).2
  · exact absurd h (by simp)

theorem fault?_of_base {path : Option String} {files : String → FileEntry}
    (h : base path files = .ok c) : c.fault? = none := by
  unfold base at h
  split at h
  · exact Except.ok.inj h ▸ by decide
  · obtain ⟨text, -, h⟩ := bind_eq_ok_iff.mp h
    exact fault?_of_ofText h

theorem applies_without_overrides (os : List Override) (c : Config) :
    Applies (fun _ => none) os c c := by
  induction os with
  | nil => exact .nil c
  | cons o rest ih => exact .cons rfl ih

theorem answer_load_without_overrides {path : Option String} {files : String → FileEntry}
    (h : base path files = .ok c) : (load path fun _ => none).answer files = .ok c :=
  answer_load_eq_ok_iff.mpr ⟨c, h, applies_without_overrides overrides c, fault?_of_base h⟩

/-! ## Permits -/

/-- The permits that a concurrent batch asks for under a configuration. -/
def permits (c : Config) : Nat := Permits.requested c.concurrency.toNat

theorem permits_eq (hf : c.fault? = none) : c.permits = c.concurrency.toNat := by
  have hpos : c.concurrency.toNat ≠ 0 := fun h =>
    (fault?_eq_none_iff.mp hf).1 (UInt64.toNat_inj.mp (h.trans UInt64.toNat_zero.symm))
  exact max_eq_left (Nat.one_le_iff_ne_zero.mpr hpos)

/-- Under an accepted configuration a concurrent batch asks for as many permits as its override
says, or without an override for as many as without any. They lie between one and `maxPermits`
unless the concurrency itself is larger, and then every batch breaks off. With the concurrency
overridden every number from one to the largest of 64 bits is accepted as well, and that many
permits follow. -/
theorem permits_of_load {path : Option String} {environment : String → Option String}
    {files : String → FileEntry} (h : (load path environment).answer files = .ok c) :
    c.permits = c.concurrency.toNat ∧
      (1 ≤ c.permits ∧ c.permits ≤ maxPermits ↔ c.concurrency.toNat ≤ maxPermits) ∧
      (∀ {σ : Type} (ctx : Context σ) registry cases state,
        (ctx.runConcurrent? registry c.concurrency.toNat cases state).isSome ↔
          c.permits ≤ maxPermits) ∧
      (∀ text, environment concurrencyKey = some text →
        readNumber? (2 ^ 64) text = some c.permits) ∧
      (environment concurrencyKey = none → ∃ b,
        (load path fun _ => none).answer files = .ok b ∧ c.permits = b.permits) ∧
      ∀ n, 1 ≤ n → n < 2 ^ 64 → ∃ d,
        (load path (Function.update environment concurrencyKey (some (decimalText n)))).answer
          files = .ok d ∧ d.permits = n := by
  obtain ⟨b, hb, hc, hf⟩ := answer_load_eq_ok_iff.mp h
  have hpermits : c.permits = c.concurrency.toNat := permits_eq hf
  have hpos : 1 ≤ c.permits := le_max_right ..
  refine ⟨hpermits, ?_, fun ctx registry cases state => ?_, fun text ht => ?_, fun hn => ?_,
    fun n hpos hn => ?_⟩
  · rw [and_iff_right hpos, hpermits]
  · rw [hpermits]
    exact Context.isSome_runConcurrent?_iff
  · rw [hpermits]
    exact hc.concurrency_eq.1 text ht
  · refine ⟨b, answer_load_without_overrides hb, ?_⟩
    rw [permits, hc.concurrency_eq.2 hn, permits]
  · obtain ⟨d, hd, hdf, rfl⟩ := exists_applies_update hc hf hpos hn
    exact ⟨d, answer_load_eq_ok_iff.mpr ⟨b, hb, hd, hdf⟩, permits_eq hdf⟩

/-- There are four permits, or any other number with another override. -/
theorem permits_of_load_four :
    let environment (key : String) : Option String :=
      if key = concurrencyKey then some " 4 " else none
    let files (_ : String) : FileEntry := .missing
    ∃ c, (load none environment).answer files = .ok c ∧ c.permits = 4 ∧
      ∃ d, (load none (Function.update environment concurrencyKey
        (some (decimalText maxPermits)))).answer files = .ok d ∧ d.permits = maxPermits := by
  intro environment files
  have h : (load none environment).answer files = .ok { default with concurrency := 4 } := by
    decide
  obtain ⟨hpermits, -, -, -, -, hall⟩ := permits_of_load h
  exact ⟨_, h, hpermits, hall maxPermits (by decide) (by decide)⟩

/-- An override with one permit too many is accepted, and no concurrent batch can run. -/
theorem exceeds_maxPermits_two_pow_61 :
    let environment (key : String) : Option String :=
      if key = concurrencyKey then some "2305843009213693952" else none
    let files (_ : String) : FileEntry := .missing
    ∃ c, (load none environment).answer files = .ok c ∧ c.permits = maxPermits + 1 ∧
      Permits.of? c.concurrency.toNat = none :=
  ⟨{ default with concurrency := 2305843009213693952 }, by decide, by decide, by decide⟩

end SnapshotRules.Config
