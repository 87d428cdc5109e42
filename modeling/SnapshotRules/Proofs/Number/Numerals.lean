import Mathlib
import SnapshotRules.Proofs.Number.Rounding
import SnapshotRules.Number.Numeral

/-! # Numerals of printed numbers

The scanner takes a numeral whole when nothing that could continue it follows. The text of
every number is such a numeral, and the numeral denotes the number.
-/

namespace SnapshotRules

def AllDigits (cs : List Char) : Prop := ∀ c ∈ cs, c.isDigit = true

theorem AllDigits.append {cs ds : List Char} (hc : AllDigits cs) (hd : AllDigits ds) :
    AllDigits (cs ++ ds) := fun c h => (List.mem_append.mp h).elim (hc c) (hd c)

theorem AllDigits.of_subset {cs ds : List Char} (hd : AllDigits ds) (h : cs ⊆ ds) :
    AllDigits cs := fun c hc => hd c (h hc)

theorem allDigits_replicate_zero (n : Nat) : AllDigits (List.replicate n '0') := by
  intro c hc
  rw [(List.mem_replicate.mp hc).2]
  rfl

theorem allDigits_digitsOf (n : Nat) : AllDigits (digitsOf n) :=
  fun _ => Nat.isDigit_of_mem_toDigits (by decide) (by decide)

theorem allDigits_takeWhile (cs : List Char) : AllDigits (cs.takeWhile Char.isDigit) :=
  fun _ => List.mem_takeWhile_imp

theorem digitsOf_ne_nil (n : Nat) : digitsOf n ≠ [] :=
  List.ne_nil_of_length_pos Nat.length_toDigits_pos

theorem takeWhile_append_of_head {p : Char → Bool} {cs rest : List Char}
    (hc : ∀ c ∈ cs, p c = true) (hr : ∀ c ∈ rest.head?, p c = false) :
    (cs ++ rest).takeWhile p = cs := by
  rw [List.takeWhile_append_of_pos hc]
  cases rest with
  | nil => rw [List.takeWhile_nil, List.append_nil]
  | cons c rest =>
    rw [List.takeWhile_cons_of_neg (by simp [hr c rfl]), List.append_nil]

theorem dropWhile_append_of_head {p : Char → Bool} {cs rest : List Char}
    (hc : ∀ c ∈ cs, p c = true) (hr : ∀ c ∈ rest.head?, p c = false) :
    (cs ++ rest).dropWhile p = rest := by
  rw [List.dropWhile_append_of_pos hc]
  cases rest with
  | nil => rfl
  | cons c rest => exact List.dropWhile_cons_of_neg (by simp [hr c rfl])

/-! ## Scanning -/

/-- An exponent that the scanner takes whole. -/
structure Exponent.Proper (e : Exponent) : Prop where
  letter : e.letter = 'e' ∨ e.letter = 'E'
  sign : e.sign = [] ∨ e.sign = ['+'] ∨ e.sign = ['-']
  digits_ne_nil : e.digits ≠ []
  digits : AllDigits e.digits

namespace Numeral

/-- A numeral that the scanner takes whole. -/
structure Proper (n : Numeral) : Prop where
  whole_ne_nil : n.whole ≠ []
  whole : AllDigits n.whole
  fraction : AllDigits n.fraction
  exponent : ∀ e ∈ n.exponent, e.Proper

def Stops (c : Char) : Prop := c.isDigit = false ∧ c ≠ '.' ∧ c ≠ 'e' ∧ c ≠ 'E'

variable {rest : List Char}

theorem scanFraction_fractionChars {fraction : List Char} (hf : AllDigits fraction)
    (hd : ∀ c ∈ rest.head?, c.isDigit = false) (hp : ∀ c ∈ rest.head?, c ≠ '.') :
    scanFraction (fractionChars fraction ++ rest) = (fraction, rest) := by
  cases fraction with
  | nil =>
    cases rest with
    | nil => rfl
    | cons c rest =>
      have hc := hp c rfl
      simp only [fractionChars, List.nil_append, scanFraction]
      split
      · next h => exact absurd (List.cons.inj h).1 hc
      · rfl
  | cons d ds =>
    have hn : d :: ds ≠ [] := List.cons_ne_nil d ds
    rw [fractionChars, List.cons_append, scanFraction, takeWhile_append_of_head hf hd,
      dropWhile_append_of_head hf hd, if_neg hn]
    exact hn

theorem scanSign_append_digits {sign digits : List Char}
    (hs : sign = [] ∨ sign = ['+'] ∨ sign = ['-']) (hn : digits ≠ []) (hd : AllDigits digits) :
    scanSign (sign ++ (digits ++ rest)) = (sign, digits ++ rest) := by
  rcases hs with rfl | rfl | rfl
  · obtain ⟨d, ds, rfl⟩ := List.exists_cons_of_ne_nil hn
    have hd := hd d List.mem_cons_self
    simp only [List.nil_append, List.cons_append, scanSign]
    split
    · next h => rw [(List.cons.inj h).1] at hd; exact absurd hd (by decide)
    · next h => rw [(List.cons.inj h).1] at hd; exact absurd hd (by decide)
    · rfl
  · rfl
  · rfl

theorem scanExponent_exponentChars {exponent : Option Exponent}
    (he : ∀ e ∈ exponent, e.Proper) (hr : ∀ c ∈ rest.head?, Stops c) :
    scanExponent (exponentChars exponent ++ rest) = (exponent, rest) := by
  cases exponent with
  | none =>
    cases rest with
    | nil => rfl
    | cons c rest =>
      obtain ⟨-, -, he, hE⟩ := hr c rfl
      simp [exponentChars, scanExponent, he, hE]
  | some e =>
    obtain ⟨hl, hs, hn, hd⟩ := he e rfl
    have hr := fun c hc => (hr c hc).1
    rw [exponentChars, List.cons_append, List.append_assoc, scanExponent,
      scanSign_append_digits hs hn hd]
    simp only
    rw [takeWhile_append_of_head hd hr, dropWhile_append_of_head hd hr, if_pos ⟨hl, hn⟩]

theorem scanUnsigned_chars {n : Numeral} (hn : n.Proper) (hr : ∀ c ∈ rest.head?, Stops c) :
    scanUnsigned n.negative
      (n.whole ++ (fractionChars n.fraction ++ (exponentChars n.exponent ++ rest))) =
        (n, rest) := by
  have hf : ∀ c ∈ (exponentChars n.exponent ++ rest).head?, c.isDigit = false ∧ c ≠ '.' := by
    cases he : n.exponent with
    | none => exact fun c hc => ⟨(hr c hc).1, (hr c hc).2.1⟩
    | some e =>
      intro c hc
      obtain rfl : e.letter = c := Option.some.inj hc
      rcases (hn.exponent e he).letter with h | h <;> rw [h] <;> decide
  have hw : ∀ c ∈ (fractionChars n.fraction ++ (exponentChars n.exponent ++ rest)).head?,
      c.isDigit = false := by
    cases hd : n.fraction with
    | nil => exact fun c hc => (hf c hc).1
    | cons d ds =>
      intro c hc
      obtain rfl : '.' = c := Option.some.inj hc
      decide
  rw [scanUnsigned, takeWhile_append_of_head hn.whole hw, dropWhile_append_of_head hn.whole hw,
    scanFraction_fractionChars hn.fraction (fun c hc => (hf c hc).1) (fun c hc => (hf c hc).2)]
  simp only
  rw [scanExponent_exponentChars hn.exponent hr]

/-- The scanner takes a numeral whole before anything that cannot continue it. -/
theorem scan_chars_append {n : Numeral} (hn : n.Proper) (hr : ∀ c ∈ rest.head?, Stops c) :
    scan (n.chars ++ rest) = (n, rest) := by
  have h := scanUnsigned_chars hn hr
  simp only [chars, List.append_assoc]
  cases hs : n.negative with
  | true => rw [hs] at h; exact h
  | false =>
    rw [hs] at h
    obtain ⟨d, ds, hw⟩ := List.exists_cons_of_ne_nil hn.whole_ne_nil
    have hd := hn.whole d (hw ▸ List.mem_cons_self)
    rw [signChars, List.nil_append, hw, List.cons_append, ← h, hw, List.cons_append]
    unfold scan
    split
    · next heq => rw [(List.cons.inj heq).1] at hd; exact absurd hd (by decide)
    · rfl

theorem exists_chars_eq_cons {n : Numeral} (hn : n.Proper) : ∃ c cs, n.chars = c :: cs ∧
    (c.isDigit = true ∨ c = '-' ∧ ∀ rest, (cs ++ rest).head?.any Char.isDigit = true) := by
  obtain ⟨d, ds, hw⟩ := List.exists_cons_of_ne_nil hn.whole_ne_nil
  have hd := hn.whole d (hw ▸ List.mem_cons_self)
  cases hs : n.negative with
  | true =>
    refine ⟨'-', n.whole ++ fractionChars n.fraction ++ exponentChars n.exponent, ?_,
      .inr ⟨rfl, ?_⟩⟩
    · simp [chars, hs, signChars]
    · intro rest; simp [hw, hd]
  | false =>
    exact ⟨d, ds ++ fractionChars n.fraction ++ exponentChars n.exponent,
      by simp [chars, hs, signChars, hw], .inl hd⟩

theorem allDigits_scanFraction (cs : List Char) : AllDigits (scanFraction cs).1 := by
  unfold scanFraction
  split
  · split
    · exact fun c hc => absurd hc List.not_mem_nil
    · exact allDigits_takeWhile _
  · exact fun c hc => absurd hc List.not_mem_nil

theorem scanSign_cases (cs : List Char) :
    (scanSign cs).1 = [] ∨ (scanSign cs).1 = ['+'] ∨ (scanSign cs).1 = ['-'] := by
  unfold scanSign
  split <;> simp

theorem proper_scanExponent (cs : List Char) : ∀ e ∈ (scanExponent cs).1, e.Proper := by
  intro e he
  cases cs with
  | nil => exact absurd he (by simp [scanExponent])
  | cons c cs =>
    simp only [scanExponent] at he
    split at he
    · next h =>
      obtain rfl := Option.some.inj he
      exact ⟨h.1, scanSign_cases cs, h.2, allDigits_takeWhile _⟩
    · exact absurd he (by simp)

theorem proper_scanUnsigned (negative : Bool) {c : Char} (hc : c.isDigit = true) (cs : List Char) :
    (scanUnsigned negative (c :: cs)).1.Proper :=
  ⟨by simp [scanUnsigned, hc], allDigits_takeWhile _, allDigits_scanFraction _,
    proper_scanExponent _⟩

theorem proper_scan {c : Char} {cs : List Char}
    (h : c.isDigit = true ∨ c = '-' ∧ cs.head?.any Char.isDigit = true) :
    (scan (c :: cs)).1.Proper := by
  rcases h with hc | ⟨rfl, hd⟩
  · unfold scan
    split
    · next heq => rw [(List.cons.inj heq).1] at hc; exact absurd hc (by decide)
    · exact proper_scanUnsigned false hc cs
  · obtain ⟨d, hd, hdigit⟩ := (Option.any_eq_true _ _).mp hd
    obtain ⟨ds, rfl⟩ := List.head?_eq_some_iff.mp hd
    exact proper_scanUnsigned true hdigit ds

end Numeral

/-! ## Printing -/

theorem digitsValue_digitsOf (n : Nat) : digitsValue (digitsOf n) = n :=
  Nat.ofDigitChars_ten_toDigits

theorem digitsValue_append_zeros (ds : List Char) (j : Nat) :
    digitsValue (ds ++ List.replicate j '0') = digitsValue ds * 10 ^ j := by
  change Nat.ofDigitChars 10 _ 0 = Nat.ofDigitChars 10 ds 0 * _
  rw [Nat.ofDigitChars_append, Nat.ofDigitChars_replicate_zero, Nat.mul_comm]

theorem digitsValue_zeros_append (j : Nat) (ds : List Char) :
    digitsValue (List.replicate j '0' ++ ds) = digitsValue ds := by
  change Nat.ofDigitChars 10 _ 0 = Nat.ofDigitChars 10 ds 0
  rw [Nat.ofDigitChars_append, Nat.ofDigitChars_replicate_zero, Nat.mul_zero]

namespace Numeral

/-- How many places the digits of the numeral stand left of the point. -/
def scale (n : Numeral) : Int := (n.exponent.map Exponent.value).getD 0 - n.fraction.length

/-- The numeral is the text `cs` and denotes the digits `ds` with a point that stands
`exponent` places behind the first of them. -/
structure Writes (n : Numeral) (negative : Bool) (cs ds : List Char) (exponent : Int) :
    Prop where
  proper : n.Proper
  negative_eq : n.negative = negative
  isPlain : n.isPlain = false
  chars_eq : n.chars = signChars negative ++ cs
  /-- The numeral may have zeros behind the digits. -/
  value : ∃ j : Nat, digitsValue (n.whole ++ n.fraction) = digitsValue ds * 10 ^ j ∧
    n.scale = exponent + 1 - ds.length - j

variable {ds : List Char} {exponent : Int}

theorem exists_writes_positional (negative : Bool) (hn : ds ≠ []) (hd : AllDigits ds) :
    ∃ n : Numeral, n.Writes negative (positional ds exponent) ds exponent := by
  have hz := allDigits_replicate_zero
  have hlen := List.length_pos_iff.mpr hn
  by_cases he : exponent < 0
  · refine ⟨⟨negative, ['0'], List.replicate ((-exponent).toNat - 1) '0' ++ ds, none⟩, ?_⟩
    refine ⟨⟨by simp, hz 1, (hz _).append hd, by simp⟩, rfl, by simp [isPlain, hn], ?_, 0, ?_, ?_⟩
    · obtain ⟨c, cs, hc⟩ := List.exists_cons_of_ne_nil
        (List.append_ne_nil_of_right_ne_nil (List.replicate ((-exponent).toNat - 1) '0') hn)
      simp [chars, positional, he, hc, fractionChars, exponentChars]
    · rw [← List.append_assoc]
      rw [show ['0'] ++ List.replicate ((-exponent).toNat - 1) '0' =
        List.replicate ((-exponent).toNat - 1 + 1) '0' from rfl, digitsValue_zeros_append,
        Nat.pow_zero, Nat.mul_one]
    · simp [scale]
      omega
  · by_cases hw : ds.length ≤ exponent.toNat + 1
    · refine ⟨⟨negative, ds ++ List.replicate (exponent.toNat + 1 - ds.length) '0', ['0'], none⟩,
        ?_⟩
      refine ⟨⟨by simp [hn], hd.append (hz _), hz 1, by simp⟩, rfl, by simp [isPlain], ?_,
        exponent.toNat + 1 - ds.length + 1, ?_, ?_⟩
      · simp [chars, positional, he, hw, fractionChars, exponentChars]
      · rw [List.append_assoc, ← List.replicate_succ', digitsValue_append_zeros]
      · simp [scale]
        omega
    · refine ⟨⟨negative, ds.take (exponent.toNat + 1), ds.drop (exponent.toNat + 1), none⟩, ?_⟩
      refine ⟨⟨by simp [hn], hd.of_subset (List.take_subset _ _),
        hd.of_subset (List.drop_subset _ _), by simp⟩, rfl, ?_, ?_, 0, ?_, ?_⟩
      · simp [isPlain]
        omega
      · obtain ⟨c, cs, hc⟩ := List.exists_cons_of_ne_nil
          (show ds.drop (exponent.toNat + 1) ≠ [] by simp; omega)
        simp [chars, positional, he, hw, hc, fractionChars, exponentChars]
      · rw [List.take_append_drop, Nat.pow_zero, Nat.mul_one]
      · simp [scale]
        omega

theorem exists_writes_scientific (negative : Bool) (hn : ds ≠ []) (hd : AllDigits ds) :
    ∃ n : Numeral, n.Writes negative (scientific ds exponent) ds exponent := by
  obtain ⟨d, tail, rfl⟩ := List.exists_cons_of_ne_nil hn
  have hw : AllDigits [d] := hd.of_subset (by simp)
  have hf : AllDigits tail := hd.of_subset (List.subset_cons_self _ _)
  refine ⟨⟨negative, [d], tail,
    some ⟨'e', [if exponent < 0 then '-' else '+'], digitsOf exponent.natAbs⟩⟩, ?_⟩
  refine ⟨⟨by simp, hw, hf, ?_⟩, rfl, by simp [isPlain], ?_, 0, ?_, ?_⟩
  · rintro e ⟨⟩
    exact ⟨.inl rfl, by split <;> simp, digitsOf_ne_nil _, allDigits_digitsOf _⟩
  · cases tail <;> simp [chars, scientific, fractionChars, exponentChars]
  · simp
  · simp only [scale, Exponent.value, digitsValue_digitsOf, Option.map_some, Option.getD_some]
    by_cases he : exponent < 0
    · simp [he, abs_of_neg he]
    · simp [he]
      omega

end Numeral

namespace Double

variable {d : Double}

/-- How many places the point of the shortest decimal stands behind its first digit. -/
def decimalExponent (d : Double) : Int := d.shortest.2 + (digitsOf d.shortest.1).length - 1075

def decimalChars (d : Double) : List Char :=
  if isPositional d.decimalExponent then positional (digitsOf d.shortest.1) d.decimalExponent
  else scientific (digitsOf d.shortest.1) d.decimalExponent

theorem chars_eq (h0 : d.significand ≠ 0) :
    d.chars = Numeral.signChars d.negative ++ d.decimalChars := by
  unfold Double.chars decimalChars decimalExponent
  rw [if_neg h0]
  generalize d.shortest = shortest
  obtain ⟨c, p⟩ := shortest
  cases d.negative <;> rfl

/-- Every double is printed as a numeral that reads back as it. -/
theorem exists_numeral (d : Double) : ∃ n : Numeral, n.Proper ∧ n.isPlain = false ∧
    n.chars = d.chars ∧ n.double? = some d := by
  by_cases h0 : d.significand = 0
  · refine ⟨⟨d.negative, ['0'], ['0'], none⟩,
      ⟨by simp, allDigits_replicate_zero 1, allDigits_replicate_zero 1, by simp⟩, rfl, ?_, ?_⟩
    · simp [Double.chars, h0, Numeral.chars, Numeral.signChars, Numeral.fractionChars,
        Numeral.exponentChars]
      cases d.negative <;> rfl
    · rw [Numeral.double?, show digitsValue (['0'] ++ ['0']) = 0 from rfl, ofDecimal?_zero,
        ← eq_zero_of_significand_eq_zero h0]
  · have hn := digitsOf_ne_nil d.shortest.1
    have hd := allDigits_digitsOf d.shortest.1
    obtain ⟨n, hp, hs, hplain, hc, j, hv, he⟩ : ∃ n : Numeral, n.Writes d.negative
        d.decimalChars (digitsOf d.shortest.1) d.decimalExponent := by
      unfold decimalChars
      split
      · exact Numeral.exists_writes_positional _ hn hd
      · exact Numeral.exists_writes_scientific _ hn hd
    refine ⟨n, hp, hplain, by rw [hc, chars_eq h0], ?_⟩
    rw [Numeral.double?, hs, hv, digitsValue_digitsOf]
    rw [Numeral.scale, decimalExponent] at he
    rw [he, ← ofDecimal?_shortest d h0 j]
    congr 1
    omega

end Double

theorem exists_plain_numeral (i : Int) : ∃ n : Numeral, n.Proper ∧ n.isPlain = true ∧
    n.chars = (if i < 0 then ['-'] else []) ++ digitsOf i.natAbs ∧ n.integer = i := by
  refine ⟨⟨decide (i < 0), digitsOf i.natAbs, [], none⟩,
    ⟨digitsOf_ne_nil _, allDigits_digitsOf _, by simp [AllDigits], by simp⟩, rfl, ?_, ?_⟩
  · by_cases hi : i < 0 <;> simp [Numeral.chars, Numeral.signChars, Numeral.fractionChars,
      Numeral.exponentChars, hi]
  · simp only [Numeral.integer, digitsValue_digitsOf, decide_eq_true_eq]
    split <;> omega

end SnapshotRules
