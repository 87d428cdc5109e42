import SnapshotRules.Number.Basic
import SnapshotRules.Number.Shortest

/-! # Numerals

The written form of numbers: a scanner for decimal numerals, and the compact text in which
every number is printed.
-/

namespace SnapshotRules

def digitValue (c : Char) : Nat := c.toNat - '0'.toNat

def digitsValue (digits : List Char) : Nat :=
  digits.foldl (fun n c => 10 * n + digitValue c) 0

def digitsOf (n : Nat) : List Char := Nat.toDigits 10 n

/-- Digits alone, at least one of them, for a number below `limit`. -/
def readDigits? (limit : Nat) (cs : List Char) : Option Nat :=
  if cs ≠ [] ∧ cs.all Char.isDigit ∧ digitsValue cs < limit then some (digitsValue cs) else none

/-- Digits with an optional plus sign, for a number below `limit`. -/
def readNatural? (limit : Nat) : List Char → Option Nat
  | '+' :: digits => readDigits? limit digits
  | digits => readDigits? limit digits

structure Exponent where
  letter : Char
  sign : List Char
  digits : List Char
  deriving DecidableEq

def Exponent.value (e : Exponent) : Int :=
  if e.sign = ['-'] then -digitsValue e.digits else digitsValue e.digits

/-- A number as written. A fraction without digits stands for none. -/
structure Numeral where
  negative : Bool
  whole : List Char
  fraction : List Char
  exponent : Option Exponent
  deriving DecidableEq

namespace Numeral

def signChars : Bool → List Char
  | true => ['-']
  | false => []

def fractionChars : List Char → List Char
  | [] => []
  | digits => '.' :: digits

def exponentChars : Option Exponent → List Char
  | none => []
  | some e => e.letter :: (e.sign ++ e.digits)

def chars (n : Numeral) : List Char :=
  signChars n.negative ++ n.whole ++ fractionChars n.fraction ++ exponentChars n.exponent

/-- Digits after a point. A point that no digit follows is not consumed. -/
def scanFraction : List Char → List Char × List Char
  | '.' :: rest =>
    if rest.takeWhile Char.isDigit = [] then ([], '.' :: rest)
    else (rest.takeWhile Char.isDigit, rest.dropWhile Char.isDigit)
  | cs => ([], cs)

def scanSign : List Char → List Char × List Char
  | '+' :: rest => (['+'], rest)
  | '-' :: rest => (['-'], rest)
  | cs => ([], cs)

/-- An exponent. An exponent letter that no digits follow is not consumed. -/
def scanExponent : List Char → Option Exponent × List Char
  | c :: rest =>
    let (sign, digits) := scanSign rest
    if (c = 'e' ∨ c = 'E') ∧ digits.takeWhile Char.isDigit ≠ [] then
      (some ⟨c, sign, digits.takeWhile Char.isDigit⟩, digits.dropWhile Char.isDigit)
    else (none, c :: rest)
  | [] => (none, [])

/-- The rest of a numeral after its sign. -/
def scanUnsigned (negative : Bool) (cs : List Char) : Numeral × List Char :=
  let (fraction, rest) := scanFraction (cs.dropWhile Char.isDigit)
  let (exponent, rest) := scanExponent rest
  (⟨negative, cs.takeWhile Char.isDigit, fraction, exponent⟩, rest)

/-- The longest numeral in front of a text, and the text after it. -/
def scan : List Char → Numeral × List Char
  | '-' :: rest => scanUnsigned true rest
  | cs => scanUnsigned false cs

def isPlain (n : Numeral) : Bool := n.fraction.isEmpty && n.exponent.isNone

def integer (n : Numeral) : Int :=
  if n.negative then -digitsValue n.whole else digitsValue n.whole

def double? (n : Numeral) : Option Double :=
  Double.ofDecimal? n.negative (digitsValue (n.whole ++ n.fraction))
    ((n.exponent.map Exponent.value).getD 0 - n.fraction.length)

theorem scanFraction_append (cs : List Char) :
    fractionChars (scanFraction cs).1 ++ (scanFraction cs).2 = cs := by
  unfold scanFraction
  split
  · next rest =>
    split
    · rfl
    · next h =>
      have := List.takeWhile_append_dropWhile (p := Char.isDigit) (l := rest)
      cases hd : rest.takeWhile Char.isDigit with
      | nil => exact absurd hd h
      | cons d ds => simp_all [fractionChars]
  · rfl

theorem scanSign_append (cs : List Char) : (scanSign cs).1 ++ (scanSign cs).2 = cs := by
  unfold scanSign; split <;> rfl

theorem scanExponent_append (cs : List Char) :
    exponentChars (scanExponent cs).1 ++ (scanExponent cs).2 = cs := by
  cases cs with
  | nil => rfl
  | cons c rest =>
    have h := scanSign_append rest
    simp only [scanExponent]
    split
    · simp [exponentChars, List.takeWhile_append_dropWhile, h]
    · rfl

theorem scanUnsigned_append (negative : Bool) (cs : List Char) :
    (scanUnsigned negative cs).1.chars ++ (scanUnsigned negative cs).2
      = signChars negative ++ cs := by
  simp only [scanUnsigned, chars, List.append_assoc, scanExponent_append, scanFraction_append,
    List.takeWhile_append_dropWhile]

/-- Scanning splits a text and loses nothing. -/
theorem scan_append (cs : List Char) : (scan cs).1.chars ++ (scan cs).2 = cs := by
  unfold scan
  split <;> simp [scanUnsigned_append, signChars]

theorem scan_chars_ne_nil {c : Char} (rest : List Char) (h : c = '-' ∨ c.isDigit = true) :
    (scan (c :: rest)).1.chars ≠ [] := by
  by_cases hc : c = '-'
  · subst hc; simp [scan, scanUnsigned, chars, signChars]
  · have : scan (c :: rest) = scanUnsigned false (c :: rest) := by
      unfold scan; split <;> simp_all
    simp [this, scanUnsigned, chars, signChars, h.resolve_left hc]

theorem scan_length (cs : List Char) (h : (scan cs).1.whole ≠ []) :
    (scan cs).2.length < cs.length := by
  have split := congrArg List.length (scan_append cs)
  have := List.length_pos_iff.mpr h
  simp only [List.length_append, chars] at split
  omega

end Numeral

/-- Exponents of numbers that are written without one. -/
def isPositional (exponent : Int) : Bool := decide (-5 ≤ exponent) && decide (exponent < 16)

/-- The digits `ds` with the point after the first of them moved right by `exponent`. -/
def positional (ds : List Char) (exponent : Int) : List Char :=
  if exponent < 0 then "0.".toList ++ List.replicate ((-exponent).toNat - 1) '0' ++ ds
  else
    let whole := exponent.toNat + 1
    if ds.length ≤ whole then ds ++ List.replicate (whole - ds.length) '0' ++ ".0".toList
    else ds.take whole ++ '.' :: ds.drop whole

/-- One digit before the point, and an exponent with its sign. -/
def scientific (ds : List Char) (exponent : Int) : List Char :=
  let fraction := match ds.tail with
    | [] => []
    | rest => '.' :: rest
  ds.take 1 ++ fraction ++ 'e' :: (if exponent < 0 then '-' else '+') :: digitsOf exponent.natAbs

/-- The shortest digits of the double, always with a point or an exponent. -/
def Double.chars (d : Double) : List Char :=
  let sign := if d.negative then ['-'] else []
  if d.significand = 0 then sign ++ "0.0".toList
  else
    let (digits, place) := d.shortest
    let ds := digitsOf digits
    let exponent : Int := place + ds.length - 1075
    sign ++ (if isPositional exponent then positional ds exponent else scientific ds exponent)

def Number.chars : Number → List Char
  | .integer i _ _ => (if i < 0 then ['-'] else []) ++ digitsOf i.natAbs
  | .double d => d.chars

def Number.text (n : Number) : String := String.ofList n.chars

end SnapshotRules
