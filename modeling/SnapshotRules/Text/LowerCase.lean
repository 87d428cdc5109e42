import SnapshotRules.Text.CaseTables

/-! # Lower case

Full Unicode lower-casing. Only two letters are special: the dotted capital I becomes two
characters, and a capital sigma at the end of a word has a form of its own.
-/

namespace SnapshotRules

def inRanges (ranges : List (Nat × Nat)) (c : Char) : Bool :=
  ranges.any fun (first, last) => first ≤ c.toNat && c.toNat ≤ last

def isCased (c : Char) : Bool := inRanges casedRanges c

def isCaseIgnorable (c : Char) : Bool := inRanges caseIgnorableRanges c

def CaseRange.covers (range : CaseRange) (c : Char) : Bool :=
  range.first ≤ c.toNat && c.toNat ≤ range.last && (c.toNat - range.first) % range.step = 0

/-- The lower-case form of a character by itself. -/
def lowerCaseChar (c : Char) : List Char :=
  if c = '\u0130' then ['i', '\u0307']
  else
    match lowerCaseRanges.find? fun range => range.covers c with
    | some range => [Char.ofNat (c.toNat + range.shift).toNat]
    | none => [c]

/-- Whether the first character that is not ignored is a cased one. -/
def meetsCased (cs : List Char) : Bool :=
  match cs.dropWhile isCaseIgnorable with
  | c :: _ => isCased c
  | [] => false

/-- Lower case of a text. `before` holds the characters in front of it, nearest first. -/
def lowerCaseAfter (before : List Char) : List Char → List Char
  | [] => []
  | c :: rest =>
    let form :=
      if c = '\u03a3' then
        [if meetsCased before && !meetsCased rest then '\u03c2' else '\u03c3']
      else lowerCaseChar c
    form ++ lowerCaseAfter (c :: before) rest

def lowerCase (cs : List Char) : List Char := lowerCaseAfter [] cs

end SnapshotRules
