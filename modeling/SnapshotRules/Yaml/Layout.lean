/-! # Layout of YAML text

YAML gives meaning to lines and columns, so a text is read as characters that know their
place.

Not all of YAML is read. Anchors, aliases, tags, block scalars and directives are refused.
-/

namespace SnapshotRules.Yaml

structure Placed where
  char : Char
  line : Nat
  column : Nat
  index : Nat
  deriving DecidableEq

/-- Line breaks, once `unifyBreaks` has turned the others into these. -/
def isBreak (c : Char) : Bool := c = '\n' || c = '\u2028' || c = '\u2029'

def isSpace (c : Char) : Bool := c = ' ' || c = '\t'

/-- Control characters and the last two of the first plane are refused. -/
def isAllowed (c : Char) : Bool :=
  c = '\t' || c = '\n' || c = '\r' || c = '\u0085' ||
    (0x20 ≤ c.toNat && c.toNat ≤ 0x7E) || (0xA0 ≤ c.toNat && c.toNat ≤ 0xFFFD) ||
    0x10000 ≤ c.toNat

/-- Carriage returns and next-line characters end a line as newlines do. -/
def unifyBreaks : List Char → List Char
  | '\r' :: '\n' :: rest => '\n' :: unifyBreaks rest
  | '\r' :: rest | '\u0085' :: rest => '\n' :: unifyBreaks rest
  | c :: rest => c :: unifyBreaks rest
  | [] => []

/-- Gives every character its place. Columns count characters and indices count bytes. -/
def place (line column index : Nat) : List Char → List Placed
  | [] => []
  | c :: rest =>
    ⟨c, line, column, index⟩ ::
      if isBreak c then place (line + 1) 0 (index + c.utf8Size) rest
      else place line (column + 1) (index + c.utf8Size) rest

/-- The characters of a text, or `none` when one of them is not allowed. -/
def layout? (text : String) : Option (List Placed) :=
  if text.toList.all isAllowed then some (place 0 0 0 (unifyBreaks text.toList)) else none

/-- Whether the text ends here or goes on with a blank or a break. -/
def atGap : List Placed → Bool
  | [] => true
  | p :: _ => isSpace p.char || isBreak p.char

/-- Whether three characters at the start of a line mark the bounds of a document. -/
def isMark (mark : Char) : List Placed → Bool
  | a :: b :: c :: rest =>
    a.column = 0 && a.char = mark && b.char = mark && c.char = mark && atGap rest
  | _ => false

def isDocumentMark (cs : List Placed) : Bool := isMark '-' cs || isMark '.' cs

end SnapshotRules.Yaml
