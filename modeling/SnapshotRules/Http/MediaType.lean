/-! # Media types

What the content type of a request says about its body.
-/

namespace SnapshotRules.Http

def isTokenChar (c : Char) : Bool :=
  c.isAlphanum || "!#$%&'*+-.^_`|~".contains c

/-- A list of parameters, each after a semicolon that has been read. Nothing may follow the
last semicolon. -/
def areParameters : List Char → Bool
  | [] => true
  | ' ' :: rest => areParameters rest
  | c :: rest => isTokenChar c && name rest
where
  /-- The rest of a parameter's name. -/
  name : List Char → Bool
    | '=' :: '"' :: c :: rest => isQuotedChar c && quoted rest
    | '=' :: rest => firstOfValue rest
    | c :: rest => isTokenChar c && name rest
    | [] => false
  firstOfValue : List Char → Bool
    | [] => true
    | c :: rest => isTokenChar c && value rest
  /-- The rest of a parameter's value. -/
  value : List Char → Bool
    | [] => true
    | ';' :: rest => areParameters rest
    | c :: rest => isTokenChar c && value rest
  isQuotedChar (c : Char) : Bool := 32 ≤ c.toNat && c.toNat < 127
  /-- The rest of a quoted value after its first character. -/
  quoted : List Char → Bool
    | '"' :: rest => afterQuoted rest
    | c :: rest => isQuotedChar c && quoted rest
    | [] => false
  afterQuoted : List Char → Bool
    | [] => true
    | ' ' :: rest => afterQuoted rest
    | ';' :: rest => areParameters rest
    | _ => false

/-- Whether a subtype is that of JSON, or has it for its suffix or in front of one. -/
def isJsonSubtype (subtype : List Char) : Bool :=
  let suffix := (subtype.reverse.takeWhile (· ≠ '+')).reverse
  let base := subtype.take (subtype.length - suffix.length - 1)
  if base = [] then subtype = "json".toList
  else base = "json".toList || suffix = "json".toList

/-- Whether a content type is `application/json` or one that builds on it. Letter case and
parameters do not matter. -/
def isJson (contentType : String) : Bool :=
  let lower := contentType.toList.map Char.toLower
  let type := lower.takeWhile (· ≠ '/')
  let rest := (lower.dropWhile (· ≠ '/')).tail
  let subtype := rest.takeWhile (· ≠ ';')
  let parameters := (rest.dropWhile (· ≠ ';')).tail
  type = "application".toList && subtype.all isTokenChar && isJsonSubtype subtype &&
    areParameters parameters

end SnapshotRules.Http
