-- The header of a signed token: the algorithm it names, and the optional
-- fields, which must have their types though nothing else is done with them.

import TenantAuth.Json.Reach
import TenantAuth.Json.Reader

namespace TenantAuth.TokenHeader

open TenantAuth Json

/-- The algorithms that a header may name. -/
def algorithms : List String :=
  ["HS256", "HS384", "HS512", "ES256", "ES384", "RS256", "RS384", "RS512", "PS256", "PS384",
   "PS512", "EdDSA"]

/-! ## Types of fields -/

/-- An optional field may be missing or null; else `typed` decides. -/
def absentOr (typed : Read → Bool) : Option Read → Bool
  | none => true
  | some .null => true
  | some v => typed v

def isText (v : Read) : Bool := v.string?.isSome

def isTexts (v : Read) : Bool := v.strings?.isSome

def isCase (names : List String) (v : Read) : Bool :=
  match v.caseName? with
  | some name => names.contains name
  | none => false

/-- The name of a case, where an empty object stands for no content as well. -/
def isCaseOrEmpty (names : List String) : Read → Bool
  | .object [(name, .object [])] => isCase names (.string name)
  | v => isCase names v

/-! ## A key inside a header -/

/-- Each named member occurs at most once and has its type. -/
def membersTyped (fields : List (String × (Option Read → Bool)))
    (members : List (Spelling × Read)) : Bool :=
  fields.all fun (name, typed) =>
    match single? name members with
    | some v => typed v
    | none => false

/-- A required field. -/
def must (typed : Read → Bool) : Option Read → Bool
  | some v => typed v
  | none => false

def curves : List String := ["P-256", "P-384", "P-521", "Ed25519"]

/-- The fields that keys of every kind may have. -/
def commonFields : List (String × (Option Read → Bool)) :=
  [("use", absentOr isText),
   ("key_ops", absentOr isTexts),
   ("alg", absentOr (isCaseOrEmpty (algorithms ++ ["RSA1_5", "RSA-OAEP", "RSA-OAEP-256"]))),
   ("kid", absentOr isText),
   ("x5u", absentOr isText),
   ("x5c", absentOr isTexts),
   ("x5t", absentOr isText),
   ("x5t#S256", absentOr isText)]

/-- The kinds of key, each by the fields it must have. -/
def keyKinds : List (List (String × (Option Read → Bool))) :=
  [[("kty", must (isCase ["EC"])), ("crv", must (isCase curves)), ("x", must isText),
    ("y", must isText)],
   [("kty", must (isCase ["RSA"])), ("n", must isText), ("e", must isText)],
   [("kty", must (isCase ["oct"])), ("k", must isText)],
   [("kty", must (isCase ["OKP"])), ("crv", must (isCase curves)), ("x", must isText)]]

/-- A key given in a header is an object of one of the kinds. -/
def isKey (v : Read) : Bool :=
  match v with
  | .object members =>
    reachMembers 126 members = .whole
      && membersTyped commonFields members
      && keyKinds.any fun kind => membersTyped kind members
  | _ => false

/-! ## The header -/

def fieldNames : List String :=
  ["typ", "alg", "cty", "jku", "jwk", "kid", "x5u", "x5c", "x5t", "x5t#S256"]

/-- The algorithm that a header names, if the header has its form. -/
def algorithm? (v : Read) : Option String :=
  match v.record? fieldNames with
  | some [typ, some alg, cty, jku, jwk, kid, x5u, x5c, x5t, x5tS256] =>
    if [typ, cty, jku, kid, x5u, x5t, x5tS256].all (absentOr isText)
        && absentOr isKey jwk && absentOr isTexts x5c then
      alg.caseName?.bind fun name => if algorithms.contains name then some name else none
    else none
  | _ => none

end TenantAuth.TokenHeader
