-- Access tokens: claims signed with the key of the running service. Checking
-- one needs nothing but the token, the public key and the time.

import TenantAuth.Crypto.Rsa
import TenantAuth.Error
import TenantAuth.Text.Base64
import TenantAuth.Text.Utf8
import TenantAuth.Token.Claims
import TenantAuth.Token.Header

namespace TenantAuth

open TenantAuth.Text

/-- Why there is no token, or why a token is not accepted. -/
inductive TokenError where
  | invalidSignature
  | expired
  | notYetValid
  | malformed
  /-- The key could not be used. -/
  | key (text : String)
  /-- The key refused to sign. -/
  | signing (text : String)
  deriving DecidableEq, Repr

namespace TokenError

def message : TokenError → String
  | invalidSignature => "invalid token signature or algorithm"
  | expired => "token has expired"
  | notYetValid => "token not yet valid"
  | malformed => "malformed token"
  | key text => "signing key error: " ++ text
  | signing text => "token signing failed: " ++ text

def toAuthError : TokenError → AuthError
  | invalidSignature | expired | notYetValid | malformed => .unauthenticated
  | key text | signing text => .internal text

def ofTimeError : Claims.TimeError → TokenError
  | .expired => expired
  | .notYetValid => notYetValid
  | .invalidTimeWindow => malformed

end TokenError

/-- What signs access tokens and checks them: one key, for as long as the
service runs. -/
structure Signer where
  key : Rsa.PrivateKey
  deriving DecidableEq

namespace Signer

/-- The name under which the key is published. -/
def keyName : String := "default-key"

/-- The one algorithm in use. -/
def algorithm : String := "RS256"

def headerJson : Json String :=
  .object [("typ", .string "JWT"), ("alg", .string algorithm), ("kid", .string keyName)]

/-! ## Signing -/

/-- A JSON value as one part of a token. -/
def encodePart (v : Json String) : List Char :=
  Base64.urlSafe.encode [] (Utf8.encode v.chars)

/-- What is signed: the header and the claims, with a dot between them. -/
def signingInput (c : Claims) : List Char := encodePart headerJson ++ '.' :: encodePart c.toJson

/-- The token of some claims. -/
def sign (s : Signer) (c : Claims) : Except TokenError String :=
  let input := signingInput c
  match s.key.sign (Utf8.encode input) with
  | .error refusal => .error (.signing ("RSA key invalid: " ++ refusal.message))
  | .ok signature =>
    .ok (String.ofList (input ++ '.' :: Base64.urlSafe.encode [] signature))

/-- A token for a principal, issued now; none past the end of the calendar. -/
def issue? (s : Signer) (p : Principal) (now : Instant) : Option (Except TokenError String) :=
  (Claims.forPrincipal? p now).map s.sign

/-! ## Checking -/

/-- A text cut at the last dot. -/
def cutAtLastDot? (cs : List Char) : Option (List Char × List Char) :=
  let fromEnd := cs.reverse
  match fromEnd.dropWhile (· != '.') with
  | [] => none
  | _ :: front => some (front.reverse, (fromEnd.takeWhile (· != '.')).reverse)

/-- The JSON value in one part of a token. -/
def decodePart? (cs : List Char) : Option Json.Read :=
  (Base64.urlSafe.decode? cs).bind fun bs => Json.parse? (Utf8.decode bs)

/-- Claims that are looked at and then given up: a subject, which must be no array
and no object, an issuer and an audience. Each stands at most once. One that has
no value is passed over like one of the wrong type; but the reading of it must
have got behind it, or there is no reading on. -/
def registeredPassed (members : List (Json.Spelling × Json.Read)) : Bool :=
  let passed (name : String) (v : Json.Read) : Bool :=
    match v with
    | .array _ | .object _ => name ≠ "sub" && Json.reach 127 v ≠ .stuck
    | v => Json.reach 127 v ≠ .stuck
  ["sub", "iss", "aud"].all fun name =>
    match Json.single? name members with
    | some none => true
    | some (some v) => passed name v
    | none => false

/-- The claims in the payload of a token: an object, whose times from and up to
which it holds are not before 1970. -/
def claimsOfPayload? (cs : List Char) : Option Claims :=
  match decodePart? cs with
  | some (.object members) =>
    if registeredPassed members then
      (Claims.ofJson? (.object members)).bind fun c =>
        if 0 ≤ c.notBefore.nanos ∧ 0 ≤ c.expiresAt.nanos then some c else none
    else none
  | _ => none

/-- The claims of a token whose form and signature are right, at whatever time. -/
def openToken (s : Signer) (token : String) : Except TokenError Claims :=
  match cutAtLastDot? token.toList with
  | none => .error .malformed
  | some (message, signature) =>
    match cutAtLastDot? message with
    | none => .error .malformed
    | some (header, payload) =>
      match (decodePart? header).bind TokenHeader.algorithm? with
      | none => .error .malformed
      | some name =>
        if name ≠ algorithm then .error .invalidSignature
        else
          match Base64.urlSafe.decode? signature with
          | none => .error .malformed
          | some bs =>
            if s.key.publicKey.verifies (Utf8.encode message) bs then
              match claimsOfPayload? payload with
              | some c => .ok c
              | none => .error .malformed
            else .error .invalidSignature

@[deprecated openToken (since := "2026-11-20")]
abbrev open' := openToken

/-- The claims of a token that is accepted now. -/
def verify (s : Signer) (token : String) (now : Instant) : Except TokenError Claims :=
  match s.openToken token with
  | .error e => .error e
  | .ok c =>
    match c.validate now with
    | .ok () => .ok c
    | .error e => .error (.ofTimeError e)

/-- How a signer is shown: never its key. -/
def describe (s : Signer) : String :=
  "TokenService \x7b kid: \"" ++ keyName ++ "\", bits: " ++ toString (8 * s.key.publicKey.size)
    ++ ", .. \x7d"

end Signer

end TenantAuth
