-- The published form of the key that checks access tokens.

import TenantAuth.Crypto.Der
import TenantAuth.Token.Signer

namespace TenantAuth

open TenantAuth.Text

/-- A public key of RSA as it is published. -/
structure PublishedKey where
  kid : String
  kty : String
  alg : String
  purpose : String
  n : String
  e : String
  x5c : List String
  deriving DecidableEq, Repr

/-- The keys that are published together. -/
structure KeySet where
  keys : List PublishedKey
  deriving DecidableEq, Repr

namespace PublishedKey

def toJson (k : PublishedKey) : Json String :=
  .object
    [("kid", .string k.kid), ("kty", .string k.kty), ("alg", .string k.alg),
     ("use", .string k.purpose), ("n", .string k.n), ("e", .string k.e),
     ("x5c", Json.ofStrings k.x5c)]

def fieldNames : List String := ["kid", "kty", "alg", "use", "n", "e", "x5c"]

def ofJson? (v : Json.Read) : Option PublishedKey :=
  match v.record? fieldNames with
  | some [some kid, some kty, some alg, some purpose, some n, some e, some x5c] => do
    some ⟨← kid.string?, ← kty.string?, ← alg.string?, ← purpose.string?, ← n.string?,
      ← e.string?, ← x5c.strings?⟩
  | _ => none

/-- Modulus and exponent as their octets in base64, and both together with the
algorithm in one encoded structure. -/
def ofKey (k : Rsa.PublicKey) : PublishedKey where
  kid := Signer.keyName
  kty := "RSA"
  alg := Signer.algorithm
  purpose := "sig"
  n := Base64.encodeUrl (Octets.published k.modulus)
  e := Base64.encodeUrl (Octets.published k.exponent)
  x5c := [Base64.encodeStandard (Der.publicKeyInfo k.modulus k.exponent)]

end PublishedKey

namespace KeySet

def toJson (s : KeySet) : Json String := .object [("keys", .array (s.keys.map PublishedKey.toJson))]

def ofJson? (v : Json.Read) : Option KeySet :=
  match v.record? ["keys"] with
  | some [some keys] => keys.array?.bind fun items => (items.mapM PublishedKey.ofJson?).map KeySet.mk
  | _ => none

end KeySet

/-- The set that a signer publishes: its own key. -/
def Signer.keySet (s : Signer) : KeySet := ⟨[.ofKey s.key.publicKey]⟩

end TenantAuth
