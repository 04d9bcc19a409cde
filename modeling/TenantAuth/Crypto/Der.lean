-- The DER encoding of the few kinds of value that a public key is published
-- in.

import TenantAuth.Crypto.Octets

namespace TenantAuth.Der

/-- The length of a content: one octet below 128, else its own octets behind
their count. -/
def length (n : Nat) : List UInt8 :=
  if n < 128 then [UInt8.ofNat n]
  else
    let bs := Octets.magnitude n
    UInt8.ofNat (128 + bs.length) :: bs

/-- A value: its tag, its length, its content. -/
def value (tag : UInt8) (content : List UInt8) : List UInt8 :=
  tag :: (length content.length ++ content)

/-- A number of no sign. Its content is never empty, and its top bit, which
would make it negative, is clear. -/
def integer (n : Nat) : List UInt8 :=
  let bs := Octets.magnitude n
  let bs := if (bs.head?.getD 128) < 128 then bs else 0 :: bs
  value 0x02 bs

def sequence (items : List (List UInt8)) : List UInt8 := value 0x30 items.flatten

/-- A string of whole octets: no bit of the last one is unused. -/
def bitString (content : List UInt8) : List UInt8 := value 0x03 (0 :: content)

/-- The algorithm identifier of RSA: the object identifier
1.2.840.113549.1.1.1, and a null for its parameters. -/
def rsaAlgorithm : List UInt8 :=
  sequence [value 0x06 [0x2a, 0x86, 0x48, 0x86, 0xf7, 0x0d, 0x01, 0x01, 0x01], value 0x05 []]

/-- A public key of RSA together with its algorithm. -/
def publicKeyInfo (modulus exponent : Nat) : List UInt8 :=
  sequence [rsaAlgorithm, bitString (sequence [integer modulus, integer exponent])]

end TenantAuth.Der
