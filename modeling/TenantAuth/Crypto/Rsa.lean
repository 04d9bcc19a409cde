-- RSA signatures over SHA-256 (PKCS #1, version 1.5).

import TenantAuth.Crypto.Octets
import TenantAuth.Crypto.Sha256

namespace TenantAuth.Rsa

/-- `base ^ e` modulo `m`, by squaring; `fuel` bounds the binary length of `e`. -/
def powModFrom (m : Nat) : Nat → Nat → Nat → Nat → Nat
  | 0, _, _, acc => acc
  | fuel + 1, base, e, acc =>
    if e = 0 then acc
    else powModFrom m fuel (base * base % m) (e / 2) (if e % 2 = 1 then acc * base % m else acc)

def powMod (base e m : Nat) : Nat := powModFrom m (e.log2 + 1) (base % m) e (1 % m)

structure PublicKey where
  modulus : Nat
  exponent : Nat
  deriving DecidableEq, Repr

structure PrivateKey where
  modulus : Nat
  exponent : Nat
  secretExponent : Nat
  deriving DecidableEq, Repr

namespace PublicKey

/-- Octets of the modulus, and of every signature. -/
def size (k : PublicKey) : Nat := Octets.count k.modulus

/-- Bits of the modulus. -/
def bits (k : PublicKey) : Nat := if k.modulus = 0 then 0 else k.modulus.log2 + 1

end PublicKey

namespace PrivateKey

def publicKey (k : PrivateKey) : PublicKey := ⟨k.modulus, k.exponent⟩

/-- Division with remainder carried on to the end, which finds the number whose
product with `a` leaves one over `m`. The numbers `r` and `s` are the last two
remainders, and `x` and `y` times `a` leave them over `m`; `fuel` bounds the
steps. -/
def inverseFrom (m : Int) : Nat → Int → Int → Int → Int → Int
  | 0, _, _, x, _ => x % m
  | fuel + 1, r, s, x, y => if s = 0 then x % m else inverseFrom m fuel s (r % s) y (x - r / s * y)

/-- The number whose product with `a` leaves one over `m`, if `a` and `m` have
no common divisor. -/
def inverse (a m : Nat) : Nat := (inverseFrom m (2 * m.log2 + 2) a m 1 0).toNat

/-- The key of two primes and a public exponent. -/
def ofPrimes (p q exponent : Nat) : PrivateKey where
  modulus := p * q
  exponent := exponent
  secretExponent := inverse exponent ((p - 1) * (q - 1))

end PrivateKey

/-- The name of SHA-256 and the head of its hash, as the signed block has it. -/
def digestHead : List UInt8 :=
  [0x30, 0x31, 0x30, 0x0d, 0x06, 0x09, 0x60, 0x86, 0x48, 0x01, 0x65, 0x03, 0x04, 0x02, 0x01, 0x05,
   0x00, 0x04, 0x20]

/-- The block of `size` octets that is signed for a message. -/
def block (size : Nat) (message : List UInt8) : List UInt8 :=
  let tail := 0x00 :: (digestHead ++ Sha256.hash message)
  0x00 :: 0x01 :: (List.replicate (size - 2 - tail.length) 0xff ++ tail)

/-- Why a key is not used for signing. -/
inductive KeyRefusal where
  | tooSmall
  | tooLarge
  deriving DecidableEq, Repr

def KeyRefusal.message : KeyRefusal → String
  | .tooSmall => "TooSmall"
  | .tooLarge => "TooLarge"

/-- Keys of 2048 to 4096 bits sign; a length is rounded up to whole octets at
the lower end. -/
def PrivateKey.refusal? (k : PrivateKey) : Option KeyRefusal :=
  if 8 * k.publicKey.size < 2048 then some .tooSmall
  else if 4096 < k.publicKey.bits then some .tooLarge
  else none

/-- The signature of a message. -/
def PrivateKey.sign (k : PrivateKey) (message : List UInt8) : Except KeyRefusal (List UInt8) :=
  match k.refusal? with
  | some r => .error r
  | none =>
    let size := k.publicKey.size
    .ok (Octets.ofNat size
      (powMod (Octets.toNat (block size message)) k.secretExponent k.modulus))

/-- A signature is good if it has the length of the modulus, is below it, and
its power is the block of the message. Keys below 2048 or above 8192 bits
verify nothing. -/
def PublicKey.verifies (k : PublicKey) (message signature : List UInt8) : Bool :=
  let s := Octets.toNat signature
  decide (2048 ≤ 8 * k.size ∧ k.bits ≤ 8192) && decide (signature.length = k.size)
    && decide (s < k.modulus)
    && powMod s k.exponent k.modulus == Octets.toNat (block k.size message)

end TenantAuth.Rsa
