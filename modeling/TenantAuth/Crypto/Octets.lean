-- Numbers as rows of octets, the most significant octet first.

namespace TenantAuth.Octets

/-- The last `count` octets of a number. -/
def ofNat : Nat → Nat → List UInt8
  | 0, _ => []
  | count + 1, n => ofNat count (n / 256) ++ [UInt8.ofNat n]

/-- How many octets a number needs. -/
def count (n : Nat) : Nat := if n = 0 then 0 else n.log2 / 8 + 1

/-- The octets of a number with no zero in front; none for zero. -/
def magnitude (n : Nat) : List UInt8 := ofNat (count n) n

/-- The octets that a number is published in: those of its magnitude, and one for zero. -/
def published (n : Nat) : List UInt8 := if n = 0 then [0] else magnitude n

/-- The number that octets write. -/
def toNat (bs : List UInt8) : Nat := bs.foldl (fun n b => 256 * n + b.toNat) 0

@[simp] theorem length_ofNat (k n : Nat) : (ofNat k n).length = k := by
  induction k generalizing n with
  | zero => rfl
  | succ k ih => simp [ofNat, ih]

theorem toNat_append_singleton (bs : List UInt8) (b : UInt8) :
    toNat (bs ++ [b]) = 256 * toNat bs + b.toNat := by
  simp [toNat]

end TenantAuth.Octets
