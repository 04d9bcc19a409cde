-- Octets written as a percent sign and two hexadecimal digits.

import TenantAuth.Text.Digit
import TenantAuth.Text.Utf8

namespace TenantAuth.Text.Percent

/-- The octets that a text stands for. A percent sign without two digits behind
it stands for itself. -/
def decodeOctets : List UInt8 → List UInt8
  | [] => []
  | b :: rest =>
    if b = 0x25 then
      match rest with
      | h :: l :: rest' =>
        match hexValue? (Char.ofNat h.toNat), hexValue? (Char.ofNat l.toNat) with
        | some x, some y => UInt8.ofNat (16 * x + y) :: decodeOctets rest'
        | _, _ => b :: decodeOctets (h :: l :: rest')
      | rest => b :: decodeOctets rest
    else b :: decodeOctets rest

/-- The octets of a text whose other characters are in UTF-8. -/
def decode (cs : List Char) : List UInt8 := decodeOctets (Utf8.encode cs)

end TenantAuth.Text.Percent
