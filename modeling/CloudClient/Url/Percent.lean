import CloudClient.Bytes.Utf8

/-!
# Percent encoding

The identifier of a resource becomes part of a path. Letters, digits and the
marks `_.-~` stand for themselves, and so does the slash, since identifiers
may have several segments; every other octet of the text's encoding is
written as a percent sign and two hexadecimal digits. So an identifier can
bring neither a query nor a fragment nor a blank into a locator, and reading
the percent signs back gives its octets again (`Percent.decode`).
-/

namespace CloudClient.Percent

/-- Whether an octet stands for itself. -/
def isPlain (b : UInt8) : Bool :=
  let n := b.toNat
  (decide (0x30 ≤ n) && decide (n ≤ 0x39)) || (decide (0x41 ≤ n) && decide (n ≤ 0x5a))
    || (decide (0x61 ≤ n) && decide (n ≤ 0x7a))
    || n == 0x5f || n == 0x2e || n == 0x2d || n == 0x7e || n == 0x2f

/-- The capital hexadecimal digit of a value below sixteen. -/
def digit (n : Nat) : Char := Char.ofNat (if n < 10 then 0x30 + n else 0x37 + n)

/-- One octet inside a path. -/
def encodeOctet (b : UInt8) : List Char :=
  if isPlain b then [Char.ofNat b.toNat] else ['%', digit (b.toNat / 16), digit (b.toNat % 16)]

/-- The text of octets inside a path. -/
def encodeOctets (octets : Octets) : List Char := octets.flatMap encodeOctet

/-- The text of an identifier inside a path. -/
def encode (s : String) : String := String.ofList (encodeOctets (Utf8.encode s))

/-- The value of a capital hexadecimal digit. -/
def digitValue? (c : Char) : Option Nat :=
  if '0' ≤ c ∧ c ≤ '9' then some (c.toNat - 0x30)
  else if 'A' ≤ c ∧ c ≤ 'F' then some (c.toNat - 0x37)
  else none

/-- The octets that an encoded text stands for; none if a percent sign lacks
its digits or a character is no octet. -/
def decode : List Char → Option Octets
  | [] => some []
  | '%' :: a :: b :: cs =>
    match digitValue? a, digitValue? b, decode cs with
    | some a, some b, some octets => some (UInt8.ofNat (a * 16 + b) :: octets)
    | _, _, _ => none
  | c :: cs =>
    if c = '%' ∨ 0x100 ≤ c.toNat then none
    else (decode cs).map (UInt8.ofNat c.toNat :: ·)

end CloudClient.Percent
