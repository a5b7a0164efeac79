import CloudClient.Bytes.Utf8

/-!
# UTF-16 and UTF-32

Documents may also come in units of two or four octets, in either order.
Two-octet units pair up into characters beyond the first plane, and a half
without its partner stays alone. A four-octet unit is a code point by itself,
so halves are let through there, and even the two of a pair stay apart.
Octets left over at the end, and four-octet units past the last code point,
make the whole unreadable.
-/

namespace CloudClient.Wide

/-- The number that octets denote, the most significant first. -/
def bigEndian (octets : Octets) : Nat := octets.foldl (fun n b => n * 256 + b.toNat) 0

/-- The number that octets denote in the given order. -/
def unit (big : Bool) (octets : Octets) : Nat := bigEndian (if big then octets else octets.reverse)

/-- The units of two octets; none if one octet is left over. -/
def units16? (big : Bool) : Octets → Option (List Nat)
  | [] => some []
  | [_] => none
  | a :: b :: rest => (units16? big rest).map (unit big [a, b] :: ·)

/-- The units of four octets; none if some octets are left over. -/
def units32? (big : Bool) : Octets → Option (List Nat)
  | [] => some []
  | a :: b :: c :: d :: rest => (units32? big rest).map (unit big [a, b, c, d] :: ·)
  | _ => none

/-- The text of octets in two-octet units. -/
def decode16? (big : Bool) (octets : Octets) : Option RawText :=
  (units16? big octets).map RawText.ofUnits

/-- The text of octets in four-octet units. -/
def decode32? (big : Bool) (octets : Octets) : Option RawText :=
  (units32? big octets).bind fun us =>
    if us.all (fun n => decide (n ≤ 0x10ffff)) then some ⟨us.map CodePoint.ofNat⟩ else none

end CloudClient.Wide
