import CloudClient.Number.Integer

/-!
# Address literals

A host in brackets is an address literal: a version-six address, with a zone
after a percent sign if there is one, or a future form that announces its
version with a `v`. Any other text in brackets makes the whole locator
unreadable, so the check decides which locators are readable at all.

An address is groups of hexadecimal digits between colons, eight of them
unless one gap `::` stands for the missing ones; the last two groups may be
written as four decimal octets.
-/

namespace CloudClient.Url

/-- Whether a character is an ASCII hexadecimal digit. -/
def isHex (c : Char) : Bool :=
  Integer.isAsciiDigit c || (decide ('a' ≤ c) && decide (c ≤ 'f'))
    || (decide ('A' ≤ c) && decide (c ≤ 'F'))

/-- Whether a text is a group of an address. -/
def isGroup (cs : List Char) : Bool := !cs.isEmpty && cs.all isHex && decide (cs.length ≤ 4)

/-- Whether a text is a decimal octet without superfluous zeros. -/
def isOctet (cs : List Char) : Bool :=
  !cs.isEmpty && cs.all Integer.isAsciiDigit && decide (cs.length ≤ 3)
    && (cs == ['0'] || cs.head? != some '0') && decide (Text.digitsValue cs ≤ 255)

/-- Whether a text is four decimal octets. -/
def isDotted (cs : List Char) : Bool :=
  let parts := Text.cut '.' cs
  parts.length == 4 && parts.all isOctet

/-- How many groups a whole address has. -/
def groupCount : Nat := 8

/-- The parts of an address with its dotted end, if it has one, as two
groups. -/
def groupedParts? (parts : List (List Char)) : Option (List (List Char)) :=
  match parts.getLast? with
  | none => none
  | some last =>
    if last.contains '.' then
      if isDotted last then some (parts.dropLast ++ [['0'], ['0']]) else none
    else some parts

/-- The positions of the empty parts that are not at an end. -/
def gaps (parts : List (List Char)) : List Nat :=
  (List.range parts.length).filter fun i =>
    decide (1 ≤ i) && decide (i + 1 < parts.length) && (parts.getD i []).isEmpty

/-- Whether the parts on one side of the gap are groups; the side may also be
a single empty part, where the gap is at an end of the address. -/
def isSide (side : List (List Char)) : Bool := side == [[]] || side.all isGroup

/-- How many groups one side of the gap has. -/
def sideLength (side : List (List Char)) : Nat := if side = [[]] then 0 else side.length

/-- Whether the parts between colons make an address. -/
def isGrouped (parts : List (List Char)) : Bool :=
  decide (parts.length ≤ groupCount + 1) &&
  match gaps parts with
  | [] => parts.length == groupCount && parts.all isGroup
  | [gap] =>
    let before := parts.take gap
    let after := parts.drop (gap + 1)
    isSide before && isSide after && decide (sideLength before + sideLength after < groupCount)
  | _ => false

/-- Whether a text is a version-six address without a zone. -/
def isAddress (cs : List Char) : Bool :=
  let parts := Text.cut ':' cs
  decide (3 ≤ parts.length) &&
  match groupedParts? parts with
  | none => false
  | some grouped => isGrouped grouped

/-- Whether a text is a version-six address, with a zone or without. -/
def isZonedAddress (cs : List Char) : Bool :=
  match Text.breakAt '%' cs with
  | (address, none) => isAddress address
  | (address, some zone) => !zone.isEmpty && !zone.contains '%' && isAddress address

/-- Whether a text after its `v` is a literal of a future version. -/
def isFuture (cs : List Char) : Bool :=
  match cs.dropWhile isHex with
  | '.' :: rest => !(cs.takeWhile isHex).isEmpty && !rest.isEmpty
  | _ => false

/-- Whether a text may stand in brackets. -/
def isLiteral (cs : List Char) : Bool :=
  match cs with
  | 'v' :: rest => isFuture rest
  | cs => isZonedAddress cs

end CloudClient.Url
