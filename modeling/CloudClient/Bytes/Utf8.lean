import CloudClient.RawText

/-!
# UTF-8

Bodies come and go as octets. The decoder is a machine that takes one octet
at a time: between characters it is `ready`, inside one it remembers how many
octets are missing, the bits read so far, and the range the next octet must
lie in. Restricting that range after the first octet is what shuts out
overlong forms, halves of pairs and values past the last code point.

An octet that does not fit ends the character begun before it – that part is
marked invalid *once*, however many octets it has – and is then looked at
again as the beginning of a character. So `feed` gives a list of code points
and marks, and the state it ends in; `run` puts one more mark for a character
that is still without its end. The two ways to read octets differ only in what
they do with a mark: `decode?` refuses, `decodeLossy` puts the replacement
character.

Octets may also be read with halves let through, since some writers encode the
halves of a pair one by one. A half is then a code point like any other, it is
not joined with its neighbour, and the result of `decodeRaw?` is a raw text.
-/

namespace CloudClient

/-- A row of octets. -/
abbrev Octets := List UInt8

namespace Utf8

/-- Where the decoder stands. -/
inductive State where
  /-- Between two characters. -/
  | ready
  /-- Inside a character: octets missing, bits so far, and the range of the
  next octet. -/
  | within (missing value low high : Nat)
  deriving DecidableEq, Repr

/-- What an octet at the beginning of a character leads to: the code points
and marks that are complete, and the new state. -/
def begin (halves : Bool) (b : Nat) : List (Option CodePoint) × State :=
  if b < 0x80 then ([some (.ofNat b)], .ready)
  else if b < 0xc2 then ([none], .ready)
  else if b < 0xe0 then ([], .within 1 (b - 0xc0) 0x80 0xbf)
  else if b < 0xf0 then
    let low := if b = 0xe0 then 0xa0 else 0x80
    let high := if b = 0xed ∧ !halves then 0x9f else 0xbf
    ([], .within 2 (b - 0xe0) low high)
  else if b < 0xf5 then
    let low := if b = 0xf0 then 0x90 else 0x80
    let high := if b = 0xf4 then 0x8f else 0xbf
    ([], .within 3 (b - 0xf0) low high)
  else ([none], .ready)

/-- What one octet leads to. -/
def step (halves : Bool) : State → UInt8 → List (Option CodePoint) × State
  | .ready, b => begin halves b.toNat
  | .within missing value low high, b =>
    if low ≤ b.toNat ∧ b.toNat ≤ high then
      let value := value * 64 + (b.toNat - 0x80)
      if missing ≤ 1 then ([some (.ofNat value)], .ready)
      else ([], .within (missing - 1) value 0x80 0xbf)
    else
      let restarted := begin halves b.toNat
      (none :: restarted.1, restarted.2)

/-- The code points and marks that the octets give from a state on, and the
state after them. -/
def feed (halves : Bool) : State → Octets → List (Option CodePoint) × State
  | st, [] => ([], st)
  | st, b :: bs =>
    let now := step halves st b
    let later := feed halves now.2 bs
    (now.1 ++ later.1, later.2)

/-- The mark of a character that has no end. -/
def unended : State → List (Option CodePoint)
  | .ready => []
  | .within .. => [none]

/-- The code points and marks of octets that nothing follows. -/
def run (halves : Bool) (octets : Octets) : List (Option CodePoint) :=
  let fed := feed halves .ready octets
  fed.1 ++ unended fed.2

/-- The text of the code points, if there is no mark among them. -/
def unmarked? (ps : List (Option CodePoint)) : Option RawText :=
  if ps.all Option.isSome then some ⟨ps.filterMap id⟩ else none

/-- The text whose encoding the octets are; none if any part is invalid. -/
def decode? (octets : Octets) : Option String :=
  (unmarked? (run false octets)).bind RawText.toString?

/-- The text of octets that may encode the halves of a pair one by one. -/
def decodeRaw? (octets : Octets) : Option RawText := unmarked? (run true octets)

/-- The character of a code point, and the replacement character of a mark. -/
def markedChar : Option CodePoint → Char
  | some p => p.repaired
  | none => CodePoint.replacement

/-- The text of the octets, each invalid part being one replacement
character. -/
def decodeLossy (octets : Octets) : String :=
  String.ofList ((run false octets).map markedChar)

/-- The octets of a text. -/
def encode (s : String) : Octets := s.toList.flatMap String.utf8EncodeChar

end Utf8

end CloudClient
