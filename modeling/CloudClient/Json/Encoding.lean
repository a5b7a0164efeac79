import CloudClient.Bytes.Wide
import CloudClient.Json.Reader

/-!
# Documents as octets

A document that comes as octets says by its first octets how they are to be
decoded. A mark of byte order decides; without one, the pattern of zero
octets does, since a document begins with two ASCII characters. What fits no
pattern is UTF-8.

Octets need not encode whole characters: halves of pairs are let through in
every encoding, so what they decode to is a raw text.
-/

namespace CloudClient.Json

/-- How the octets of a document encode its characters. -/
inductive Encoding where
  | utf8
  /-- UTF-8 with a mark of byte order in front. -/
  | markedUtf8
  | utf16 (big : Bool)
  /-- UTF-16 with a mark of byte order in front. -/
  | markedUtf16 (big : Bool)
  | utf32 (big : Bool)
  /-- UTF-32 with a mark of byte order in front. -/
  | markedUtf32 (big : Bool)
  deriving DecidableEq, Repr

/-- The encoding that zero octets among the first four suggest. -/
def Encoding.ofZeros : Octets → Encoding
  | [a, b] => if a = 0 then .utf16 true else if b = 0 then .utf16 false else .utf8
  | a :: b :: c :: d :: _ =>
    if a = 0 then (if b = 0 then .utf32 true else .utf16 true)
    else if b = 0 then (if c = 0 ∧ d = 0 then .utf32 false else .utf16 false)
    else .utf8
  | _ => .utf8

/-- The encoding of a document. -/
def Encoding.detect (octets : Octets) : Encoding :=
  if [0x00, 0x00, 0xfe, 0xff].isPrefixOf octets then .markedUtf32 true
  else if [0xff, 0xfe, 0x00, 0x00].isPrefixOf octets then .markedUtf32 false
  else if [0xfe, 0xff].isPrefixOf octets then .markedUtf16 true
  else if [0xff, 0xfe].isPrefixOf octets then .markedUtf16 false
  else if [0xef, 0xbb, 0xbf].isPrefixOf octets then .markedUtf8
  else .ofZeros octets

/-- The text of octets in an encoding, without the mark of byte order. -/
def Encoding.decode? (octets : Octets) : Encoding → Option RawText
  | .utf8 => Utf8.decodeRaw? octets
  | .markedUtf8 => Utf8.decodeRaw? (octets.drop 3)
  | .utf16 big => Wide.decode16? big octets
  | .markedUtf16 big => Wide.decode16? big (octets.drop 2)
  | .utf32 big => Wide.decode32? big octets
  | .markedUtf32 big => Wide.decode32? big (octets.drop 4)

/-- Why octets are not read as a document. -/
inductive OctetsFault where
  /-- The octets are not text in the encoding they announce. -/
  | undecodable
  /-- The text is not a document. -/
  | unreadable (fault : ReadFault)
  deriving DecidableEq, Repr

/-- The value that octets are the document of. -/
def readOctets (octets : Octets) : Except OctetsFault Json :=
  match (Encoding.detect octets).decode? octets with
  | none => .error .undecodable
  | some t => (readRaw t).mapError .unreadable

end CloudClient.Json
