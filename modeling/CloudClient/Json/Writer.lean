import CloudClient.Json.Value

/-!
# Writing documents

A document is written on one line with a space after each comma and colon,
the members of an object in their order, and in ASCII alone: any other
character is escaped with its code unit in four hexadecimal digits, a
character beyond the first plane with a pair of units, and a lone half with
its own unit. So the octets of a request body do not depend on an encoding,
and every value has them.

Numbers that are no decimals have words, which a reader of this library takes
back.
-/

namespace CloudClient.Json

/-- A code unit as an escape. -/
def unitEscape (n : Nat) : List Char := '\\' :: 'u' :: Text.hexDigits 4 n

/-- One character inside a text. -/
def escapeChar (c : Char) : List Char :=
  if c = '"' then ['\\', '"']
  else if c = '\\' then ['\\', '\\']
  else if c = '\n' then ['\\', 'n']
  else if c = '\r' then ['\\', 'r']
  else if c = '\t' then ['\\', 't']
  else if c = '\x0c' then ['\\', 'f']
  else if c = '\x08' then ['\\', 'b']
  else if ' ' ≤ c ∧ c ≤ '~' then [c]
  else if c.toNat < 0x10000 then unitEscape c.toNat
  else
    unitEscape (0xd800 + (c.toNat - 0x10000) / 0x400)
      ++ unitEscape (0xdc00 + (c.toNat - 0x10000) % 0x400)

/-- One code point inside a text. -/
def escapePoint : CodePoint → List Char
  | .char c => escapeChar c
  | p => unitEscape p.toNat

/-- A text with its quotes. -/
def textChars (t : RawText) : List Char := '"' :: t.points.flatMap escapePoint ++ ['"']

/-- The characters of a fractional number. -/
def floatChars : Binary64 → List Char
  | .nan => ['N', 'a', 'N']
  | .infinite false => "Infinity".toList
  | .infinite true => "-Infinity".toList
  | .finite s m e => Binary64.finiteText s m e

/-- The characters of an integer. -/
def intChars (n : Int) : List Char :=
  if n < 0 then '-' :: Nat.toDigits 10 n.natAbs else Nat.toDigits 10 n.natAbs

mutual

/-- The characters of a value. -/
def chars : Json → List Char
  | .null => ['n', 'u', 'l', 'l']
  | .bool true => ['t', 'r', 'u', 'e']
  | .bool false => ['f', 'a', 'l', 's', 'e']
  | .int n => intChars n
  | .float x => floatChars x
  | .str t => textChars t
  | .arr elements => '[' :: elementChars elements ++ [']']
  | .obj members => '\x7b' :: memberChars members ++ ['\x7d']

/-- The characters of the elements of an array. -/
def elementChars : List Json → List Char
  | [] => []
  | [v] => chars v
  | v :: w :: more => chars v ++ ',' :: ' ' :: elementChars (w :: more)

/-- The characters of the members of an object. -/
def memberChars : List (RawText × Json) → List Char
  | [] => []
  | [(k, v)] => textChars k ++ ':' :: ' ' :: chars v
  | (k, v) :: w :: more =>
    textChars k ++ ':' :: ' ' :: chars v ++ ',' :: ' ' :: memberChars (w :: more)

end

/-- The value as a document on one line. -/
def write (v : Json) : String := String.ofList v.chars

end CloudClient.Json
