import CloudClient.Text.Digit
import CloudClient.Text.Quoted

/-!
# Reading integers

Versions, ports and waiting times arrive as text. The notation of an integer
is a sign if there is one, then digits, with blanks around the whole. Single
underscores may stand between digits. Digits and blanks of any script count
as their ASCII counterparts, which is settled first, by `toAscii`, so that
the notation itself is ASCII.

A row of more than `digitLimit` digits is refused with a fault of its own,
whatever follows it: converting it would take time that grows with the square
of its length, and the text comes from outside.
-/

namespace CloudClient

/-- Why a text is not read as an integer. -/
inductive IntegerFault where
  /-- The text is not the notation of an integer. -/
  | malformed (text : RawText)
  /-- There are more digits than are converted. -/
  | tooLong
  deriving DecidableEq, Repr

namespace Integer

/-- How many digits are converted at most. -/
def digitLimit : Nat := 4300

/-- How many characters of the quoted text a complaint shows. -/
def quoteLimit : Nat := 200

/-- The ASCII counterpart of one character: a digit of any script is its
ASCII digit, a blank beyond ASCII is a space, and any other character beyond
ASCII is a mark that no notation has. -/
def toAsciiChar (c : Char) : Char :=
  if c.toNat < 0x7f then c
  else if Text.isBlank c then ' '
  else match Text.digitValue? c with
    | some d => Text.asciiDigit d
    | none => '?'

/-- The ASCII counterpart of one code point; half of a pair has none. -/
def toAsciiPoint : CodePoint → Char
  | .char c => toAsciiChar c
  | .half _ => '?'

/-- The code points of a text with ASCII digits and blanks. -/
def toAscii (t : RawText) : List Char := t.points.map toAsciiPoint

/-- Whether a character is an ASCII digit. -/
def isAsciiDigit (c : Char) : Bool := decide ('0' ≤ c) && decide (c ≤ '9')

/-- Whether every underscore of a row stands between two digits. -/
def wellSeparated : List Char → Bool
  | [] => false
  | [c] => c != '_'
  | c :: d :: cs => !(c == '_' && d == '_') && wellSeparated (d :: cs)

/-- The sign at the front, as whether it is a minus, and what follows. -/
def splitSign : List Char → Bool × List Char
  | '+' :: cs => (false, cs)
  | '-' :: cs => (true, cs)
  | cs => (false, cs)

/-- The integer with the given sign and magnitude. -/
def ofSign (negative : Bool) (n : Nat) : Int := if negative then -(n : Int) else (n : Int)

/-- The magnitude that a row of digits and underscores denotes. -/
def magnitude? (row : List Char) : Option (Except Unit Nat) :=
  let digits := row.filter (· != '_')
  if row.head? = some '_' || !wellSeparated row then none
  else if digitLimit < digits.length then some (.error ())
  else some (.ok (Text.digitsValue digits))

/-- The integer that a text denotes. -/
def read (t : RawText) : Except IntegerFault Int :=
  let body := (toAscii t).dropWhile Text.isAsciiBlank
  let signed := splitSign body
  let row := signed.2.takeWhile fun c => isAsciiDigit c || c == '_'
  let rest := signed.2.dropWhile fun c => isAsciiDigit c || c == '_'
  match magnitude? row with
  | none => .error (.malformed t)
  | some (.error _) => .error .tooLong
  | some (.ok n) =>
    if rest.all Text.isAsciiBlank then .ok (ofSign signed.1 n) else .error (.malformed t)

/-- The integer that a row of ASCII digits denotes, as documents write it. -/
def ofDigits (negative : Bool) (digits : List Char) : Except IntegerFault Int :=
  if digitLimit < digits.length then .error .tooLong
  else .ok (ofSign negative (Text.digitsValue digits))

end Integer

/-- What a fault of reading an integer says. The text of the limit is not
kept. -/
def IntegerFault.text? : IntegerFault → Option String
  | .malformed text =>
    some ("invalid literal for int() with base 10: "
      ++ String.ofList ((Text.quoted text).toList.take Integer.quoteLimit))
  | .tooLong => none

end CloudClient
