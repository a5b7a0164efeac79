import CloudClient.Number.Binary64
import CloudClient.Number.Integer

/-!
# Reading decimal numbers

A number with a fraction or an exponent is read in two steps: its notation
is taken apart into a sign, digits and a power of ten, exactly, and that
decimal is rounded once to the nearest binary number.

The notation of a header value is the wider one – underscores between
digits, a missing whole part or fraction, the words for the infinities and
for not-a-number in any case, digits of any script, blanks around it.
-/

namespace CloudClient.Decimal

/-- A decimal as it is written: `± digits · 10 ^ exponent`. -/
structure Written where
  /-- Whether there is a minus sign. -/
  negative : Bool
  /-- All digits, with the point left out. -/
  digits : Nat
  /-- The weight of the last digit. -/
  exponent : Int
  deriving DecidableEq, Repr

/-- The binary number nearest to a decimal. -/
def Written.value (n : Written) : Binary64 := Binary64.ofDecimal n.negative n.digits n.exponent

/-- The power of ten that an exponent part denotes; none if the text is not
one. -/
def exponentPart? : List Char → Option Int
  | [] => some 0
  | c :: cs =>
    if c = 'e' ∨ c = 'E' then
      let signed := Integer.splitSign cs
      if signed.2 ≠ [] ∧ signed.2.all Integer.isAsciiDigit then
        some (Integer.ofSign signed.1 (Text.digitsValue signed.2))
      else none
    else none

/-- The decimal with the given sign whose digits, point and exponent are
written in ASCII. -/
def unsigned? (negative : Bool) (cs : List Char) : Option Written :=
  let whole := cs.takeWhile Integer.isAsciiDigit
  let rest := cs.dropWhile Integer.isAsciiDigit
  let fraction := match rest with
    | '.' :: more => more.takeWhile Integer.isAsciiDigit
    | _ => []
  let tail := match rest with
    | '.' :: more => more.dropWhile Integer.isAsciiDigit
    | other => other
  if whole = [] ∧ fraction = [] then none
  else (exponentPart? tail).map fun e =>
    ⟨negative, Text.digitsValue (whole ++ fraction), e - fraction.length⟩

/-- Whether every underscore stands between two digits, given the character
before. -/
def underscoresApart (before : Char) : List Char → Bool
  | [] => before != '_'
  | c :: cs =>
    (if c = '_' then Integer.isAsciiDigit before
     else before != '_' || Integer.isAsciiDigit c) && underscoresApart c cs

/-- The number that a sign and a word or digits denote. -/
def magnitude? (negative : Bool) (cs : List Char) : Option Binary64 :=
  let word := cs.map Text.lowerAscii
  if word = ['i', 'n', 'f'] ∨ word = ['i', 'n', 'f', 'i', 'n', 'i', 't', 'y'] then
    some (.infinite negative)
  else if word = ['n', 'a', 'n'] then some .nan
  else (unsigned? negative cs).map Written.value

/-- The number that a text denotes, if it is the notation of one. -/
def read? (s : String) : Option Binary64 :=
  let body := Text.dropEndWhile Text.isAsciiBlank
    ((Integer.toAscii s).dropWhile Text.isAsciiBlank)
  if !underscoresApart ' ' body then none
  else
    let signed := Integer.splitSign (body.filter (· != '_'))
    magnitude? signed.1 signed.2

end CloudClient.Decimal
