import CloudClient.Text.Pieces

/-!
# Binary floating-point numbers

Waiting times, probabilities and the fractional numbers of a document are
binary floating-point numbers of 64 bits. Nothing here calculates with them:
they are read, compared and written. So a number is kept as what it denotes –
a sign, a mantissa below `2 ^ 53` and a binary exponent – and everything is
exact arithmetic on naturals, which a proof can follow.

## Rounding

`Binary64.ofRatio` is the number nearest to a ratio, a tie going to the even
mantissa; past the greatest number it is an infinity. The exponent is the one
that gives the mantissa 53 digits, but not below that of the least number, so
each number has one form and equality of forms is equality of numbers – up to
the two zeros, which are different numbers that compare equal.

## Order

`Binary64.lt` compares the exact values. Not-a-number is neither less nor
greater than anything, itself included; `Binary64.min` and `Binary64.max` are
defined by a single comparison, so which argument they return then is part of
their rule.

## Writing

`Binary64.text` writes the fewest decimal digits that read back as the same
number (`Binary64.shortest`), in positional notation from `10 ^ (-4)` up to
`10 ^ 16` and with an exponent outside of it, and never without a mark that
tells it from an integer.
-/

namespace CloudClient

/-- A binary floating-point number of 64 bits. -/
inductive Binary64 where
  /-- Not a number. -/
  | nan
  /-- One of the two infinities. -/
  | infinite (negative : Bool)
  /-- The number `± mantissa · 2 ^ exponent`. -/
  | finite (negative : Bool) (mantissa : Nat) (exponent : Int)
  deriving DecidableEq, Repr, Inhabited

namespace Binary64

/-- The binary exponent of the least positive number. -/
def leastExponent : Int := -1074

/-- The greatest binary exponent of a mantissa of 53 digits. -/
def greatestExponent : Int := 971

/-- Zero with a sign. -/
def zero (negative : Bool) : Binary64 := .finite negative 0 leastExponent

/-! ## Rounding -/

/-- The quotient rounded to the nearest natural, a tie to the even one. -/
def roundQuotient (num den : Nat) : Nat :=
  let q := num / den
  let r := num % den
  if den < 2 * r ∨ (2 * r = den ∧ q % 2 = 1) then q + 1 else q

/-- The ratio `num / den` divided by `2 ^ e`, as a ratio again. -/
def scaled (num den : Nat) (e : Int) : Nat × Nat :=
  if 0 ≤ e then (num, den * Nat.pow 2 e.toNat) else (num * Nat.pow 2 (-e).toNat, den)

/-- The exponent that gives a ratio a mantissa of 53 digits, but not below
the least one. -/
def exponentFor (num den : Nat) : Int :=
  let guess : Int := (num.log2 : Int) - (den.log2 : Int) - 52
  let parts := scaled num den guess
  let e := if parts.1 / parts.2 < Nat.pow 2 52 then guess - 1 else guess
  if e < leastExponent then leastExponent else e

/-- The number with the given mantissa and exponent, after a rounding that
may have carried into one more digit. -/
def pack (negative : Bool) (mantissa : Nat) (exponent : Int) : Binary64 :=
  let carried := mantissa = Nat.pow 2 53
  let m := if carried then Nat.pow 2 52 else mantissa
  let e := if carried then exponent + 1 else exponent
  if greatestExponent < e then .infinite negative else .finite negative m e

/-- The number nearest to a ratio. -/
def ofRatio (negative : Bool) (num den : Nat) : Binary64 :=
  if num = 0 then zero negative
  else
    let e := exponentFor num den
    let parts := scaled num den e
    pack negative (roundQuotient parts.1 parts.2) e

/-- The number nearest to an integer; an integer beyond the greatest number
has none. -/
def ofInt? (n : Int) : Option Binary64 :=
  match ofRatio (decide (n < 0)) n.natAbs 1 with
  | .finite s m e => some (.finite s m e)
  | _ => none

/-- The number nearest to `± digits · 10 ^ exponent`. Exponents far outside
the range of the format are settled without forming the power. -/
def ofDecimal (negative : Bool) (digits : Nat) (exponent : Int) : Binary64 :=
  if digits = 0 then zero negative
  else if 400 < exponent then .infinite negative
  else if exponent + (digits.log2 : Int) + 1 < -400 then zero negative
  else if 0 ≤ exponent then ofRatio negative (digits * Nat.pow 10 exponent.toNat) 1
  else ofRatio negative digits (Nat.pow 10 (-exponent).toNat)

/-! ## Order -/

/-- The mantissa with its sign. -/
def signed (negative : Bool) (m : Nat) : Int := if negative then -(m : Int) else (m : Int)

/-- Whether one number is less than another. -/
def lt : Binary64 → Binary64 → Bool
  | .nan, _ | _, .nan => false
  | .infinite a, .infinite b => a && !b
  | .infinite a, .finite .. => a
  | .finite .., .infinite b => !b
  | .finite a m d, .finite b n e =>
    let low := min d e
    decide (signed a (m * Nat.pow 2 (d - low).toNat) < signed b (n * Nat.pow 2 (e - low).toNat))

/-- Whether two numbers are equal as numbers: the two zeros are, and
not-a-number is equal to nothing. -/
def sameNumber (x y : Binary64) : Bool :=
  x != .nan && y != .nan && !x.lt y && !y.lt x

/-- The lesser of two numbers; the first unless the second is less. -/
def min (x y : Binary64) : Binary64 := if y.lt x then y else x

/-- The greater of two numbers; the first unless the second is greater. -/
def max (x y : Binary64) : Binary64 := if x.lt y then y else x

/-- Whether a number is not zero; not-a-number is not zero. -/
def isNonzero : Binary64 → Bool
  | .finite _ m _ => m != 0
  | _ => true

/-! ## Writing -/

/-- How many decimal digits a natural has; zero has none. -/
def decimalLength (n : Nat) : Nat := if n = 0 then 0 else (Nat.toDigits 10 n).length

/-- The exponent of the leading decimal digit of a positive ratio: below one
it is read off the reciprocal. -/
def leadingExponent (num den : Nat) : Int :=
  if den ≤ num then (decimalLength (num / den) : Int) - 1
  else -(decimalLength ((den - 1) / num) : Int)

/-- The value of a positive finite number as a ratio. -/
def ratio (mantissa : Nat) (exponent : Int) : Nat × Nat :=
  if 0 ≤ exponent then (mantissa * Nat.pow 2 exponent.toNat, 1) else (mantissa, Nat.pow 2 (-exponent).toNat)

/-- Whether the decimal `digits · 10 ^ place` reads back as the number. -/
def readsBack (mantissa : Nat) (exponent : Int) (digits : Nat) (place : Int) : Bool :=
  ofDecimal false digits place == .finite false mantissa exponent

/-- A decimal of `count` digits that reads back as the number, if there is
one: of the two neighbours on that grid the nearer that does. -/
def decimalOf? (mantissa : Nat) (exponent : Int) (count : Nat) : Option (Nat × Int) :=
  let value := ratio mantissa exponent
  let place := leadingExponent value.1 value.2 + 1 - count
  let num := if 0 ≤ place then value.1 else value.1 * Nat.pow 10 (-place).toNat
  let den := if 0 ≤ place then value.2 * Nat.pow 10 place.toNat else value.2
  let below := num / den
  let near := roundQuotient num den
  let far := if near = below then below + 1 else below
  if readsBack mantissa exponent near place then some (near, place)
  else if readsBack mantissa exponent far place then some (far, place)
  else none

/-- How many decimal digits always suffice. -/
def sufficientDigits : Nat := 17

/-- The decimal of fewest digits that reads back as the number. -/
def shortest (mantissa : Nat) (exponent : Int) : Nat × Int :=
  let found := (List.range sufficientDigits).findSome? fun i => decimalOf? mantissa exponent (i + 1)
  found.getD (0, 0)

/-- The power of ten from which a number is written with an exponent. -/
def positionalLimit : Int := 16

/-- The negative power of ten below which a number is written with an
exponent. -/
def positionalLeast : Int := -4

/-- An exponent with its sign and at least two digits. -/
def exponentText (e : Int) : List Char :=
  let digits := (toString e.natAbs).toList
  (if e < 0 then '-' else '+') :: (if digits.length < 2 then '0' :: digits else digits)

/-- Digits whose first has the weight `10 ^ lead`, in positional notation if
that is not too long. -/
def layOut (digits : List Char) (lead : Int) : List Char :=
  if positionalLeast ≤ lead ∧ lead < positionalLimit then
    if lead < 0 then '0' :: '.' :: (List.replicate (-lead - 1).toNat '0' ++ digits)
    else
      let whole := (lead + 1).toNat
      if digits.length ≤ whole then
        digits ++ List.replicate (whole - digits.length) '0' ++ ['.', '0']
      else digits.take whole ++ '.' :: digits.drop whole
  else match digits with
    | [] => []
    | [d] => d :: 'e' :: exponentText lead
    | d :: ds => d :: '.' :: ds ++ 'e' :: exponentText lead

/-- The digits and sign of a finite number. -/
def finiteText (negative : Bool) (mantissa : Nat) (exponent : Int) : List Char :=
  let body :=
    if mantissa = 0 then ['0', '.', '0']
    else
      let d := shortest mantissa exponent
      let digits := (Nat.toDigits 10 d.1)
      let lead := d.2 + (digits.length : Int) - 1
      layOut (Text.dropEndWhile (· == '0') digits) lead
  if negative then '-' :: body else body

/-- The number as text. -/
def text : Binary64 → String
  | .nan => "nan"
  | .infinite false => "inf"
  | .infinite true => "-inf"
  | .finite s m e => String.ofList (finiteText s m e)

end Binary64

end CloudClient
