import CloudClient.RawText
import CloudClient.Text.Printable

/-!
# Quoted texts

A message that complains about a text shows it between quotes, so that a
reader sees where it begins and ends and which invisible characters it has.
Single quotes are used unless the text has a single quote and no double one;
the quote that is used, and the backslash, are escaped, the three usual
controls get their letter, and any other code point that would not show, half
of a pair among them, is written with two, four or eight hexadecimal digits.
-/

namespace CloudClient.Text

/-- The hexadecimal digit of a value below sixteen. -/
def hexDigit (n : Nat) : Char := Char.ofNat (if n < 10 then 0x30 + n else 0x57 + n)

/-- The lowest `width` hexadecimal digits of a number. -/
def hexDigits : Nat → Nat → List Char
  | 0, _ => []
  | width + 1, n => hexDigits width (n / 16) ++ [hexDigit (n % 16)]

@[simp] theorem length_hexDigits (width n : Nat) : (hexDigits width n).length = width := by
  induction width generalizing n with
  | zero => rfl
  | succ width ih => simp [hexDigits, ih]

/-- The quote that a text is shown in. -/
def quoteFor (points : List CodePoint) : Char :=
  if points.contains (.char '\'') && !points.contains (.char '"') then '"' else '\''

/-- A code point that does not show. -/
def escapeHidden (n : Nat) : List Char :=
  if n < 0x100 then '\\' :: 'x' :: hexDigits 2 n
  else if n < 0x10000 then '\\' :: 'u' :: hexDigits 4 n
  else '\\' :: 'U' :: hexDigits 8 n

/-- One character between quotes. -/
def quoteChar (quote c : Char) : List Char :=
  if c = quote ∨ c = '\\' then ['\\', c]
  else if c = '\n' then ['\\', 'n']
  else if c = '\r' then ['\\', 'r']
  else if c = '\t' then ['\\', 't']
  else if isPrintable c then [c]
  else escapeHidden c.toNat

/-- One code point between quotes. -/
def quotePoint (quote : Char) : CodePoint → List Char
  | .char c => quoteChar quote c
  | p => escapeHidden p.toNat

/-- The text between quotes, as a message shows it. -/
def quoted (t : RawText) : String :=
  let quote := quoteFor t.points
  String.ofList (quote :: t.points.flatMap (quotePoint quote) ++ [quote])

end CloudClient.Text
