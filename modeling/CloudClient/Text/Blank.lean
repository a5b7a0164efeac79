import CloudClient.Text.Pieces

/-!
# Blank characters

A value read from a file, a header or a document is trimmed before it is
used, and a text of blanks alone counts as no value. *Blank* is a property
of the character standard and wider than the usual handful: besides space,
tabulator and the line ends it has the four information separators, the
no-break space, and the typographic and ideographic spaces.

The table holds the property as ranges of code points. Numbers and octets
have a narrower notion, `isAsciiBlank`, since their notations are ASCII.
-/

namespace CloudClient.Text

/-- The ranges of code points that are blank. -/
def blankRanges : List (Nat × Nat) :=
  [(0x09, 0x0d), (0x1c, 0x20), (0x85, 0x85), (0xa0, 0xa0), (0x1680, 0x1680),
   (0x2000, 0x200a), (0x2028, 0x2029), (0x202f, 0x202f), (0x205f, 0x205f),
   (0x3000, 0x3000)]

/-- Whether a code point lies in one of the ranges. -/
def inRanges (ranges : List (Nat × Nat)) (n : Nat) : Bool :=
  ranges.any fun r => decide (r.1 ≤ n) && decide (n ≤ r.2)

/-- Whether a character is blank. -/
def isBlank (c : Char) : Bool := inRanges blankRanges c.toNat

/-- Whether a character is one of the six blanks of the ASCII notations:
tabulator, line feed, vertical tabulator, form feed, carriage return and
space. -/
def isAsciiBlank (c : Char) : Bool :=
  (decide (0x09 ≤ c.toNat) && decide (c.toNat ≤ 0x0d)) || c.toNat == 0x20

/-- The small letter of an ASCII capital; any other character itself. -/
def lowerAscii (c : Char) : Char :=
  if 'A' ≤ c ∧ c ≤ 'Z' then Char.ofNat (c.toNat + 0x20) else c

/-- The list without the blanks at both ends. -/
def trimList (cs : List Char) : List Char := dropEndWhile isBlank (cs.dropWhile isBlank)

/-- The text without the blanks at both ends. -/
def trim (s : String) : String := String.ofList (trimList s.toList)

@[simp] theorem toList_trim (s : String) : (trim s).toList = trimList s.toList := by
  simp [trim]

/-- Whether a text has nothing but blanks. -/
def allBlank (s : String) : Bool := s.toList.all isBlank

/-- The trimmed text, if anything is left of it. -/
def nonBlank? (s : String) : Option String :=
  if trim s = "" then none else some (trim s)

end CloudClient.Text
