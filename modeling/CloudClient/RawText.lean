import CloudClient.Text.Blank

/-!
# Raw texts

Some characters take a pair of code units, and nothing keeps what comes from
outside from having one half of a pair without the other: a document may spell
a half as an escape, and octets may encode one by itself. Such a text is no
`String`, since it has a code point that is no character. It is a text all the
same. It can be the name of a member, it can be quoted in a complaint, and it
is written back as it came; only octets it has none.

So a `RawText` is a row of code points, each a character or a lone half.
Every `String` is one, by `RawText.ofString`, and those are exactly the raw
texts that are *whole*: `toString?_ofString` and `ofString_of_toString?` say
that the two functions undo each other.

Where a text is spelt in units, `RawText.ofUnits` reads it: two halves that
follow each other in the right order are the character of the pair, and any
other half stays alone. Halves that are code points of a text already are
never joined. Where a text is bound for a place that takes characters only,
`repaired` puts the replacement character for each half.
-/

namespace CloudClient

/-- A character, or half of a pair of code units. -/
inductive CodePoint where
  | char (c : Char)
  /-- The half at an offset among all halves, first halves before second
  ones. -/
  | half (offset : Fin 0x800)
  deriving DecidableEq, Repr, Inhabited

namespace CodePoint

/-- The code unit of the first of all halves. -/
def firstHalf : Nat := 0xd800

/-- The code point as a number. -/
def toNat : CodePoint → Nat
  | .char c => c.toNat
  | .half offset => firstHalf + offset.val

/-- The code point of a number. -/
def ofNat (n : Nat) : CodePoint :=
  if h : firstHalf ≤ n ∧ n - firstHalf < 0x800 then .half ⟨n - firstHalf, h.2⟩
  else .char (Char.ofNat n)

/-- The character of a code point, if it is one. -/
def char? : CodePoint → Option Char
  | .char c => some c
  | .half _ => none

/-- The character that stands for what is none. -/
def replacement : Char := '\ufffd'

/-- The character of a code point, the replacement character for a half. -/
def repaired (p : CodePoint) : Char := p.char?.getD replacement

/-- Whether a code point is a blank. -/
def isBlank : CodePoint → Bool
  | .char c => Text.isBlank c
  | .half _ => false

/-- Whether a unit is the first half of a pair. -/
def isHigh (n : Nat) : Bool := decide (0xd800 ≤ n) && decide (n ≤ 0xdbff)

/-- Whether a unit is the second half of a pair. -/
def isLow (n : Nat) : Bool := decide (0xdc00 ≤ n) && decide (n ≤ 0xdfff)

/-- The character of a pair of halves. -/
def pair (high low : Nat) : Char :=
  Char.ofNat (0x10000 + (high - 0xd800) * 0x400 + (low - 0xdc00))

/-- The code points of a row of units. -/
def ofUnits : List Nat → List CodePoint
  | [] => []
  | [n] => [ofNat n]
  | n :: m :: rest =>
    if isHigh n && isLow m then .char (pair n m) :: ofUnits rest
    else ofNat n :: ofUnits (m :: rest)

end CodePoint

/-- A text whose code points need not all be characters. -/
structure RawText where
  /-- The code points. -/
  points : List CodePoint
  deriving DecidableEq, Repr, Inhabited

namespace RawText

/-- The raw text of a text. -/
def ofString (s : String) : RawText := ⟨s.toList.map .char⟩

instance : Coe String RawText := ⟨ofString⟩

/-- The raw text that a row of units spells. -/
def ofUnits (units : List Nat) : RawText := ⟨CodePoint.ofUnits units⟩

/-- The characters of code points, if all of them are characters. -/
def chars? : List CodePoint → Option (List Char)
  | [] => some []
  | .char c :: more => (chars? more).map (c :: ·)
  | .half _ :: _ => none

/-- The text, if it is whole. -/
def toString? (t : RawText) : Option String := (chars? t.points).map String.ofList

/-- Whether the text has no lone half. -/
def isWhole (t : RawText) : Bool := t.toString?.isSome

/-- The text with the replacement character for each lone half. -/
def repaired (t : RawText) : String := String.ofList (t.points.map CodePoint.repaired)

/-- One text after the other. -/
def append (s t : RawText) : RawText := ⟨s.points ++ t.points⟩

instance : Append RawText := ⟨append⟩

/-- Whether there is nothing in the text. -/
def isEmpty (t : RawText) : Bool := t.points.isEmpty

/-- Whether the text has nothing but blanks. -/
def isBlank (t : RawText) : Bool := t.points.all CodePoint.isBlank

/-- The text without the blanks at both ends. -/
def trim (t : RawText) : RawText :=
  ⟨Text.dropEndWhile CodePoint.isBlank (t.points.dropWhile CodePoint.isBlank)⟩

/-- Whether the text `t` ends with `ending`. -/
def endsWith (ending t : RawText) : Bool := ending.points.isSuffixOf t.points

theorem chars?_map_char (cs : List Char) : chars? (cs.map .char) = some cs := by
  induction cs with
  | nil => rfl
  | cons c cs ih => simp [chars?, ih]

theorem eq_map_char_of_chars? {points : List CodePoint} {cs : List Char}
    (h : chars? points = some cs) : points = cs.map .char := by
  induction points generalizing cs with
  | nil =>
    cases h
    rfl
  | cons p points ih =>
    cases p with
    | half offset => cases h
    | char c =>
      obtain ⟨ds, hd, rfl⟩ := Option.map_eq_some_iff.1 h
      rw [ih hd, List.map_cons]

/-- A text is whole, and the text of its raw text is itself. -/
@[simp] theorem toString?_ofString (s : String) : (ofString s).toString? = some s := by
  simp [toString?, ofString, chars?_map_char]

/-- A whole raw text is the raw text of its text. -/
theorem ofString_of_toString? {t : RawText} {s : String} (h : t.toString? = some s) :
    ofString s = t := by
  obtain ⟨cs, hc, rfl⟩ := Option.map_eq_some_iff.1 h
  obtain ⟨points⟩ := t
  rw [ofString, String.toList_ofList, ← eq_map_char_of_chars? hc]

/-- Different texts are different raw texts. -/
theorem ofString_injective {s t : String} (h : ofString s = ofString t) : s = t := by
  have hs := congrArg toString? h
  rw [toString?_ofString, toString?_ofString] at hs
  exact Option.some.inj hs

/-- There is nothing to repair in a whole text. -/
@[simp] theorem repaired_ofString (s : String) : (ofString s).repaired = s := by
  have h : s.toList.map (CodePoint.repaired ∘ CodePoint.char) = s.toList := by
    rw [show (CodePoint.repaired ∘ CodePoint.char) = id from rfl, List.map_id]
  rw [repaired, ofString, List.map_map, h, String.ofList_toList]

@[simp] theorem isBlank_ofString (s : String) : (ofString s).isBlank = Text.allBlank s :=
  List.all_map

@[simp] theorem isEmpty_ofString (s : String) : (ofString s).isEmpty = (s == "") := by
  rw [Bool.eq_iff_iff, isEmpty, ofString, List.isEmpty_iff, List.map_eq_nil_iff, beq_iff_eq,
    String.toList_eq_nil_iff]

end RawText

end CloudClient
