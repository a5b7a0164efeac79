import CloudClient.Json.Value
import CloudClient.Number.Decimal

/-!
# Reading documents

The reader takes one value from the front of a row of code points and returns
it with what is left, so the grammar is the shape of the functions. It is the
usual grammar of documents, with two changes and two limits. The words `NaN`,
`Infinity` and `-Infinity` are numbers, and a text may not hold a bare control
character. An integer of too many digits is refused with a fault of its own,
and so is an array or object with too many others around it. Faults come in
reading order, so of two faults in a document the first one is reported.

A document is a raw text, and so are the texts in it. Half of a pair of code
units can get into one in two ways, as an escape and as a code point of the
document. Two escapes that follow each other and are the halves of a pair
spell one character; any other half stays what it is, also beside a partner
that came the other way. Outside the texts a half is a fault like any
character that does not belong there.

## What bounds the reader

Recursion is on a measure that is at least the number of code points left:
each value, member and element takes at least one, so `readRaw`, which starts
with one more than there are, never runs out of it.

How deep it goes is bounded apart from that, by the *room* that is left for
arrays and objects inside the one that is being read. What stands side by side
takes no room from each other, and a text or number takes none at all. The
room is looked at where an array or object opens, so a document may be refused
for its depth that would turn out malformed further on.
-/

namespace CloudClient.Json

/-- Why a text is not read as a document. -/
inductive ReadFault where
  /-- The text breaks the grammar. -/
  | malformed
  /-- An integer has more digits than are converted. -/
  | longInteger
  /-- Arrays and objects are nested deeper than is read. -/
  | tooDeep
  deriving DecidableEq, Repr

/-- A value or part of one with the code points that are left. -/
abbrev Step (α : Type) := Except ReadFault (α × List CodePoint)

/-- Whether a code point may stand between the parts of a document. -/
def isSpace (p : CodePoint) : Bool :=
  p == .char ' ' || p == .char '\t' || p == .char '\n' || p == .char '\r'

/-- The code points after the spaces at the front. -/
def skip (ps : List CodePoint) : List CodePoint := ps.dropWhile isSpace

/-! ## Texts -/

/-- The value of a hexadecimal digit. -/
def hexValue? (c : Char) : Option Nat :=
  if '0' ≤ c ∧ c ≤ '9' then some (c.toNat - 0x30)
  else if 'a' ≤ c ∧ c ≤ 'f' then some (c.toNat - 0x57)
  else if 'A' ≤ c ∧ c ≤ 'F' then some (c.toNat - 0x37)
  else none

/-- The code unit of four hexadecimal digits. -/
def unit? (a b c d : Char) : Option Nat :=
  (hexValue? a).bind fun a => (hexValue? b).bind fun b =>
    (hexValue? c).bind fun c => (hexValue? d).map fun d => ((a * 16 + b) * 16 + c) * 16 + d

/-- The character that a letter after a backslash stands for. -/
def shortEscape? (c : Char) : Option Char :=
  if c = '"' ∨ c = '\\' ∨ c = '/' then some c
  else if c = 'b' then some '\x08'
  else if c = 'f' then some '\x0c'
  else if c = 'n' then some '\n'
  else if c = 'r' then some '\r'
  else if c = 't' then some '\t'
  else none

/-- A piece of a text as it is spelt. -/
inductive Spelling where
  /-- A code point that stands for itself. -/
  | point (p : CodePoint)
  /-- The escape of a code unit. -/
  | escape (unit : Nat)
  deriving DecidableEq, Repr

/-- The code points that pieces spell. -/
def Spelling.points : List Spelling → List CodePoint
  | [] => []
  | .point p :: more => p :: points more
  | .escape n :: .escape m :: more =>
    if CodePoint.isHigh n && CodePoint.isLow m then .char (CodePoint.pair n m) :: points more
    else .ofNat n :: points (.escape m :: more)
  | .escape n :: more => .ofNat n :: points more

/-- The pieces of a text up to its closing quote. -/
def spellings : List CodePoint → Step (List Spelling)
  | [] => .error .malformed
  | .char '"' :: ps => .ok ([], ps)
  | .char '\\' :: .char 'u' :: .char a :: .char b :: .char c :: .char d :: ps =>
    match unit? a b c d, spellings ps with
    | some n, .ok (found, rest) => .ok (.escape n :: found, rest)
    | none, _ => .error .malformed
    | _, .error e => .error e
  | .char '\\' :: .char c :: ps =>
    match shortEscape? c, spellings ps with
    | some e, .ok (found, rest) => .ok (.point (.char e) :: found, rest)
    | none, _ => .error .malformed
    | _, .error e => .error e
  | p :: ps =>
    if p = .char '\\' ∨ p.toNat < 0x20 then .error .malformed
    else match spellings ps with
      | .ok (found, rest) => .ok (.point p :: found, rest)
      | .error e => .error e

/-- The text up to its closing quote. -/
def text (ps : List CodePoint) : Step RawText :=
  match spellings ps with
  | .ok (found, rest) => .ok (⟨Spelling.points found⟩, rest)
  | .error e => .error e

/-! ## Numbers -/

/-- Whether a code point is an ASCII digit. -/
def isDigit : CodePoint → Bool
  | .char c => Integer.isAsciiDigit c
  | .half _ => false

/-- The digits at the front, and what follows them. -/
def digits (ps : List CodePoint) : List Char × List CodePoint :=
  ((ps.takeWhile isDigit).filterMap CodePoint.char?, ps.dropWhile isDigit)

/-- The sign at the front, as whether it is a minus, and what follows. -/
def sign : List CodePoint → Bool × List CodePoint
  | .char '+' :: ps => (false, ps)
  | .char '-' :: ps => (true, ps)
  | ps => (false, ps)

/-- The digits of the whole part: a single zero, or a row that begins with
another digit. -/
def wholeDigits : List CodePoint → List Char × List CodePoint
  | .char '0' :: ps => (['0'], ps)
  | ps => digits ps

/-- The digits after a point, if a point with digits follows. -/
def fractionDigits : List CodePoint → List Char × List CodePoint
  | .char '.' :: ps => if (digits ps).1.isEmpty then ([], .char '.' :: ps) else digits ps
  | ps => ([], ps)

/-- The power of ten after an exponent mark, if one with digits follows. -/
def exponent (ps : List CodePoint) : Option Int × List CodePoint :=
  match ps with
  | [] => (none, [])
  | p :: rest =>
    if p = .char 'e' ∨ p = .char 'E' then
      let signed := sign rest
      let power := digits signed.2
      if power.1.isEmpty then (none, ps)
      else (some (Integer.ofSign signed.1 (Text.digitsValue power.1)), power.2)
    else (none, ps)

/-- The number with the given sign whose digits are at the front. -/
def unsignedNumber (negative : Bool) (ps : List CodePoint) : Step Json :=
  let whole := wholeDigits ps
  if whole.1.isEmpty then .error .malformed
  else
    let fraction := fractionDigits whole.2
    let power := exponent fraction.2
    if fraction.1.isEmpty && power.1.isNone then
      match Integer.ofDigits negative whole.1 with
      | .ok n => .ok (.int n, power.2)
      | .error _ => .error .longInteger
    else
      .ok (.float (Binary64.ofDecimal negative (Text.digitsValue (whole.1 ++ fraction.1))
        (power.1.getD 0 - fraction.1.length)), power.2)

/-- The number at the front. -/
def number : List CodePoint → Step Json
  | .char '-' :: ps => unsignedNumber true ps
  | ps => unsignedNumber false ps

/-- The values that are written as a word. -/
def words : List (RawText × Json) :=
  [("null", .null), ("true", .bool true), ("false", .bool false), ("NaN", .float .nan),
   ("Infinity", .float (.infinite false)), ("-Infinity", .float (.infinite true))]

/-- The value of the word at the front, and what follows the word. -/
def word? (ps : List CodePoint) : Option (Json × List CodePoint) :=
  (words.find? fun w => w.1.points.isPrefixOf ps).map fun w =>
    (w.2, ps.drop w.1.points.length)

/-- The word or number at the front. -/
def scalar (ps : List CodePoint) : Step Json :=
  match word? ps with
  | some found => .ok found
  | none => number ps

/-! ## Values -/

/-- How many arrays and objects may lie one inside the other, which is the
greatest `Json.depth` of a document.

The number approximates a setting of the runtime. There the calls in progress
are limited, to 1000 as a rule, and every array and object that is read is one
of them; so the limit of a document is what is left by the calls that read it,
which are ten to twenty, depending on where it is read. -/
def nestingLimit : Nat := 985

mutual

/-- The value at the front, with room for so many arrays and objects one
inside the other. -/
def value : Nat → Nat → List CodePoint → Step Json
  | 0, _, _ => .error .malformed
  | _ + 1, _, [] => .error .malformed
  | fuel + 1, room, p :: ps =>
    if p = .char '"' then
      match text ps with
      | .ok (s, rest) => .ok (.str s, rest)
      | .error e => .error e
    else if p = .char '[' then
      match room with
      | 0 => .error .tooDeep
      | room + 1 =>
        match skip ps with
        | [] => .error .malformed
        | q :: rest =>
          if q = .char ']' then .ok (.arr [], rest) else elements fuel room [] (q :: rest)
    else if p = .char '\x7b' then
      match room with
      | 0 => .error .tooDeep
      | room + 1 =>
        match skip ps with
        | [] => .error .malformed
        | q :: rest =>
          if q = .char '\x7d' then .ok (.obj [], rest) else members fuel room [] (q :: rest)
    else scalar (p :: ps)

/-- The rest of an array, after the elements `before` in reverse. -/
def elements : Nat → Nat → List Json → List CodePoint → Step Json
  | 0, _, _, _ => .error .malformed
  | fuel + 1, room, before, ps =>
    match value fuel room ps with
    | .error e => .error e
    | .ok (v, rest) =>
      match skip rest with
      | [] => .error .malformed
      | q :: rest =>
        if q = .char ']' then .ok (.arr (v :: before).reverse, rest)
        else if q = .char ',' then elements fuel room (v :: before) (skip rest)
        else .error .malformed

/-- The rest of an object, after the members `before`. -/
def members : Nat → Nat → List (RawText × Json) → List CodePoint → Step Json
  | 0, _, _, _ => .error .malformed
  | _ + 1, _, _, [] => .error .malformed
  | fuel + 1, room, before, p :: ps =>
    if p ≠ .char '"' then .error .malformed
    else match text ps with
      | .error e => .error e
      | .ok (name, rest) =>
        match skip rest with
        | [] => .error .malformed
        | q :: rest =>
          if q ≠ .char ':' then .error .malformed
          else match value fuel room (skip rest) with
            | .error e => .error e
            | .ok (v, rest) =>
              match skip rest with
              | [] => .error .malformed
              | q :: rest =>
                if q = .char '\x7d' then .ok (.obj (Entries.put before name v), rest)
                else if q = .char ',' then members fuel room (Entries.put before name v) (skip rest)
                else .error .malformed

end

/-- The value that a raw text is the document of. -/
def readRaw (t : RawText) : Except ReadFault Json :=
  match value (t.points.length + 1) nestingLimit (skip t.points) with
  | .error e => .error e
  | .ok (v, rest) => if (skip rest).isEmpty then .ok v else .error .malformed

/-- The mark of byte order, which no document may begin with. -/
def byteOrderMark : Char := '\ufeff'

/-- The value that a text is the document of. -/
def read (s : String) : Except ReadFault Json :=
  if s.toList.head? = some byteOrderMark then .error .malformed else readRaw (.ofString s)

/-! ## What a document begins with

The first code point that is no space decides which kind of value follows, and
there are few to choose from. A blank is not among them, nor is the mark of
byte order.
-/

/-- The characters that a value may begin with besides digits. -/
def beginnings : List Char := ['"', '[', '\x7b', '-', 'n', 't', 'f', 'N', 'I']

/-- Whether a value may begin with a code point. -/
def canBegin : CodePoint → Bool
  | .char c => beginnings.contains c || Integer.isAsciiDigit c
  | .half _ => false

section CannotBegin

variable {p : CodePoint} (h : canBegin p = false) (ps : List CodePoint)

include h

theorem ne_of_not_canBegin {c : Char} (hc : canBegin (.char c) = true) : p ≠ .char c := by
  rintro rfl
  rw [hc] at h
  cases h

theorem word?_of_not_canBegin : word? (p :: ps) = none := by
  have hfirst : ∀ w ∈ words, ∃ c more, w.1.points = .char c :: more
      ∧ canBegin (.char c) = true := by
    simp only [words, List.forall_mem_cons]
    exact ⟨⟨'n', _, rfl, rfl⟩, ⟨'t', _, rfl, rfl⟩, ⟨'f', _, rfl, rfl⟩, ⟨'N', _, rfl, rfl⟩,
      ⟨'I', _, rfl, rfl⟩, ⟨'-', _, rfl, rfl⟩, List.forall_mem_nil _⟩
  rw [word?, Option.map_eq_none_iff, List.find?_eq_none]
  intro w hw hprefix
  obtain ⟨c, more, hpoints, hc⟩ := hfirst w hw
  rw [hpoints, List.isPrefixOf_iff_prefix, List.cons_prefix_cons] at hprefix
  exact ne_of_not_canBegin h hc hprefix.1.symm

theorem number_of_not_canBegin : number (p :: ps) = .error .malformed := by
  have hdigit : isDigit p = false := by
    cases p with
    | half => rfl
    | char c => exact (Bool.or_eq_false_iff.1 h).2
  rw [number]
  · unfold unsignedNumber
    rw [wholeDigits, digits, List.takeWhile_cons, hdigit]
    · rfl
    · exact fun _ heq => ne_of_not_canBegin h rfl (List.cons.inj heq).1
  · exact fun _ heq => ne_of_not_canBegin h rfl (List.cons.inj heq).1

/-- Nothing is read of what no value begins with. -/
theorem value_of_not_canBegin (fuel room : Nat) :
    value fuel room (p :: ps) = .error .malformed := by
  cases fuel with
  | zero => rw [value]
  | succ fuel =>
    unfold value
    rw [if_neg (ne_of_not_canBegin h rfl), if_neg (ne_of_not_canBegin h rfl),
      if_neg (ne_of_not_canBegin h rfl), scalar, word?_of_not_canBegin h]
    exact number_of_not_canBegin h ps

end CannotBegin

/-- A value does not begin with a blank. -/
theorem isBlank_of_canBegin {p : CodePoint} (h : canBegin p = true) : p.isBlank = false := by
  cases p with
  | half => rfl
  | char c =>
    obtain hc | hc := Bool.or_eq_true_iff.1 h
    · have hnone : beginnings.any Text.isBlank = false := rfl
      exact Bool.eq_false_iff.2 (List.any_eq_false.1 hnone c (List.contains_iff_mem.1 hc))
    · have hrange : 0x30 ≤ c.toNat ∧ c.toNat ≤ 0x39 := by
        simpa [Integer.isAsciiDigit, Char.le_def, UInt32.le_iff_toNat_le] using hc
      have hapart : ∀ r ∈ Text.blankRanges, r.2 < 0x30 ∨ 0x39 < r.1 := by decide
      refine List.any_eq_false.2 fun r hr => ?_
      rw [Bool.and_eq_true, decide_eq_true_eq, decide_eq_true_eq]
      have := hapart r hr
      omega

/-- A text of blanks is no document. -/
theorem readRaw_of_isBlank {t : RawText} (h : t.isBlank = true) :
    readRaw t = .error .malformed := by
  have hvalue : value (t.points.length + 1) nestingLimit (skip t.points) = .error .malformed := by
    cases hskip : skip t.points with
    | nil => rw [value]
    | cons p ps =>
      refine value_of_not_canBegin ?_ _ _ _
      have hmem : p ∈ t.points :=
        List.dropWhile_subset _ (hskip ▸ List.mem_cons_self : p ∈ skip t.points)
      have hblank := List.all_eq_true.1 h p hmem
      exact Bool.eq_false_iff.2 fun hbegin => by
        rw [isBlank_of_canBegin hbegin] at hblank
        cases hblank
  rw [readRaw, hvalue]

/-- A text is a document as it is, also where a mark of byte order is in front. -/
theorem read_eq_readRaw (s : String) : read s = readRaw s := by
  unfold read
  split
  · rename_i hmark
    obtain ⟨more, hmore⟩ := List.head?_eq_some_iff.1 hmark
    have hskip : skip (RawText.ofString s).points
        = .char byteOrderMark :: more.map .char := by
      rw [RawText.ofString, hmore]
      exact List.dropWhile_cons_of_neg (by decide)
    rw [readRaw, hskip, value_of_not_canBegin (by decide)]
  · rfl

end CloudClient.Json
