import CloudClient.Json.Reader
import CloudClient.Json.Writer

/-!
# Texts and integers written and read

What is written comes back. A text is written in ASCII, and the reader has to
find the same characters in it: a short escape, the escape of one unit, or
those of a pair of units, which are joined again only because they stand side
by side. So it is shown piece by piece that what `escapeChar` writes of a
character is read as pieces that spell this character, whatever comes after
(`spellings_escapeChar`).

An integer has no mark at its end. It comes back if it is followed by something
that cannot go on in a number, as it is in every document (`Stops`).
-/

namespace CloudClient

namespace CodePoint

/-- A character is the code point of its number. -/
theorem ofNat_toNat (c : Char) : ofNat c.toNat = .char c := by
  have hvalid : c.toNat < 0xd800 ∨ 0xdfff < c.toNat ∧ c.toNat < 0x110000 := c.valid
  unfold ofNat
  rw [dif_neg (by unfold firstHalf; omega), Char.ofNat_toNat]

/-- No character is the first half of a pair. -/
theorem isHigh_toNat (c : Char) : isHigh c.toNat = false := by
  have hvalid : c.toNat < 0xd800 ∨ 0xdfff < c.toNat ∧ c.toNat < 0x110000 := c.valid
  rw [isHigh, Bool.and_eq_false_iff, decide_eq_false_iff_not, decide_eq_false_iff_not]
  omega

end CodePoint

namespace Json

/-- The code points of characters. -/
abbrev ofChars (cs : List Char) : List CodePoint := cs.map .char

/-! ## Texts -/

/-- A character of ASCII that shows, or the space. -/
def Shows (c : Char) : Prop := 0x20 ≤ c.toNat ∧ c.toNat < 0x7f

instance (c : Char) : Decidable (Shows c) := inferInstanceAs (Decidable (_ ∧ _))

/-- The letters of short escapes, with the characters that they stand for. -/
def shorts : List (Char × Char) :=
  [('"', '"'), ('\\', '\\'), ('n', '\n'), ('r', '\r'), ('t', '\t'), ('f', '\x0c'), ('b', '\x08')]

theorem shorts_sound : ∀ p ∈ shorts, p.1 ≠ 'u' ∧ shortEscape? p.1 = some p.2
    ∧ Shows p.1 := by
  decide

/-- **How a character is written.** -/
inductive Written (c : Char) : List Char → Prop where
  | short {e : Char} (he : (e, c) ∈ shorts) : Written c ['\\', e]
  | plain (hquote : c ≠ '"') (hback : c ≠ '\\') (hlow : 0x20 ≤ c.toNat) (hhigh : c.toNat < 0x7f) :
      Written c [c]
  | unit (hc : c.toNat < 0x10000) : Written c (unitEscape c.toNat)
  /-- Two units, of which the first is the first half of a pair. -/
  | pair {high low : Nat} (hhigh : CodePoint.isHigh high = true) (hlow : CodePoint.isLow low = true)
      (hpair : CodePoint.pair high low = c) : Written c (unitEscape high ++ unitEscape low)

theorem written (c : Char) : Written c (escapeChar c) := by
  unfold escapeChar
  have hshort {d e : Char} (hc : c = d) (he : (e, d) ∈ shorts) : Written c ['\\', e] :=
    .short (hc ▸ he)
  by_cases hquote : c = '"'
  · rw [if_pos hquote]
    exact hshort hquote (by decide)
  by_cases hback : c = '\\'
  · rw [if_neg hquote, if_pos hback]
    exact hshort hback (by decide)
  rw [if_neg hquote, if_neg hback]
  split
  · rename_i hc
    exact hshort hc (by decide)
  split
  · rename_i hc
    exact hshort hc (by decide)
  split
  · rename_i hc
    exact hshort hc (by decide)
  split
  · rename_i hc
    exact hshort hc (by decide)
  split
  · rename_i hc
    exact hshort hc (by decide)
  split
  · rename_i hc
    exact .plain hquote hback hc.1 (Nat.lt_succ_of_le hc.2)
  split
  · rename_i hc
    exact .unit hc
  · rename_i hc
    have hvalid : c.toNat < 0xd800 ∨ 0xdfff < c.toNat ∧ c.toNat < 0x110000 := c.valid
    refine .pair ?_ ?_ ?_
    · rw [CodePoint.isHigh, Bool.and_eq_true, decide_eq_true_eq, decide_eq_true_eq]
      omega
    · rw [CodePoint.isLow, Bool.and_eq_true, decide_eq_true_eq, decide_eq_true_eq]
      omega
    · have hsum : 0x10000 + (0xd800 + (c.toNat - 0x10000) / 0x400 - 0xd800) * 0x400
          + (0xdc00 + (c.toNat - 0x10000) % 0x400 - 0xdc00) = c.toNat := by omega
      rw [CodePoint.pair, hsum, Char.ofNat_toNat]

theorem shows_unitEscape (n : Nat) : ∀ c ∈ unitEscape n, Shows c := by
  have hdigit (d : Nat) : Shows (Text.hexDigit (d % 16)) := by
    have hall : ∀ d < 16, Shows (Text.hexDigit d) := by decide
    exact hall _ (Nat.mod_lt d (by decide))
  have hfour (a b c d : Char) (ha : Shows a) (hb : Shows b) (hc : Shows c) (hd : Shows d) :
      ∀ x ∈ ['\\', 'u', a, b, c, d], Shows x := by
    simp only [List.forall_mem_cons]
    exact ⟨by decide, by decide, ha, hb, hc, hd, nofun⟩
  exact hfour _ _ _ _ (hdigit _) (hdigit _) (hdigit _) (hdigit _)

/-- Whatever a character is, it is written in ASCII. -/
theorem shows_escapeChar (c : Char) : ∀ d ∈ escapeChar c, Shows d := by
  have hwritten := written c
  generalize escapeChar c = cs at hwritten ⊢
  cases hwritten with
  | @short e he =>
    obtain ⟨-, -, hshows⟩ := shorts_sound _ he
    simp only [List.forall_mem_cons]
    exact ⟨by decide, hshows, nofun⟩
  | plain _ _ hlow hhigh =>
    simp only [List.forall_mem_cons]
    exact ⟨⟨hlow, hhigh⟩, nofun⟩
  | unit => exact shows_unitEscape _
  | pair =>
    intro d hd
    exact (List.mem_append.1 hd).elim (shows_unitEscape _ d) (shows_unitEscape _ d)

theorem hexValue?_hexDigit {d : Nat} (h : d < 16) : hexValue? (Text.hexDigit d) = some d := by
  have hall : ∀ d < 16, hexValue? (Text.hexDigit d) = some d := by decide
  exact hall d h

section Spellings

variable {ps rest : List CodePoint} {found : List Spelling} (h : spellings ps = .ok (found, rest))

include h

/-- The escape of a unit is read as the unit. -/
theorem spellings_unitEscape {n : Nat} (hn : n < 0x10000) :
    spellings (ofChars (unitEscape n) ++ ps) = .ok (.escape n :: found, rest) := by
  have hunit : unit? (Text.hexDigit (n / 16 / 16 / 16 % 16)) (Text.hexDigit (n / 16 / 16 % 16))
      (Text.hexDigit (n / 16 % 16)) (Text.hexDigit (n % 16)) = some n := by
    simp only [unit?, hexValue?_hexDigit (Nat.mod_lt _ (by decide)), Option.bind_some,
      Option.map_some, Option.some_inj]
    omega
  show spellings (.char '\\' :: .char 'u' :: .char _ :: .char _ :: .char _ :: .char _ :: ps) = _
  rw [spellings, hunit, h]

/-- A letter after a backslash is read as what it stands for. -/
theorem spellings_short {c e : Char} (hc : c ≠ 'u') (he : shortEscape? c = some e) :
    spellings (.char '\\' :: .char c :: ps) = .ok (.point (.char e) :: found, rest) := by
  rw [spellings, he, h]
  exact fun _ _ _ _ _ _ hu => hc hu

/-- Any other character stands for itself. -/
theorem spellings_char {c : Char} (hquote : c ≠ '"') (hback : c ≠ '\\') (hc : 0x20 ≤ c.toNat) :
    spellings (.char c :: ps) = .ok (.point (.char c) :: found, rest) := by
  have hplain : ¬ (CodePoint.char c = .char '\\' ∨ (CodePoint.char c).toNat < 0x20) := by
    rintro (h | h)
    · exact hback (CodePoint.char.inj h)
    · exact Nat.not_lt.2 hc h
  rw [spellings, if_neg hplain, h]
  · exact fun h => hquote (CodePoint.char.inj h)
  · exact fun _ _ _ _ _ h => absurd (CodePoint.char.inj h) hback
  · exact fun _ _ h => absurd (CodePoint.char.inj h) hback

/-- **A character is read as it is written.** -/
theorem spellings_escapeChar (c : Char) :
    ∃ pieces, spellings (ofChars (escapeChar c) ++ ps) = .ok (pieces ++ found, rest)
      ∧ ∀ more, Spelling.points (pieces ++ more) = .char c :: Spelling.points more := by
  have hwritten := written c
  generalize escapeChar c = cs at hwritten ⊢
  cases hwritten with
  | @short e he =>
    obtain ⟨hu, hstands, -⟩ := shorts_sound _ he
    exact ⟨[.point (.char c)], spellings_short h hu hstands, fun _ => rfl⟩
  | plain hquote hback hc =>
    exact ⟨[.point (.char c)], spellings_char h hquote hback hc, fun _ => rfl⟩
  | unit hc =>
    refine ⟨[.escape c.toNat], spellings_unitEscape h hc, fun more => ?_⟩
    have halone : Spelling.points (.escape c.toNat :: more)
        = .ofNat c.toNat :: Spelling.points more := by
      cases more with
      | nil => rfl
      | cons piece more =>
        cases piece with
        | point p => rfl
        | escape m => rw [Spelling.points, CodePoint.isHigh_toNat, Bool.false_and,
            if_neg Bool.false_ne_true]
    exact halone.trans (by rw [CodePoint.ofNat_toNat])
  | @pair high low hhigh hlow hpair =>
    have hunits : high < 0x10000 ∧ low < 0x10000 := by
      simp only [CodePoint.isHigh, CodePoint.isLow, Bool.and_eq_true, decide_eq_true_eq]
        at hhigh hlow
      omega
    refine ⟨[.escape high, .escape low], ?_, fun more => ?_⟩
    · rw [ofChars, List.map_append, List.append_assoc]
      exact spellings_unitEscape (spellings_unitEscape h hunits.2) hunits.1
    · show Spelling.points (.escape high :: .escape low :: more) = _
      rw [Spelling.points, hhigh, hlow, Bool.true_and, if_pos rfl, hpair]

end Spellings

/-- **A text is read as it is written.** -/
theorem text_textChars (cs : List Char) (rest : List CodePoint) :
    text (ofChars (cs.flatMap escapeChar) ++ .char '"' :: rest) = .ok (⟨ofChars cs⟩, rest) := by
  have hspelt : ∃ found, spellings (ofChars (cs.flatMap escapeChar) ++ .char '"' :: rest)
      = .ok (found, rest) ∧ Spelling.points found = ofChars cs := by
    induction cs with
    | nil => exact ⟨[], rfl, rfl⟩
    | cons c cs ih =>
      obtain ⟨found, hfound, hpoints⟩ := ih
      obtain ⟨pieces, hpieces, hspell⟩ := spellings_escapeChar hfound c
      refine ⟨pieces ++ found, ?_, ?_⟩
      · rw [List.flatMap_cons, ofChars, List.map_append, List.append_assoc]
        exact hpieces
      · rw [hspell, hpoints]
        rfl
  obtain ⟨found, hfound, hpoints⟩ := hspelt
  rw [text, hfound]
  exact congrArg (fun points => Except.ok (RawText.mk points, rest)) hpoints

/-! ## Integers -/

/-- What may follow an integer: nothing, or something that does not go on in a
number. -/
def Stops (rest : List CodePoint) : Prop :=
  ∀ p more, rest = p :: more →
    isDigit p = false ∧ p ≠ .char '.' ∧ p ≠ .char 'e' ∧ p ≠ .char 'E'

theorem digitValue?_digitChar {d : Nat} (h : d < 10) :
    (Text.digitValue? d.digitChar).getD 0 = d := by
  have hall : ∀ d < 10, (Text.digitValue? d.digitChar).getD 0 = d := by decide
  exact hall d h

/-- The digits of a number denote it. -/
theorem digitsValue_toDigits (n : Nat) : Text.digitsValue (Nat.toDigits 10 n) = n := by
  induction n using Nat.strongRecOn with
  | _ n ih =>
    rw [Nat.toDigits_eq_if (by decide)]
    split
    · rename_i hn
      show 10 * 0 + (Text.digitValue? n.digitChar).getD 0 = n
      rw [digitValue?_digitChar hn]
      omega
    · rename_i hn
      have hfront := ih (n / 10) (by omega)
      unfold Text.digitsValue at hfront ⊢
      rw [List.foldl_append, hfront, List.foldl_cons, List.foldl_nil,
        digitValue?_digitChar (Nat.mod_lt n (by decide))]
      omega

/-- Only zero begins with a zero. -/
theorem head?_toDigits {n : Nat} (hn : 0 < n) : (Nat.toDigits 10 n).head? ≠ some '0' := by
  induction n using Nat.strongRecOn with
  | _ n ih =>
    rw [Nat.toDigits_eq_if (by decide)]
    split
    · rename_i hlt
      have hall : ∀ d < 10, 0 < d → [d.digitChar].head? ≠ some '0' := by decide
      exact hall n hlt hn
    · rename_i hge
      have hfront := ih (n / 10) (by omega) (by omega)
      cases hhead : (Nat.toDigits 10 (n / 10)).head? with
      | none => exact absurd (List.head?_eq_none_iff.1 hhead) Nat.toDigits_ne_nil
      | some c =>
        rw [List.head?_append, hhead, Option.some_or]
        rwa [hhead] at hfront

/-- The digits at the front of a row that goes on with something else. -/
theorem digits_append {ds : List Char} (hds : ∀ c ∈ ds, Integer.isAsciiDigit c = true)
    {rest : List CodePoint} (hrest : Stops rest) : digits (ofChars ds ++ rest) = (ds, rest) := by
  have hfront : ∀ p ∈ ofChars ds, isDigit p = true := by
    intro p hp
    obtain ⟨c, hc, rfl⟩ := List.mem_map.1 hp
    exact hds c hc
  have hback : rest.takeWhile isDigit = [] ∧ rest.dropWhile isDigit = rest := by
    cases rest with
    | nil => exact ⟨rfl, rfl⟩
    | cons p more =>
      have hp : ¬ isDigit p = true := by
        rw [(hrest p more rfl).1]
        exact Bool.false_ne_true
      exact ⟨List.takeWhile_cons_of_neg hp, List.dropWhile_cons_of_neg hp⟩
  have hchars : (ofChars ds).filterMap CodePoint.char? = ds := by
    rw [ofChars, List.filterMap_map]
    exact List.filterMap_some
  rw [digits, List.takeWhile_append_of_pos hfront, List.dropWhile_append_of_pos hfront, hback.1,
    hback.2, List.append_nil, hchars]

theorem isAsciiDigit_of_mem_toDigits {n : Nat} {c : Char} (h : c ∈ Nat.toDigits 10 n) :
    Integer.isAsciiDigit c = true :=
  Nat.isDigit_of_mem_toDigits (by decide) (by decide) h

/-- A number begins with a digit. -/
theorem toDigits_begins (n : Nat) :
    ∃ d ds, Nat.toDigits 10 n = d :: ds ∧ Integer.isAsciiDigit d = true := by
  obtain ⟨d, ds, hds⟩ := List.exists_cons_of_ne_nil (Nat.toDigits_ne_nil (n := n) (b := 10))
  exact ⟨d, ds, hds, isAsciiDigit_of_mem_toDigits (n := n) (hds ▸ List.mem_cons_self)⟩

theorem wholeDigits_append (n : Nat) {rest : List CodePoint} (hrest : Stops rest) :
    wholeDigits (ofChars (Nat.toDigits 10 n) ++ rest) = (Nat.toDigits 10 n, rest) := by
  have hdigits : digits (ofChars (Nat.toDigits 10 n) ++ rest) = (Nat.toDigits 10 n, rest) :=
    digits_append (fun _ => isAsciiDigit_of_mem_toDigits) hrest
  obtain rfl | hn := Nat.eq_zero_or_pos n
  · rw [Nat.toDigits_zero]
    rfl
  · have hhead := head?_toDigits hn
    cases hds : Nat.toDigits 10 n with
    | nil => exact absurd hds Nat.toDigits_ne_nil
    | cons d ds =>
      rw [hds] at hdigits hhead
      show wholeDigits (.char d :: (ofChars ds ++ rest)) = _
      rw [wholeDigits]
      · exact hdigits
      · rintro _ h
        exact hhead (by rw [CodePoint.char.inj (List.cons.inj h).1]; rfl)

/-- Neither of the first two characters of a word is a digit. -/
theorem words_begin : ∀ w ∈ words, ∃ c d more, w.1.points = .char c :: .char d :: more
    ∧ Integer.isAsciiDigit c = false ∧ Integer.isAsciiDigit d = false := by
  simp only [words, List.forall_mem_cons]
  exact ⟨⟨'n', 'u', _, rfl, by decide, by decide⟩, ⟨'t', 'r', _, rfl, by decide, by decide⟩,
    ⟨'f', 'a', _, rfl, by decide, by decide⟩, ⟨'N', 'a', _, rfl, by decide, by decide⟩,
    ⟨'I', 'n', _, rfl, by decide, by decide⟩, ⟨'-', 'I', _, rfl, by decide, by decide⟩,
    List.forall_mem_nil _⟩

/-- Digits are no word, with or without a sign. -/
theorem word?_digit {d : Char} (hd : Integer.isAsciiDigit d = true) (more : List CodePoint) :
    word? (.char d :: more) = none ∧ word? (.char '-' :: .char d :: more) = none := by
  constructor
  all_goals
    rw [word?, Option.map_eq_none_iff, List.find?_eq_none]
    intro w hw hprefix
    obtain ⟨c, c', tail, hpoints, hc, hc'⟩ := words_begin w hw
    rw [hpoints, List.isPrefixOf_iff_prefix, List.cons_prefix_cons] at hprefix
  · rw [CodePoint.char.inj hprefix.1, hd] at hc
    cases hc
  · rw [CodePoint.char.inj (List.cons_prefix_cons.1 hprefix.2).1, hd] at hc'
    cases hc'

/-- A row of digits is a number that goes no further. -/
theorem unsignedNumber_append (negative : Bool) {n : Nat}
    (hn : (Nat.toDigits 10 n).length ≤ Integer.digitLimit) {rest : List CodePoint}
    (hrest : Stops rest) :
    unsignedNumber negative (ofChars (Nat.toDigits 10 n) ++ rest)
      = .ok (.int (Integer.ofSign negative n), rest) := by
  have hfraction : fractionDigits rest = ([], rest) := by
    rw [fractionDigits]
    rintro ps rfl
    exact (hrest _ _ rfl).2.1 rfl
  have hexponent : exponent rest = (none, rest) := by
    cases rest with
    | nil => rfl
    | cons p more =>
      obtain ⟨-, -, hsmall, hlarge⟩ := hrest p more rfl
      rw [exponent, if_neg (not_or.2 ⟨hsmall, hlarge⟩)]
  have hsome : (Nat.toDigits 10 n).isEmpty = false :=
    List.isEmpty_eq_false_iff.2 Nat.toDigits_ne_nil
  have hvalue : Integer.ofDigits negative (Nat.toDigits 10 n)
      = .ok (Integer.ofSign negative n) := by
    rw [Integer.ofDigits, if_neg (Nat.not_lt.2 hn), digitsValue_toDigits]
  unfold unsignedNumber
  simp only [wholeDigits_append n hrest, hsome, hfraction, hexponent, hvalue]
  rfl

theorem shows_intChars (n : Int) : ∀ c ∈ intChars n, Shows c := by
  have hdigits : ∀ c ∈ Nat.toDigits 10 n.natAbs, Shows c := by
    intro c hc
    have hdigit := isAsciiDigit_of_mem_toDigits hc
    rw [Integer.isAsciiDigit, Bool.and_eq_true, decide_eq_true_eq, decide_eq_true_eq] at hdigit
    exact ⟨Nat.le_trans (by decide) hdigit.1, Nat.lt_of_le_of_lt hdigit.2 (by decide)⟩
  unfold intChars
  split
  · exact List.forall_mem_cons.2 ⟨by decide, hdigits⟩
  · exact hdigits

/-- **An integer is read as it is written**, if it does not have too many
digits. -/
theorem scalar_intChars {n : Int} (hn : (Nat.toDigits 10 n.natAbs).length ≤ Integer.digitLimit)
    {rest : List CodePoint} (hrest : Stops rest) :
    scalar (ofChars (intChars n) ++ rest) = .ok (.int n, rest) := by
  obtain ⟨d, ds, hds, hd⟩ := toDigits_begins n.natAbs
  obtain ⟨hplain, hsigned⟩ := word?_digit hd (ofChars ds ++ rest)
  have hscalar {ps : List CodePoint} (h : word? ps = none) : scalar ps = number ps := by
    rw [scalar, h]
  by_cases hneg : n < 0
  · have hnumber : number (.char '-' :: (ofChars (Nat.toDigits 10 n.natAbs) ++ rest))
        = .ok (.int n, rest) := by
      rw [number, unsignedNumber_append true hn hrest, Integer.ofSign, if_pos rfl,
        show -(n.natAbs : Int) = n by omega]
    rw [intChars, if_pos hneg, ofChars, List.map_cons, List.cons_append]
    rw [hds] at hnumber ⊢
    rw [← hnumber]
    exact hscalar hsigned
  · have hnumber : number (ofChars (Nat.toDigits 10 n.natAbs) ++ rest) = .ok (.int n, rest) := by
      rw [number, unsignedNumber_append false hn hrest, Integer.ofSign, if_neg Bool.false_ne_true,
        show (n.natAbs : Int) = n by omega]
      rintro ps h
      rw [hds] at h
      rw [CodePoint.char.inj (List.cons.inj h).1] at hd
      cases hd
    rw [intChars, if_neg hneg, ← hnumber]
    rw [hds]
    exact hscalar hplain

end Json

end CloudClient
