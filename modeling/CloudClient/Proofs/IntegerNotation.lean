import CloudClient.Proofs.WrittenScalars
import Mathlib.Data.List.Basic
import Mathlib.Data.List.TakeWhile

/-!
# Rows of digits are read as integers

A natural number is written as its decimal digits, without sign, blank or
underscore, and a version is a row of digits of some script. Reading takes all of
these into account, so it has to be seen that no digit is taken for one of them:
a digit has an ASCII counterpart of the same value
(`digitValue?_toAsciiChar`), and that is a digit and nothing else. The only thing
that reading refuses then is a row of more digits than are converted
(`read_digits`), and a number is read as it is written (`read_toString`).
-/

namespace CloudClient

/-- What holds of the ten digits holds of all digits of a number. -/
theorem all_toDigits {p : Char → Bool} (h : ∀ d < 10, p d.digitChar = true) (n : Nat) :
    ∀ c ∈ Nat.toDigits 10 n, p c = true := by
  induction n using Nat.strongRecOn with
  | _ n ih =>
    rw [Nat.toDigits_eq_if (by decide)]
    split
    · rename_i hless
      exact List.forall_mem_singleton.2 (h n hless)
    · exact List.forall_mem_append.2
        ⟨ih (n / 10) (by omega), List.forall_mem_singleton.2 (h _ (Nat.mod_lt n (by decide)))⟩

/-! ## Digits of any script -/

namespace Text

/-- A digit is one of the ten from some zero on. -/
theorem exists_zero_of_digitValue? {c : Char} {d : Nat} (h : digitValue? c = some d) :
    ∃ z ∈ digitZeros, d < 10 ∧ c.toNat = z + d := by
  unfold digitValue? at h
  obtain ⟨z, hz, rfl⟩ := Option.map_eq_some_iff.1 h
  have hrange := List.find?_some hz
  simp only [Bool.and_eq_true, decide_eq_true_eq] at hrange
  exact ⟨z, List.mem_of_find?_eq_some hz, by omega, by omega⟩

/-- No digit is a blank. -/
theorem isBlank_of_isDigit {c : Char} (h : isDigit c = true) : isBlank c = false := by
  have hnone : ∀ z ∈ digitZeros, ∀ d < 10, inRanges blankRanges (z + d) = false := by
    decide +kernel
  obtain ⟨d, hd⟩ := Option.isSome_iff_exists.1 h
  obtain ⟨z, hz, hlt, hc⟩ := exists_zero_of_digitValue? hd
  rw [isBlank, hc]
  exact hnone z hz d hlt

/-- Digits that are replaced by others of the same value denote the same. -/
theorem digitsValue_map {f : Char → Char} {cs : List Char}
    (h : ∀ c ∈ cs, digitValue? (f c) = digitValue? c) :
    digitsValue (cs.map f) = digitsValue cs := by
  unfold digitsValue
  rw [List.foldl_map]
  refine List.foldl_ext _ _ _ fun n c hc => ?_
  rw [h c hc]

end Text

namespace Integer

theorem asciiDigit_spec : ∀ d < 10, isAsciiDigit (Text.asciiDigit d) = true
    ∧ Text.digitValue? (Text.asciiDigit d) = some d := by
  decide

theorem isAsciiDigit_of_isDigit {c : Char} (h : Text.isDigit c = true) (hc : c.toNat < 0x7f) :
    isAsciiDigit c = true := by
  have hall : ∀ n < 0x7f, Text.isDigit (Char.ofNat n) = true → isAsciiDigit (Char.ofNat n) = true := by
    decide +kernel
  have hascii := hall c.toNat hc
  rw [Char.ofNat_toNat] at hascii
  exact hascii h

/-- **A digit has an ASCII counterpart of the same value.** -/
theorem digitValue?_toAsciiChar {c : Char} (h : Text.isDigit c = true) :
    isAsciiDigit (toAsciiChar c) = true
      ∧ Text.digitValue? (toAsciiChar c) = Text.digitValue? c := by
  unfold toAsciiChar
  split
  · rename_i hc
    exact ⟨isAsciiDigit_of_isDigit h hc, rfl⟩
  · rw [if_neg (by rw [Text.isBlank_of_isDigit h]; exact Bool.false_ne_true)]
    obtain ⟨d, hd⟩ := Option.isSome_iff_exists.1 h
    rw [hd]
    exact asciiDigit_spec d (Text.digitValue?_lt hd)

/-! ## Rows -/

theorem wellSeparated_of_ne {cs : List Char} (hcs : cs ≠ []) (h : ∀ c ∈ cs, (c != '_') = true) :
    wellSeparated cs = true := by
  induction cs with
  | nil => exact absurd rfl hcs
  | cons c more ih =>
    obtain ⟨hc, hmore⟩ := List.forall_mem_cons.1 h
    cases more with
    | nil => exact hc
    | cons d rest =>
      have hne : (c == '_') = false := by simpa using hc
      rw [wellSeparated, hne, ih (List.cons_ne_nil _ _) hmore]
      rfl

theorem ne_of_isAsciiDigit {c : Char} (h : isAsciiDigit c = true) {mark : Char}
    (hmark : isAsciiDigit mark = false) : c ≠ mark := by
  rintro rfl
  rw [h] at hmark
  cases hmark

theorem isAsciiBlank_of_isAsciiDigit {c : Char} (h : isAsciiDigit c = true) :
    Text.isAsciiBlank c = false := by
  have hzero : 0x30 ≤ c.toNat := by
    rw [isAsciiDigit, Bool.and_eq_true, decide_eq_true_eq] at h
    exact h.1
  have hle : ¬ c.toNat ≤ 0x0d := by omega
  have hne : ¬ c.toNat = 0x20 := by omega
  simp [Text.isAsciiBlank, hle, hne]

section Rows

variable {row : List Char} (hrow : ∀ c ∈ row, isAsciiDigit c = true) (hne : row ≠ [])

include hrow

/-- A row of digits has no sign, -/
theorem splitSign_row : splitSign row = (false, row) := by
  unfold splitSign
  split
  · exact absurd rfl (ne_of_isAsciiDigit (hrow _ List.mem_cons_self) (show isAsciiDigit '+' = false by decide))
  · exact absurd rfl (ne_of_isAsciiDigit (hrow _ List.mem_cons_self) (show isAsciiDigit '-' = false by decide))
  · rfl

/-- and no blank in front. -/
theorem dropWhile_row : row.dropWhile Text.isAsciiBlank = row := by
  refine List.dropWhile_eq_self_iff.2 fun hl => ?_
  rw [isAsciiBlank_of_isAsciiDigit (hrow _ (List.getElem_mem hl))]
  exact Bool.false_ne_true

include hne

/-- It denotes the number that its digits denote. -/
theorem magnitude?_row (hlength : row.length ≤ digitLimit) :
    magnitude? row = some (.ok (Text.digitsValue row)) := by
  have hnone : ∀ c ∈ row, (c != '_') = true := fun c hc =>
    bne_iff_ne.2 (ne_of_isAsciiDigit (hrow c hc) (by decide))
  have hhead : row.head? ≠ some '_' := fun hhead => by
    have hmem := hnone _ (List.mem_of_mem_head? hhead)
    cases hmem
  unfold magnitude?
  simp only [wellSeparated_of_ne hne hnone, List.filter_eq_self.2 hnone, hhead, if_false,
    Nat.not_lt.2 hlength, Bool.not_true, decide_false, Bool.or_false, Bool.false_eq_true]

theorem read_row {t : RawText} (ht : toAscii t = row) (hlength : row.length ≤ digitLimit) :
    read t = .ok (Text.digitsValue row : Int) := by
  have htaken : ∀ c ∈ row, (isAsciiDigit c || c == '_') = true := fun c hc => by
    rw [hrow c hc, Bool.true_or]
  unfold read
  simp only [ht, dropWhile_row hrow, splitSign_row hrow, List.takeWhile_eq_self_iff.2 htaken,
    List.dropWhile_eq_nil_iff.2 htaken, magnitude?_row hrow hne hlength]
  rfl

end Rows

/-- **A row of digits of any script is read as what it denotes**, if it has no
more digits than are converted. -/
theorem read_digits {row : List Char} (hrow : ∀ c ∈ row, Text.isDigit c = true) (hne : row ≠ [])
    (hlength : row.length ≤ digitLimit) :
    read ⟨row.map .char⟩ = .ok (Text.digitsValue row : Int) := by
  have hascii : ∀ c ∈ row.map toAsciiChar, isAsciiDigit c = true := by
    intro c hc
    obtain ⟨d, hd, rfl⟩ := List.mem_map.1 hc
    exact (digitValue?_toAsciiChar (hrow d hd)).1
  have hvalue := Text.digitsValue_map fun c hc => (digitValue?_toAsciiChar (hrow c hc)).2
  rw [← hvalue]
  refine read_row hascii (fun hnil => hne (List.map_eq_nil_iff.1 hnil)) ?_ ?_
  · rw [toAscii, List.map_map]
    rfl
  · rwa [List.length_map]

/-- **A number is read as it is written**, if it has no more digits than are
converted. -/
theorem read_toString {n : Nat} (h : (Nat.toDigits 10 n).length ≤ digitLimit) :
    read (toString n) = .ok (n : Int) := by
  have hread := read_digits (all_toDigits (p := Text.isDigit) (by decide) n)
    Nat.toDigits_ne_nil h
  rwa [Json.digitsValue_toDigits, ← Nat.toList_repr, ← Nat.toString_eq_repr] at hread

end Integer

/-! ## What is not trimmed -/

/-- Nothing is trimmed off a text without blanks. -/
theorem RawText.trim_of_notBlank {t : RawText} (h : ∀ p ∈ t.points, ¬ p.isBlank = true) :
    t.trim = t := by
  have hkeeps {ps : List CodePoint} (h : ∀ p ∈ ps, ¬ p.isBlank = true) :
      ps.dropWhile CodePoint.isBlank = ps :=
    List.dropWhile_eq_self_iff.2 fun hl => h _ (List.getElem_mem hl)
  unfold trim Text.dropEndWhile
  rw [hkeeps h, hkeeps fun p hp => h p (List.mem_reverse.1 hp), List.reverse_reverse]

theorem RawText.trim_toString (n : Nat) : RawText.trim (toString n) = toString n := by
  refine trim_of_notBlank fun p hp => ?_
  rw [RawText.ofString, Nat.toString_eq_repr, Nat.toList_repr] at hp
  obtain ⟨c, hc, rfl⟩ := List.mem_map.1 hp
  have hdigit := all_toDigits (p := Text.isDigit) (by decide) n c hc
  rw [CodePoint.isBlank, Text.isBlank_of_isDigit hdigit]
  exact Bool.false_ne_true

end CloudClient
