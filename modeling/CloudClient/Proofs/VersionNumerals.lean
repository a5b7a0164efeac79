import CloudClient.Endpoint.Version
import CloudClient.Proofs.IntegerNotation
import CloudClient.Proofs.SpeltLocators

/-!
# Versions written in digits

Every reader of versions takes digits, and perhaps a point and digits again, out
of a text. One takes as many digits as there are and looks at what comes next,
another cuts the text at its points. Here is what they have in common: a
`Version.Numeral` is digits of that form, and it denotes one version.

A segment of a path names the version of a numeral, with a `v` in front or with
a point inside (`Version.Names`). The longest row at the front of a text is the
numeral that stands there, if the text goes on with neither a digit nor a point
(`row?_chars`), so readers find the numerals in the end: `leading?_piece` and
`ofSegment?_eq_some_iff` say it of the front of a path and of a segment, and
`readText_chars` and `ofDigits_numeral` say what is made of it.
-/

namespace CloudClient.Version

/-- Digits of some script, at least one. -/
structure IsRow (cs : List Char) : Prop where
  ne_nil : cs ≠ []
  digits : ∀ c ∈ cs, Text.isDigit c = true

/-- **The numeral of a version**: digits, and perhaps a point and digits. -/
structure Numeral where
  major : List Char
  minor : Option (List Char)
  major_row : IsRow major
  minor_row : ∀ m ∈ minor, IsRow m

namespace Numeral

/-- The characters of a numeral. -/
def chars (n : Numeral) : List Char :=
  match n.minor with
  | none => n.major
  | some minor => n.major ++ '.' :: minor

/-- The digits of its minor number, which is zero where it is left out. -/
def minorDigits (n : Numeral) : List Char := n.minor.getD ['0']

/-- **The version that a numeral denotes.** -/
def version (n : Numeral) : Version :=
  ⟨Text.digitsValue n.major, Text.digitsValue n.minorDigits⟩

/-- None of its rows has more digits than are converted. -/
structure Fits (n : Numeral) : Prop where
  major : n.major.length ≤ Integer.digitLimit
  minor : ∀ m ∈ n.minor, m.length ≤ Integer.digitLimit

end Numeral

/-- **A segment names a version**: a numeral after a `v`, or one with a point. -/
inductive Names : List Char → Numeral → Prop where
  | marked (n : Numeral) : Names ('v' :: n.chars) n
  | bare {n : Numeral} (h : n.minor.isSome = true) : Names n.chars n

/-! ## Rows of digits -/

theorem IsRow.notMem {cs : List Char} (h : IsRow cs) (mark : Char)
    (hmark : Text.isDigit mark = false) : mark ∉ cs :=
  fun hmem => Bool.false_ne_true (hmark.symm.trans (h.digits mark hmem))

theorem IsRow.isEmpty_eq {cs : List Char} (h : IsRow cs) : cs.isEmpty = false :=
  List.isEmpty_eq_false_iff.2 h.ne_nil

theorem isRow_takeWhile {cs : List Char} (h : (cs.takeWhile Text.isDigit).isEmpty = false) :
    IsRow (cs.takeWhile Text.isDigit) :=
  ⟨List.isEmpty_eq_false_iff.1 h, fun _ hc => List.mem_takeWhile_imp hc⟩

theorem isRow_zero : IsRow ['0'] := ⟨List.cons_ne_nil _ _, List.all_eq_true.1 (by decide)⟩

namespace Numeral

variable (n : Numeral)

theorem minorDigits_row : IsRow n.minorDigits := by
  unfold minorDigits
  cases hminor : n.minor with
  | none => exact isRow_zero
  | some minor => exact n.minor_row minor hminor

/-- A numeral has digits and points and nothing else. -/
theorem isDigit_or_point {c : Char} (hc : c ∈ n.chars) : Text.isDigit c = true ∨ c = '.' := by
  unfold chars at hc
  split at hc
  · exact .inl (n.major_row.digits c hc)
  · rename_i minor hminor
    obtain hc | hc := List.mem_append.1 hc
    · exact .inl (n.major_row.digits c hc)
    · obtain rfl | hc := List.mem_cons.1 hc
      · exact .inr rfl
      · exact .inl ((n.minor_row minor hminor).digits c hc)

theorem notMem_chars {mark : Char} (hdigit : Text.isDigit mark = false) (hpoint : mark ≠ '.') :
    mark ∉ n.chars := by
  intro hmem
  obtain h | h := n.isDigit_or_point hmem
  · exact Bool.false_ne_true (hdigit.symm.trans h)
  · exact hpoint h

/-- It begins with a digit. -/
theorem isDigit_head {c : Char} {more : List Char} (h : n.chars = c :: more) :
    Text.isDigit c = true := by
  obtain ⟨d, ds, hmajor⟩ := List.exists_cons_of_ne_nil n.major_row.ne_nil
  have hd := n.major_row.digits d (hmajor ▸ List.mem_cons_self)
  unfold chars at h
  split at h
  · rw [hmajor] at h
    exact (List.cons.inj h).1 ▸ hd
  · rw [hmajor] at h
    exact (List.cons.inj h).1 ▸ hd

end Numeral

/-! ## The longest row at the front -/

/-- **The numeral at the front is found**, if the text goes on with neither a
digit nor a point. -/
theorem row?_chars (n : Numeral) {rest : List Char}
    (hrest : ∀ c ∈ rest.head?, Text.isDigit c = false ∧ c ≠ '.') :
    row? (n.chars ++ rest) = some ⟨n.major, n.minor, rest⟩ := by
  have hstop : ∀ c ∈ rest.head?, Text.isDigit c = false := fun c hc => (hrest c hc).1
  unfold Numeral.chars
  cases hminor : n.minor with
  | none =>
    unfold row?
    simp only [Text.takeWhile_append_of_stop n.major_row.digits hstop,
      Text.dropWhile_append_of_stop n.major_row.digits hstop, n.major_row.isEmpty_eq,
      Bool.false_eq_true, if_false]
    split
    · exact absurd rfl (hrest '.' rfl).2
    · rfl
  | some minor =>
    have hrow := n.minor_row minor hminor
    have hpoint : ∀ c ∈ ('.' :: (minor ++ rest)).head?, Text.isDigit c = false := by
      rintro _ ⟨rfl⟩
      decide
    show row? (n.major ++ '.' :: minor ++ rest) = _
    rw [List.append_assoc, List.cons_append]
    unfold row?
    simp only [Text.takeWhile_append_of_stop n.major_row.digits hpoint,
      Text.dropWhile_append_of_stop n.major_row.digits hpoint, n.major_row.isEmpty_eq,
      Text.takeWhile_append_of_stop hrow.digits hstop,
      Text.dropWhile_append_of_stop hrow.digits hstop, hrow.isEmpty_eq, Bool.false_eq_true,
      if_false]

/-- What is found is a numeral, with what follows it. -/
theorem exists_numeral_of_row? {cs : List Char} {r : Row} (h : row? cs = some r) :
    ∃ n : Numeral, cs = n.chars ++ r.rest ∧ r.major = n.major ∧ r.minor = n.minor := by
  unfold row? at h
  simp only at h
  split at h
  · cases h
  · rename_i hmajor
    have hrow := isRow_takeWhile (Bool.eq_false_iff.2 hmajor)
    have hsplit := List.takeWhile_append_dropWhile (p := Text.isDigit) (l := cs)
    split at h
    · rename_i more hpoint
      split at h
      · cases h
        exact ⟨⟨_, none, hrow, nofun⟩, hsplit.symm, rfl, rfl⟩
      · rename_i hminor
        cases h
        refine ⟨⟨_, some _, hrow, ?_⟩, ?_, rfl, rfl⟩
        · rintro _ ⟨rfl⟩
          exact isRow_takeWhile (Bool.eq_false_iff.2 hminor)
        · show cs = _ ++ '.' :: more.takeWhile Text.isDigit ++ more.dropWhile Text.isDigit
          rw [List.append_assoc, List.cons_append, List.takeWhile_append_dropWhile, ← hpoint,
            hsplit]
    · cases h
      exact ⟨⟨_, none, hrow, nofun⟩, hsplit.symm, rfl, rfl⟩

/-- Row and characters of a numeral are the same. -/
theorem Row.chars_eq {r : Row} {n : Numeral} (hmajor : r.major = n.major)
    (hminor : r.minor = n.minor) : r.chars = n.chars := by
  cases hn : n.minor <;> simp only [Row.chars, Numeral.chars, hmajor, hminor, hn]

/-! ## Fronts of paths and segments -/

/-- Without a line end, the end of a text is where nothing is left. -/
theorem atEnd_iff {cs : List Char} (hline : '\n' ∉ cs) : atEnd cs = true ↔ cs = [] := by
  rw [atEnd, Bool.or_eq_true, List.isEmpty_iff, beq_iff_eq, or_iff_left]
  rintro rfl
  exact hline List.mem_cons_self

/-- **The version at the front of a path** is that of the first piece, if it is
a numeral as a whole. -/
theorem leading?_piece {piece rest found : List Char} (hpiece : '/' ∉ piece)
    (hrest : ∀ c ∈ rest.head?, c = '/') (hline : '\n' ∉ piece ++ rest) :
    leading? (piece ++ rest) = some found ↔ ∃ n : Numeral, piece = n.chars ∧ found = n.chars := by
  have hslash {front back : List Char} (hfront : '/' ∉ front)
      (hback : ∀ c ∈ back.head?, c = '/') : (front ++ back).takeWhile (· != '/') = front :=
    Text.takeWhile_append_of_stop (fun c hc => bne_iff_ne.2 fun h => hfront (h ▸ hc))
      fun c hc => by rw [hback c hc]; rfl
  constructor
  · intro h
    unfold leading? at h
    split at h
    · cases h
    · rename_i r hrow
      obtain ⟨n, hsplit, hmajor, hminor⟩ := exists_numeral_of_row? hrow
      split at h
      · rename_i hend
        have hstop : ∀ c ∈ r.rest.head?, c = '/' := by
          rw [Bool.or_eq_true, beq_iff_eq,
            atEnd_iff fun hmem => hline (hsplit ▸ List.mem_append_right _ hmem)] at hend
          intro c hc
          obtain hnil | hhead := hend
          · rw [hnil] at hc
            cases hc
          · exact Option.some.inj (hc.symm.trans hhead)
        refine ⟨n, ?_, ?_⟩
        · rw [← hslash hpiece hrest, hsplit, hslash (n.notMem_chars (by decide) (by decide)) hstop]
        · rw [← Option.some.inj h, Row.chars_eq hmajor hminor]
      · cases h
  · rintro ⟨n, rfl, rfl⟩
    have hgoesOn : ∀ c ∈ rest.head?, Text.isDigit c = false ∧ c ≠ '.' := fun c hc => by
      rw [hrest c hc]
      decide
    have hend : (atEnd rest || rest.head? == some '/') = true := by
      cases rest with
      | nil => rfl
      | cons c more => rw [List.head?_cons, hrest c rfl, BEq.rfl, Bool.or_true]
    unfold leading?
    rw [row?_chars n hgoesOn]
    simp only [hend, if_true]
    exact congrArg some (Row.chars_eq rfl rfl)

/-- **The digits of a segment** are those of the numeral that it names. -/
theorem ofSegment?_eq_some_iff {s : List Char} {digits : List Char × List Char}
    (hline : '\n' ∉ s) :
    ofSegment? s = some digits ↔ ∃ n, Names s n ∧ digits = (n.major, n.minorDigits) := by
  have hwhole {cs : List Char} {r : Row} (hcs : '\n' ∉ cs) (hrow : row? cs = some r)
      (hend : atEnd r.rest = true) :
      ∃ n : Numeral, cs = n.chars ∧ r.major = n.major ∧ r.minor = n.minor := by
    obtain ⟨n, hsplit, hmajor, hminor⟩ := exists_numeral_of_row? hrow
    rw [atEnd_iff fun hmem => hcs (hsplit ▸ List.mem_append_right _ hmem)] at hend
    rw [hend, List.append_nil] at hsplit
    exact ⟨n, hsplit, hmajor, hminor⟩
  have hnumeral (n : Numeral) : row? n.chars = some ⟨n.major, n.minor, []⟩ := by
    have hrow : row? (n.chars ++ []) = _ := row?_chars n nofun
    rwa [List.append_nil] at hrow
  constructor
  · intro h
    unfold ofSegment? at h
    split at h
    · rename_i cs
      split at h
      · cases h
      · rename_i r hrow
        split at h
        · rename_i hend
          obtain ⟨n, rfl, hmajor, hminor⟩ :=
            hwhole (fun hmem => hline (List.mem_cons_of_mem _ hmem)) hrow hend
          cases h
          exact ⟨n, .marked n, by rw [hmajor, hminor]; rfl⟩
        · cases h
    · split at h
      · cases h
      · rename_i r hrow
        split at h
        · rename_i hend
          obtain ⟨n, rfl, hmajor, hminor⟩ := hwhole hline hrow hend
          obtain ⟨minor, hsome, rfl⟩ := Option.map_eq_some_iff.1 h
          rw [hminor] at hsome
          refine ⟨n, .bare (Option.isSome_of_eq_some hsome), ?_⟩
          rw [hmajor, Numeral.minorDigits, hsome]
          rfl
        · cases h
  · rintro ⟨n, hnames, rfl⟩
    cases hnames with
    | marked =>
      simp only [ofSegment?, hnumeral]
      rfl
    | bare hpoint =>
      obtain ⟨minor, hminor⟩ := Option.isSome_iff_exists.1 hpoint
      unfold ofSegment?
      split
      · rename_i hchars
        exact absurd (n.isDigit_head hchars) (by decide)
      · simp only [hnumeral, hminor, Numeral.minorDigits]
        rfl

/-! ## What is made of a numeral -/

theorem IsRow.read {row : List Char} (h : IsRow row) (hlength : row.length ≤ Integer.digitLimit) :
    Integer.read ⟨row.map .char⟩ = .ok (Text.digitsValue row : Int) :=
  Integer.read_digits h.digits h.ne_nil hlength

theorem number_row {row : List Char} (h : IsRow row) (hlength : row.length ≤ Integer.digitLimit) :
    number row = .ok (Text.digitsValue row : Int) := by
  have hread := h.read hlength
  unfold number RawText.ofString
  rw [String.toList_ofList, hread]

theorem Numeral.Fits.minorDigits {n : Numeral} (h : n.Fits) :
    n.minorDigits.length ≤ Integer.digitLimit := by
  unfold Numeral.minorDigits
  cases hminor : n.minor with
  | none => decide
  | some minor => exact h.minor minor hminor

theorem ofDigits_numeral {n : Numeral} (h : n.Fits) :
    ofDigits (n.major, n.minorDigits) = .ok n.version := by
  unfold ofDigits
  rw [number_row n.major_row h.major, number_row n.minorDigits_row h.minorDigits]
  rfl

/-- A numeral is cut at its point. -/
theorem breakAt_chars (n : Numeral) :
    Text.breakAt (.char '.') (n.chars.map CodePoint.char)
      = (n.major.map .char, n.minor.map (·.map .char)) := by
  have hnone : CodePoint.char '.' ∉ n.major.map .char := by
    intro hmem
    obtain ⟨c, hc, hpoint⟩ := List.mem_map.1 hmem
    exact n.major_row.notMem '.' (by decide) (CodePoint.char.inj hpoint ▸ hc)
  unfold Numeral.chars
  cases n.minor with
  | none => exact Text.breakAt_of_notMem hnone
  | some minor =>
    rw [List.map_append, List.map_cons]
    exact Text.breakAt_append_cons hnone _

theorem trim_chars (n : Numeral) :
    (RawText.ofString (String.ofList n.chars)).trim = ⟨n.chars.map .char⟩ := by
  have hpoints : RawText.ofString (String.ofList n.chars) = ⟨n.chars.map .char⟩ := by
    rw [RawText.ofString, String.toList_ofList]
  rw [hpoints]
  refine RawText.trim_of_notBlank fun p hp => ?_
  obtain ⟨c, hc, rfl⟩ := List.mem_map.1 hp
  obtain hdigit | rfl := n.isDigit_or_point hc
  · rw [CodePoint.isBlank, Text.isBlank_of_isDigit hdigit]
    exact Bool.false_ne_true
  · decide

/-- **The text of a numeral is read as its version.** -/
theorem readText_chars {n : Numeral} (h : n.Fits) :
    readText (String.ofList n.chars) = .ok n.version := by
  have hmajor := n.major_row.read h.major
  have hminor := n.minorDigits_row.read h.minorDigits
  unfold readText Numeral.version
  simp only [trim_chars, breakAt_chars, hmajor]
  unfold Numeral.minorDigits at hminor ⊢
  -- the reader has zero for no minor digits by itself
  cases hrow : n.minor with
  | none =>
    rw [hrow] at hminor
    change Integer.read ⟨[.char '0']⟩ = _ at hminor
    simp only [Option.map_none, hminor]
  | some minor =>
    obtain ⟨d, ds, rfl⟩ := List.exists_cons_of_ne_nil (n.minor_row minor hrow).ne_nil
    rw [hrow] at hminor
    change Integer.read ⟨.char d :: ds.map .char⟩ = _ at hminor
    simp only [Option.map_some, List.map_cons, hminor]

end CloudClient.Version
