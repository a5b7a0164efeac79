import CloudClient.Url.Locator
import Mathlib.Data.List.TakeWhile

/-!
# Locators as they are spelt

Whoever writes down a locator has its parts in mind: a scheme, an authority
after two slashes, and a rest that begins with a slash, a question mark or a
hash. Reading goes the other way. It looks for the first colon, for the two
slashes behind it and for the first character that ends an authority, and it
drops characters on the way, so that a part might come back with a piece of its
neighbour.

`Locator.Spelling` is a text with its parts told apart, and `read_text` says
that reading gives back just these: the authority is what was written as one,
tabulators and line ends aside, and all else of the locator is made of scheme
and rest.
-/

namespace CloudClient

/-! ## Cuts at a character that is not there, or at the first or last that is -/

namespace Text

section Runs

variable {p : Char → Bool} {front back : List Char} (hfront : ∀ c ∈ front, p c = true)
  (hstop : ∀ c ∈ back.head?, p c = false)

include hfront hstop

/-- A run that stops where the rest begins is the front. -/
theorem takeWhile_append_of_stop : (front ++ back).takeWhile p = front := by
  rw [List.takeWhile_append_of_pos hfront]
  cases back with
  | nil => exact List.append_nil front
  | cons c more => rw [List.takeWhile_cons_of_neg (by simp [hstop c rfl]), List.append_nil]

theorem dropWhile_append_of_stop : (front ++ back).dropWhile p = back := by
  rw [List.dropWhile_append_of_pos hfront]
  cases back with
  | nil => rfl
  | cons c more => exact List.dropWhile_cons_of_neg (by simp [hstop c rfl])

end Runs

/-- What stands in front of the first separator goes to the part in front. -/
theorem breakAt_append {α : Type} [DecidableEq α] {sep : α} {front : List α} (h : sep ∉ front)
    (back : List α) :
    breakAt sep (front ++ back) = (front ++ (breakAt sep back).1, (breakAt sep back).2) := by
  induction front with
  | nil => rfl
  | cons c more ih =>
    obtain ⟨hc, hmore⟩ := not_or.1 (mt List.mem_cons.2 h)
    rw [List.cons_append, breakAt, if_neg (Ne.symm hc), ih hmore, List.cons_append]

theorem breakAt_of_notMem {α : Type} [DecidableEq α] {sep : α} {cs : List α} (h : sep ∉ cs) :
    breakAt sep cs = (cs, none) := by
  have hcut := breakAt_append h []
  rwa [List.append_nil, breakAt, List.append_nil] at hcut

theorem breakAt_append_cons {α : Type} [DecidableEq α] {sep : α} {front : List α}
    (h : sep ∉ front) (back : List α) : breakAt sep (front ++ sep :: back) = (front, some back) := by
  rw [breakAt_append h, breakAt, if_pos rfl, List.append_nil]

theorem afterLast_of_notMem {sep : Char} {cs : List Char} (h : sep ∉ cs) :
    afterLast sep cs = cs := by
  have hall : ∀ c ∈ cs.reverse, decide (c ≠ sep) = true := fun c hc =>
    decide_eq_true fun hsame => h (hsame ▸ List.mem_reverse.1 hc)
  rw [afterLast, List.takeWhile_eq_self_iff.2 hall, List.reverse_reverse]

theorem afterLast_append_cons {sep : Char} {back : List Char} (h : sep ∉ back)
    (front : List Char) : afterLast sep (front ++ sep :: back) = back := by
  have hall : ∀ c ∈ back.reverse, decide (c ≠ sep) = true := fun c hc =>
    decide_eq_true fun hsame => h (hsame ▸ List.mem_reverse.1 hc)
  rw [afterLast, List.reverse_append, List.reverse_cons, List.append_assoc,
    List.takeWhile_append_of_pos hall, List.singleton_append,
    List.takeWhile_cons_of_neg (by simp), List.append_nil, List.reverse_reverse]

/-- What has been put into a text occurs in it. -/
theorem occurs_append (needle front back : List Char) :
    occurs needle (front ++ (needle ++ back)) = true := by
  induction front with
  | nil =>
    have hprefix : needle.isPrefixOf (needle ++ back) = true :=
      List.isPrefixOf_iff_prefix.2 (List.prefix_append needle back)
    rw [List.nil_append]
    generalize needle ++ back = cs at hprefix ⊢
    cases cs with
    | nil =>
      cases needle with
      | nil => rfl
      | cons => cases hprefix
    | cons c more => rw [occurs, hprefix, Bool.true_or]
  | cons c more ih => rw [List.cons_append, occurs, ih, Bool.or_true]

theorem mem_of_occurs {needle cs : List Char} (h : occurs needle cs = true) {c : Char}
    (hc : c ∈ needle) : c ∈ cs := by
  induction cs with
  | nil =>
    rw [List.isEmpty_iff.1 h] at hc
    cases hc
  | cons d more ih =>
    rw [occurs, Bool.or_eq_true, List.isPrefixOf_iff_prefix] at h
    obtain hprefix | hlater := h
    · exact hprefix.subset hc
    · exact List.mem_cons_of_mem d (ih hlater)

end Text

namespace Locator

/-! ## Spellings -/

/-- A text without the tabulators and line ends that a locator never has. -/
def unbroken (cs : List Char) : List Char :=
  cs.filter fun c => c != '\t' && c != '\r' && c != '\n'

/-- **A locator as it is spelt**, with its parts told apart. -/
structure Spelling where
  scheme : List Char
  authority : List Char
  /-- Path, query and fragment with their marks. -/
  rest : List Char
  scheme_ne_nil : scheme ≠ []
  scheme_letters : ∀ c ∈ scheme, c.isAlpha = true
  authority_inside : ∀ c ∈ authority, endsAuthority c = false
  rest_begins : ∀ c ∈ rest.head?, endsAuthority c = true

namespace Spelling

/-- The characters of a spelling. -/
def chars (w : Spelling) : List Char := w.scheme ++ ':' :: '/' :: '/' :: (w.authority ++ w.rest)

/-- The text of a spelling. -/
def text (w : Spelling) : String := String.ofList w.chars

/-- What stands in front of the fragment. -/
def unfragmented (w : Spelling) : List Char × Option (List Char) :=
  Text.breakAt '#' (unbroken w.rest)

/-- What stands in front of the query. -/
def unqueried (w : Spelling) : List Char × Option (List Char) :=
  Text.breakAt '?' w.unfragmented.1

/-- The scheme in lower case. -/
def schemeName (w : Spelling) : String := String.ofList (w.scheme.map Text.lowerAscii)

/-- The path, without parameters where the scheme has such. -/
def pathChars (w : Spelling) : List Char :=
  if parameterSchemes.contains w.schemeName then withoutParameters w.unqueried.1
  else w.unqueried.1

/-- The locator that is spelt. -/
def locator (w : Spelling) : Locator where
  scheme := w.schemeName
  authority := String.ofList (unbroken w.authority)
  path := String.ofList w.pathChars
  query := String.ofList (w.unqueried.2.getD [])
  fragment := String.ofList (w.unfragmented.2.getD [])

variable (w : Spelling)

/-- A letter is no other character. -/
theorem ne_of_isAlpha {c : Char} (h : c.isAlpha = true) {mark : Char}
    (hmark : mark.isAlpha = false) : c ≠ mark := by
  rintro rfl
  rw [h] at hmark
  cases hmark

theorem notMem_scheme (mark : Char) (hmark : mark.isAlpha = false) : mark ∉ w.scheme :=
  fun hmem => ne_of_isAlpha (w.scheme_letters mark hmem) hmark rfl

theorem lt_toNat_of_isAlpha {c : Char} (h : c.isAlpha = true) : 0x20 < c.toNat := by
  have hsmall : ∀ n < 0x21, (Char.ofNat n).isAlpha = false := by decide
  refine Nat.lt_of_not_le fun hle => ?_
  have hno := hsmall c.toNat (Nat.lt_succ_of_le hle)
  rw [Char.ofNat_toNat, h] at hno
  cases hno

theorem unbroken_of_letters {cs : List Char} (h : ∀ c ∈ cs, c.isAlpha = true) :
    unbroken cs = cs := by
  refine List.filter_eq_self.2 fun c hc => ?_
  simp [ne_of_isAlpha (h c hc) (show '\t'.isAlpha = false by decide),
    ne_of_isAlpha (h c hc) (show '\r'.isAlpha = false by decide),
    ne_of_isAlpha (h c hc) (show '\n'.isAlpha = false by decide)]

/-- Nothing of a spelling is dropped but what its parts do not keep. -/
theorem cleaned_chars :
    cleaned w.chars
      = w.scheme ++ ':' :: '/' :: '/' :: (unbroken w.authority ++ unbroken w.rest) := by
  have hfirst : w.chars.dropWhile (fun c => decide (c.toNat ≤ 0x20)) = w.chars := by
    obtain ⟨c, more, hscheme⟩ := List.exists_cons_of_ne_nil w.scheme_ne_nil
    have hc := lt_toNat_of_isAlpha (w.scheme_letters c (hscheme ▸ List.mem_cons_self))
    rw [chars, hscheme, List.cons_append,
      List.dropWhile_cons_of_neg (by simpa using hc)]
  have hmarks : unbroken (':' :: '/' :: '/' :: (w.authority ++ w.rest))
      = ':' :: '/' :: '/' :: (unbroken w.authority ++ unbroken w.rest) :=
    congrArg (':' :: '/' :: '/' :: ·) (List.filter_append ..)
  show unbroken (w.chars.dropWhile _) = _
  rw [hfirst, chars, unbroken, List.filter_append]
  show unbroken w.scheme ++ unbroken _ = _
  rw [unbroken_of_letters w.scheme_letters, hmarks]

theorem splitScheme_scheme (back : List Char) :
    splitScheme (w.scheme ++ ':' :: back) = (w.scheme.map Text.lowerAscii, back) := by
  have hcolon := Text.breakAt_append_cons (w.notMem_scheme ':' (by decide)) back
  obtain ⟨c, more, hscheme⟩ := List.exists_cons_of_ne_nil w.scheme_ne_nil
  obtain ⟨hc, hmore⟩ := List.forall_mem_cons.1 (hscheme ▸ w.scheme_letters)
  have hall : more.all isSchemeChar = true := List.all_eq_true.2 fun d hd => by
    simp [isSchemeChar, Char.isAlphanum, hmore d hd]
  unfold splitScheme
  rw [hcolon, hscheme]
  simp only [hc, hall, Bool.and_self, if_true]

theorem endsAuthority_head? {c : Char} (h : c ∈ (unbroken w.rest).head?) :
    endsAuthority c = true := by
  cases hrest : w.rest with
  | nil =>
    rw [hrest] at h
    cases h
  | cons d more =>
    have hd := w.rest_begins d (by rw [hrest]; rfl)
    have hkept : unbroken (d :: more) = d :: unbroken more := by
      refine List.filter_cons_of_pos ?_
      simp only [endsAuthority, Bool.or_eq_true, beq_iff_eq] at hd
      obtain (rfl | rfl) | rfl := hd <;> decide
    rw [hrest, hkept] at h
    cases h
    exact hd

theorem splitAuthority_marked :
    splitAuthority ('/' :: '/' :: (unbroken w.authority ++ unbroken w.rest))
      = (unbroken w.authority, unbroken w.rest) := by
  have hinside : ∀ c ∈ unbroken w.authority, (!endsAuthority c) = true := fun c hc => by
    rw [w.authority_inside c (List.mem_filter.1 hc).1]
    rfl
  have hstop : ∀ c ∈ (unbroken w.rest).head?, (!endsAuthority c) = false := fun c hc => by
    rw [w.endsAuthority_head? hc]
    rfl
  simp only [splitAuthority]
  rw [Text.takeWhile_append_of_stop hinside hstop, Text.dropWhile_append_of_stop hinside hstop]

/-- **Reading gives back the parts of a spelling**, if the authority is one that
can be read. -/
theorem read_text :
    read w.text = match authorityFault? (unbroken w.authority) with
      | some fault => .error fault
      | none => .ok w.locator := by
  rw [read, text, String.toList_ofList, readChars, cleaned_chars]
  simp only [splitScheme_scheme, splitAuthority_marked]
  rfl

/-- A spelling is taken for a locator. -/
theorem hasWithin_text : Text.hasWithin "://" w.text = true := by
  rw [Text.hasWithin, text, String.toList_ofList (l := w.chars)]
  exact Text.occurs_append [':', '/', '/'] w.scheme (w.authority ++ w.rest)

end Spelling

end Locator

end CloudClient
