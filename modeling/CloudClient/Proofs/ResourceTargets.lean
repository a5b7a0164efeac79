import CloudClient.Call.Request

/-!
# Where the identifier of a resource ends up

The target of a call is a locator, a path below it, and below that the
identifier of a resource, which may be any text. It is written so that it can
be nothing but the end of a path: of every character that is not plain, all
octets are escaped. This module says what is written (`Percent.Spelt`) and that
nothing is lost by it. Reading the escapes back gives the octets of the
identifier (`Percent.decode_encode`), and different texts have different octets
(`Utf8.encode_injective`), so different resources have different targets.

The parts are joined by single slashes, however many a locator ends with and a
path begins with (`Target.withPath_append`, `Target.withPath_slashed`). An
identifier keeps all of its slashes, since it may have several segments, and one
at its beginning is not one of those that join.
-/

namespace CloudClient

namespace Text

/-- There is nothing in a text but the given character. -/
def ConsistsOf (c : Char) (s : String) : Prop := ∀ d ∈ s.toList, d = c

section Ends

variable {c : Char} {s : String}

theorem dropEndWhile_append {α : Type} {p : α → Bool} (front : List α) {back : List α}
    (h : ∀ a ∈ back, p a = true) : dropEndWhile p (front ++ back) = dropEndWhile p front := by
  have hreverse : ∀ a ∈ back.reverse, p a = true := fun a ha => h a (List.mem_reverse.1 ha)
  unfold dropEndWhile
  rw [List.reverse_append, List.dropWhile_append_of_pos hreverse]

/-- What is dropped at the end may as well be there. -/
theorem withoutTrailing_append (front : String) (h : ConsistsOf c s) :
    withoutTrailing c (front ++ s) = withoutTrailing c front := by
  rw [← String.toList_inj, toList_withoutTrailing, toList_withoutTrailing, String.toList_append]
  exact dropEndWhile_append _ fun d hd => beq_iff_eq.2 (h d hd)

/-- What is dropped at the beginning may as well be there. -/
theorem withoutLeading_append (back : String) (h : ConsistsOf c s) :
    withoutLeading c (s ++ back) = withoutLeading c back := by
  rw [← String.toList_inj, toList_withoutLeading, toList_withoutLeading, String.toList_append]
  exact List.dropWhile_append_of_pos fun d hd => beq_iff_eq.2 (h d hd)

end Ends

end Text

/-- **Different texts have different octets.** -/
theorem Utf8.encode_injective {s t : String} (h : encode s = encode t) : s = t := by
  have hbytes (u : String) : u.toByteArray = (encode u).toByteArray := by
    rw [← String.ofList_toList (s := u), String.toByteArray_ofList, String.ofList_toList]
    rfl
  rw [← String.toByteArray_inj, hbytes, hbytes, h]

namespace Percent

/-- **A plain character**: a letter or digit of ASCII, or one of five marks. -/
def IsPlainChar (c : Char) : Prop := c.isAlphanum = true ∨ c ∈ ['_', '.', '-', '~', '/']

instance (c : Char) : Decidable (IsPlainChar c) := inferInstanceAs (Decidable (_ ∨ _))

/-- **A spelling inside a path**: plain characters, and percent signs that are
followed by two hexadecimal digits. -/
inductive Spelt : List Char → Prop where
  | nil : Spelt []
  | plain {c : Char} {cs : List Char} (hc : IsPlainChar c) (hcs : Spelt cs) : Spelt (c :: cs)
  | escape {a b : Char} {cs : List Char} (ha : (digitValue? a).isSome = true)
      (hb : (digitValue? b).isSome = true) (hcs : Spelt cs) : Spelt ('%' :: a :: b :: cs)

/-! ## Plain characters and digits -/

theorem IsPlainChar.toNat_lt {c : Char} (h : IsPlainChar c) : c.toNat < 0x80 := by
  rcases h with h | h
  · unfold Char.isAlphanum Char.isAlpha Char.isUpper Char.isLower Char.isDigit at h
    simp only [Bool.or_eq_true, Bool.and_eq_true, decide_eq_true_eq, UInt32.le_iff_toNat_le,
      ge_iff_le] at h
    have hcapital : 'Z'.val.toNat = 0x5a := rfl
    have hsmall : 'z'.val.toNat = 0x7a := rfl
    have hdigit : '9'.val.toNat = 0x39 := rfl
    rw [← Char.toNat_val]
    omega
  · -- one mark after the other, since deciding it as it stands goes through all characters
    have hmarks : ∀ c ∈ ['_', '.', '-', '~', '/'], c.toNat < 0x80 := by
      simp only [List.forall_mem_cons, List.not_mem_nil, false_implies, implies_true]
      decide
    exact hmarks c h

/-- No plain character begins an escape or ends a path, and none is a blank. -/
theorem not_isPlainChar : ∀ c ∈ ['%', '?', '#', ' '], ¬ IsPlainChar c := by
  simp only [List.forall_mem_cons, List.not_mem_nil, false_implies, implies_true]
  decide

/-- A hexadecimal digit is a plain character. -/
theorem isPlainChar_of_isSome {c : Char} (h : (digitValue? c).isSome = true) : IsPlainChar c := by
  unfold digitValue? at h
  refine .inl ?_
  unfold Char.isAlphanum Char.isAlpha Char.isUpper Char.isDigit
  simp only [Bool.or_eq_true, Bool.and_eq_true, decide_eq_true_eq]
  split at h
  · rename_i hdigit
    exact .inr hdigit
  · split at h
    · rename_i hletter
      exact .inl (.inl ⟨hletter.1, Char.le_trans hletter.2 (by decide)⟩)
    · cases h

theorem digitValue?_digit : ∀ n < 16, digitValue? (digit n) = some n := by decide

/-- The two digits of an octet. -/
theorem digitValue?_octet (b : UInt8) :
    digitValue? (digit (b.toNat / 16)) = some (b.toNat / 16)
      ∧ digitValue? (digit (b.toNat % 16)) = some (b.toNat % 16) := by
  have hb := b.toNat_lt
  exact ⟨digitValue?_digit _ (by omega), digitValue?_digit _ (by omega)⟩

theorem plain_ofNat : ∀ n < 256, isPlain (UInt8.ofNat n) = true →
    IsPlainChar (Char.ofNat n) ∧ (Char.ofNat n).toNat = n := by decide +kernel

/-- What stands for itself is plain. -/
theorem plain_of_isPlain {b : UInt8} (h : isPlain b = true) :
    IsPlainChar (Char.ofNat b.toNat) ∧ (Char.ofNat b.toNat).toNat = b.toNat :=
  plain_ofNat _ b.toNat_lt (by rwa [UInt8.ofNat_toNat])

/-! ## Writing and reading back -/

theorem spelt_encodeOctet_append (b : UInt8) {cs : List Char} (hcs : Spelt cs) :
    Spelt (encodeOctet b ++ cs) := by
  unfold encodeOctet
  split
  · rename_i hplain
    exact .plain (plain_of_isPlain hplain).1 hcs
  · obtain ⟨hhigh, hlow⟩ := digitValue?_octet b
    exact .escape (by rw [hhigh]; rfl) (by rw [hlow]; rfl) hcs

/-- Octets are written in plain characters and escapes. -/
theorem spelt_encodeOctets (octets : Octets) : Spelt (encodeOctets octets) := by
  induction octets with
  | nil => exact .nil
  | cons b more ih => exact spelt_encodeOctet_append b ih

theorem decode_plain {c : Char} (hc : IsPlainChar c) (cs : List Char) :
    decode (c :: cs) = (decode cs).map (UInt8.ofNat c.toNat :: ·) := by
  have hlt := hc.toNat_lt
  have hne : c ≠ '%' := fun h => not_isPlainChar '%' List.mem_cons_self (h ▸ hc)
  rw [decode]
  · exact if_neg fun h => h.elim hne (by omega)
  · exact fun _ _ _ h => absurd h hne

theorem decode_encodeOctet_append (b : UInt8) {cs : List Char} {octets : Octets}
    (h : decode cs = some octets) : decode (encodeOctet b ++ cs) = some (b :: octets) := by
  unfold encodeOctet
  split
  · rename_i hplain
    obtain ⟨hchar, hvalue⟩ := plain_of_isPlain hplain
    rw [List.singleton_append, decode_plain hchar, hvalue, UInt8.ofNat_toNat, h]
    rfl
  · obtain ⟨hhigh, hlow⟩ := digitValue?_octet b
    have hb : UInt8.ofNat (b.toNat / 16 * 16 + b.toNat % 16) = b := by
      rw [Nat.div_add_mod', UInt8.ofNat_toNat]
    show decode ('%' :: digit (b.toNat / 16) :: digit (b.toNat % 16) :: cs) = _
    simp only [decode, hhigh, hlow, h, hb]

/-- **What is written reads back**, octet by octet. -/
theorem decode_encodeOctets (octets : Octets) : decode (encodeOctets octets) = some octets := by
  induction octets with
  | nil => rfl
  | cons b more ih => exact decode_encodeOctet_append b ih

/-- A text is spelt. -/
theorem spelt_encode (s : String) : Spelt (encode s).toList := by
  rw [encode, String.toList_ofList]
  exact spelt_encodeOctets _

/-- A text reads back as its octets. -/
theorem decode_encode (s : String) : decode (encode s).toList = some (Utf8.encode s) := by
  rw [encode, String.toList_ofList]
  exact decode_encodeOctets _

/-- **Different texts are spelt differently.** -/
theorem encode_injective {s t : String} (h : encode s = encode t) : s = t := by
  have hoctets : some (Utf8.encode s) = some (Utf8.encode t) := by
    rw [← decode_encode, ← decode_encode, h]
  exact Utf8.encode_injective (Option.some.inj hoctets)

/-- In a spelling nothing ends a path, nothing is a blank, and nothing is beyond
ASCII. -/
theorem Spelt.confined {cs : List Char} (h : Spelt cs) :
    ∀ c ∈ cs, c.toNat < 0x80 ∧ c ∉ ['?', '#', ' '] := by
  have hplain {c : Char} (hc : IsPlainChar c) : c.toNat < 0x80 ∧ c ∉ ['?', '#', ' '] :=
    ⟨hc.toNat_lt, fun hmem => not_isPlainChar c (List.mem_cons_of_mem _ hmem) hc⟩
  induction h with
  | nil => exact List.forall_mem_nil _
  | plain hc _ ih => exact List.forall_mem_cons.2 ⟨hplain hc, ih⟩
  | escape ha hb _ ih =>
    simp only [List.forall_mem_cons]
    exact ⟨by decide, hplain (isPlainChar_of_isSome ha), hplain (isPlainChar_of_isSome hb), ih⟩

end Percent

namespace Target

/-! ## The joints -/

section Joints

variable {slashes : String} (hslashes : Text.ConsistsOf '/' slashes)

include hslashes

/-- Slashes at the end of a locator do not matter. -/
theorem withPath_append (base : String) (path : Option String) :
    withPath (base ++ slashes) path = withPath base path := by
  unfold withPath
  rw [Text.withoutTrailing_append base hslashes]

/-- Slashes at the beginning of a path do not matter, if there is anything else
in it. -/
theorem withPath_slashed (base : String) {path : String} (hpath : path ≠ "") :
    withPath base (some (slashes ++ path)) = withPath base (some path) := by
  have hslashed : slashes ++ path ≠ "" := by
    rw [Ne, ← String.toList_eq_nil_iff, String.toList_append, List.append_eq_nil_iff, not_and]
    exact fun _ h => hpath (String.toList_eq_nil_iff.1 h)
  unfold withPath
  simp only [if_neg hpath, if_neg hslashed, Text.withoutLeading_append path hslashes]

end Joints

/-! ## Targets -/

/-- The target of a resource whose identifier has some text. -/
theorem build_of_text (base : String) (path : Option String) {id : Json} {s : String}
    (htext : id.shown.toString? = some s) (hs : s ≠ "") :
    build base path (some id)
      = .ok (Text.withoutTrailing '/' (withPath base path) ++ "/" ++ Percent.encode s) := by
  have hsome : id.shown.isEmpty = false := by
    rw [← RawText.ofString_of_toString? htext, RawText.isEmpty_ofString, beq_eq_false_iff_ne]
    exact hs
  simp only [build, withResource, hsome, htext, Bool.false_eq_true, if_false]

/-- **An identifier cannot escape its place.** The target of a resource is the
target without it, less the slashes at the end, with a slash and a spelling of
the identifier after it; in the spelling there is nothing that could end a path,
and reading it gives the octets of the identifier. So identifiers with different
texts have different targets. Slashes at the end of the locator do not matter,
nor do any at the beginning of a path that has something in it, whether or not
there is a resource. -/
theorem resource_stays_in_place (base : String) (path : Option String) :
    (∃ stem, build base path none = .ok stem ∧
      ∀ (id : Json) (s : String), id.shown.toString? = some s → s ≠ "" →
        ∃ spelling : String,
          build base path (some id) = .ok (Text.withoutTrailing '/' stem ++ "/" ++ spelling) ∧
          Percent.Spelt spelling.toList ∧
          (∀ c ∈ spelling.toList, c.toNat < 0x80 ∧ c ∉ ['?', '#', ' ']) ∧
          Percent.decode spelling.toList = some (Utf8.encode s)) ∧
    (∀ (id id' : Json) (s s' : String), id.shown.toString? = some s → s ≠ "" →
      id'.shown.toString? = some s' → s' ≠ "" →
        build base path (some id) = build base path (some id') → s = s') ∧
    ∀ (slashes : String) (resource : Option Json), Text.ConsistsOf '/' slashes →
      build (base ++ slashes) path resource = build base path resource ∧
      ∀ p, path = some p → p ≠ "" →
        build base (some (slashes ++ p)) resource = build base path resource := by
  refine ⟨⟨withPath base path, rfl, fun id s htext hs => ?_⟩,
    fun id id' s s' htext hs htext' hs' hsame => ?_, fun slashes resource hslashes => ⟨?_, ?_⟩⟩
  · have hspelt := Percent.spelt_encode s
    exact ⟨Percent.encode s, build_of_text base path htext hs, hspelt, hspelt.confined,
      Percent.decode_encode s⟩
  · rw [build_of_text base path htext hs, build_of_text base path htext' hs'] at hsame
    exact Percent.encode_injective ((String.append_right_inj _).1 (Except.ok.inj hsame))
  · unfold build
    rw [withPath_append hslashes]
  · rintro p rfl hp
    unfold build
    rw [withPath_slashed hslashes base hp]

/-! ## An identifier that needs escapes -/

namespace Escaped

/-- A locator that ends with slashes, -/
def base : String := "http://c//"

/-- a path that has them at both ends, -/
def path : String := "/x/"

/-- and two segments with an escape, characters of two and of four octets, and
what would begin a query and a fragment. -/
def identifier : String := "a%2Fé/𝄞?#"

/-- The slashes inside path and identifier stay, and the rest is spelt. -/
theorem resource_stays_in_place_escaped :
    (Json.str identifier).shown.toString? = some identifier ∧ identifier ≠ "" ∧
    (∃ spelling : String,
      build base (some path) (some (.str identifier)) = .ok ("http://c/x" ++ "/" ++ spelling) ∧
      spelling = "a%252F%C3%A9/%F0%9D%84%9E%3F%23" ∧ Percent.Spelt spelling.toList ∧
      Percent.decode spelling.toList = some (Utf8.encode identifier)) ∧
    build base (some path) (some (.str identifier)) ≠ build base (some path) (some (.int 7)) ∧
    Text.ConsistsOf '/' "//" ∧
    build (base ++ "//") (some path) (some (.str identifier))
      = build base (some path) (some (.str identifier)) ∧
    build base (some ("//" ++ path)) (some (.str identifier))
      = build base (some path) (some (.str identifier)) := by
  have htext : (Json.str identifier).shown.toString? = some identifier :=
    RawText.toString?_ofString identifier
  have hseven : (Json.int 7).shown.toString? = some "7" := by decide
  have hslashes : Text.ConsistsOf '/' "//" :=
    List.forall_mem_cons.2 ⟨rfl, List.forall_mem_singleton.2 rfl⟩
  obtain ⟨⟨stem, hstem, hplace⟩, hdistinct, hjoints⟩ := resource_stays_in_place base (some path)
  obtain ⟨spelling, hbuild, hspelt, -, hdecode⟩ := hplace _ identifier htext (by decide)
  obtain ⟨hbase, hpath⟩ := hjoints "//" (some (.str identifier)) hslashes
  have hevaluated : build base (some path) (some (.str identifier))
      = .ok ("http://c/x" ++ "/" ++ "a%252F%C3%A9/%F0%9D%84%9E%3F%23") := by rfl
  have hstemmed : Text.withoutTrailing '/' stem = "http://c/x" := by
    rw [← Except.ok.inj hstem]
    rfl
  rw [hstemmed] at hbuild
  have hspelling : spelling = "a%252F%C3%A9/%F0%9D%84%9E%3F%23" :=
    (String.append_right_inj _).1 (Except.ok.inj (hbuild.symm.trans hevaluated))
  refine ⟨htext, by decide, ⟨spelling, hbuild, hspelling, hspelt, hdecode⟩, fun hsame => ?_,
    hslashes, hbase, hpath _ rfl (by decide)⟩
  have hseven' := hdistinct _ _ _ _ htext (by decide) hseven (by decide) hsame
  exact absurd hseven' (by decide)

end Escaped

end Target

end CloudClient
