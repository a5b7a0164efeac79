import CloudClient.Proofs.VersionNumerals

/-!
# Versions in paths

Two readers look for a version in the path of a locator. The one for an entry of
a catalog goes through the characters from the front and stops at the first slash
that a marked version follows. The one for an endpoint in use cuts the path at
its slashes and goes through the segments from the back, and it also takes a
version without a mark. They serve different ends, and still they must not
disagree about a path with one version in it.

`findInPath_eq` says that the search by characters sees the segments of the
other reader: a slash, a `v` and a numeral up to the next slash are a segment,
since neither `v` nor numeral has a slash in it. So both readers are described by
the segments (`FirstMarked`, `LastNamed`), and where just one of these names a
version, and is marked, `VersionsRead.agree` follows.

Nothing but the path counts, as `pathOf_text` says of locators as they are
spelt.
-/

namespace CloudClient

namespace Text

/-! ## The pieces of a text -/

/-- The first piece of a text goes up to the first separator. -/
theorem exists_cut (sep : Char) (cs : List Char) :
    ∃ piece rest more, cut sep cs = piece :: more ∧ cs = piece ++ rest ∧ sep ∉ piece
      ∧ ∀ c ∈ rest.head?, c = sep := by
  have hjoin := join_cut sep cs
  cases hcut : cut sep cs with
  | nil => exact absurd hcut (cut_ne_nil sep cs)
  | cons piece more =>
    have hpiece : sep ∉ piece := notMem_of_mem_cut (hcut ▸ List.mem_cons_self)
    rw [hcut] at hjoin
    cases more with
    | nil => exact ⟨piece, [], [], rfl, hjoin ▸ (List.append_nil piece).symm, hpiece, nofun⟩
    | cons second more =>
      refine ⟨piece, sep :: join sep (second :: more), _, rfl, hjoin.symm, hpiece, ?_⟩
      rintro _ ⟨rfl⟩
      rfl

end Text

namespace Version

/-! ## What the segments say -/

/-- The segments of a path: what stands between its slashes. -/
def segments (path : String) : List (List Char) :=
  (Text.cut '/' path.toList).filter fun s => !s.isEmpty

/-- **What an entry with these segments has**: the numeral of the first segment
that is one after a `v`, or else `1.0`. -/
inductive FirstMarked (segments : List (List Char)) : String → Prop where
  | found {before after : List (List Char)} (n : Numeral)
      (hsplit : segments = before ++ ('v' :: n.chars) :: after)
      (hbefore : ∀ s ∈ before, ∀ m : Numeral, s ≠ 'v' :: m.chars) :
      FirstMarked segments (String.ofList n.chars)
  | missing (h : ∀ s ∈ segments, ∀ m : Numeral, s ≠ 'v' :: m.chars) : FirstMarked segments "1.0"

/-- **What an endpoint with these segments has**: the version that the last
segment names that names one, or else `1.1`. -/
inductive LastNamed (segments : List (List Char)) : Version → Prop where
  | found {before after : List (List Char)} {s : List Char} {n : Numeral}
      (hsplit : segments = before ++ s :: after) (hnames : Names s n)
      (hafter : ∀ t ∈ after, ∀ m, ¬ Names t m) : LastNamed segments n.version
  | missing (h : ∀ s ∈ segments, ∀ m, ¬ Names s m) : LastNamed segments ⟨1, 1⟩

/-- **What the two readers make of a locator with these segments.** -/
structure VersionsRead (url : String) (segments : List (List Char)) : Prop where
  /-- The first marked segment is that of an entry. -/
  first : ∃ text, ofPath url = .ok text ∧ FirstMarked segments text
  /-- The last segment that names a version is that of an endpoint in use. -/
  last : ∃ v, ofEndpoint (some url) = .ok v ∧ LastNamed segments v
  /-- The readers agree about a path with one version, which is marked. -/
  agree : ∀ (n : Numeral) (before after : List (List Char)),
    segments = before ++ ('v' :: n.chars) :: after →
    (∀ s ∈ before ++ after, ∀ m, ¬ Names s m) →
    ∃ text v, ofPath url = .ok text ∧ read (some (RawText.ofString text)) = .ok v
      ∧ ofEndpoint (some url) = .ok v

/-! ## The search by characters -/

/-- The numeral of a segment after a `v`. -/
def marked? : List Char → Option (List Char)
  | 'v' :: cs => leading? cs
  | _ => none

/-- The version that is all of a piece. -/
theorem leading?_whole {piece found : List Char} (hpiece : '/' ∉ piece) (hline : '\n' ∉ piece) :
    leading? piece = some found ↔ ∃ n : Numeral, piece = n.chars ∧ found = n.chars := by
  have hfront : leading? (piece ++ []) = some found ↔ _ :=
    leading?_piece hpiece nofun (by rwa [List.append_nil])
  rwa [List.append_nil] at hfront

theorem marked?_eq_some_iff {s found : List Char} (hslash : '/' ∉ s) (hline : '\n' ∉ s) :
    marked? s = some found ↔ ∃ n : Numeral, s = 'v' :: n.chars ∧ found = n.chars := by
  unfold marked?
  split
  · rename_i cs
    have hwhole : leading? cs = some found ↔ _ :=
      leading?_whole (fun hmem => hslash (List.mem_cons_of_mem 'v' hmem))
        fun hmem => hline (List.mem_cons_of_mem 'v' hmem)
    simpa using hwhole
  · rename_i hno
    exact iff_of_false nofun fun ⟨n, hs, _⟩ => hno _ hs

/-- What stands behind the first piece does not matter to the version in
front. -/
theorem leading?_append {piece rest : List Char} (hpiece : '/' ∉ piece)
    (hrest : ∀ c ∈ rest.head?, c = '/') (hline : '\n' ∉ piece ++ rest) :
    leading? (piece ++ rest) = leading? piece :=
  Option.ext fun _ => (leading?_piece hpiece hrest hline).trans
    (leading?_whole hpiece fun hmem => hline (List.mem_append_left _ hmem)).symm

/-- The piece after a slash and a `v` comes first. -/
theorem findSome?_cut_marked {cs : List Char} (hline : '\n' ∉ '/' :: 'v' :: cs) :
    (Text.cut '/' ('/' :: 'v' :: cs)).tail.findSome? marked?
      = (leading? cs).or ((Text.cut '/' ('v' :: cs)).tail.findSome? marked?) := by
  obtain ⟨piece, rest, more, hcut, rfl, hpiece, hrest⟩ := Text.exists_cut '/' cs
  have hfront : leading? (piece ++ rest) = leading? piece :=
    leading?_append hpiece hrest fun hmem =>
      hline (List.mem_cons_of_mem _ (List.mem_cons_of_mem _ hmem))
  rw [Text.cut_cons_self, Text.cut_cons_of_ne (by decide) hcut, List.tail_cons, List.tail_cons,
    hfront, List.findSome?_cons, show marked? ('v' :: piece) = leading? piece from rfl]
  cases leading? piece <;> rfl

/-- **The search by characters goes through the pieces**, all but the one in
front of the first slash. -/
theorem findInPath_eq {cs : List Char} (hline : '\n' ∉ cs) :
    findInPath cs = (Text.cut '/' cs).tail.findSome? marked? := by
  fun_induction findInPath cs with
  | case1 => rfl
  | case2 cs found hfound =>
    rw [findSome?_cut_marked hline, hfound]
    rfl
  | case3 cs hnone ih =>
    rw [findSome?_cut_marked hline, hnone]
    exact ih fun hmem => hline (List.mem_cons_of_mem '/' hmem)
  | case4 c cs hno ih =>
    rw [ih fun hmem => hline (List.mem_cons_of_mem c hmem)]
    obtain ⟨piece, rest, more, hcut, rfl, -⟩ := Text.exists_cut '/' cs
    by_cases hc : c = '/'
    · -- the piece after this slash is not marked
      have hunmarked : marked? piece = none := by
        unfold marked?
        split
        · exact absurd rfl (hno _ hc)
        · rfl
      subst hc
      rw [Text.cut_cons_self, hcut, List.tail_cons, List.tail_cons, List.findSome?_cons, hunmarked]
    · rw [Text.cut_cons_of_ne hc hcut, hcut, List.tail_cons, List.tail_cons]

/-- Of a path that begins with a slash, it goes through the segments. -/
theorem findInPath_segments {path : String} (hslash : Text.startsWith "/" path = true)
    (hline : '\n' ∉ path.toList) :
    findInPath path.toList = (segments path).findSome? marked? := by
  have hfilter (pieces : List (List Char)) :
      (pieces.filter fun s => !s.isEmpty).findSome? marked? = pieces.findSome? marked? := by
    induction pieces with
    | nil => rfl
    | cons piece more ih =>
      cases piece with
      | nil => exact ih
      | cons c cs =>
        rw [List.filter_cons_of_pos rfl, List.findSome?_cons, List.findSome?_cons, ih]
  obtain ⟨rest, rfl⟩ := Text.startsWith_iff.1 hslash
  have hpath : ("/" ++ rest).toList = '/' :: rest.toList := String.toList_append
  rw [segments, hfilter, findInPath_eq hline, hpath, Text.cut_cons_self]
  rfl

/-! ## The readers by segments -/

section Segments

variable {segments : List (List Char)} (hline : ∀ s ∈ segments, '\n' ∉ s)

include hline

theorem firstMarked (hslash : ∀ s ∈ segments, '/' ∉ s) :
    FirstMarked segments (match segments.findSome? marked? with
      | some found => String.ofList found
      | none => defaultText) := by
  cases hfound : segments.findSome? marked? with
  | none =>
    refine .missing fun s hs n hsame => ?_
    have hno := List.findSome?_eq_none_iff.1 hfound s hs
    rw [(marked?_eq_some_iff (hslash s hs) (hline s hs)).2 ⟨n, hsame, rfl⟩] at hno
    cases hno
  | some found =>
    obtain ⟨before, s, after, hsplit, hs, hbefore⟩ := List.findSome?_eq_some_iff.1 hfound
    have hmem : s ∈ segments := hsplit ▸ List.mem_append_right _ List.mem_cons_self
    obtain ⟨n, rfl, rfl⟩ := (marked?_eq_some_iff (hslash s hmem) (hline s hmem)).1 hs
    refine .found n hsplit fun t ht m hsame => ?_
    have htMem : t ∈ segments := hsplit ▸ List.mem_append_left _ ht
    have hno := hbefore t ht
    rw [(marked?_eq_some_iff (hslash t htMem) (hline t htMem)).2 ⟨m, hsame, rfl⟩] at hno
    cases hno

theorem exists_lastNamed (hfits : ∀ s ∈ segments, ∀ n, Names s n → n.Fits) :
    ∃ v, ofSegments segments = .ok v ∧ LastNamed segments v := by
  have hunnamed {s : List Char} (hs : s ∈ segments) (hno : ofSegment? s = none) (n : Numeral) :
      ¬ Names s n := fun hnames => by
    rw [(ofSegment?_eq_some_iff (hline s hs)).2 ⟨n, hnames, rfl⟩] at hno
    cases hno
  unfold ofSegments
  cases hfound : segments.reverse.findSome? ofSegment? with
  | none =>
    have hnone := List.findSome?_eq_none_iff.1 hfound
    exact ⟨⟨1, 1⟩, rfl, .missing fun s hs => hunnamed hs (hnone s (List.mem_reverse.2 hs))⟩
  | some digits =>
    -- what comes before it from the back is what follows it from the front
    obtain ⟨later, s, earlier, hsplit, hs, hlater⟩ := List.findSome?_eq_some_iff.1 hfound
    have hturned : segments = earlier.reverse ++ s :: later.reverse := by
      rw [← List.reverse_reverse segments, hsplit, List.reverse_append, List.reverse_cons,
        List.append_assoc, List.singleton_append]
    have hmem : s ∈ segments := hturned ▸ List.mem_append_right _ List.mem_cons_self
    obtain ⟨n, hnames, rfl⟩ := (ofSegment?_eq_some_iff (hline s hmem)).1 hs
    refine ⟨n.version, ofDigits_numeral (hfits s hmem n hnames), .found hturned hnames ?_⟩
    intro t ht
    have htMem : t ∈ segments :=
      hturned ▸ List.mem_append_right _ (List.mem_cons_of_mem s ht)
    exact hunnamed htMem (hlater t (List.mem_reverse.1 ht))

end Segments

/-- A segment names no two versions. -/
theorem Names.version_eq {s : List Char} {n m : Numeral} (hline : '\n' ∉ s) (h : Names s n)
    (k : Names s m) : n.version = m.version := by
  have hn := (ofSegment?_eq_some_iff hline).2 ⟨n, h, rfl⟩
  have hm := (ofSegment?_eq_some_iff hline).2 ⟨m, k, rfl⟩
  obtain ⟨hmajor, hminor⟩ := Prod.mk.inj (Option.some.inj (hn.symm.trans hm))
  rw [Numeral.version, Numeral.version, hmajor, hminor]

section OneVersion

variable {segments before after : List (List Char)} {n : Numeral}
  (hsplit : segments = before ++ ('v' :: n.chars) :: after)
  (hothers : ∀ s ∈ before ++ after, ∀ m, ¬ Names s m)

include hsplit hothers

/-- Where one segment names a version, any that names one is this one. -/
theorem eq_of_names {s : List Char} {m : Numeral} (hs : s ∈ segments) (hnames : Names s m) :
    s = 'v' :: n.chars := by
  rw [hsplit, List.mem_append, List.mem_cons] at hs
  obtain hbefore | hsame | hafter := hs
  · exact absurd hnames (hothers s (List.mem_append_left _ hbefore) m)
  · exact hsame
  · exact absurd hnames (hothers s (List.mem_append_right _ hafter) m)

theorem FirstMarked.eq_of_one {text : String} (h : FirstMarked segments text) :
    text = String.ofList n.chars := by
  cases h with
  | @found before' after' m hsplit' _ =>
    have hmem : 'v' :: m.chars ∈ segments :=
      hsplit' ▸ List.mem_append_right _ List.mem_cons_self
    rw [(List.cons.inj (eq_of_names hsplit hothers hmem (.marked m))).2]
  | missing hnone =>
    exact absurd rfl (hnone _ (hsplit ▸ List.mem_append_right _ List.mem_cons_self) n)

theorem LastNamed.eq_of_one {v : Version} (h : LastNamed segments v) : v = n.version := by
  cases h with
  | @found before' after' s m hsplit' hnames _ =>
    have hmem : s ∈ segments := hsplit' ▸ List.mem_append_right _ List.mem_cons_self
    obtain rfl := eq_of_names hsplit hothers hmem hnames
    have hline : '\n' ∉ 'v' :: n.chars := fun hin =>
      (List.mem_cons.1 hin).elim (by decide) (n.notMem_chars (by decide) (by decide))
    exact hnames.version_eq hline (.marked n)
  | missing hnone =>
    exact absurd (.marked n) (hnone _ (hsplit ▸ List.mem_append_right _ List.mem_cons_self) n)

end OneVersion

end Version

/-! ## Paths of locators -/

namespace Text

variable {α : Type} [DecidableEq α] {sep : α} {cs : List α}

theorem breakAt_fst : (breakAt sep cs).1 = cs.takeWhile (· ≠ sep) := by
  induction cs with
  | nil => rfl
  | cons c cs ih =>
    rw [breakAt, List.takeWhile_cons]
    split
    · rename_i hc
      rw [if_neg (by simp [hc])]
    · rename_i hc
      rw [if_pos (by simp [hc]), ih]

theorem breakAt_snd_subset {rest : List α} (h : (breakAt sep cs).2 = some rest) : rest ⊆ cs := by
  induction cs with
  | nil => cases h
  | cons c cs ih =>
    rw [breakAt] at h
    split at h
    · cases h
      exact List.subset_cons_self _ _
    · exact List.Subset.trans (ih h) (List.subset_cons_self c cs)

end Text

namespace Locator

theorem splitScheme_subset (cs : List Char) : (splitScheme cs).2 ⊆ cs := by
  unfold splitScheme
  split
  · rename_i c scheme rest hcut
    split
    · exact Text.breakAt_snd_subset (congrArg Prod.snd hcut)
    · exact List.Subset.refl cs
  · exact List.Subset.refl cs

theorem splitAuthority_subset (cs : List Char) : (splitAuthority cs).2 ⊆ cs := by
  unfold splitAuthority
  split
  · exact List.Subset.trans (List.dropWhile_subset _) (List.subset_append_right ['/', '/'] _)
  · exact List.Subset.refl _

theorem withoutParameters_subset (path : List Char) : withoutParameters path ⊆ path := by
  refine List.append_subset.2
    ⟨List.take_subset _ _, List.Subset.trans (List.takeWhile_subset _) ?_⟩
  intro c hc
  exact List.mem_reverse.1 (List.takeWhile_subset _ (List.mem_reverse.1 hc))

/-- The path of a locator is made of characters that it keeps. -/
theorem path_subset {url : String} {l : Locator} (h : read url = .ok l) :
    l.path.toList ⊆ cleaned url.toList := by
  unfold read readChars at h
  simp only at h
  split at h
  · cases h
  · cases h
    rw [String.toList_ofList]
    have hrest := List.Subset.trans (splitAuthority_subset _)
      (splitScheme_subset (cleaned url.toList))
    have hpath : (Text.breakAt '?' (Text.breakAt '#' (splitAuthority
        (splitScheme (cleaned url.toList)).2).2).1).1 ⊆ cleaned url.toList := by
      rw [Text.breakAt_fst, Text.breakAt_fst]
      exact List.Subset.trans (List.takeWhile_subset _)
        (List.Subset.trans (List.takeWhile_subset _) hrest)
    split
    · exact List.Subset.trans (withoutParameters_subset _) hpath
    · exact hpath

theorem newline_notMem_path {url : String} {l : Locator} (h : read url = .ok l) :
    '\n' ∉ l.path.toList :=
  fun hmem => Bool.false_ne_true (List.mem_filter.1 (path_subset h hmem)).2

namespace Spelling

/-- The path as it is written, up to the first question mark or hash. -/
def writtenPath (w : Spelling) : List Char :=
  w.rest.takeWhile fun c => decide (c ≠ '?') && decide (c ≠ '#')

/-- The path that is read comes from the one that is written. -/
theorem unqueried_fst (w : Spelling) : w.unqueried.1 = unbroken w.writtenPath := by
  rw [unqueried, unfragmented, Text.breakAt_fst, Text.breakAt_fst, List.takeWhile_takeWhile,
    unbroken, List.takeWhile_filter, unbroken, writtenPath]
  refine congrArg _ (congrArg (w.rest.takeWhile ·) (funext fun c => ?_))
  by_cases hquery : c = '?'
  · subst hquery
    decide
  · by_cases hhash : c = '#'
    · subst hhash
      decide
    · simp [hquery, hhash]

theorem pathChars_congr {w w' : Spelling} (hscheme : w'.scheme = w.scheme)
    (hpath : w'.writtenPath = w.writtenPath) : w'.pathChars = w.pathChars := by
  rw [pathChars, pathChars, schemeName, schemeName, hscheme, unqueried_fst, unqueried_fst, hpath]

end Spelling

end Locator

namespace Version

/-- **Where the path is read from a locator**, nothing else counts. -/
theorem pathOf_text {w : Locator.Spelling}
    (h : Locator.authorityFault? (Locator.unbroken w.authority) = none) :
    pathOf w.text = .ok (String.ofList w.pathChars) := by
  rw [pathOf, if_pos w.hasWithin_text, w.read_text, h]
  rfl

/-- **Both readers go by the segments of the path.** -/
theorem versionsRead {url : String} {l : Locator} (hlocator : Text.hasWithin "://" url = true)
    (hread : Locator.read url = .ok l) (hslash : Text.startsWith "/" l.path = true)
    (hfits : ∀ s ∈ segments l.path, ∀ n, Names s n → n.Fits) :
    VersionsRead url (segments l.path) := by
  have hpath : pathOf url = .ok l.path := by
    rw [pathOf, if_pos hlocator, hread]
    rfl
  have hne : url ≠ "" := by
    rintro rfl
    cases hlocator
  have hnewline := Locator.newline_notMem_path hread
  have hpiece {s : List Char} (hs : s ∈ segments l.path) : '/' ∉ s ∧ ∀ c ∈ s, c ∈ l.path.toList :=
    have hcut := List.mem_of_mem_filter hs
    ⟨Text.notMem_of_mem_cut hcut, fun _ => Text.mem_of_mem_cut hcut⟩
  have hline : ∀ s ∈ segments l.path, '\n' ∉ s := fun s hs hmem =>
    hnewline ((hpiece hs).2 _ hmem)
  have hfirst : ∃ text, ofPath url = .ok text ∧ FirstMarked (segments l.path) text := by
    refine ⟨_, ?_, firstMarked hline fun s hs => (hpiece hs).1⟩
    rw [ofPath, hpath, ← findInPath_segments hslash hnewline]
    rfl
  have hlast : ∃ v, ofEndpoint (some url) = .ok v ∧ LastNamed (segments l.path) v := by
    obtain ⟨v, hv, hnamed⟩ := exists_lastNamed hline hfits
    refine ⟨v, ?_, hnamed⟩
    simp only [ofEndpoint, if_neg hne, hpath]
    exact hv
  refine ⟨hfirst, hlast, fun n before after hsplit hothers => ?_⟩
  obtain ⟨text, htext, hmarked⟩ := hfirst
  obtain ⟨v, hv, hnamed⟩ := hlast
  obtain rfl := hmarked.eq_of_one hsplit hothers
  obtain rfl := hnamed.eq_of_one hsplit hothers
  have hmem : 'v' :: n.chars ∈ segments l.path :=
    hsplit ▸ List.mem_append_right _ List.mem_cons_self
  exact ⟨_, _, htext, readText_chars (hfits _ hmem n (.marked n)), hv⟩

/-- **The readers of versions agree.** Of a locator whose path begins with a
slash, the one takes the first marked version among the segments and the other
the last version, so they agree where there is one, which is marked. And
nothing but the written path counts: locators of one scheme and path are of the
same versions, whatever their authorities, queries and fragments. -/
theorem version_readers_agree :
    (∀ {url : String} {l : Locator}, Text.hasWithin "://" url = true →
        Locator.read url = .ok l → Text.startsWith "/" l.path = true →
        (∀ s ∈ segments l.path, ∀ n, Names s n → n.Fits) →
        VersionsRead url (segments l.path))
      ∧ ∀ {w w' : Locator.Spelling},
        Locator.authorityFault? (Locator.unbroken w.authority) = none →
        Locator.authorityFault? (Locator.unbroken w'.authority) = none →
        w'.scheme = w.scheme → w'.writtenPath = w.writtenPath →
        ofPath w'.text = ofPath w.text
          ∧ ofEndpoint (some w'.text) = ofEndpoint (some w.text) := by
  refine ⟨versionsRead, fun {w w'} hreadable hreadable' hscheme hpath => ?_⟩
  have hsame : pathOf w'.text = pathOf w.text := by
    rw [pathOf_text hreadable, pathOf_text hreadable', Locator.Spelling.pathChars_congr hscheme hpath]
  have hne (v : Locator.Spelling) : v.text ≠ "" := fun hempty => by
    have hwithin := v.hasWithin_text
    rw [hempty] at hwithin
    cases hwithin
  rw [ofPath, ofPath, ofEndpoint, ofEndpoint, hsame, if_neg (hne w), if_neg (hne w')]
  exact ⟨rfl, rfl⟩

/-- Short segments name versions of few digits. -/
theorem Names.fits {s : List Char} {n : Numeral} (h : Names s n)
    (hlength : s.length ≤ Integer.digitLimit) : n.Fits := by
  have hchars : n.chars.length ≤ Integer.digitLimit := by
    cases h with
    | marked => exact (Nat.le_succ _).trans hlength
    | bare => exact hlength
  unfold Numeral.chars at hchars
  split at hchars
  · rename_i hminor
    exact ⟨hchars, by rw [hminor]; nofun⟩
  · rename_i minor hminor
    rw [List.length_append, List.length_cons] at hchars
    refine ⟨by omega, fun m hm => ?_⟩
    obtain rfl := Option.some.inj (hminor.symm.trans hm)
    omega

namespace LookAlikes

/-- One version in the path, and what looks like one in all other places. -/
def adorned : Locator.Spelling where
  scheme := "https".toList
  authority := "v4:v5.0@v3.0.example:8".toList
  rest := "/v2beta//v1.2.3/7/v2.1/servers?next=/v6/#/v9.9/".toList
  scheme_ne_nil := by decide
  scheme_letters := List.all_eq_true.1 (by decide)
  authority_inside c hc := Bool.eq_false_iff.2 (List.any_eq_false.1 (by decide) c hc)
  rest_begins := (Option.all_eq_true _ _).1 (by decide)

/-- The same path by itself. -/
def plain : Locator.Spelling where
  scheme := "https".toList
  authority := "compute.example".toList
  rest := "/v2beta//v1.2.3/7/v2.1/servers".toList
  scheme_ne_nil := by decide
  scheme_letters := List.all_eq_true.1 (by decide)
  authority_inside c hc := Bool.eq_false_iff.2 (List.any_eq_false.1 (by decide) c hc)
  rest_begins := (Option.all_eq_true _ _).1 (by decide)

/-- The version in the path. -/
def named : Numeral where
  major := ['2']
  minor := some ['1']
  major_row := ⟨List.cons_ne_nil _ _, List.all_eq_true.1 (by decide)⟩
  minor_row := by rintro _ ⟨rfl⟩; exact ⟨List.cons_ne_nil _ _, List.all_eq_true.1 (by decide)⟩

/-- The segments in front of it. -/
def before : List (List Char) := ["v2beta".toList, "v1.2.3".toList, "7".toList]

/-- And the one behind it. -/
def after : List (List Char) := ["servers".toList]

theorem version_readers_agree_adorned :
    (∃ text v, ofPath adorned.text = .ok text ∧ read (some (RawText.ofString text)) = .ok v
        ∧ ofEndpoint (some adorned.text) = .ok v)
      ∧ ofPath adorned.text = .ok "2.1"
      ∧ ofPath plain.text = ofPath adorned.text
      ∧ ofEndpoint (some plain.text) = ofEndpoint (some adorned.text) := by
  have hshort : ∀ s ∈ segments adorned.locator.path, s.length ≤ Integer.digitLimit := by
    decide +kernel
  have hread : VersionsRead adorned.text (segments adorned.locator.path) :=
    version_readers_agree.1 adorned.hasWithin_text (by rw [adorned.read_text]; decide +kernel)
      (by decide +kernel) fun s hs n hnames => hnames.fits (hshort s hs)
  have hsplit : segments adorned.locator.path = before ++ ('v' :: named.chars) :: after := by
    decide +kernel
  have hothers : ∀ s ∈ before ++ after, '\n' ∉ s ∧ ofSegment? s = none := by decide +kernel
  refine ⟨hread.agree named before after hsplit fun s hs m hnames => ?_, by decide +kernel,
    version_readers_agree.2 (by decide +kernel) (by decide +kernel) rfl (by decide +kernel)⟩
  obtain ⟨hline, hno⟩ := hothers s hs
  rw [(ofSegment?_eq_some_iff hline).2 ⟨m, hnames, rfl⟩] at hno
  cases hno

end LookAlikes

end Version

end CloudClient
