import CloudClient.Json.Encoding
import CloudClient.Proofs.WrittenScalars

/-!
# Documents written and read

Writer and reader are two recursions over different things, a value and a row
of code points, and what they have to agree on is everything: separators,
escapes, the ends of numbers, and how deep the reader may go. A value is
*plain* if it can be written and read without a loss (`Json.IsPlain`): it has
no fractional number, no integer with more digits than are converted, no text
with half of a pair, and no name twice in an object. `readRaw_chars` says that
a plain value is read as it was written.

The induction is on the value. Its hypothesis is a statement about the value at
the front of a longer row (`ReadsAs`), with the rest of the row left over, for
any measure and room that suffice. What the reader does inside an array or an
object is shown on the list of elements or members, under that hypothesis for
each of them, so the mutual recursion of the reader meets no other one here.

## As octets

A plain value is written in ASCII that shows (`shows_chars`), and such octets
are the same text in each way to decode them: nothing is replaced, no mark of
byte order is seen and no zero octets suggest another encoding. `Encodes` is
what the octets of a body are then.
-/

namespace CloudClient

/-- The text of a whole raw text. -/
theorem RawText.exists_ofChars {t : RawText} (h : t.isWhole = true) :
    ∃ cs, t = ⟨Json.ofChars cs⟩ := by
  obtain ⟨s, hs⟩ := Option.isSome_iff_exists.1 h
  exact ⟨s.toList, (RawText.ofString_of_toString? hs).symm⟩

/-- A new key is set at the end. -/
theorem Entries.put_of_fresh {κ ν : Type} [BEq κ] {before : List (κ × ν)} {k : κ}
    (h : ∀ e ∈ before, (e.1 == k) = false) (v : ν) : put before k v = before ++ [(k, v)] := by
  refine if_neg fun hhas => ?_
  obtain ⟨e, he, hk⟩ := List.any_eq_true.1 hhas
  rw [h e he] at hk
  cases hk

namespace Json

/-! ## Plain values -/

mutual

/-- **A plain value** comes back as it was. -/
def IsPlain : Json → Prop
  | .null => True
  | .bool _ => True
  | .int n => (Nat.toDigits 10 n.natAbs).length ≤ 4300
  | .float _ => False
  | .str t => t.isWhole = true
  | .arr elements => ElementsPlain elements
  | .obj members => Entries.Distinct members ∧ MembersPlain members

/-- All elements are plain. -/
def ElementsPlain : List Json → Prop
  | [] => True
  | v :: more => IsPlain v ∧ ElementsPlain more

/-- All members are plain, and their names are whole. -/
def MembersPlain : List (RawText × Json) → Prop
  | [] => True
  | (k, v) :: more => k.isWhole = true ∧ IsPlain v ∧ MembersPlain more

end

/-! ## One value at the front -/

/-- **A value is read as it is written** at the front of a row. -/
def ReadsAs (v : Json) : Prop :=
  ∀ (fuel room : Nat) (rest : List CodePoint), (chars v).length ≤ fuel → depth v ≤ room →
    Stops rest → value fuel room (ofChars (chars v) ++ rest) = .ok (v, rest)

/-- A value begins with neither a space nor the end of an array. -/
def Opens (v : Json) : Prop :=
  ∃ c cs, chars v = c :: cs ∧ isSpace (.char c) = false ∧ c ≠ ']'

theorem skip_cons {p : CodePoint} (h : isSpace p = false) (ps : List CodePoint) :
    skip (p :: ps) = p :: ps :=
  List.dropWhile_cons_of_neg (by rw [h]; exact Bool.false_ne_true)

theorem skip_space (ps : List CodePoint) : skip (.char ' ' :: ps) = skip ps := rfl

theorem skip_opens {v : Json} (h : Opens v) (ps : List CodePoint) :
    skip (ofChars (chars v) ++ ps) = ofChars (chars v) ++ ps := by
  obtain ⟨c, cs, hchars, hspace, -⟩ := h
  rw [hchars]
  exact skip_cons hspace _

/-- What separates and closes does not go on in a number. -/
theorem stops_mark {c : Char} (h : c = ',' ∨ c = ']' ∨ c = '\x7d') (ps : List CodePoint) :
    Stops (.char c :: ps) := by
  rintro p more hp
  obtain ⟨rfl, -⟩ := List.cons.inj hp
  obtain rfl | rfl | rfl := h
  all_goals decide

/-- A word or a number is read by its own reader. -/
theorem value_scalar {c : Char} (h : c ≠ '"' ∧ c ≠ '[' ∧ c ≠ '\x7b') (fuel room : Nat)
    (ps : List CodePoint) : value (fuel + 1) room (.char c :: ps) = scalar (.char c :: ps) := by
  have hne {d : Char} (hd : c ≠ d) : ¬ CodePoint.char c = .char d :=
    fun h => hd (CodePoint.char.inj h)
  unfold value
  rw [if_neg (hne h.1), if_neg (hne h.2.1), if_neg (hne h.2.2)]

theorem readsAs_null : ReadsAs .null := by
  rintro (_ | fuel) room rest hfuel - -
  · cases hfuel
  · exact value_scalar (by decide) fuel room _

theorem readsAs_bool (b : Bool) : ReadsAs (.bool b) := by
  rintro (_ | fuel) room rest hfuel - -
  · cases b <;> cases hfuel
  · cases b
    · exact value_scalar (by decide) fuel room _
    · exact value_scalar (by decide) fuel room _

/-- An integer begins with a digit or a sign. -/
theorem intChars_begins (n : Int) : ∃ c cs, intChars n = c :: cs
    ∧ ∀ d, Integer.isAsciiDigit d = false → d ≠ '-' → c ≠ d := by
  unfold intChars
  split
  · exact ⟨'-', _, rfl, fun d _ hd => hd.symm⟩
  · obtain ⟨c, cs, hcs, hc⟩ := toDigits_begins n.natAbs
    refine ⟨c, cs, hcs, ?_⟩
    rintro d hd - rfl
    rw [hc] at hd
    cases hd

theorem readsAs_int {n : Int} (hn : (Nat.toDigits 10 n.natAbs).length ≤ 4300) :
    ReadsAs (.int n) := by
  obtain ⟨c, cs, hcs, hne⟩ := intChars_begins n
  rintro (_ | fuel) room rest hfuel - hrest
  · rw [chars, hcs] at hfuel
    cases hfuel
  · have hscalar := scalar_intChars hn hrest
    rw [chars]
    rw [hcs] at hscalar ⊢
    rw [← hscalar]
    exact value_scalar ⟨hne _ (by decide) (by decide), hne _ (by decide) (by decide),
      hne _ (by decide) (by decide)⟩ fuel room _

theorem ofChars_textChars (cs : List Char) (rest : List CodePoint) :
    ofChars (textChars ⟨ofChars cs⟩) ++ rest
      = .char '"' :: (ofChars (cs.flatMap escapeChar) ++ .char '"' :: rest) := by
  rw [textChars, List.flatMap_map, ofChars, List.cons_append, List.map_cons, List.map_append,
    List.cons_append, List.append_assoc]
  rfl

theorem readsAs_str {t : RawText} (ht : t.isWhole = true) : ReadsAs (.str t) := by
  obtain ⟨cs, rfl⟩ := RawText.exists_ofChars ht
  rintro (_ | fuel) room rest hfuel - -
  · cases hfuel
  · rw [chars, ofChars_textChars]
    unfold value
    rw [if_pos rfl, text_textChars]

theorem opens_of_isPlain {v : Json} (h : v.IsPlain) : Opens v := by
  cases v with
  | null => exact ⟨'n', _, rfl, by decide, by decide⟩
  | bool b => cases b <;> exact ⟨_, _, rfl, by decide, by decide⟩
  | float x => exact h.elim
  | str t => exact ⟨'"', _, rfl, by decide, by decide⟩
  | arr elements => exact ⟨'[', _, rfl, by decide, by decide⟩
  | obj members => exact ⟨'\x7b', _, rfl, by decide, by decide⟩
  | int n =>
    obtain ⟨c, cs, hcs, hne⟩ := intChars_begins n
    have hspace (d : Char) (hd : Integer.isAsciiDigit d = false) (hminus : d ≠ '-') :
        (CodePoint.char c == .char d) = false :=
      beq_false_of_ne fun h => hne d hd hminus (CodePoint.char.inj h)
    refine ⟨c, cs, hcs, ?_, hne _ (by decide) (by decide)⟩
    rw [isSpace, hspace _ (by decide) (by decide), hspace _ (by decide) (by decide),
      hspace _ (by decide) (by decide), hspace _ (by decide) (by decide)]
    rfl

/-! ## Arrays and objects -/

theorem elementChars_begins {v : Json} (h : Opens v) (more : List Json) :
    ∃ c cs, elementChars (v :: more) = c :: cs ∧ isSpace (.char c) = false ∧ c ≠ ']' := by
  obtain ⟨c, cs, hchars, hc⟩ := h
  cases more with
  | nil =>
    rw [elementChars]
    exact ⟨c, cs, hchars, hc⟩
  | cons w more =>
    rw [elementChars, hchars]
    exact ⟨c, _, rfl, hc⟩

theorem skip_elementChars {v : Json} (h : Opens v) (more : List Json) (ps : List CodePoint) :
    skip (ofChars (elementChars (v :: more)) ++ ps) = ofChars (elementChars (v :: more)) ++ ps := by
  obtain ⟨c, cs, hchars, hspace, -⟩ := elementChars_begins h more
  rw [hchars]
  exact skip_cons hspace _

/-- **Elements are read as they are written**, after those that are read. -/
theorem elements_elementChars {es : List Json} (hes : es ≠ [])
    (h : ∀ v ∈ es, ReadsAs v ∧ Opens v) {room : Nat} (hroom : elementDepth es ≤ room)
    {fuel : Nat} (hfuel : (elementChars es).length < fuel) (before : List Json)
    (rest : List CodePoint) :
    elements fuel room before (ofChars (elementChars es) ++ .char ']' :: rest)
      = .ok (.arr (before.reverse ++ es), rest) := by
  induction es generalizing fuel before with
  | nil => exact absurd rfl hes
  | cons v more ih =>
    obtain ⟨⟨hv, -⟩, hmore⟩ := List.forall_mem_cons.1 h
    obtain ⟨fuel, rfl⟩ := Nat.exists_eq_succ_of_ne_zero (Nat.ne_zero_of_lt hfuel)
    rw [elementDepth, Nat.max_le] at hroom
    cases more with
    | nil =>
      have hvalue := hv fuel room (.char ']' :: rest) (Nat.le_of_lt_succ hfuel) hroom.1
        (stops_mark (by decide) rest)
      rw [elementChars, elements, hvalue]
      simp only
      rw [skip_cons (by decide)]
      simp only [↓reduceIte, List.reverse_cons]
    | cons w more =>
      rw [elementChars, List.length_append, List.length_cons, List.length_cons] at hfuel
      have hvalue := hv fuel room
        (.char ',' :: .char ' ' :: (ofChars (elementChars (w :: more)) ++ .char ']' :: rest))
        (by omega) hroom.1 (stops_mark (by decide) _)
      have hrow : ofChars (elementChars (v :: w :: more)) ++ .char ']' :: rest
          = ofChars (chars v) ++ .char ',' :: .char ' '
            :: (ofChars (elementChars (w :: more)) ++ .char ']' :: rest) := by
        rw [elementChars, ofChars, List.map_append, List.append_assoc]
        rfl
      have hopens : Opens w := (hmore w List.mem_cons_self).2
      rw [hrow, elements, hvalue]
      simp only
      rw [skip_cons (by decide)]
      simp only [skip_space, skip_elementChars hopens]
      rw [if_neg (by decide), if_pos trivial,
        ih (List.cons_ne_nil w more) hmore hroom.2 (by omega) (v :: before), List.reverse_cons,
        List.append_assoc]
      rfl

theorem memberChars_begins (e : RawText × Json) (more : List (RawText × Json)) :
    ∃ cs, memberChars (e :: more) = '"' :: cs := by
  cases more <;> exact ⟨_, rfl⟩

/-- One member is read up to the mark after it. -/
theorem members_member {name : List Char} {v : Json} (hv : ReadsAs v) (hopens : Opens v)
    {fuel room : Nat} (hfuel : (chars v).length ≤ fuel) (hroom : depth v ≤ room)
    (before : List (RawText × Json)) {c : Char} (hc : c = ',' ∨ c = '\x7d')
    (ps : List CodePoint) :
    members (fuel + 1) room before
        (ofChars (textChars ⟨ofChars name⟩ ++ ':' :: ' ' :: chars v) ++ .char c :: ps)
      = if c = '\x7d' then .ok (.obj (Entries.put before ⟨ofChars name⟩ v), ps)
        else members fuel room (Entries.put before ⟨ofChars name⟩ v) (skip ps) := by
  have hvalue := hv fuel room (.char c :: ps) hfuel hroom
    (stops_mark (hc.elim .inl fun h => .inr (.inr h)) ps)
  have hrow : ofChars (textChars ⟨ofChars name⟩ ++ ':' :: ' ' :: chars v) ++ .char c :: ps
      = .char '"' :: (ofChars (name.flatMap escapeChar) ++ .char '"' :: .char ':' :: .char ' '
        :: (ofChars (chars v) ++ .char c :: ps)) := by
    rw [ofChars, List.map_append, List.append_assoc]
    exact ofChars_textChars name _
  have hspace : isSpace (.char c) = false := by
    obtain rfl | rfl := hc <;> decide
  rw [hrow, members, if_neg (by decide), text_textChars]
  simp only
  rw [skip_cons (by decide)]
  simp only
  rw [if_neg (by decide), skip_space, skip_opens hopens, hvalue]
  simp only
  rw [skip_cons hspace]
  obtain rfl | rfl := hc
  · rfl
  · rfl

/-- **Members are read as they are written**, after those that are read, if no
name comes twice. -/
theorem members_memberChars {ms : List (RawText × Json)} (hms : ms ≠ [])
    (h : ∀ e ∈ ms, e.1.isWhole = true ∧ ReadsAs e.2 ∧ Opens e.2) {room : Nat}
    (hroom : memberDepth ms ≤ room) {fuel : Nat} (hfuel : (memberChars ms).length < fuel)
    (before : List (RawText × Json)) (hdistinct : Entries.Distinct (before ++ ms))
    (rest : List CodePoint) :
    members fuel room before (ofChars (memberChars ms) ++ .char '\x7d' :: rest)
      = .ok (.obj (before ++ ms), rest) := by
  induction ms generalizing fuel before with
  | nil => exact absurd rfl hms
  | cons e more ih =>
    obtain ⟨name, v⟩ := e
    obtain ⟨⟨hname, hread, hopens⟩, hmore⟩ := List.forall_mem_cons.1 h
    obtain ⟨cs, rfl⟩ := RawText.exists_ofChars hname
    have hv : ReadsAs v := hread
    obtain ⟨fuel, rfl⟩ := Nat.exists_eq_succ_of_ne_zero (Nat.ne_zero_of_lt hfuel)
    rw [memberDepth, Nat.max_le] at hroom
    have hput := Entries.put_of_fresh (fun e he =>
      (List.pairwise_append.1 hdistinct).2.2 e he _ List.mem_cons_self) v
    cases more with
    | nil =>
      rw [memberChars, List.length_append, List.length_cons, List.length_cons] at hfuel
      rw [memberChars, members_member hv hopens (by omega) hroom.1 before (.inr rfl), if_pos rfl]
      exact congrArg (fun ms => Except.ok (obj ms, rest)) hput
    | cons w more =>
      rw [memberChars, List.length_append, List.length_append, List.length_cons, List.length_cons,
        List.length_cons, List.length_cons] at hfuel
      have hrow : ofChars (memberChars ((⟨ofChars cs⟩, v) :: w :: more)) ++ .char '\x7d' :: rest
          = ofChars (textChars ⟨ofChars cs⟩ ++ ':' :: ' ' :: chars v) ++ .char ',' :: .char ' '
            :: (ofChars (memberChars (w :: more)) ++ .char '\x7d' :: rest) := by
        rw [memberChars, ofChars, List.map_append, List.append_assoc]
        rfl
      have hskip : skip (ofChars (memberChars (w :: more)) ++ .char '\x7d' :: rest)
          = ofChars (memberChars (w :: more)) ++ .char '\x7d' :: rest := by
        obtain ⟨_, hbegins⟩ := memberChars_begins w more
        rw [hbegins]
        exact skip_cons (by decide) _
      have hagain : Entries.Distinct ((before ++ [(⟨ofChars cs⟩, v)]) ++ w :: more) := by
        rwa [List.append_assoc]
      rw [hrow, members_member hv hopens (by omega) hroom.1 before (.inl rfl),
        if_neg (by decide), skip_space, hskip, hput,
        ih (List.cons_ne_nil w more) hmore hroom.2 (by omega) _ hagain, List.append_assoc]
      rfl

/-! ## Whole values -/

theorem readsAs_arr {es : List Json} (h : ∀ v ∈ es, ReadsAs v ∧ Opens v) : ReadsAs (.arr es) := by
  rintro (_ | fuel) (_ | room) rest hfuel hroom -
  · cases hfuel
  · cases hfuel
  · cases hroom
  · have hrow : ofChars (chars (.arr es)) ++ rest
        = .char '[' :: (ofChars (elementChars es) ++ .char ']' :: rest) := by
      rw [chars, ofChars, List.cons_append, List.map_cons, List.map_append, List.cons_append,
        List.append_assoc]
      rfl
    rw [chars, List.length_append, List.length_cons, List.length_singleton] at hfuel
    rw [hrow]
    unfold value
    rw [if_neg (by decide), if_pos rfl]
    cases es with
    | nil => rfl
    | cons v more =>
      obtain ⟨c, cs, hbegins, -, hc⟩ := elementChars_begins (h v List.mem_cons_self).2 more
      have hclose : ¬ CodePoint.char c = .char ']' := fun h => hc (CodePoint.char.inj h)
      have hread := elements_elementChars (List.cons_ne_nil v more) h (Nat.le_of_succ_le_succ hroom)
        (Nat.lt_of_succ_le (by omega) : (elementChars (v :: more)).length < fuel) [] rest
      simp only
      rw [skip_elementChars (h v List.mem_cons_self).2]
      rw [hbegins] at hread ⊢
      show (if _ then _ else _) = _
      rw [if_neg hclose]
      exact hread

theorem readsAs_obj {ms : List (RawText × Json)} (hdistinct : Entries.Distinct ms)
    (h : ∀ e ∈ ms, e.1.isWhole = true ∧ ReadsAs e.2 ∧ Opens e.2) : ReadsAs (.obj ms) := by
  rintro (_ | fuel) (_ | room) rest hfuel hroom -
  · cases hfuel
  · cases hfuel
  · cases hroom
  · have hrow : ofChars (chars (.obj ms)) ++ rest
        = .char '\x7b' :: (ofChars (memberChars ms) ++ .char '\x7d' :: rest) := by
      rw [chars, ofChars, List.cons_append, List.map_cons, List.map_append, List.cons_append,
        List.append_assoc]
      rfl
    rw [chars, List.length_append, List.length_cons, List.length_singleton] at hfuel
    rw [hrow]
    unfold value
    rw [if_neg (by decide), if_neg (by decide), if_pos rfl]
    cases ms with
    | nil => rfl
    | cons e more =>
      obtain ⟨cs, hbegins⟩ := memberChars_begins e more
      have hread := members_memberChars (List.cons_ne_nil e more) h (Nat.le_of_succ_le_succ hroom)
        (Nat.lt_of_succ_le (by omega) : (memberChars (e :: more)).length < fuel) [] hdistinct rest
      rw [hbegins] at hread ⊢
      exact hread

mutual

/-- **A plain value is read as it is written.** -/
theorem readsAs_of_isPlain : ∀ {v : Json}, v.IsPlain → ReadsAs v
  | .null, _ => readsAs_null
  | .bool b, _ => readsAs_bool b
  | .int _, h => readsAs_int h
  | .float _, h => h.elim
  | .str _, h => readsAs_str h
  | .arr _, h => readsAs_arr (readsAs_of_elementsPlain h)
  | .obj _, h => readsAs_obj h.1 (readsAs_of_membersPlain h.2)

theorem readsAs_of_elementsPlain : ∀ {es : List Json}, ElementsPlain es →
    ∀ v ∈ es, ReadsAs v ∧ Opens v
  | [], _ => nofun
  | _ :: _, h => List.forall_mem_cons.2
    ⟨⟨readsAs_of_isPlain h.1, opens_of_isPlain h.1⟩, readsAs_of_elementsPlain h.2⟩

theorem readsAs_of_membersPlain : ∀ {ms : List (RawText × Json)}, MembersPlain ms →
    ∀ e ∈ ms, e.1.isWhole = true ∧ ReadsAs e.2 ∧ Opens e.2
  | [], _ => nofun
  | (_, _) :: _, h => List.forall_mem_cons.2
    ⟨⟨h.1, readsAs_of_isPlain h.2.1, opens_of_isPlain h.2.1⟩, readsAs_of_membersPlain h.2.2⟩

end

theorem skip_chars {v : Json} (h : v.IsPlain) :
    skip (ofChars (chars v)) = ofChars (chars v) := by
  have hskip := skip_opens (opens_of_isPlain h) []
  rwa [List.append_nil] at hskip

/-- **A plain document is read as it is written**, if it is not nested too
deep. -/
theorem readRaw_chars {v : Json} (h : v.IsPlain) (hdepth : v.depth ≤ nestingLimit) :
    readRaw ⟨ofChars (chars v)⟩ = .ok v := by
  have hvalue := readsAs_of_isPlain h ((ofChars (chars v)).length + 1) nestingLimit []
    (by rw [List.length_map]; exact Nat.le_succ _) hdepth nofun
  rw [List.append_nil] at hvalue
  rw [readRaw, skip_chars h, hvalue]
  rfl

/-! ## Octets -/

theorem shows_word {cs : List Char} (h : (cs.all fun c => decide (Shows c)) = true) :
    ∀ c ∈ cs, Shows c :=
  fun c hc => of_decide_eq_true (List.all_eq_true.1 h c hc)

theorem shows_between {first last : Char} {cs : List Char} (hfirst : Shows first)
    (hlast : Shows last) (h : ∀ c ∈ cs, Shows c) : ∀ c ∈ first :: cs ++ [last], Shows c :=
  List.forall_mem_append.2
    ⟨List.forall_mem_cons.2 ⟨hfirst, h⟩, List.forall_mem_cons.2 ⟨hlast, nofun⟩⟩

/-- Two parts with a mark and a space between them. -/
theorem shows_separated {cs ds : List Char} {mark : Char} (hmark : Shows mark)
    (hcs : ∀ c ∈ cs, Shows c) (hds : ∀ c ∈ ds, Shows c) :
    ∀ c ∈ cs ++ mark :: ' ' :: ds, Shows c :=
  List.forall_mem_append.2
    ⟨hcs, List.forall_mem_cons.2 ⟨hmark, List.forall_mem_cons.2 ⟨by decide, hds⟩⟩⟩

theorem shows_textChars {t : RawText} (h : t.isWhole = true) : ∀ c ∈ textChars t, Shows c := by
  obtain ⟨cs, rfl⟩ := RawText.exists_ofChars h
  have hbody : ∀ c ∈ cs.flatMap escapeChar, Shows c := by
    intro c hc
    obtain ⟨d, -, hd⟩ := List.mem_flatMap.1 hc
    exact shows_escapeChar d c hd
  rw [textChars, List.flatMap_map]
  exact shows_between (by decide) (by decide) hbody

mutual

/-- **A plain value is written in ASCII.** -/
theorem shows_chars : ∀ {v : Json}, v.IsPlain → ∀ c ∈ chars v, Shows c
  | .null, _ => shows_word rfl
  | .bool true, _ => shows_word rfl
  | .bool false, _ => shows_word rfl
  | .int n, _ => shows_intChars n
  | .float _, h => h.elim
  | .str t, h => shows_textChars h
  | .arr _, h => shows_between (by decide) (by decide) (shows_elementChars h)
  | .obj _, h => shows_between (by decide) (by decide) (shows_memberChars h.2)

theorem shows_elementChars : ∀ {es : List Json}, ElementsPlain es → ∀ c ∈ elementChars es, Shows c
  | [], _ => nofun
  | [_], h => shows_chars h.1
  | _ :: _ :: _, h => shows_separated (by decide) (shows_chars h.1) (shows_elementChars h.2)

theorem shows_memberChars : ∀ {ms : List (RawText × Json)}, MembersPlain ms →
    ∀ c ∈ memberChars ms, Shows c
  | [], _ => nofun
  | [(_, _)], h => shows_separated (by decide) (shows_textChars h.1) (shows_chars h.2.1)
  | (_, _) :: _ :: _, h => shows_separated (by decide)
    (shows_separated (by decide) (shows_textChars h.1) (shows_chars h.2.1))
    (shows_memberChars h.2.2)

end

/-- The octet of a character that shows. -/
def octetOf (c : Char) : UInt8 := UInt8.ofNat c.toNat

theorem toNat_octetOf {c : Char} (h : Shows c) : (octetOf c).toNat = c.toNat := by
  rw [octetOf, UInt8.toNat_ofNat']
  exact Nat.mod_eq_of_lt (Nat.lt_of_lt_of_le h.2 (by decide))

/-- Characters that show are encoded by one octet each. -/
theorem encode_ofList {cs : List Char} (h : ∀ c ∈ cs, Shows c) :
    Utf8.encode (String.ofList cs) = cs.map octetOf := by
  rw [Utf8.encode, String.toList_ofList]
  induction cs with
  | nil => rfl
  | cons c cs ih =>
    obtain ⟨hc, hcs⟩ := List.forall_mem_cons.1 h
    have hencode : String.utf8EncodeChar c = [octetOf c] :=
      if_pos (Nat.le_of_lt (Nat.lt_of_lt_of_le hc.2 (by decide)))
    rw [List.flatMap_cons, hencode, ih hcs]
    rfl

/-- Such octets are the characters, whether halves are let through or not. -/
theorem run_octets {cs : List Char} (h : ∀ c ∈ cs, Shows c) (halves : Bool) :
    Utf8.run halves (cs.map octetOf) = cs.map fun c => some (.char c) := by
  have hfeed : Utf8.feed halves .ready (cs.map octetOf)
      = (cs.map fun c => some (.char c), .ready) := by
    induction cs with
    | nil => rfl
    | cons c cs ih =>
      obtain ⟨hc, hcs⟩ := List.forall_mem_cons.1 h
      have hstep : Utf8.step halves .ready (octetOf c) = ([some (.char c)], .ready) := by
        rw [Utf8.step, Utf8.begin, toNat_octetOf hc,
          if_pos (Nat.lt_of_lt_of_le hc.2 (by decide)), CodePoint.ofNat_toNat]
      rw [List.map_cons, Utf8.feed, hstep, ih hcs]
      rfl
  rw [Utf8.run, hfeed]
  exact List.append_nil _

theorem decodeRaw?_octets {cs : List Char} (h : ∀ c ∈ cs, Shows c) :
    Utf8.decodeRaw? (cs.map octetOf) = some ⟨ofChars cs⟩ := by
  have hunmarked : (cs.map fun c => some (CodePoint.char c)).filterMap id = ofChars cs := by
    rw [List.filterMap_map, ofChars, ← List.filterMap_eq_map]
    rfl
  have hall : (cs.map fun c => some (CodePoint.char c)).all Option.isSome = true :=
    List.all_map.trans (List.all_eq_true.2 fun _ _ => rfl)
  rw [Utf8.decodeRaw?, run_octets h, Utf8.unmarked?, if_pos hall, hunmarked]

theorem decodeLossy_octets {cs : List Char} (h : ∀ c ∈ cs, Shows c) :
    Utf8.decodeLossy (cs.map octetOf) = String.ofList cs := by
  rw [Utf8.decodeLossy, run_octets h, List.map_map]
  exact congrArg String.ofList (List.map_id cs)

/-- Nothing about such octets suggests another encoding. -/
theorem detect_octets {cs : List Char} (h : ∀ c ∈ cs, Shows c) :
    Encoding.detect (cs.map octetOf) = .utf8 := by
  have hoctet : ∀ b ∈ cs.map octetOf, 0x20 ≤ b.toNat ∧ b.toNat < 0x7f := by
    intro b hb
    obtain ⟨c, hc, rfl⟩ := List.mem_map.1 hb
    rw [toNat_octetOf (h c hc)]
    exact h c hc
  generalize cs.map octetOf = octets at hoctet ⊢
  have hmark (m : UInt8) (marks : Octets) (hm : m.toNat < 0x20 ∨ 0x7f ≤ m.toNat) :
      ¬ (m :: marks).isPrefixOf octets = true := by
    intro hprefix
    obtain ⟨more, rfl⟩ := List.isPrefixOf_iff_prefix.1 hprefix
    have := hoctet m List.mem_cons_self
    omega
  have hzero : ∀ b ∈ octets, b ≠ 0 := by
    rintro b hb rfl
    exact absurd (hoctet 0 hb).1 (by decide)
  unfold Encoding.detect
  rw [if_neg (hmark _ _ (by decide)), if_neg (hmark _ _ (by decide)),
    if_neg (hmark _ _ (by decide)), if_neg (hmark _ _ (by decide)),
    if_neg (hmark _ _ (by decide))]
  unfold Encoding.ofZeros
  split
  · simp only [List.forall_mem_cons] at hzero
    rw [if_neg hzero.1, if_neg hzero.2.1]
  · simp only [List.forall_mem_cons] at hzero
    rw [if_neg hzero.1, if_neg hzero.2.1]
  · rfl

/-- **A plain document is read from its octets**, by what they announce and as
text. -/
theorem readOctets_encode {v : Json} (h : v.IsPlain) (hdepth : v.depth ≤ nestingLimit) :
    readOctets (Utf8.encode v.write) = .ok v
      ∧ read (Utf8.decodeLossy (Utf8.encode v.write)) = .ok v := by
  have hshows := shows_chars h
  have hread := readRaw_chars h hdepth
  rw [write, encode_ofList hshows]
  constructor
  · rw [readOctets, detect_octets hshows, Encoding.decode?, decodeRaw?_octets hshows]
    simp only [hread]
    rfl
  · have hmark : ¬ (chars v).head? = some byteOrderMark := fun hhead =>
      absurd (hshows _ (List.mem_of_mem_head? hhead)).2 (by decide)
    rw [decodeLossy_octets hshows, read, String.toList_ofList, if_neg hmark, RawText.ofString,
      String.toList_ofList]
    exact hread

end Json

end CloudClient
