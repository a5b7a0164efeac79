import CloudClient.Bytes.Utf8

/-!
# Files by portions

A file is decoded while it is being read. Its octets are taken a portion at a
time, and a portion is decoded as a whole when its turn comes; so whoever
reads a file line by line has dealt with the lines of the earlier portions
before it turns out that a later one is no text.

A character may begin in one portion and end in the next. One that is still
without its end when the octets are used up is found out last of all, after
everything before it has been read.

`Utf8.intake` says what comes of a file: the characters that are read, and
whether they are the *whole* of it. The portions are the file
(`flatten_portions`), and where it is cut does not matter to the decoder
(`feed_append`). So a file is read as a whole just when its octets are a text,
and it is that text which is read then (`intake_eq_iff`). Portions show in
nothing but how much is read of a file that is none.
-/

namespace CloudClient.Utf8

/-- How many octets are taken at a time. -/
def portionSize : Nat := 8192

/-- The octets of a file in portions, of which only the last may be short. -/
def portions : Octets → List Octets
  | [] => []
  | b :: bs => (b :: bs).take portionSize :: portions ((b :: bs).drop portionSize)
termination_by octets => octets.length
decreasing_by
  simp only [List.length_drop, List.length_cons, portionSize]
  omega

/-- What comes of reading a file. -/
structure Intake where
  /-- The characters that are read. -/
  chars : List Char
  /-- Whether they are all that the file has. -/
  whole : Bool
  deriving DecidableEq, Repr

/-- What comes of reading portions from a state on. -/
def takeIn : State → List Octets → Intake
  | st, [] => ⟨[], decide (st = .ready)⟩
  | st, portion :: more =>
    let fed := feed false st portion
    match (unmarked? fed.1).bind RawText.toString? with
    | none => ⟨[], false⟩
    | some s =>
      let later := takeIn fed.2 more
      ⟨s.toList ++ later.chars, later.whole⟩

/-- What comes of reading a file. -/
def intake (octets : Octets) : Intake := takeIn .ready (portions octets)

/-! ## Portions and the file -/

/-- The portions one after the other are the file. -/
theorem flatten_portions (octets : Octets) : (portions octets).flatten = octets := by
  fun_induction portions octets with
  | case1 => rfl
  | case2 b bs ih => rw [List.flatten_cons, ih, List.take_append_drop]

/-- The decoder goes on after a cut where it was before. -/
theorem feed_append (halves : Bool) (st : State) (a b : Octets) :
    feed halves st (a ++ b) =
      ((feed halves st a).1 ++ (feed halves (feed halves st a).2 b).1,
        (feed halves (feed halves st a).2 b).2) := by
  induction a generalizing st with
  | nil => rfl
  | cons x a ih => simp [feed, ih]

/-! ## What is read of a text -/

theorem map_some_filterMap_id {α : Type} {l : List (Option α)}
    (h : l.all Option.isSome = true) : (l.filterMap id).map some = l := by
  induction l with
  | nil => rfl
  | cons a l ih =>
    rw [List.all_cons, Bool.and_eq_true] at h
    obtain ⟨a, rfl⟩ := Option.isSome_iff_exists.1 h.1
    show some a :: (l.filterMap id).map some = _
    rw [ih h.2]

/-- Code points and marks spell the text of which they are the characters. -/
theorem text_eq_some_iff {ps : List (Option CodePoint)} {s : String} :
    (unmarked? ps).bind RawText.toString? = some s
      ↔ ps = s.toList.map fun c => some (.char c) := by
  have hchars : (s.toList.map fun c => some (CodePoint.char c))
      = (RawText.ofString s).points.map some :=
    List.map_map.symm
  unfold unmarked?
  constructor
  · intro h
    split at h
    · rename_i hall
      rw [hchars, RawText.ofString_of_toString? h]
      exact (map_some_filterMap_id hall).symm
    · cases h
  · rintro rfl
    have hall : ((s.toList.map fun c => some (CodePoint.char c)).all Option.isSome) = true := by
      simp
    rw [if_pos hall, hchars, List.filterMap_map]
    show RawText.toString? ⟨(RawText.ofString s).points.filterMap some⟩ = some s
    rw [List.filterMap_some]
    exact RawText.toString?_ofString s

/-- **Portions are read to the end just when their octets together are a text**,
from any state of the decoder. -/
theorem takeIn_eq_iff {portions : List Octets} {st : State} {cs : List Char} :
    takeIn st portions = ⟨cs, true⟩
      ↔ (feed false st portions.flatten).1 ++ unended (feed false st portions.flatten).2
        = cs.map fun c => some (.char c) := by
  induction portions generalizing st cs with
  | nil =>
    cases st <;> cases cs <;> simp [takeIn, feed, unended]
  | cons portion more ih =>
    rw [List.flatten_cons, feed_append, List.append_assoc]
    unfold takeIn
    simp only
    split
    · rename_i hnone
      refine iff_of_false nofun fun h => ?_
      -- the characters of the portion would be a text of their own
      obtain ⟨front, back, rfl, hfront, -⟩ := List.map_eq_append_iff.1 h.symm
      have hspelt : (unmarked? (feed false st portion).1).bind RawText.toString?
          = some (String.ofList front) := by
        rw [text_eq_some_iff, String.toList_ofList, hfront]
      rw [hspelt] at hnone
      cases hnone
    · rename_i s hsome
      rw [text_eq_some_iff.1 hsome]
      constructor
      · intro h
        obtain ⟨hchars, hwhole⟩ := Intake.mk.inj h
        have hlater : takeIn (feed false st portion).2 more
            = ⟨(takeIn (feed false st portion).2 more).chars, true⟩ := by rw [← hwhole]
        rw [ih.1 hlater, ← hchars, List.map_append]
      · intro h
        obtain ⟨front, back, rfl, hfront, hback⟩ := List.map_eq_append_iff.1 h.symm
        obtain rfl : front = s.toList := (List.map_inj_right fun _ _ h => by simpa using h).1 hfront
        rw [ih.2 hback.symm]

/-- **A file is read as a whole just when it is a text**, and as that text. -/
theorem intake_eq_iff {octets : Octets} {s : String} :
    intake octets = ⟨s.toList, true⟩ ↔ decode? octets = some s := by
  rw [intake, takeIn_eq_iff, flatten_portions, decode?, text_eq_some_iff]
  rfl

end CloudClient.Utf8
