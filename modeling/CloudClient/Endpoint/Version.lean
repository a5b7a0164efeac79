import CloudClient.Fault

/-!
# Versions

A version has a major and a minor number. Three notations are read:

* the text of a catalog entry, `Version.read`: numbers around the first
  point, the minor one being zero when it is left out. A missing version
  counts as `1.0`, and a text that is not made of numbers is a fault, since
  nothing could be decided about its entry;
* a part of a path between slashes that is `v` and a version,
  `Version.ofPath`, for entries without a version of their own;
* a segment of the path of an endpoint in use, `Version.ofSegment?`, which
  may leave out the `v` if it has a point – a plain number is a tenant, not
  a version.

Order is by the major number and then the minor one, so that `1.10` is
later than `1.9`.
-/

namespace CloudClient

/-- The version of a service. -/
structure Version where
  major : Int
  minor : Int
  deriving DecidableEq, Repr

namespace Version

/-- The version of an entry that has none. -/
def defaultText : String := "1.0"

/-- The version that a text spells. -/
def readText (t : RawText) : Except Fault Version :=
  let parts := Text.breakAt (.char '.') t.trim.points
  let minor : List CodePoint := match parts.2 with
    | none | some [] => [.char '0']
    | some points => points
  match Integer.read ⟨parts.1⟩ with
  | .error e => .error (.badVersion t e)
  | .ok major =>
    match Integer.read ⟨minor⟩ with
    | .error e => .error (.badVersion t e)
    | .ok minor => .ok ⟨major, minor⟩

/-- A text that is no version is a fault that quotes it. -/
theorem readText_eq_error {t : RawText} {f : Fault} (h : readText t = .error f) :
    ∃ cause, f = .badVersion t cause := by
  unfold readText at h
  simp only at h
  split at h
  · cases h
    exact ⟨_, rfl⟩
  · split at h
    · cases h
      exact ⟨_, rfl⟩
    · cases h

/-- The version of an entry, which may be missing. -/
def read (version : Option RawText) : Except Fault Version := readText (version.getD defaultText)

@[simp] theorem read_none : read none = read (some (RawText.ofString defaultText)) := rfl

/-- The order of versions. -/
def compare (a b : Version) : Ordering :=
  (Ord.compare a.major b.major).then (Ord.compare a.minor b.minor)

/-- One version is lower than another by its major number, and among equal
ones by its minor number. -/
instance : LT Version :=
  ⟨fun a b => a.major < b.major ∨ a.major = b.major ∧ a.minor < b.minor⟩

theorem lt_def {a b : Version} :
    a < b ↔ a.major < b.major ∨ a.major = b.major ∧ a.minor < b.minor :=
  Iff.rfl

theorem lt_trans {a b c : Version} (h : a < b) (k : b < c) : a < c := by
  rw [lt_def] at *
  omega

/-- The order in words and the order as a relation agree. -/
theorem compare_eq_gt_iff {a b : Version} : a.compare b = .gt ↔ b < a := by
  rw [compare, Ordering.then_eq_gt, Int.compare_eq_gt, Int.compare_eq_eq, Int.compare_eq_gt, lt_def]
  exact or_congr Iff.rfl (and_congr eq_comm Iff.rfl)

/-- The order of two entries' versions; two missing ones are equal. -/
def compareTexts (a b : Option RawText) : Except Fault Ordering :=
  if a.isNone && b.isNone then .ok .eq
  else match read a with
    | .error e => .error e
    | .ok v => match read b with
      | .error e => .error e
      | .ok w => .ok (v.compare w)

/-- Whether this library can speak to a version: up to `2.9`. -/
def isSupported (v : Version) : Bool :=
  decide (v.major ≤ 2) && (decide (v.major < 2) || decide (v.minor < 10))

/-! ## Versions in paths -/

/-- Whether the end of a path, or of one of its parts, is reached; a line end
at the very end does not count. -/
def atEnd (cs : List Char) : Bool := cs.isEmpty || cs == ['\n']

/-- A row of digits with at most one point inside, and what follows it. -/
structure Row where
  /-- The digits before the point. -/
  major : List Char
  /-- The digits after the point, if there is one. -/
  minor : Option (List Char)
  /-- What follows. -/
  rest : List Char

/-- The row of digits at the front, as long as possible. -/
def row? (cs : List Char) : Option Row :=
  let major := cs.takeWhile Text.isDigit
  let rest := cs.dropWhile Text.isDigit
  if major.isEmpty then none
  else match rest with
    | '.' :: more =>
      let minor := more.takeWhile Text.isDigit
      if minor.isEmpty then some ⟨major, none, rest⟩
      else some ⟨major, some minor, more.dropWhile Text.isDigit⟩
    | _ => some ⟨major, none, rest⟩

/-- The characters of a row, without what follows. -/
def Row.chars (r : Row) : List Char :=
  match r.minor with
  | none => r.major
  | some minor => r.major ++ '.' :: minor

/-- The version that a path begins with, up to a slash or the end. -/
def leading? (cs : List Char) : Option (List Char) :=
  match row? cs with
  | none => none
  | some r => if atEnd r.rest || r.rest.head? == some '/' then some r.chars else none

/-- The first version after a slash and a `v`. -/
def findInPath : List Char → Option (List Char)
  | [] => none
  | '/' :: 'v' :: cs =>
    match leading? cs with
    | some found => some found
    | none => findInPath ('v' :: cs)
  | _ :: cs => findInPath cs

/-- The path of a text: that of the locator if it is one, else the text. -/
def pathOf (url : String) : Except LocatorFault String :=
  if Text.hasWithin "://" url then (Locator.read url).map Locator.path else .ok url

/-- The version that the path of an entry names, `1.0` if it names none. -/
def ofPath (url : String) : Except LocatorFault String :=
  (pathOf url).map fun path =>
    match findInPath path.toList with
    | some found => String.ofList found
    | none => defaultText

/-- The numbers of a segment that is a version: with a `v` in front, or with
a point. -/
def ofSegment? : List Char → Option (List Char × List Char)
  | 'v' :: cs =>
    match row? cs with
    | none => none
    | some r => if atEnd r.rest then some (r.major, r.minor.getD ['0']) else none
  | cs =>
    match row? cs with
    | none => none
    | some r => if atEnd r.rest then r.minor.map (r.major, ·) else none

/-- The version of an endpoint whose path names none. -/
def fallback : Version := ⟨1, 1⟩

/-- The number that a row of digits denotes. -/
def number (digits : List Char) : Except Defect Int :=
  match Integer.read (String.ofList digits) with
  | .ok n => .ok n
  | .error _ => .error .longInteger

/-- The version of the numbers of a segment. -/
def ofDigits (digits : List Char × List Char) : Except Defect Version :=
  match number digits.1 with
  | .error d => .error d
  | .ok major => match number digits.2 with
    | .error d => .error d
    | .ok minor => .ok ⟨major, minor⟩

/-- The version that the last segment of a path with one names. -/
def ofSegments (segments : List (List Char)) : Except Defect Version :=
  match segments.reverse.findSome? ofSegment? with
  | some digits => ofDigits digits
  | none => .ok fallback

/-- The version of the service at an endpoint. -/
def ofEndpoint (url : Option String) : Except Defect Version :=
  match url with
  | none => .ok fallback
  | some url =>
    if url = "" then .ok fallback
    else match pathOf url with
      | .error fault => .error (.badLocator fault)
      | .ok path => ofSegments ((Text.cut '/' path.toList).filter fun s => !s.isEmpty)

end Version

end CloudClient
