import CloudClient.Json.Value

/-!
# Region labels

A region is a text nearly always, but an identity document may put any value
where its name belongs, and nothing checks the shape of that field. A `Label`
is what such a value can be, once the empty ones have been set aside; a
`Region` is a label or nothing at all.

Labels are keys of the endpoint map, and there numbers of equal value are one
key, however they are written: `Label.key` gives a number's odd part and
power of two, which is one form for each value. So `==` on labels is equality
of keys, and an equivalence for that reason. A label that is itself an array
or an object is no key (`Label.isKey`).
-/

namespace CloudClient

/-- The name of a region as a catalog gives it. -/
inductive Label where
  | text (t : RawText)
  | flag (b : Bool)
  | integer (n : Int)
  | number (x : Binary64)
  /-- An array or an object, which names nothing. -/
  | compound (v : Json)
  deriving Inhabited, Repr

namespace Label

/-- The label that a value gives; an empty value gives none. -/
def ofJson? (v : Json) : Option Label :=
  if v.truthy then
    match v with
    | .null => none
    | .bool b => some (.flag b)
    | .int n => some (.integer n)
    | .float x => some (.number x)
    | .str t => some (.text t)
    | other => some (.compound other)
  else none

/-- The label as a value again. -/
def toJson : Label → Json
  | .text t => .str t
  | .flag b => .bool b
  | .integer n => .int n
  | .number x => .float x
  | .compound v => v

/-- The label as text inside a message, repaired if it is not whole. -/
def shown (l : Label) : String := l.toJson.shown.repaired

/-- Whether a label can be a key. -/
def isKey : Label → Bool
  | .compound _ => false
  | _ => true

/-- Whether a label is a text. -/
def isText : Label → Bool
  | .text _ => true
  | _ => false

/-- What makes two labels the same key. -/
inductive Key where
  | text (t : RawText)
  | nan
  | infinite (negative : Bool)
  /-- The number `± odd · 2 ^ power`; zero has the odd part zero. -/
  | number (negative : Bool) (odd : Nat) (power : Int)
  | compound
  deriving DecidableEq, Repr

/-- The key of the number `± n · 2 ^ e`: factors of two go into the power. -/
def numberKey (negative : Bool) (n : Nat) (e : Int) : Key :=
  if n = 0 then .number false 0 0
  else if n % 2 = 1 then .number negative n e
  else numberKey negative (n / 2) (e + 1)
termination_by n

/-- The key of a label. -/
def key : Label → Key
  | .text t => .text t
  | .flag b => numberKey false b.toNat 0
  | .integer n => numberKey (decide (n < 0)) n.natAbs 0
  | .number .nan => .nan
  | .number (.infinite s) => .infinite s
  | .number (.finite s m e) => numberKey s m e
  | .compound _ => .compound

instance : BEq Label := ⟨fun a b => decide (a.key = b.key)⟩

theorem beq_iff {a b : Label} : (a == b) = true ↔ a.key = b.key := by
  simp [BEq.beq]

instance : EquivBEq Label where
  rfl := beq_iff.2 rfl
  symm h := beq_iff.2 (beq_iff.1 h).symm
  trans h k := beq_iff.2 ((beq_iff.1 h).trans (beq_iff.1 k))

@[simp] theorem text_beq_text (s t : RawText) : ((Label.text s) == .text t) = decide (s = t) := by
  simp [BEq.beq, key]

/-- No number is the key of a text. -/
theorem numberKey_ne_text (negative : Bool) (n : Nat) (e : Int) (t : RawText) :
    numberKey negative n e ≠ .text t := by
  fun_induction numberKey negative n e with
  | case1 => exact nofun
  | case2 => exact nofun
  | case3 _ _ _ _ ih => exact ih

/-- A text is the key of no other label. -/
theorem eq_of_text_beq {t : RawText} {l : Label} (h : (.text t == l) = true) : l = .text t := by
  have hkey : l.key = .text t := (beq_iff.1 h).symm
  cases l with
  | text s => rw [Key.text.inj hkey]
  | flag b => exact (numberKey_ne_text _ _ _ _ hkey).elim
  | integer n => exact (numberKey_ne_text _ _ _ _ hkey).elim
  | number x =>
    cases x with
    | finite => exact (numberKey_ne_text _ _ _ _ hkey).elim
    | infinite => cases hkey
    | nan => cases hkey
  | compound v => cases hkey

/-- Whether two labels are equal as values: as keys, except that
not-a-number is equal to nothing. -/
def sameValue (a b : Label) : Bool := a == b && decide (a.key ≠ .nan)

end Label

/-- A region of the endpoint map: a label, or none where the catalog is
silent. -/
abbrev Region := Option Label

namespace Region

/-- The region with the given text as its name. -/
def named (s : String) : Region := some (.text s)

/-- The region of a text that may be missing. -/
def ofText (s : Option String) : Region := s.map fun s => .text s

instance : EquivBEq Region where
  rfl {a} := match a with
    | none => rfl
    | some l => BEq.rfl (a := l)
  symm {a b} h := match a, b, h with
    | none, none, _ => rfl
    | some _, some _, h => BEq.symm (α := Label) h
  trans {a b c} h k := match a, b, c, h, k with
    | none, none, none, _, _ => rfl
    | some _, some _, some _, h, k => BEq.trans (α := Label) h k

/-- The region as a value, null where there is none. -/
def toJson : Region → Json
  | none => .null
  | some l => l.toJson

/-- The region as text inside a message, repaired if it is not whole. -/
def shown (r : Region) : String := r.toJson.shown.repaired

/-- Whether a region is missing or a text. -/
def isPlain : Region → Bool
  | none => true
  | some l => l.isText

/-- A plain region is the key of no other region. -/
theorem eq_of_isPlain_of_beq {r r' : Region} (hr : r.isPlain = true) (h : (r == r') = true) :
    r' = r :=
  match r, r', hr, h with
  | none, none, _, _ => rfl
  | some (.text _), some _, _, h => congrArg some (Label.eq_of_text_beq h)

end Region

end CloudClient
