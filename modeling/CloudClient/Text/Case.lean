import CloudClient.Text.CaseTable

/-!
# Letter case

Names that mean the same in either case – header names, operator names,
option names, hosts – are compared in lower case, and a method is sent in
upper case. The mappings are the full ones of the character standard. Two
characters make them more than a map over the characters:

* the dotted capital I goes to an `i` and a combining dot, so a text may
  grow;
* a capital sigma goes to the final form where it ends a word, and the look
  at its surroundings passes over ignorable characters.

`lowerList_eq_map` says that without these two the mapping is character by
character, which is what every ASCII name is.
-/

namespace CloudClient.Text

/-- What the first run that has `n` as a member maps it to; `n` itself if
there is none. -/
def applyRuns (runs : List CaseRun) (n : Nat) : Nat :=
  (runs.findSome? (·.image? n)).getD n

/-- The small letter of a character that has a single one. -/
def lowerChar (c : Char) : Char := Char.ofNat (applyRuns lowerRuns c.toNat)

/-- The capital of a character, which may take several characters. -/
def upperChar (c : Char) : List Char :=
  match expansions.lookup c.toNat with
  | some many => many.map Char.ofNat
  | none => [Char.ofNat (applyRuns upperRuns c.toNat)]

/-- Whether the nearest character that is not ignorable has a case. -/
def nextIsCased (cs : List Char) : Bool :=
  match cs.dropWhile (fun c => inRanges ignorableRanges c.toNat) with
  | [] => false
  | c :: _ => inRanges casedRanges c.toNat

/-- Whether a sigma between `before` (nearest character first) and `after`
ends its word. -/
def endsWord (before after : List Char) : Bool := nextIsCased before && !nextIsCased after

/-- The small letters of one character in its surroundings. -/
def lowerAt (before : List Char) (c : Char) (after : List Char) : List Char :=
  if c = 'Σ' then [if endsWord before after then 'ς' else 'σ']
  else if c = 'İ' then ['i', '\u0307']
  else [lowerChar c]

/-- The small letters of a list, given what stands before it in reverse. -/
def lowerAfter (before : List Char) : List Char → List Char
  | [] => []
  | c :: cs => lowerAt before c cs ++ lowerAfter (c :: before) cs

/-- The list in lower case. -/
def lowerList (cs : List Char) : List Char := lowerAfter [] cs

/-- The text in lower case. -/
def lower (s : String) : String := String.ofList (lowerList s.toList)

/-- The text in upper case. -/
def upper (s : String) : String := String.ofList (s.toList.flatMap upperChar)

@[simp] theorem toList_lower (s : String) : (lower s).toList = lowerList s.toList := by
  simp [lower]

theorem lowerAfter_eq_map (before : List Char) {cs : List Char}
    (h : ∀ c ∈ cs, c ≠ 'Σ' ∧ c ≠ 'İ') : lowerAfter before cs = cs.map lowerChar := by
  induction cs generalizing before with
  | nil => rfl
  | cons c cs ih =>
    have hc := h c (by simp)
    simp only [lowerAfter, lowerAt, hc.1, hc.2, if_false, List.map_cons, List.singleton_append]
    rw [ih _ fun d hd => h d (by simp [hd])]

/-- Without the two special capitals, lower case is taken character by
character. -/
theorem lowerList_eq_map {cs : List Char} (h : ∀ c ∈ cs, c ≠ 'Σ' ∧ c ≠ 'İ') :
    lowerList cs = cs.map lowerChar :=
  lowerAfter_eq_map [] h

/-- Whether two texts are the same in lower case. -/
def sameIgnoringCase (a b : String) : Bool := lower a == lower b

end CloudClient.Text
