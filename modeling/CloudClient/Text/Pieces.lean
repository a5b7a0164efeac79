/-!
# Cutting texts

The rules of this library look at texts a character at a time: they drop a
run of characters at an end, cut at a separator, or ask how a text begins
and ends. All of that is done here on the list of characters, where it is
plain structural recursion, and each operation on `String` is the list
operation between `String.toList` and `String.ofList`.

A cut keeps every piece, the empty ones included: `cut_ne_nil` says that there
is always at least one, `notMem_of_mem_cut` that no piece has the separator in
it, and `join_cut` that putting it back gives the text again – nothing is lost
and nothing is merged.
-/

namespace CloudClient.Text

/-- Drops the longest run at the end whose members all satisfy `p`. -/
def dropEndWhile {α : Type} (p : α → Bool) (cs : List α) : List α :=
  (cs.reverse.dropWhile p).reverse

@[simp] theorem dropEndWhile_nil {α : Type} (p : α → Bool) : dropEndWhile p [] = [] := rfl

/-- The pieces of a list of characters between the occurrences of `sep`. -/
def cut (sep : Char) : List Char → List (List Char)
  | [] => [[]]
  | c :: cs =>
    if c = sep then [] :: cut sep cs
    else match cut sep cs with
      | [] => [[c]]
      | piece :: more => (c :: piece) :: more

theorem cut_ne_nil (sep : Char) (cs : List Char) : cut sep cs ≠ [] := by
  cases cs with
  | nil => simp [cut]
  | cons c cs =>
    unfold cut
    split
    · simp
    · split <;> simp

theorem cut_cons_self (sep : Char) (cs : List Char) : cut sep (sep :: cs) = [] :: cut sep cs := by
  rw [cut, if_pos rfl]

theorem cut_cons_of_ne {sep c : Char} (hc : c ≠ sep) {cs piece : List Char}
    {more : List (List Char)} (h : cut sep cs = piece :: more) :
    cut sep (c :: cs) = (c :: piece) :: more := by
  rw [cut, if_neg hc, h]

/-- The pieces with the separator between them. -/
def join (sep : Char) : List (List Char) → List Char
  | [] => []
  | [piece] => piece
  | piece :: more => piece ++ sep :: join sep more

/-- Putting the separator back between the pieces gives the text again. -/
theorem join_cut (sep : Char) (cs : List Char) : join sep (cut sep cs) = cs := by
  induction cs with
  | nil => rfl
  | cons c cs ih =>
    obtain ⟨piece, more, hcut⟩ := List.exists_cons_of_ne_nil (cut_ne_nil sep cs)
    rw [hcut] at ih
    by_cases hc : c = sep
    · subst hc
      rw [cut_cons_self, hcut]
      exact congrArg (c :: ·) ih
    · rw [cut_cons_of_ne hc hcut, ← ih]
      cases more <;> rfl

/-- No piece has a separator in it. -/
theorem notMem_of_mem_cut {sep : Char} {cs piece : List Char} (h : piece ∈ cut sep cs) :
    sep ∉ piece := by
  induction cs generalizing piece with
  | nil =>
    rw [List.mem_singleton.1 h]
    exact List.not_mem_nil
  | cons c cs ih =>
    obtain ⟨first, more, hcut⟩ := List.exists_cons_of_ne_nil (cut_ne_nil sep cs)
    by_cases hc : c = sep
    · subst hc
      rw [cut_cons_self] at h
      obtain rfl | h := List.mem_cons.1 h
      · exact List.not_mem_nil
      · exact ih h
    · rw [cut_cons_of_ne hc hcut] at h
      obtain rfl | h := List.mem_cons.1 h
      · exact List.not_mem_cons_of_ne_of_not_mem (Ne.symm hc) (ih (hcut ▸ List.mem_cons_self))
      · exact ih (hcut ▸ List.mem_cons_of_mem first h)

theorem mem_join {sep c : Char} {pieces : List (List Char)} {piece : List Char}
    (hpiece : piece ∈ pieces) (hc : c ∈ piece) : c ∈ join sep pieces := by
  induction pieces with
  | nil => cases hpiece
  | cons first more ih =>
    cases more with
    | nil => exact List.mem_singleton.1 hpiece ▸ hc
    | cons second more =>
      show c ∈ first ++ sep :: join sep (second :: more)
      obtain rfl | hpiece := List.mem_cons.1 hpiece
      · exact List.mem_append_left _ hc
      · exact List.mem_append_right _ (List.mem_cons_of_mem sep (ih hpiece))

/-- The characters of a piece are characters of the text. -/
theorem mem_of_mem_cut {sep c : Char} {cs piece : List Char} (h : piece ∈ cut sep cs)
    (hc : c ∈ piece) : c ∈ cs :=
  join_cut sep cs ▸ mem_join h hc

/-- The part before the first occurrence of `sep`, and the part after it if
there is one. -/
def breakAt {α : Type} [DecidableEq α] (sep : α) : List α → List α × Option (List α)
  | [] => ([], none)
  | c :: cs =>
    if c = sep then ([], some cs)
    else ((c :: (breakAt sep cs).1), (breakAt sep cs).2)

/-- The part after the last occurrence of `sep`; the whole list if there is
none. -/
def afterLast (sep : Char) (cs : List Char) : List Char :=
  (cs.reverse.takeWhile (· ≠ sep)).reverse

/-- Whether `needle` occurs somewhere in the list. -/
def occurs (needle : List Char) : List Char → Bool
  | [] => needle.isEmpty
  | c :: cs => needle.isPrefixOf (c :: cs) || occurs needle cs

/-! ## The same on texts -/

/-- The pieces of a text between the occurrences of `sep`. -/
def pieces (sep : Char) (s : String) : List String :=
  (cut sep s.toList).map String.ofList

/-- The text without the characters `c` at its end. -/
def withoutTrailing (c : Char) (s : String) : String :=
  String.ofList (dropEndWhile (· == c) s.toList)

@[simp] theorem toList_withoutTrailing (c : Char) (s : String) :
    (withoutTrailing c s).toList = dropEndWhile (· == c) s.toList := by
  simp [withoutTrailing]

/-- The text without the characters `c` at its beginning. -/
def withoutLeading (c : Char) (s : String) : String :=
  String.ofList (s.toList.dropWhile (· == c))

@[simp] theorem toList_withoutLeading (c : Char) (s : String) :
    (withoutLeading c s).toList = s.toList.dropWhile (· == c) := by
  simp [withoutLeading]

/-- Whether the text `s` begins with `start`. -/
def startsWith (start s : String) : Bool := start.toList.isPrefixOf s.toList

/-- Whether the text `s` ends with `ending`. -/
def endsWith (ending s : String) : Bool := ending.toList.isSuffixOf s.toList

/-- Whether `needle` occurs in the text `s`. -/
def hasWithin (needle s : String) : Bool := occurs needle.toList s.toList

/-- The text without its first `n` characters. -/
def dropFirst (n : Nat) (s : String) : String := String.ofList (s.toList.drop n)

theorem startsWith_iff {start s : String} :
    startsWith start s = true ↔ ∃ rest, s = start ++ rest := by
  rw [startsWith, List.isPrefixOf_iff_prefix]
  constructor
  · rintro ⟨rest, h⟩
    exact ⟨String.ofList rest, String.toList_inj.1 (by simp [h])⟩
  · rintro ⟨rest, rfl⟩
    exact ⟨rest.toList, (String.toList_append).symm⟩

theorem endsWith_iff {ending s : String} :
    endsWith ending s = true ↔ ∃ front, s = front ++ ending := by
  rw [endsWith, List.isSuffixOf_iff_suffix]
  constructor
  · rintro ⟨front, h⟩
    exact ⟨String.ofList front, String.toList_inj.1 (by simp [h])⟩
  · rintro ⟨front, rfl⟩
    exact ⟨front.toList, (String.toList_append).symm⟩

/-- What stands after the beginning of a text. -/
theorem dropFirst_append (start rest : String) : dropFirst start.length (start ++ rest) = rest := by
  rw [dropFirst, String.toList_append, ← String.length_toList, List.drop_left, String.ofList_toList]

/-- The text with `sep` between its pieces. -/
def joinWith (sep : String) : List String → String
  | [] => ""
  | [piece] => piece
  | piece :: more => piece ++ sep ++ joinWith sep more

end CloudClient.Text
