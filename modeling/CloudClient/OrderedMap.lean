/-!
# Maps that remember the order of insertion

A service catalog, the members of a document, the headers of a message and
the sections of a profile file are all maps whose order can be seen: a
lookup without a region takes the *first* entry, a probe takes the *first*
service. In all of them an entry that is written again keeps its place and
its key and only changes its value.

`Entries` has the operations on plain lists of pairs. `OrderedMap` wraps
them and carries the fact they keep, that no two keys are equal: with it a
lookup does not depend on the order, and an entry of the list is the entry
that the lookup finds.

Keys are compared with `==`, which need not be equality: numbers that are
equal in value are one key however they are written.
-/

namespace CloudClient

namespace Entries

variable {κ ν : Type _} [BEq κ]

/-- Whether a key is among the entries. -/
def has (entries : List (κ × ν)) (k : κ) : Bool := entries.any fun e => e.1 == k

/-- The value of a key. -/
def find? (entries : List (κ × ν)) (k : κ) : Option ν :=
  (entries.find? fun e => e.1 == k).map Prod.snd

/-- The entries with the value of a key changed, where the key is present. -/
def replace (entries : List (κ × ν)) (k : κ) (v : ν) : List (κ × ν) :=
  entries.map fun e => if e.1 == k then (e.1, v) else e

/-- The entries with the key set to the value: in its place if the key is
present, at the end otherwise. -/
def put (entries : List (κ × ν)) (k : κ) (v : ν) : List (κ × ν) :=
  if has entries k then replace entries k v else entries ++ [(k, v)]

/-- The entries without a key. -/
def erase (entries : List (κ × ν)) (k : κ) : List (κ × ν) := entries.filter fun e => !(e.1 == k)

/-- The entries that result from setting the given ones in order. -/
def ofList (pairs : List (κ × ν)) : List (κ × ν) :=
  pairs.foldl (fun entries p => put entries p.1 p.2) []

/-- No two keys are equal, earlier compared with later. -/
def Distinct (entries : List (κ × ν)) : Prop := entries.Pairwise fun a b => (a.1 == b.1) = false

instance (entries : List (κ × ν)) : Decidable (Distinct entries) :=
  inferInstanceAs (Decidable (List.Pairwise _ entries))

theorem Distinct.nil : Distinct ([] : List (κ × ν)) := List.Pairwise.nil

theorem keys_replace (entries : List (κ × ν)) (k : κ) (v : ν) :
    (replace entries k v).map Prod.fst = entries.map Prod.fst := by
  induction entries with
  | nil => rfl
  | cons e es ih =>
    simp only [replace, List.map_cons] at ih ⊢
    rw [ih]
    split <;> rfl

theorem distinct_iff_keys (entries : List (κ × ν)) :
    Distinct entries ↔ (entries.map Prod.fst).Pairwise fun a b => (a == b) = false := by
  rw [Distinct, List.pairwise_map]

theorem Distinct.replace {entries : List (κ × ν)} (h : Distinct entries) (k : κ) (v : ν) :
    Distinct (Entries.replace entries k v) := by
  rw [distinct_iff_keys, keys_replace]
  exact (distinct_iff_keys entries).1 h

theorem Distinct.append {entries : List (κ × ν)} (h : Distinct entries) {k : κ} (v : ν)
    (hk : has entries k = false) : Distinct (entries ++ [(k, v)]) := by
  refine List.pairwise_append.2 ⟨h, List.pairwise_singleton _ _, ?_⟩
  intro a ha b hb
  rw [List.mem_singleton] at hb
  subst hb
  have := List.any_eq_false.1 hk a ha
  simpa using this

theorem Distinct.put {entries : List (κ × ν)} (h : Distinct entries) (k : κ) (v : ν) :
    Distinct (Entries.put entries k v) := by
  unfold Entries.put
  split
  · exact h.replace k v
  · rename_i hk
    exact h.append v (by simpa using hk)

theorem Distinct.erase {entries : List (κ × ν)} (h : Distinct entries) (k : κ) :
    Distinct (Entries.erase entries k) :=
  List.Pairwise.sublist List.filter_sublist h

theorem Distinct.filter {entries : List (κ × ν)} (h : Distinct entries) (p : κ × ν → Bool) :
    Distinct (entries.filter p) :=
  List.Pairwise.sublist List.filter_sublist h

/-! ### Lookups

What is found under a key after the entries have changed. Setting a key
changes what is found under that key and under no other, and so does erasing
it.
-/

@[simp] theorem find?_nil (k : κ) : find? ([] : List (κ × ν)) k = none := rfl

theorem find?_cons (e : κ × ν) (entries : List (κ × ν)) (k : κ) :
    find? (e :: entries) k = if e.1 == k then some e.2 else find? entries k := by
  unfold find?
  rw [List.find?_cons]
  split <;> simp_all

theorem isSome_find? (entries : List (κ × ν)) (k : κ) :
    (find? entries k).isSome = has entries k := by
  induction entries with
  | nil => rfl
  | cons e es ih =>
    rw [find?_cons]
    unfold has at ih ⊢
    rw [List.any_cons]
    split
    · rename_i h
      simp [h]
    · rename_i h
      simp [h, ih]

/-- Nothing is found under a key that no entry has. -/
theorem find?_eq_none_iff {entries : List (κ × ν)} {k : κ} :
    find? entries k = none ↔ ∀ e ∈ entries, (e.1 == k) = false := by
  unfold find?
  rw [Option.map_eq_none_iff, List.find?_eq_none]
  simp

theorem find?_append (left right : List (κ × ν)) (k : κ) :
    find? (left ++ right) k = (find? left k).or (find? right k) := by
  induction left with
  | nil => rfl
  | cons e es ih =>
    rw [List.cons_append, find?_cons, find?_cons, ih]
    split <;> rfl

/-- A value that is changed is erased as well. -/
theorem erase_replace (entries : List (κ × ν)) (k : κ) (v : ν) :
    erase (replace entries k v) k = erase entries k := by
  induction entries with
  | nil => rfl
  | cons e es ih =>
    unfold replace erase at ih ⊢
    rw [List.map_cons, List.filter_cons, List.filter_cons, ih]
    cases he : e.1 == k <;> simp [he]

variable [EquivBEq κ]

theorem find?_replace (entries : List (κ × ν)) (k : κ) (v : ν) (k' : κ) :
    find? (replace entries k v) k' =
      if k == k' then (find? entries k').map fun _ => v else find? entries k' := by
  induction entries with
  | nil => simp [replace]
  | cons e es ih =>
    unfold replace at ih ⊢
    rw [List.map_cons, find?_cons, ih, find?_cons]
    by_cases hk : k == k'
    · have he : (e.1 == k) = (e.1 == k') := by
        rw [Bool.eq_iff_iff]
        exact ⟨fun h => BEq.trans h hk, fun h => BEq.trans h (BEq.symm hk)⟩
      by_cases h : e.1 == k' <;> simp [he, h, hk]
    · by_cases h : e.1 == k
      · have hne : (e.1 == k') = false := by
          rw [Bool.eq_false_iff]
          exact fun h' => hk (BEq.trans (BEq.symm h) h')
        simp [h, hne, hk]
      · simp [h, hk]

/-- What is found after a key has been set. -/
theorem find?_put (entries : List (κ × ν)) (k : κ) (v : ν) (k' : κ) :
    find? (put entries k v) k' = if k == k' then some v else find? entries k' := by
  unfold put
  split
  · rename_i h
    rw [find?_replace]
    split
    · rename_i hk
      have hsome : (find? entries k').isSome = true := by
        rw [isSome_find?]
        unfold has at h ⊢
        rw [List.any_eq_true] at h ⊢
        exact h.imp fun e he => ⟨he.1, BEq.trans he.2 hk⟩
      obtain ⟨w, hw⟩ := Option.isSome_iff_exists.1 hsome
      rw [hw]
      rfl
    · rfl
  · rename_i h
    rw [find?_append, find?_cons, find?_nil]
    by_cases hk : k == k'
    · have hnone : find? entries k' = none := by
        rw [← Option.not_isSome_iff_eq_none, isSome_find?]
        intro h'
        refine h ?_
        unfold has at h' ⊢
        rw [List.any_eq_true] at h' ⊢
        exact h'.imp fun e he => ⟨he.1, BEq.trans he.2 (BEq.symm hk)⟩
      simp [hnone, hk]
    · simp [hk]

/-- What is found after a key has been erased. -/
theorem find?_erase (entries : List (κ × ν)) (k k' : κ) :
    find? (erase entries k) k' = if k == k' then none else find? entries k' := by
  induction entries with
  | nil => simp [erase]
  | cons e es ih =>
    unfold erase at ih ⊢
    rw [List.filter_cons]
    by_cases h : e.1 == k
    · by_cases hk : k == k'
      · simp [h, ih, hk]
      · have hne : (e.1 == k') = false := by
          rw [Bool.eq_false_iff]
          exact fun h' => hk (BEq.trans (BEq.symm h) h')
        simp [h, ih, hk, find?_cons, hne]
    · by_cases hk : k == k'
      · have hne : (e.1 == k') = false := by
          rw [Bool.eq_false_iff]
          exact fun h' => h (BEq.trans h' (BEq.symm hk))
        simp [h, ih, hk, find?_cons, hne]
      · simp [h, ih, hk, find?_cons]

/-- Erasing a key forgets what it has been set to. -/
theorem erase_put (entries : List (κ × ν)) (k : κ) (v : ν) :
    erase (put entries k v) k = erase entries k := by
  unfold put
  split
  · exact erase_replace entries k v
  · unfold erase
    rw [List.filter_append, List.filter_cons_of_neg (by simp), List.filter_nil, List.append_nil]

/-- **What is found under a key is the value of its entry**: there is only one. -/
theorem find?_eq_some_iff {entries : List (κ × ν)} (h : Distinct entries) {k : κ} {v : ν} :
    find? entries k = some v ↔ ∃ k', (k', v) ∈ entries ∧ (k' == k) = true := by
  induction entries with
  | nil => simp
  | cons e es ih =>
    obtain ⟨hfirst, hrest⟩ := List.pairwise_cons.1 h
    rw [find?_cons]
    by_cases hk : e.1 == k
    · rw [if_pos hk]
      constructor
      · intro hv
        exact ⟨e.1, Option.some.inj hv ▸ List.mem_cons_self, hk⟩
      · rintro ⟨k', hmem, hk'⟩
        obtain hmem | hmem := List.mem_cons.1 hmem
        · rw [← hmem]
        · -- a later entry with the same key would be a second one
          have hne := hfirst _ hmem
          rw [BEq.trans hk (BEq.symm hk')] at hne
          exact Bool.noConfusion hne
    · rw [if_neg hk, ih hrest]
      refine exists_congr fun k' => and_congr_left fun hk' => ?_
      refine ⟨List.mem_cons_of_mem e, fun hmem => (List.mem_cons.1 hmem).resolve_left ?_⟩
      rintro rfl
      exact hk hk'

/-- **Entries are known by their keys and by what is found under them.** -/
theorem eq_of_find? {as bs : List (κ × ν)} (ha : Distinct as) (hb : Distinct bs)
    (hkeys : as.map Prod.fst = bs.map Prod.fst) (h : ∀ k, find? as k = find? bs k) : as = bs := by
  induction as generalizing bs with
  | nil => exact (List.map_eq_nil_iff.1 hkeys.symm).symm
  | cons a as ih =>
    obtain ⟨b, bs, rfl, hfirst, hrest⟩ := List.map_eq_cons_iff.1 hkeys.symm
    obtain ⟨hafter, has⟩ := List.pairwise_cons.1 ha
    obtain ⟨hafter', hbs⟩ := List.pairwise_cons.1 hb
    have hvalue := h a.1
    rw [find?_cons, find?_cons, hfirst, if_pos BEq.rfl, if_pos BEq.rfl] at hvalue
    obtain rfl : b = a := Prod.ext hfirst (Option.some.inj hvalue).symm
    refine congrArg (b :: ·) (ih has hbs hrest.symm fun k => ?_)
    by_cases hk : b.1 == k
    · -- no later entry has the key of the first
      have hnone {es : List (κ × ν)} (hes : ∀ e ∈ es, (b.1 == e.1) = false) :
          find? es k = none := by
        refine find?_eq_none_iff.2 fun e he => Bool.eq_false_iff.2 fun hek => ?_
        exact Bool.false_ne_true ((hes e he).symm.trans (BEq.trans hk (BEq.symm hek)))
      rw [hnone hafter, hnone hafter']
    · have hlater := h k
      rwa [find?_cons, find?_cons, if_neg hk, if_neg hk] at hlater

/-- A value test keeps what is found under a key or drops it: no second entry
can come to light. -/
theorem find?_filter {entries : List (κ × ν)} (h : Distinct entries) (p : ν → Bool) (k : κ) :
    find? (entries.filter fun e => p e.2) k = (find? entries k).filter p := by
  induction entries with
  | nil => rfl
  | cons e es ih =>
    rw [List.filter_cons, find?_cons]
    have hes := ih (List.pairwise_cons.1 h).2
    by_cases hk : e.1 == k
    · have hnone : find? es k = none := by
        rw [← Option.not_isSome_iff_eq_none, isSome_find?]
        intro hhas
        obtain ⟨b, hb, hbk⟩ := List.any_eq_true.1 hhas
        have hne := (List.pairwise_cons.1 h).1 b hb
        rw [BEq.trans hk (BEq.symm hbk)] at hne
        exact Bool.noConfusion hne
      by_cases hp : p e.2 <;> simp [hk, hp, hes, hnone, find?_cons, Option.filter]
    · by_cases hp : p e.2 <;> simp [hk, hp, hes, find?_cons]

end Entries

/-- A map that remembers the order in which its keys came. -/
structure OrderedMap (κ ν : Type) [BEq κ] where
  /-- The entries, oldest key first. -/
  entries : List (κ × ν)
  /-- No two keys are equal. -/
  distinct : Entries.Distinct entries

namespace OrderedMap

variable {κ ν : Type} [BEq κ]

theorem ext_entries {a b : OrderedMap κ ν} (h : a.entries = b.entries) : a = b := by
  cases a; cases b; cases h; rfl

instance [DecidableEq κ] [DecidableEq ν] : DecidableEq (OrderedMap κ ν) := fun a b =>
  if h : a.entries = b.entries then isTrue (ext_entries h)
  else isFalse fun e => h (e ▸ rfl)

/-- The map without entries. -/
def empty : OrderedMap κ ν := ⟨[], Entries.Distinct.nil⟩

instance : Inhabited (OrderedMap κ ν) := ⟨empty⟩

@[simp] theorem entries_empty : (empty : OrderedMap κ ν).entries = [] := rfl

/-- Whether there are no entries. -/
def isEmpty (m : OrderedMap κ ν) : Bool := m.entries.isEmpty

/-- Whether a key is present. -/
def has (m : OrderedMap κ ν) (k : κ) : Bool := Entries.has m.entries k

/-- The value of a key. -/
def find? (m : OrderedMap κ ν) (k : κ) : Option ν := Entries.find? m.entries k

/-- The keys, oldest first. -/
def keys (m : OrderedMap κ ν) : List κ := m.entries.map Prod.fst

/-- The values, in the order of their keys. -/
def values (m : OrderedMap κ ν) : List ν := m.entries.map Prod.snd

/-- The map with a key set: in its place if it is present, at the end
otherwise. -/
def put (m : OrderedMap κ ν) (k : κ) (v : ν) : OrderedMap κ ν :=
  ⟨Entries.put m.entries k v, m.distinct.put k v⟩

@[simp] theorem entries_put (m : OrderedMap κ ν) (k : κ) (v : ν) :
    (m.put k v).entries = Entries.put m.entries k v := rfl

/-- The map without a key. -/
def erase (m : OrderedMap κ ν) (k : κ) : OrderedMap κ ν :=
  ⟨Entries.erase m.entries k, m.distinct.erase k⟩

/-- The entries that satisfy a test. -/
def filter (m : OrderedMap κ ν) (p : κ × ν → Bool) : OrderedMap κ ν :=
  ⟨m.entries.filter p, m.distinct.filter p⟩

/-- The map with the given entries set in order. -/
def putAll (m : OrderedMap κ ν) (pairs : List (κ × ν)) : OrderedMap κ ν :=
  pairs.foldl (fun m p => m.put p.1 p.2) m

/-- What is found after a key has been set. -/
theorem find?_put [EquivBEq κ] (m : OrderedMap κ ν) (k : κ) (v : ν) (k' : κ) :
    (m.put k v).find? k' = if k == k' then some v else m.find? k' :=
  Entries.find?_put m.entries k v k'

/-- What is found after a key has been erased. -/
theorem find?_erase [EquivBEq κ] (m : OrderedMap κ ν) (k k' : κ) :
    (m.erase k).find? k' = if k == k' then none else m.find? k' :=
  Entries.find?_erase m.entries k k'

/-- Erasing a key forgets what it has been set to. -/
theorem erase_put [EquivBEq κ] (m : OrderedMap κ ν) (k : κ) (v : ν) :
    (m.put k v).erase k = m.erase k :=
  ext_entries (Entries.erase_put m.entries k v)

/-- What is found after the values have been tested. -/
theorem find?_filter [EquivBEq κ] (m : OrderedMap κ ν) (p : ν → Bool) (k : κ) :
    (m.filter fun e => p e.2).find? k = (m.find? k).filter p :=
  Entries.find?_filter m.distinct p k

@[simp] theorem find?_empty (k : κ) : (empty : OrderedMap κ ν).find? k = none := rfl

/-- A new key comes last; setting a present one leaves the keys as they
are. -/
theorem keys_put (m : OrderedMap κ ν) (k : κ) (v : ν) :
    (m.put k v).keys = if m.has k then m.keys else m.keys ++ [k] := by
  unfold keys has
  rw [entries_put]
  unfold Entries.put
  split
  · exact Entries.keys_replace m.entries k v
  · rw [List.map_append]
    rfl

/-- The map that results from setting the given entries in order. -/
def ofList (pairs : List (κ × ν)) : OrderedMap κ ν := empty.putAll pairs

/-! ### The order of the keys

`List.eraseDups` keeps of equal elements the one that came first, and so does
a map of its keys. A list to which an element is added in the end is followed
step by step: the element is new, or nothing changes.
-/

theorem has_eq_any_keys (m : OrderedMap κ ν) (k : κ) : m.has k = m.keys.any (· == k) := by
  unfold has Entries.has keys
  rw [List.any_map]
  rfl

theorem isSome_find? (m : OrderedMap κ ν) (k : κ) : (m.find? k).isSome = m.has k :=
  Entries.isSome_find? m.entries k

/-- An element that is added in the end counts if no equal one is there. -/
theorem eraseDups_concat (ks : List κ) (k : κ) :
    (ks ++ [k]).eraseDups =
      if ks.eraseDups.any (k == ·) then ks.eraseDups else ks.eraseDups ++ [k] := by
  have loop : ∀ ks met : List κ, List.eraseDupsBy.loop (· == ·) (ks ++ [k]) met =
      if (List.eraseDupsBy.loop (· == ·) ks met).any (k == ·)
      then List.eraseDupsBy.loop (· == ·) ks met
      else List.eraseDupsBy.loop (· == ·) ks met ++ [k] := by
    intro ks
    induction ks with
    | nil =>
      intro met
      simp only [List.nil_append, List.eraseDupsBy.loop, List.any_reverse]
      cases met.any (k == ·) <;> simp
    | cons k' ks ih =>
      intro met
      simp only [List.cons_append, List.eraseDupsBy.loop]
      by_cases hmet : met.any (k' == ·) = true
      · simpa only [hmet] using ih met
      · rw [Bool.not_eq_true] at hmet
        simpa only [hmet] using ih (k' :: met)
  exact loop ks []

variable [EquivBEq κ] {m : OrderedMap κ ν} {ks : List κ}

/-- Maps are the same if they have the same keys and values in one order. -/
theorem ext_find? {m' : OrderedMap κ ν} (hkeys : m.keys = m'.keys)
    (h : ∀ k, m.find? k = m'.find? k) : m = m' :=
  ext_entries (Entries.eq_of_find? m.distinct m'.distinct hkeys h)

/-- **The keys of a map are those that have been set**, each where it came
first. -/
theorem keys_put_of_keys (h : m.keys = ks.eraseDups) (k : κ) (v : ν) :
    (m.put k v).keys = (ks ++ [k]).eraseDups := by
  have hcomm : (ks.eraseDups.any (· == k)) = ks.eraseDups.any (k == ·) :=
    List.any_congr rfl fun k' => BEq.comm
  rw [keys_put, has_eq_any_keys, eraseDups_concat, h, hcomm]

/-- A key that is there already adds nothing. -/
theorem keys_of_keys_of_has (h : m.keys = ks.eraseDups) {k : κ} (hk : m.has k = true) :
    m.keys = (ks ++ [k]).eraseDups := by
  have hthere : ks.eraseDups.any (k == ·) = true := by
    rw [← hk, has_eq_any_keys, h]
    exact List.any_congr rfl fun k' => BEq.comm
  rw [eraseDups_concat, if_pos hthere, h]

end OrderedMap

/-- Pairs of keys are compared part by part. -/
instance equivBEqProd {α β : Type _} [BEq α] [BEq β] [EquivBEq α] [EquivBEq β] :
    EquivBEq (α × β) where
  rfl {a} := Bool.and_eq_true_iff.2 ⟨BEq.rfl (a := a.1), BEq.rfl (a := a.2)⟩
  symm h :=
    have parts := Bool.and_eq_true_iff.1 h
    Bool.and_eq_true_iff.2 ⟨BEq.symm parts.1, BEq.symm parts.2⟩
  trans h k :=
    have parts := Bool.and_eq_true_iff.1 h
    have parts' := Bool.and_eq_true_iff.1 k
    Bool.and_eq_true_iff.2 ⟨BEq.trans parts.1 parts'.1, BEq.trans parts.2 parts'.2⟩

end CloudClient
