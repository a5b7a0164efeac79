import CloudClient.Profile.Sources

/-!
# Which source a setting comes from

A profile is put together from two files and the environment, section by section
and setting by setting, and each setting that is met overrides what was there.
This module says what comes of that, with no order of steps in it: each setting
has the meaning of the *first* source that has it (`Share.first?`), where the
sources are, from the strongest to the weakest,

* the variable of the environment, if it is not empty;
* the section of that very name in the credentials file;
* the sections of the configuration file that denote the profile, the last one
  first. `[default]` and `[profile default]` denote the same profile, and so do
  `[profile a]` and `[profile  a ]`.

What is found there is what counts, even if it is blank: a blank text means that
there is no value, whatever a weaker source says.

## What has no say

Of all that is in the sources, a profile depends on its `Share` alone. Sections of
other profiles and sections of neither kind may change, come and go: as long as
there is still a profile at all, it is the same one.
-/

namespace CloudClient.ProfilePrecedence

/-! ## What a setting means -/

/-- The value that a profile has for a setting. -/
inductive Kept where
  | text (value : Option String)
  | flag (value : Bool)
  | port (value : Option Int)

/-- What a profile has for each setting. -/
def kept (p : Profile) : ProfileKey → Kept
  | .endpoint => .text p.endpoint
  | .account => .text p.account
  | .region => .text p.region
  | .accessKey => .text p.accessKey
  | .secretKey => .text p.secretKey
  | .operator => .text p.operator
  | .insecure => .flag p.insecure
  | .proxyHost => .text p.proxyHost
  | .proxyPort => .port p.proxyPort

/-- **What the first source of a setting means**, or the lack of one. -/
inductive Means : ProfileKey → Option String → Kept → Prop where
  /-- A text is trimmed, and a blank one is none. -/
  | text {key : ProfileKey} (source : Option String) (hflag : key ≠ .insecure)
      (hport : key ≠ .proxyPort) :
      Means key source (.text ((source.map Text.trim).filter (· != "")))
  /-- A flag is set by one of the words for yes. -/
  | flag (source : Option String) :
      Means .insecure source
        (.flag (source.any fun s => ["1", "true", "yes", "on"].contains (Text.lower (Text.trim s))))
  /-- A port is a number, if there is anything. -/
  | noPort : Means .proxyPort none (.port none)
  | emptyPort : Means .proxyPort (some "") (.port none)
  | port {s : String} {n : Int} (hs : s ≠ "") (hn : Integer.read s = .ok n) :
      Means .proxyPort (some s) (.port (some n))

theorem Means.unique {key : ProfileKey} {source : Option String} {a b : Kept}
    (ha : Means key source a) (hb : Means key source b) : a = b := by
  cases ha with
  | text source hflag hport =>
    cases hb with
    | text => rfl
    | flag => exact absurd rfl hflag
    | noPort => exact absurd rfl hport
    | emptyPort => exact absurd rfl hport
    | port => exact absurd rfl hport
  | flag source =>
    cases hb with
    | text source hflag hport => exact absurd rfl hflag
    | flag => rfl
  | noPort =>
    cases hb with
    | text source hflag hport => exact absurd rfl hport
    | noPort => rfl
  | emptyPort =>
    cases hb with
    | text source hflag hport => exact absurd rfl hport
    | emptyPort => rfl
    | port hs hn => exact absurd rfl hs
  | port hs hn =>
    cases hb with
    | text source hflag hport => exact absurd rfl hport
    | emptyPort => exact absurd rfl hs
    | port hs' hn' =>
      rw [hn] at hn'
      cases hn'
      rfl

/-- A profile is its name and what it has for each setting. -/
theorem eq_of_kept {p q : Profile} (hname : p.name = q.name) (h : ∀ key, kept p key = kept q key) :
    p = q := by
  have htext {a b : Option String} (h : Kept.text a = Kept.text b) : a = b := by
    cases h
    rfl
  obtain ⟨_, _, _, _, _, _, _, _, _, _⟩ := p
  obtain ⟨_, _, _, _, _, _, _, _, _, _⟩ := q
  have hflag : Kept.flag _ = Kept.flag _ := h .insecure
  have hport : Kept.port _ = Kept.port _ := h .proxyPort
  cases hflag
  cases hport
  cases hname
  cases htext (h .endpoint)
  cases htext (h .account)
  cases htext (h .region)
  cases htext (h .accessKey)
  cases htext (h .secretKey)
  cases htext (h .operator)
  cases htext (h .proxyHost)
  rfl

/-! ## A single setting -/

section Setting

variable {p q : Profile} {key other : ProfileKey} {s : String} {value : Option String}

theorem nonBlank?_eq (s : String) :
    Text.nonBlank? s = ((some s).map Text.trim).filter (· != "") := by
  unfold Text.nonBlank?
  by_cases h : Text.trim s = "" <;> simp [h, Option.filter]

theorem kept_setText (hflag : key ≠ .insecure) (hport : key ≠ .proxyPort) :
    kept (p.setText key value) key = .text value := by
  cases key with
  | insecure => exact absurd rfl hflag
  | proxyPort => exact absurd rfl hport
  | _ => rfl

theorem name_setText : (p.setText key value).name = p.name := by
  cases key <;> rfl

theorem kept_setText_of_ne (hne : other ≠ key) : kept (p.setText key value) other = kept p other := by
  cases key <;> cases other <;> first | rfl | exact absurd rfl hne

theorem set_text_of_ne (hflag : key ≠ .insecure) (hport : key ≠ .proxyPort) :
    p.set key (.text s) = .ok (p.setText key (Text.nonBlank? s)) := by
  cases key with
  | insecure => exact absurd rfl hflag
  | proxyPort => exact absurd rfl hport
  | _ => rfl

theorem means_of_meansYes (s : String) : Means .insecure (some s) (.flag (Profile.meansYes s)) := by
  have hyes : Profile.meansYes s = (some s).any fun s =>
      ["1", "true", "yes", "on"].contains (Text.lower (Text.trim s)) := by
    rw [Option.any_some, Profile.meansYes, Profile.yesWords]
  rw [hyes]
  exact .flag (some s)

/-- A port that is read means what the text does. -/
theorem means_of_readPort {n : Option Int} (h : Profile.readPort s = .ok n) :
    Means .proxyPort (some s) (.port n) := by
  unfold Profile.readPort at h
  by_cases hs : s = ""
  · rw [if_pos hs] at h
    cases h
    rw [hs]
    exact .emptyPort
  · rw [if_neg hs] at h
    cases hn : Integer.read s with
    | error fault =>
      rw [hn] at h
      cases h
    | ok m =>
      rw [hn] at h
      cases h
      exact .port hs hn

/-- **A setting that is taken over** means what its text does, and no other is
touched. -/
theorem of_set (h : p.set key (.text s) = .ok q) :
    q.name = p.name ∧ Means key (some s) (kept q key)
      ∧ ∀ other, other ≠ key → kept q other = kept p other := by
  by_cases hflag : key = .insecure
  · subst hflag
    have hset : { p with insecure := Profile.meansYes s } = q := Except.ok.inj h
    subst hset
    have hmeans := means_of_meansYes s
    generalize Profile.meansYes s = yes at hmeans ⊢
    refine ⟨rfl, hmeans, fun other hne => ?_⟩
    cases other <;> first | rfl | exact absurd rfl hne
  by_cases hport : key = .proxyPort
  · subst hport
    have hset : (Profile.readPort s).map (fun port => { p with proxyPort := port }) = .ok q := h
    cases hread : Profile.readPort s with
    | error fault =>
      rw [hread] at hset
      cases hset
    | ok n =>
      rw [hread] at hset
      cases hset
      refine ⟨rfl, means_of_readPort hread, fun other hne => ?_⟩
      cases other <;> first | rfl | exact absurd rfl hne
  · rw [set_text_of_ne hflag hport] at h
    cases h
    refine ⟨name_setText, ?_, fun other hne => kept_setText_of_ne hne⟩
    rw [kept_setText hflag hport, nonBlank?_eq]
    exact .text (some s) hflag hport

end Setting

/-! ## A row of settings -/

/-- **A profile of a name that has what some sources say.** -/
structure Told (name : String) (source : ProfileKey → Option String) (p : Profile) : Prop where
  name : p.name = name
  means : ∀ key, Means key (source key) (kept p key)

/-- Nobody has told a bare profile anything. -/
theorem told_bare (name : String) : Told name (fun _ => none) (.bare name) where
  name := rfl
  means := fun key => by
    cases key with
    | insecure => exact .flag none
    | proxyPort => exact .noPort
    | _ => exact .text none nofun nofun

theorem name_injective {key other : ProfileKey} (h : key.name = other.name) : key = other := by
  revert h
  cases key <;> cases other <;> decide

theorem ofName?_eq_some {name : String} {key : ProfileKey} (h : ProfileKey.ofName? name = some key) :
    key.name = name := by
  have hname := List.find?_some h
  exact eq_of_beq hname

theorem ofName?_name (key : ProfileKey) : ProfileKey.ofName? key.name = some key := by
  cases key <;> rfl

section Rows

variable {name value : String} {key : ProfileKey} {p q : Profile}
  {source : ProfileKey → Option String}

/-- A row of settings is taken over one after another. -/
theorem updateTexts_cons {setting : String} {more : List (String × String)}
    (h : p.updateTexts ((setting, value) :: more) = .ok q) :
    (ProfileKey.ofName? setting = none ∧ p.updateTexts more = .ok q)
      ∨ ∃ key r, ProfileKey.ofName? setting = some key ∧ p.set key (.text value) = .ok r
        ∧ r.updateTexts more = .ok q := by
  unfold Profile.updateTexts at h
  rw [List.map_cons, Profile.update] at h
  cases hkey : ProfileKey.ofName? setting with
  | none =>
    simp only [hkey] at h
    exact .inl ⟨rfl, h⟩
  | some key =>
    simp only [hkey] at h
    cases hset : p.set key (.text value) with
    | error fault =>
      rw [hset] at h
      cases h
    | ok r =>
      rw [hset] at h
      exact .inr ⟨key, r, rfl, hset, h⟩

/-- A setting overrides what was there of its own, and nothing else. -/
theorem Told.set (hp : Told name source p) (h : p.set key (.text value) = .ok q) :
    Told name (fun other => if other = key then some value else source other) q := by
  obtain ⟨hname, hmeans, hsame⟩ := of_set h
  refine ⟨hname.trans hp.name, fun other => ?_⟩
  by_cases hother : other = key
  · rw [if_pos hother, hother]
    exact hmeans
  · rw [if_neg hother, hsame other hother]
    exact hp.means other

/-- The first setting of a row comes before all others of it, of which none has
the same name. -/
theorem find?_cons_or {more : List (String × String)}
    (hfirst : ∀ e ∈ more, (key.name == e.1) = false) (other : ProfileKey) :
    (Entries.find? ((key.name, value) :: more) other.name).or (source other)
      = (Entries.find? more other.name).or (if other = key then some value else source other) := by
  rw [Entries.find?_cons]
  by_cases hother : other = key
  · have hnone : Entries.find? more key.name = none :=
      Entries.find?_eq_none_iff.2 fun e he => BEq.symm_false (hfirst e he)
    rw [hother, hnone, beq_self_eq_true, if_pos rfl, if_pos rfl]
    rfl
  · have hne : (key.name == other.name) = false :=
      beq_false_of_ne fun hsame => hother (name_injective hsame).symm
    rw [hne, if_neg hother]
    rfl

/-- **A row overrides, setting by setting.** What it has, it decides; and what
it lacks stays as it was. -/
theorem Told.updateTexts {row : List (String × String)} (hrow : Entries.Distinct row)
    (hp : Told name source p) (h : p.updateTexts row = .ok q) :
    Told name (fun key => (Entries.find? row key.name).or (source key)) q := by
  induction row generalizing p source with
  | nil =>
    cases h
    exact hp
  | cons setting more ih =>
    obtain ⟨title, value⟩ := setting
    obtain ⟨hfirst, hmore⟩ := List.pairwise_cons.1 hrow
    rcases updateTexts_cons h with ⟨hkey, hrest⟩ | ⟨key, r, hkey, hset, hrest⟩
    · have hq := ih hmore hp hrest
      refine ⟨hq.name, fun other => ?_⟩
      have hne : (title == other.name) = false := by
        refine beq_false_of_ne fun htitle => ?_
        rw [htitle, ofName?_name] at hkey
        cases hkey
      rw [Entries.find?_cons, hne]
      exact hq.means other
    · obtain rfl := ofName?_eq_some hkey
      have hq := ih hmore (hp.set hset) hrest
      refine ⟨hq.name, fun other => ?_⟩
      rw [find?_cons_or hfirst]
      exact hq.means other

end Rows

/-! ## The environment -/

theorem setVariable?_eq (s : ProfileSources) (name : String) :
    s.setVariable? name = (Entries.find? s.environment name).filter (· != "") := by
  unfold ProfileSources.setVariable?
  cases Entries.find? s.environment name with
  | none => rfl
  | some value => by_cases h : value = "" <;> simp [h, Option.filter]

/-- A row that has some settings by name. -/
theorem find?_filterMap_name (keys : List ProfileKey) (value : ProfileKey → Option String)
    (key : ProfileKey) :
    Entries.find? (keys.filterMap fun k => (value k).map (k.name, ·)) key.name
      = if key ∈ keys then value key else none := by
  induction keys with
  | nil => rfl
  | cons k keys ih =>
    rw [List.filterMap_cons]
    by_cases hk : k = key
    · subst hk
      rw [if_pos List.mem_cons_self]
      cases hvalue : value k with
      | none =>
        show Entries.find? (keys.filterMap _) k.name = none
        rw [ih, hvalue, ite_self]
      | some text =>
        show Entries.find? ((k.name, text) :: keys.filterMap _) k.name = some text
        rw [Entries.find?_cons, beq_self_eq_true, if_pos rfl]
    · have hmem : key ∈ k :: keys ↔ key ∈ keys := by simp [Ne.symm hk]
      have hne : (k.name == key.name) = false := beq_false_of_ne fun h => hk (name_injective h)
      simp only [hmem]
      cases hvalue : value k with
      | none => exact ih
      | some text =>
        show Entries.find? ((k.name, text) :: keys.filterMap _) key.name = _
        rw [Entries.find?_cons, hne]
        exact ih

/-- The settings of the environment are its variables. -/
theorem find?_overrides (s : ProfileSources) (key : ProfileKey) :
    Entries.find? s.overrides key.name
      = (Entries.find? s.environment key.environmentName).filter (· != "") := by
  have hmem : key ∈ ProfileKey.all := by cases key <;> decide
  unfold ProfileSources.overrides
  rw [find?_filterMap_name, if_pos hmem, setVariable?_eq]

theorem distinct_overrides (s : ProfileSources) : Entries.Distinct s.overrides := by
  have hnames : ProfileKey.all.Pairwise fun a b => (a.name == b.name) = false := by decide
  refine List.Pairwise.filterMap _ (fun a b hab x hx y hy => ?_) hnames
  obtain ⟨_, -, rfl⟩ := Option.map_eq_some_iff.1 hx
  obtain ⟨_, -, rfl⟩ := Option.map_eq_some_iff.1 hy
  exact hab

/-! ## The sections of a file -/

/-- **A section of the configuration file denotes a profile.** -/
def Denotes (title name : String) : Prop :=
  title = "default" ∧ name = "default" ∨ ∃ x, title = "profile " ++ x ∧ name = Text.trim x

theorem ofSection?_eq_some_iff {title name : String} :
    Profiles.ofSection? title = some name ↔ Denotes title name := by
  have hdefault : Text.startsWith Profiles.sectionMark Profiles.defaultName = false := by decide
  unfold Profiles.ofSection?
  by_cases htitle : title = Profiles.defaultName
  · rw [if_pos htitle, Option.some_inj]
    constructor
    · exact fun hname => .inl ⟨htitle, hname.symm⟩
    · rintro (⟨-, hname⟩ | ⟨x, hx, -⟩)
      · exact hname.symm
      · have hmarked := Text.startsWith_iff.2 ⟨x, hx⟩
        rw [htitle] at hmarked
        exact absurd (hdefault.symm.trans hmarked) Bool.false_ne_true
  · rw [if_neg htitle]
    by_cases hmarked : Text.startsWith Profiles.sectionMark title = true
    · obtain ⟨rest, rfl⟩ := Text.startsWith_iff.1 hmarked
      rw [if_pos hmarked, Text.dropFirst_append, Option.some_inj]
      constructor
      · exact fun hname => .inr ⟨rest, rfl, hname.symm⟩
      · rintro (⟨hdenotes, -⟩ | ⟨x, hx, hname⟩)
        · exact absurd hdenotes htitle
        · have hrest := congrArg (Text.dropFirst Profiles.sectionMark.length) hx
          rw [Text.dropFirst_append] at hrest
          rw [hname, hrest, show "profile " = Profiles.sectionMark from rfl,
            Text.dropFirst_append]
    · rw [if_neg hmarked]
      constructor
      · intro h
        cases h
      · rintro (⟨hdenotes, -⟩ | ⟨x, hx, -⟩)
        · exact absurd hdenotes htitle
        · exact absurd (Text.startsWith_iff.2 ⟨x, hx⟩) hmarked

instance (title name : String) : Decidable (Denotes title name) :=
  decidable_of_iff _ ofSection?_eq_some_iff

/-- The options in the sections of a profile, in order, where `nameOf?` says
whose a section is. -/
def rowsOf (nameOf? : String → Option String) (f : SectionFile) (name : String)
    (sections : List (String × SectionOptions)) : List SectionOptions :=
  (sections.filter fun s => nameOf? s.1 == some name).map fun s => f.options s.2

/-- The last of some rows that has a setting decides it. -/
def last? (rows : List SectionOptions) (key : ProfileKey) : Option String :=
  rows.reverse.findSome? (·.find? key.name)

theorem last?_cons (row : SectionOptions) (rows : List SectionOptions) (key : ProfileKey) :
    last? (row :: rows) key = (last? rows key).or (row.find? key.name) := by
  unfold last?
  rw [List.reverse_cons, List.findSome?_append, List.findSome?_singleton]

section Sections

variable {profiles after : Profiles} {name other : String} {options : SectionOptions}
  {source : ProfileKey → Option String} {nameOf? : String → Option String} {f : SectionFile}

/-- A section changes the profile it is of, and no other. -/
theorem get_of_take (h : profiles.take other options = .ok after) :
    ∃ p, (profiles.get other).updateTexts options.entries = .ok p
      ∧ ∀ name, after.get name = if other = name then p else profiles.get name := by
  unfold Profiles.take at h
  cases hupdate : (profiles.get other).updateTexts options.entries with
  | error fault =>
    rw [hupdate] at h
    cases h
  | ok p =>
    rw [hupdate] at h
    cases h
    refine ⟨p, rfl, fun name => ?_⟩
    show ((profiles.all.put other p).find? name).getD _ = _
    rw [OrderedMap.find?_put]
    by_cases hname : other = name <;> simp [hname, Profiles.get]

theorem rowsOf_cons_of_eq {s : String × SectionOptions} {sections : List (String × SectionOptions)}
    (h : nameOf? s.1 = some name) :
    rowsOf nameOf? f name (s :: sections) = f.options s.2 :: rowsOf nameOf? f name sections := by
  unfold rowsOf
  rw [List.filter_cons_of_pos (by simpa using h), List.map_cons]

theorem rowsOf_cons_of_ne {s : String × SectionOptions} {sections : List (String × SectionOptions)}
    (h : nameOf? s.1 ≠ some name) :
    rowsOf nameOf? f name (s :: sections) = rowsOf nameOf? f name sections := by
  unfold rowsOf
  rw [List.filter_cons_of_neg (by simpa using h)]

/-- **The sections of a file tell a profile what its own ones say**, the last
one first. -/
theorem told_takeAll (h : profiles.takeAll nameOf? f = .ok after)
    (hp : Told name source (profiles.get name)) :
    Told name (fun key => (last? (rowsOf nameOf? f name f.sections.entries) key).or (source key))
      (after.get name) := by
  unfold Profiles.takeAll at h
  generalize f.sections.entries = sections at h ⊢
  induction sections generalizing profiles source with
  | nil =>
    cases h
    exact hp
  | cons s sections ih =>
    rw [List.foldlM_cons] at h
    cases howner : nameOf? s.1 with
    | none =>
      rw [howner] at h
      rw [rowsOf_cons_of_ne (by simp [howner])]
      exact ih hp h
    | some other =>
      rw [howner] at h
      cases htake : profiles.take other (f.options s.2) with
      | error fault =>
        simp only [htake] at h
        cases h
      | ok next =>
        simp only [htake] at h
        obtain ⟨p, hupdate, hget⟩ := get_of_take htake
        by_cases hname : other = name
        · subst hname
          have hnext : next.get other = p := (hget other).trans (if_pos rfl)
          have htold := hp.updateTexts (f.options s.2).distinct hupdate
          rw [← hnext] at htold
          simp only [rowsOf_cons_of_eq howner, last?_cons, Option.or_assoc]
          exact ih htold h
        · have hnext : next.get name = profiles.get name := (hget name).trans (if_neg hname)
          rw [← hnext] at hp
          rw [rowsOf_cons_of_ne (by simp [howner, hname])]
          exact ih hp h

end Sections

/-- A file has one section of a name at most. -/
theorem filter_eq_find? {entries : List (String × SectionOptions)} (h : Entries.Distinct entries)
    (name : String) :
    (entries.filter fun s => some s.1 == some name).map Prod.snd
      = (Entries.find? entries name).toList := by
  induction entries with
  | nil => rfl
  | cons e entries ih =>
    obtain ⟨hfirst, hmore⟩ := List.pairwise_cons.1 h
    rw [Entries.find?_cons]
    by_cases hname : e.1 = name
    · have hnone : Entries.find? entries name = none :=
        Entries.find?_eq_none_iff.2 fun s hs => hname ▸ BEq.symm_false (hfirst s hs)
      have hrest := ih hmore
      rw [hnone] at hrest
      rw [List.filter_cons_of_pos (by simp [hname]), List.map_cons, hrest, if_pos (by simp [hname])]
      rfl
    · rw [List.filter_cons_of_neg (by simp [hname]), if_neg (by simp [hname])]
      exact ih hmore

/-- In the credentials file the section of the profile's very name decides. -/
theorem last?_rowsOf_some (f : SectionFile) (name : String) (key : ProfileKey) :
    last? (rowsOf some f name f.sections.entries) key
      = ((f.sections.find? name).map f.options).bind (·.find? key.name) := by
  have hrows : rowsOf some f name f.sections.entries
      = ((f.sections.find? name).map f.options).toList := by
    have hown := congrArg (List.map f.options) (filter_eq_find? f.sections.distinct name)
    rw [List.map_map] at hown
    refine hown.trans ?_
    show List.map f.options (f.sections.find? name).toList = _
    cases f.sections.find? name <;> rfl
  rw [hrows]
  cases f.sections.find? name with
  | none => rfl
  | some own => exact List.findSome?_singleton

/-- In the configuration file those that denote the profile do. -/
theorem rowsOf_ofSection? (f : SectionFile) (name : String)
    (sections : List (String × SectionOptions)) :
    rowsOf Profiles.ofSection? f name sections
      = (sections.filter fun s => decide (Denotes s.1 name)).map fun s => f.options s.2 := by
  unfold rowsOf
  congr 2
  funext s
  rw [Bool.eq_iff_iff, beq_iff_eq, decide_eq_true_iff, ofSection?_eq_some_iff]

/-! ## The whole profile -/

/-- **What has a say in a profile.** -/
structure Share where
  /-- The variables of the environment, unless they are empty. -/
  environment : ProfileKey → Option String
  /-- The options in the section of the profile in the credentials file. -/
  credentials : Option SectionOptions
  /-- The options in the sections of the profile in the configuration file. -/
  config : List SectionOptions

/-- **The first source that has a setting.** -/
def Share.first? (share : Share) (key : ProfileKey) : Option String :=
  (share.environment key).or
    ((share.credentials.bind (·.find? key.name)).or
      (share.config.reverse.findSome? (·.find? key.name)))

/-- The share that files and an environment have in the profile of a name. -/
def shareOf (config credentials : SectionFile) (environment : List (String × String))
    (name : String) : Share where
  environment key := (Entries.find? environment key.environmentName).filter (· != "")
  credentials := (credentials.sections.find? name).map credentials.options
  config := (config.sections.entries.filter fun s => decide (Denotes s.1 name)).map fun s =>
    config.options s.2

/-- The name of the profile that is meant: the one that is asked for, else that
of the environment, else the default. -/
def meant (asked : Option String) (environment : List (String × String)) : String :=
  ((asked.filter (· != "")).or
    ((Entries.find? environment "NOVAGATE_PROFILE").filter (· != ""))).getD "default"

section Whole

variable {s : ProfileSources} {asked : Option String} {p : Profile}

theorem chosenName_eq (s : ProfileSources) (asked : Option String) :
    s.chosenName asked = meant asked s.environment := by
  unfold ProfileSources.chosenName meant
  rw [setVariable?_eq]
  cases asked.filter (· != "") <;> rfl

theorem of_takeFile {profiles after : Profiles} {nameOf? : String → Option String}
    {file : SourceFile} (h : ProfileSources.takeFile profiles nameOf? file = .ok after) :
    ∃ f, file.read = .ok f ∧ profiles.takeAll nameOf? f = .ok after := by
  unfold ProfileSources.takeFile at h
  cases hread : file.read with
  | error failure =>
    rw [hread] at h
    cases h
  | ok f =>
    rw [hread] at h
    refine ⟨f, rfl, ?_⟩
    cases htake : profiles.takeAll nameOf? f with
    | error fault =>
      simp only [htake] at h
      cases h
    | ok next =>
      simp only [htake] at h
      cases h
      rfl

/-- A profile that is not there is a bare one, if there is one at all. -/
theorem stored_eq_get {profiles : Profiles} {overrides : List (String × String)} {name : String}
    (h : ProfileSources.stored profiles overrides name = .ok p) : p = profiles.get name := by
  unfold ProfileSources.stored at h
  unfold Profiles.get
  cases hfind : profiles.all.find? name with
  | some q =>
    rw [hfind] at h
    cases h
    rfl
  | none =>
    rw [hfind] at h
    cases hempty : overrides.isEmpty with
    | true =>
      simp only [hempty] at h
      cases h
    | false =>
      simp only [hempty] at h
      cases h
      rfl

/-- A profile is read from both files and then from the environment. -/
theorem of_profile (h : s.profile asked = .ok p) :
    ∃ config credentials first second, s.config.read = .ok config
      ∧ s.credentials.read = .ok credentials
      ∧ Profiles.empty.takeAll Profiles.ofSection? config = .ok first
      ∧ first.takeAll some credentials = .ok second
      ∧ (second.get (s.chosenName asked)).updateTexts s.overrides = .ok p := by
  unfold ProfileSources.profile ProfileSources.load at h
  cases hfirst : ProfileSources.takeFile .empty Profiles.ofSection? s.config with
  | error failure =>
    rw [hfirst] at h
    cases h
  | ok first =>
    simp only [hfirst] at h
    cases hsecond : ProfileSources.takeFile first some s.credentials with
    | error failure =>
      rw [hsecond] at h
      cases h
    | ok second =>
      simp only [hsecond] at h
      cases hstored : ProfileSources.stored second s.overrides (s.chosenName asked) with
      | error fault =>
        rw [hstored] at h
        cases h
      | ok q =>
        simp only [hstored] at h
        obtain ⟨config, hconfig, htaken⟩ := of_takeFile hfirst
        obtain ⟨credentials, hcredentials, htaken'⟩ := of_takeFile hsecond
        refine ⟨config, credentials, first, second, hconfig, hcredentials, htaken, htaken', ?_⟩
        rw [← stored_eq_get hstored]
        cases hlast : q.updateTexts s.overrides with
        | error fault =>
          rw [hlast] at h
          cases h
        | ok r =>
          rw [hlast] at h
          cases h
          rfl

/-- **A profile has been told what its sources say.** -/
theorem told_profile (h : s.profile asked = .ok p) :
    ∃ config credentials, s.config.read = .ok config ∧ s.credentials.read = .ok credentials
      ∧ Told (meant asked s.environment)
        (shareOf config credentials s.environment (meant asked s.environment)).first? p := by
  obtain ⟨config, credentials, first, second, hconfig, hcredentials, hfirst, hsecond, hlast⟩ :=
    of_profile h
  rw [chosenName_eq] at hlast
  generalize meant asked s.environment = name at hlast ⊢
  refine ⟨config, credentials, hconfig, hcredentials, ?_⟩
  have hbare : Told name (fun _ => none) (Profiles.empty.get name) := told_bare name
  have htold := (told_takeAll hsecond (told_takeAll hfirst hbare)).updateTexts
    (distinct_overrides s) hlast
  refine ⟨htold.name, fun key => ?_⟩
  have hmeans := htold.means key
  rw [find?_overrides, last?_rowsOf_some, Option.or_none, rowsOf_ofSection?] at hmeans
  exact hmeans

end Whole

/-- **Each setting of a profile has the meaning of the first source that has
it.** If the profile of a name is read at all, then both files are, the profile
is of the name that is meant, and each of its settings means what the first
source says. And nothing else has a say: other files and another environment from
which a profile of that name is read, and which have the same share in it, give the
same profile. -/
theorem profile_precedence (s : ProfileSources) (asked : Option String) (p : Profile)
    (h : s.profile asked = .ok p) :
    ∃ config credentials, s.config.read = .ok config ∧ s.credentials.read = .ok credentials ∧
      p.name = meant asked s.environment ∧
      (∀ key, Means key ((shareOf config credentials s.environment p.name).first? key)
        (kept p key)) ∧
      ∀ (s' : ProfileSources) (asked' : Option String) (p' : Profile) (config' credentials' : SectionFile),
        s'.profile asked' = .ok p' → s'.config.read = .ok config' →
        s'.credentials.read = .ok credentials' → meant asked' s'.environment = p.name →
        shareOf config' credentials' s'.environment p.name
          = shareOf config credentials s.environment p.name → p' = p := by
  obtain ⟨config, credentials, hconfig, hcredentials, htold⟩ := told_profile h
  have hname := htold.name
  rw [← hname] at htold
  refine ⟨config, credentials, hconfig, hcredentials, hname, htold.means, ?_⟩
  intro s' asked' p' config' credentials' h' hconfig' hcredentials' hmeant hshare
  obtain ⟨config'', credentials'', hconfig'', hcredentials'', htold'⟩ := told_profile h'
  rw [hconfig'] at hconfig''
  rw [hcredentials'] at hcredentials''
  cases hconfig''
  cases hcredentials''
  rw [hmeant, hshare] at htold'
  exact eq_of_kept htold'.name fun key => (htold'.means key).unique (htold.means key)

/-! ## A profile of all three sources -/

def fileOf (path contents : String) : SourceFile := ⟨path, some (Utf8.encode contents)⟩

/-- A blank region in the second section takes that of the first one away, and
the account is that of the credentials file. -/
def someSources : ProfileSources where
  config := fileOf "config" "[default]\naccount=a\nregion=b\n[profile default]\nregion=\n"
  credentials := fileOf "credentials" "[default]\naccount=c\n"
  environment := [("NOVAGATE_ENDPOINT", "here"), ("NOVAGATE_ACCOUNT", "")]

def someProfile : Profile where
  name := "default"
  endpoint := some "here"
  account := some "c"

theorem toOption_someSources : (someSources.profile none).toOption = some someProfile := by
  decide +kernel

/-- Each setting is that of the first source that has it. -/
theorem precedence_someSources : someSources.profile none = .ok someProfile ∧
    ∃ config credentials, someSources.config.read = .ok config ∧
      someSources.credentials.read = .ok credentials ∧
      someProfile.name = meant none someSources.environment ∧
      ∀ key, Means key
        ((shareOf config credentials someSources.environment someProfile.name).first? key)
        (kept someProfile key) := by
  have hprofile := eq_ok_of_toOption toOption_someSources
  obtain ⟨config, credentials, hconfig, hcredentials, hname, hmeans, -⟩ :=
    profile_precedence someSources none someProfile hprofile
  exact ⟨hprofile, config, credentials, hconfig, hcredentials, hname, hmeans⟩

end CloudClient.ProfilePrecedence
