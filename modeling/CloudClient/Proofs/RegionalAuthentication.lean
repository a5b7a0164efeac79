import CloudClient.Proofs.Containment
import CloudClient.Proofs.LearntServices

/-!
# Authentication region by region

The endpoints between commas are asked one after the other, and the first in
the home region ends the round. The loop has its state in three places (the
home region, the map of services, the rest of the endpoints), and a maintainer
wants to know without running it who sees the credentials, when they are
accepted, and from which answer a token or a locator comes.

The round passes an endpoint that succeeds outside the home region (`Passes`)
and stops at any other. `Course` lists the ways in which it can end, with
endpoints and answers by number, and `course_ask` shows by induction that
there are no more: the loop is followed with the endpoints still to ask, and
with the number of those that it has passed. `IsRound` is what a reader is told.
-/

namespace CloudClient.RegionalHeaders

/-! ## Where a round stops -/

section Numbered

variable (urls : List String) (replies : List Reply)

/-- **The round passes an endpoint**: it has success there, and is not at
home. -/
structure Passes (home : Option String) (i : Nat) : Prop where
  succeeds : Succeeds replies i
  away : regionAt? urls i ≠ home

/-- **The first endpoint in the home region** has the given number. -/
structure IsHome (home : Option String) (i : Nat) : Prop where
  lt : i < urls.length
  at_home : regionAt? urls i = home
  first : ∀ j < i, regionAt? urls j ≠ home

/-- The home region: that of the first endpoint unless the session chooses
one. -/
def homeOf (s : Session) : Option String := s.region.or (regionAt? urls 0)

end Numbered

section Rounds

variable {urls : List String} {replies : List Reply} {region : String}

/-! ## The round -/

/-- **How the round can end**, as requests and outcome: past all endpoints, or
at the first that it does not pass. -/
inductive Course (account : String) (k : Keys) (urls : List String) (replies : List Reply)
    (home : String) : List Request → Except Defect Outcome → Prop where
  /-- All endpoints are passed and none is at home. -/
  | through (h : ∀ j < urls.length, Passes urls replies (some home) j) :
      Course account k urls replies home (urls.map (request account k))
        (.ok (.failed (ServiceHeaders.noToken 0)))
  /-- There is no success. -/
  | refused {i : Nat} (hi : i < urls.length) (h : ∀ j < i, Passes urls replies (some home) j)
      (hfails : ¬ Succeeds replies i) {outcome : Except Defect Outcome}
      (houtcome : ∀ c, outcome ≠ .ok (.authenticated c)) :
      Course account k urls replies home ((urls.take (i + 1)).map (request account k)) outcome
  /-- The home region is reached. -/
  | home {i : Nat} (hi : i < urls.length) (h : ∀ j < i, Passes urls replies (some home) j)
      (hsucceeds : Succeeds replies i) (hhome : regionAt? urls i = some home)
      {answer : Response} (hanswer : answerAt? replies i = some answer) :
      Course account k urls replies home ((urls.take (i + 1)).map (request account k))
        (Outcome.settle (finish account home (learnt urls replies (i + 1)) answer))

/-- What is sent while `i` replies have been taken is answered by the reply
with the number `i`. -/
theorem hold_sends_drop {α : Type} (request : Request) (next : Reply → Conversation α)
    (replies : List Reply) (i : Nat) :
    (Conversation.sends request next).hold (replies.drop i)
      = ((next (replies[i]?.getD .silence)).hold (replies.drop (i + 1))).after request
        (replies[i]?.getD .silence) := by
  obtain hi | hi := Nat.lt_or_ge i replies.length
  · rw [List.drop_eq_getElem_cons hi, List.getElem?_eq_getElem hi]
    rfl
  · rw [List.drop_eq_nil_of_le hi, List.drop_eq_nil_of_le (Nat.le_succ_of_le hi),
      List.getElem?_eq_none hi]
    rfl

theorem answerAt?_eq (replies : List Reply) (i : Nat) :
    answerAt? replies i = match replies[i]?.getD .silence with
      | .response answer => some answer
      | .failure _ => none := by
  unfold answerAt?
  cases replies[i]? <;> rfl

theorem succeeds_iff {i : Nat} {answer : Response} (hanswer : answerAt? replies i = some answer) :
    Succeeds replies i ↔ ServiceHeaders.successCodes.contains answer.status = true := by
  have hcodes : ServiceHeaders.successCodes.contains answer.status = true
      ↔ answer.status = 200 ∨ answer.status = 204 := by simp [ServiceHeaders.successCodes]
  rw [hcodes]
  constructor
  · rintro ⟨answer', hanswer', hcode⟩
    rw [hanswer] at hanswer'
    cases hanswer'
    exact hcode
  · exact fun hcode => ⟨answer, hanswer, hcode⟩

theorem infer_of_regionAt? {i : Nat} (hi : i < urls.length) (h : regionAt? urls i = some region) :
    Region.infer urls[i] = .ok region := by
  rw [regionAt?, List.getElem?_eq_getElem hi] at h
  exact eq_ok_of_toOption h

theorem requests_take_succ (account : String) (k : Keys) {i : Nat} (hi : i < urls.length)
    (tail : List Request) :
    (urls.take i).map (request account k) ++ request account k urls[i] :: tail
      = (urls.take (i + 1)).map (request account k) ++ tail := by
  rw [List.take_add_one, List.getElem?_eq_getElem hi, List.map_append, List.append_assoc]
  rfl

/-- The round is over at an endpoint without success when what comes after it
sends nothing and is no authentication. -/
theorem Course.ended {account : String} {k : Keys} {home : String} {i : Nat} (hi : i < urls.length)
    (hpasses : ∀ j < i, Passes urls replies (some home) j) (hfails : ¬ Succeeds replies i)
    {t : Transcript (Except Defect Outcome)} (hsilent : t.requests = [])
    (houtcome : ∀ c, t.outcome ≠ .ok (.authenticated c)) :
    Course account k urls replies home
      ((urls.take (i + 1)).map (request account k) ++ t.requests) t.outcome := by
  rw [hsilent, List.append_nil]
  exact .refused hi hpasses hfails houtcome

/-- **The round, from any endpoint on.** With `i` endpoints passed, the loop
has the map of their answers and the replies that are left, and the rest of
its transcript completes one of the courses. -/
theorem course_ask (account : String) (k : Keys) {home : String}
    (hregions : ∀ j < urls.length, ∃ region, regionAt? urls j = some region) {rest : List String} :
    ∀ (i : Nat) (known : Option String), urls.drop i = rest →
      (∀ region, regionAt? urls i = some region → known.getD region = home) →
      (∀ j < i, Passes urls replies (some home) j) →
      Course account k urls replies home
        ((urls.take i).map (request account k)
          ++ ((ask account k known (learnt urls replies i) rest).hold (replies.drop i)).requests)
        ((ask account k known (learnt urls replies i) rest).hold (replies.drop i)).outcome := by
  induction rest with
  | nil =>
    intro i known hrest _ hpasses
    have hle : urls.length ≤ i := List.drop_eq_nil_iff.1 hrest
    show Course account k urls replies home ((urls.take i).map (request account k) ++ []) _
    rw [List.append_nil, List.take_of_length_le hle]
    exact .through fun j hj => hpasses j (Nat.lt_of_lt_of_le hj hle)
  | cons url more ih =>
    intro i known hrest hknown hpasses
    have hi : i < urls.length := by
      refine Nat.lt_of_not_le fun hle => ?_
      rw [List.drop_of_length_le hle] at hrest
      cases hrest
    obtain ⟨rfl, hmore⟩ := List.cons.inj ((List.drop_eq_getElem_cons hi).symm.trans hrest)
    obtain ⟨region, hregion⟩ := hregions i hi
    have hanswer := answerAt?_eq replies i
    unfold ask Conversation.exchange
    rw [hold_sends_drop]
    generalize replies[i]?.getD .silence = reply at hanswer ⊢
    cases reply with
    | failure failure =>
      have hfails : ¬ Succeeds replies i := by
        rintro ⟨answer, h, -⟩
        rw [hanswer] at h
        cases h
      show Course account k urls replies home
        (_ ++ request account k urls[i] :: Transcript.requests _) _
      rw [requests_take_succ account k hi]
      exact .ended hi hpasses hfails rfl fun c h => by cases h
    | response answer =>
      have hanswer : answerAt? replies i = some answer := hanswer
      have hfails {result : Except Defect (Option Outcome)}
          (h : ServiceHeaders.refusal? answer urls[i] = result) (hsome : result ≠ .ok none) :
          ¬ Succeeds replies i := by
        rw [succeeds_iff hanswer, ServiceHeaders.successCodes_eq_false h hsome]
        exact Bool.false_ne_true
      show Course account k urls replies home
        (_ ++ request account k urls[i] :: Transcript.requests _) _
      rw [requests_take_succ account k hi]
      simp only [Transcript.after, Channel.receive]
      cases hrefusal : ServiceHeaders.refusal? answer urls[i] with
      | error defect =>
        exact .ended hi hpasses (hfails hrefusal fun h => by cases h) rfl fun c h => by cases h
      | ok refusal =>
        cases refusal with
        | some outcome =>
          have hrefused := ServiceHeaders.refused answer urls[i]
          rw [hrefusal] at hrefused
          refine .ended hi hpasses (hfails hrefusal fun h => by cases h) rfl fun c h => ?_
          cases hrefused <;> cases h
        | none =>
          have hsucceeds : Succeeds replies i :=
            (succeeds_iff hanswer).2 (ServiceHeaders.successCodes_of_refusal? hrefusal)
          simp only [infer_of_regionAt? hi hregion, hknown region hregion,
            ← learnt_succ hi hregion hanswer]
          by_cases hhome : region = home
          · rw [if_pos hhome]
            show Course account k urls replies home (_ ++ []) _
            rw [List.append_nil]
            exact .home hi hpasses hsucceeds (hhome ▸ hregion) hanswer
          · have haway : regionAt? urls i ≠ some home := fun h =>
              hhome (Option.some.inj (hregion.symm.trans h))
            rw [if_neg hhome]
            refine ih (i + 1) (some home) hmore (fun _ _ => rfl) fun j hj => ?_
            obtain hlt | rfl := Nat.lt_succ_iff_lt_or_eq.1 hj
            · exact hpasses j hlt
            · exact ⟨hsucceeds, haway⟩

/-! ## What a round comes to -/

/-- **The catalog of a round** whose last endpoint is the one with the number
`i`, the first in the home region. -/
structure IsCatalog (account : String) (urls : List String) (replies : List Reply) (home : String)
    (i : Nat) (answer : Response) (c : Catalog) : Prop where
  homeRegion : c.homeRegion = Region.named home
  tenant : c.tenant = .str account
  authToken : ((answer.header? "X-Auth-Token").map fun token : String => Json.str token)
    = some c.authToken
  storageToken : c.storageToken = match answer.header? "X-Storage-Token" with
    | some token => .str token
    | none => c.authToken
  /-- The locators in the home region are from the last answer. -/
  atHome : ∀ service locator, c.endpoints.get? service (Region.named home) = some locator
    ↔ ∃ value, ServiceHeaders.located? answer service = some value
      ∧ locator = settled service (urls[i]?.any hasVersionEnding) value
  /-- Those in any other region are from the answers before. -/
  elsewhere : ∀ region, region ≠ home → ∀ service locator,
    c.endpoints.get? service (Region.named region) = some locator
      ↔ ∃ j, IsFrom urls replies service region locator i j
  /-- There are no others. -/
  nameless : ∀ r, (∀ region, r ≠ Region.named region) → ∀ service, c.endpoints.get? service r = none

/-- **A round through endpoints**: who is asked, when it is a success, and what
is in the catalog then. -/
structure IsRound (account : String) (k : Keys) (urls : List String) (replies : List Reply)
    (home : Option String) (t : Transcript (Except Defect Outcome)) : Prop where
  /-- The credentials go to endpoints from the front. -/
  requests : t.requests = (urls.take t.requests.length).map (request account k)
  /-- They go to an endpoint if all those in front of it are passed. -/
  asked : ∀ i, i < t.requests.length
    ↔ i < urls.length ∧ ∀ j < i, Passes urls replies home j
  /-- They are accepted if all answers up to that of the first endpoint in the
  home region are successes, and that one has a token. -/
  authenticated : (∃ c, t.outcome = .ok (.authenticated c))
    ↔ ∃ i, IsHome urls home i ∧ (∀ j ≤ i, Succeeds replies j)
      ∧ ∃ answer, answerAt? replies i = some answer ∧ (answer.header? "X-Auth-Token").isSome
  /-- The catalog is that of the answers up to there. -/
  catalog : ∀ c, t.outcome = .ok (.authenticated c) → ∀ i, IsHome urls home i →
    t.requests.length = i + 1 ∧ ∃ region answer, home = some region
      ∧ answerAt? replies i = some answer ∧ IsCatalog account urls replies region i answer c

theorem IsHome.unique {home : Option String} {i j : Nat} (hi : IsHome urls home i)
    (hj : IsHome urls home j) : i = j := by
  obtain hlt | heq | hgt := Nat.lt_trichotomy i j
  · exact absurd hi.at_home (hj.first i hlt)
  · exact heq
  · exact absurd hj.at_home (hi.first j hgt)

/-- The requests of a round that stops at an endpoint. -/
theorem asked_iff_of_stop {P : Nat → Prop} {i : Nat} (hi : i < urls.length) (h : ∀ j < i, P j)
    (hstop : ¬ P i) (n : Nat) : n < i + 1 ↔ n < urls.length ∧ ∀ j < n, P j := by
  constructor
  · exact fun hn => ⟨by omega, fun j hj => h j (by omega)⟩
  · rintro ⟨-, hall⟩
    exact Nat.lt_of_not_le fun hle => hstop (hall i hle)

/-- An answer at home is a catalog if it has a token. -/
theorem finish_cases (account home : String) {m : EndpointMap} (hm : m.NoneEmpty)
    (answer : Response) :
    ((answer.header? "X-Auth-Token").isSome = false
        ∧ Outcome.settle (finish account home m answer)
          = .ok (.failed (ServiceHeaders.noToken 0)))
      ∨ ∃ token c, answer.header? "X-Auth-Token" = some token
        ∧ Outcome.settle (finish account home m answer) = .ok (.authenticated c)
        ∧ c.authToken = .str token ∧ c.tenant = .str account ∧ c.homeRegion = Region.named home
        ∧ (c.storageToken = match answer.header? "X-Storage-Token" with
          | some token => .str token
          | none => c.authToken)
        ∧ c.endpoints = m := by
  unfold finish ServiceHeaders.catalogOf
  cases htoken : answer.header? ServiceHeaders.tokenHeader with
  | none => exact .inl ⟨congrArg Option.isSome htoken, rfl⟩
  | some token =>
    obtain ⟨c, hmake, hauth, htenant, hhome, hstorage, hendpoints⟩ := Catalog.make_of_noneEmpty
      (.str token) (.str account) (Region.named home)
      ((answer.header? ServiceHeaders.storageTokenHeader).map fun token => .str token) hm
    refine .inr ⟨token, c, htoken, by simp only [hmake]; rfl, hauth, htenant, hhome, ?_, hendpoints⟩
    rw [hstorage, hauth]
    show _ = match answer.header? ServiceHeaders.storageTokenHeader with
      | some token => _
      | none => _
    cases answer.header? ServiceHeaders.storageTokenHeader <;> rfl

/-- The locators that a round has found. -/
theorem get?_learnt_home {home : String} {i : Nat} {answer : Response}
    (hregions : ∀ j < urls.length, ∃ region, regionAt? urls j = some region)
    (hhome : IsHome urls (some home) i) (hsucceed : ∀ j ≤ i, Succeeds replies j)
    (hanswer : answerAt? replies i = some answer) (service : RawText) (locator : String) :
    (learnt urls replies (i + 1)).get? service (Region.named home) = some locator
      ↔ ∃ value, ServiceHeaders.located? answer service = some value
        ∧ locator = settled service (urls[i]?.any hasVersionEnding) value := by
  have hpassed : ∀ j < i, j < urls.length ∧ Succeeds replies j := fun j hj =>
    ⟨Nat.lt_trans hj hhome.lt, hsucceed j (Nat.le_of_lt hj)⟩
  have hbefore : (learnt urls replies i).get? service (Region.named home) = none := by
    refine Option.eq_none_iff_forall_ne_some.2 fun former h => ?_
    obtain ⟨j, hfrom⟩ := (get?_learnt_iff hpassed hregions).1 h
    exact hhome.first j hfrom.lt hfrom.region_eq
  rw [get?_learnt_succ hhome.lt hhome.at_home (hsucceed i (Nat.le_refl i)), if_pos BEq.rfl, hbefore,
    Option.or_none, offerAt?, hanswer, Option.bind_some, Option.map_eq_some_iff,
    List.getElem?_eq_getElem hhome.lt, Option.any_some]
  refine exists_congr fun value => and_congr_right' ?_
  rw [adjusted_eq_settled, eq_comm]

/-- **The end of a round at home**: a catalog of the answers up to there, if
the last one has a token. -/
theorem isCatalog_of_finish {account home : String} {i : Nat} {answer : Response}
    (hregions : ∀ j < urls.length, ∃ region, regionAt? urls j = some region)
    (hhome : IsHome urls (some home) i) (hsucceed : ∀ j ≤ i, Succeeds replies j)
    (hanswer : answerAt? replies i = some answer) {c : Catalog}
    (h : Outcome.settle (finish account home (learnt urls replies (i + 1)) answer)
      = .ok (.authenticated c)) :
    IsCatalog account urls replies home i answer c := by
  obtain ⟨-, hfail⟩ | ⟨token, c', htoken, hfinish, hauth, htenant, hregion, hstorage, hendpoints⟩ :=
    finish_cases account home (noneEmpty_learnt urls replies (i + 1)) answer
  · rw [hfail] at h
    cases h
  · rw [hfinish] at h
    cases h
    have hpassed : ∀ j < i + 1, j < urls.length ∧ Succeeds replies j := fun j hj =>
      ⟨Nat.lt_of_lt_of_le hj hhome.lt, hsucceed j (Nat.le_of_lt_succ hj)⟩
    refine ⟨hregion, htenant, by rw [htoken, hauth]; rfl, hstorage, ?_, ?_, ?_⟩
    · rw [hendpoints]
      exact get?_learnt_home hregions hhome hsucceed hanswer
    · intro region hne service locator
      have haway : regionAt? urls i ≠ some region := fun h =>
        hne (Option.some.inj (h.symm.trans hhome.at_home))
      rw [hendpoints, get?_learnt_iff hpassed hregions]
      exact exists_congr fun j => isFrom_succ_of_ne haway
    · intro r hr service
      rw [hendpoints]
      exact get?_learnt_of_nameless hpassed hregions hr

/-- **A round is what one of the courses makes it.** -/
theorem isRound_of_course {account : String} {k : Keys} {home : String}
    (hregions : ∀ j < urls.length, ∃ region, regionAt? urls j = some region)
    {t : Transcript (Except Defect Outcome)} {requests : List Request}
    {outcome : Except Defect Outcome} (hrequests : t.requests = requests)
    (houtcome : t.outcome = outcome) (h : Course account k urls replies home requests outcome) :
    IsRound account k urls replies (some home) t := by
  cases h with
  | through hpasses =>
    have hnot (i : Nat) : ¬ IsHome urls (some home) i := fun hi =>
      (hpasses i hi.lt).away hi.at_home
    refine ⟨?_, fun i => ?_, ?_, fun c hc => ?_⟩
    · rw [hrequests, List.length_map, List.take_length]
    · rw [hrequests, List.length_map]
      exact ⟨fun hi => ⟨hi, fun j hj => hpasses j (Nat.lt_trans hj hi)⟩, fun h => h.1⟩
    · rw [houtcome]
      exact iff_of_false (fun ⟨c, hc⟩ => nomatch hc) fun ⟨i, hi, _⟩ => hnot i hi
    · rw [houtcome] at hc
      cases hc
  | @refused i hi hpasses hfails outcome hrefused =>
    have hlength : t.requests.length = i + 1 := by
      rw [hrequests, List.length_map, List.length_take, Nat.min_eq_left hi]
    have hstop : ¬ Passes urls replies (some home) i := fun h => hfails h.succeeds
    refine ⟨?_, fun n => ?_, ?_, fun c hc => ?_⟩
    · rw [hlength, hrequests]
    · rw [hlength]
      exact asked_iff_of_stop hi hpasses hstop n
    · rw [houtcome]
      refine iff_of_false (fun ⟨c, hc⟩ => hrefused c hc) ?_
      rintro ⟨n, hn, hsucceed, -⟩
      have hlt : n < i := Nat.lt_of_not_le fun hle => hfails (hsucceed i hle)
      exact (hpasses n hlt).away hn.at_home
    · exact absurd (houtcome.symm.trans hc) (hrefused c)
  | @home i hi hpasses hsucceeds hregion answer hanswer =>
    have hlength : t.requests.length = i + 1 := by
      rw [hrequests, List.length_map, List.length_take, Nat.min_eq_left hi]
    have hhome : IsHome urls (some home) i := ⟨hi, hregion, fun j hj => (hpasses j hj).away⟩
    have hsucceed : ∀ j ≤ i, Succeeds replies j := fun j hj => by
      obtain hlt | rfl := Nat.lt_or_eq_of_le hj
      · exact (hpasses j hlt).succeeds
      · exact hsucceeds
    refine ⟨?_, fun n => ?_, ?_, fun c hc n hn => ?_⟩
    · rw [hlength, hrequests]
    · rw [hlength]
      exact asked_iff_of_stop hi hpasses (fun h => h.away hregion) n
    · rw [houtcome]
      constructor
      · rintro ⟨c, hc⟩
        have hcatalog := isCatalog_of_finish hregions hhome hsucceed hanswer hc
        obtain ⟨token, htoken, -⟩ := Option.map_eq_some_iff.1 hcatalog.authToken
        exact ⟨i, hhome, hsucceed, answer, hanswer, Option.isSome_of_eq_some htoken⟩
      · rintro ⟨n, hn, -, answer', hanswer', htoken⟩
        rw [hn.unique hhome, hanswer] at hanswer'
        cases hanswer'
        obtain ⟨hnone, -⟩ | ⟨_, c, -, hfinish, -⟩ := finish_cases account home
          (noneEmpty_learnt urls replies (i + 1)) answer
        · rw [hnone] at htoken
          cases htoken
        · exact ⟨c, hfinish⟩
    · rw [hn.unique hhome]
      exact ⟨hlength, home, answer, rfl, hanswer,
        isCatalog_of_finish hregions hhome hsucceed hanswer (houtcome.symm.trans hc)⟩

/-- **Endpoints are asked region by region.** The credentials of a session go
to its endpoints in order, as far as the first in the home region and no
further; whether they are accepted, and where each token and each locator of
the catalog comes from, is a matter of the answers up to there. -/
theorem isRound_attempt (s : Session) {k : Keys} (hk : keys s = .ok k) (endpoint : String)
    (hregions : ∀ url ∈ EndpointList.all endpoint, ∃ region, Region.infer url = .ok region)
    (replies : List Reply) :
    IsRound s.account k (EndpointList.all endpoint) replies
      (homeOf (EndpointList.all endpoint) s)
      ((Dialect.regional.attempt s endpoint).hold replies) := by
  show IsRound _ _ _ _ _ ((attempt s endpoint).hold replies)
  unfold attempt
  generalize EndpointList.all endpoint = urls at hregions ⊢
  cases urls with
  | nil =>
    refine ⟨rfl, fun i => ?_, ?_, fun c hc => nomatch hc⟩
    · exact iff_of_false (Nat.not_lt_zero i) fun h => Nat.not_lt_zero i h.1
    · exact iff_of_false (fun ⟨c, hc⟩ => nomatch hc) fun ⟨i, hi, _⟩ => Nat.not_lt_zero i hi.lt
  | cons url more =>
    have hregions (j : Nat) (hj : j < (url :: more).length) :
        ∃ region, regionAt? (url :: more) j = some region := by
      obtain ⟨region, hinfer⟩ := hregions _ (List.getElem_mem hj)
      exact ⟨region, by rw [regionAt?, List.getElem?_eq_getElem hj, Option.bind_some, hinfer]; rfl⟩
    obtain ⟨first, hfirst⟩ := hregions 0 (Nat.succ_pos _)
    have hhome : homeOf (url :: more) s = some (s.region.getD first) := by
      rw [homeOf, hfirst]
      cases s.region <;> rfl
    simp only [hk]
    rw [hhome]
    have hcourse : Course s.account k (url :: more) replies (s.region.getD first) _ _ :=
      course_ask s.account k hregions 0 s.region rfl
        (fun region h => by rw [Option.some.inj (hfirst.symm.trans h)]) nofun
    exact isRound_of_course hregions rfl rfl hcourse

end Rounds

/-! ## A round through two regions -/

namespace Tour

/-- A session at home in the region of the third endpoint. -/
def session : Session where
  publicKey := .text "user"
  privateKey := .text "secret"
  region := some "us"
  endpoint := "https://eu.cloud.example, ,https://eu.cloud.example/v1.0,https://us.cloud.example,x"
  account := "demo"
  endpoint_not_blank := by decide

/-- A success with the given headers. -/
def success (row : List (String × String)) : Reply :=
  .response ⟨204, .ofList row, [], "No Content"⟩

/-- The first answer has the locator that the second endpoint completes, and
the last one has the tokens. -/
def replies : List Reply :=
  [success [("X-Auth-Token", "early"), ("X-Server-Management-Url", "https://eu.compute/")],
   success [("X-Server-Management-Url", " "), ("X-Storage-Url", "https://eu.store")],
   success [("X-Auth-Token", "token"), ("X-Server-Management-Url", "https://us.compute")]]

/-- The last endpoint never sees the credentials. -/
theorem isRound_attempt_tour :
    IsRound session.account ⟨"user", "secret"⟩ (EndpointList.all session.endpoint) replies
        (some "us") ((Dialect.regional.attempt session session.endpoint).hold replies)
      ∧ ((Dialect.regional.attempt session session.endpoint).hold replies).requests.map Request.url
        = ["https://eu.cloud.example", "https://eu.cloud.example/v1.0",
          "https://us.cloud.example"] := by
  have hregions : ∀ url ∈ EndpointList.all session.endpoint,
      ∃ region, Region.infer url = .ok region := by
    have hall : ((EndpointList.all session.endpoint).all fun url =>
        (Region.infer url).toOption.isSome) = true := by decide +kernel
    intro url hurl
    obtain ⟨region, hregion⟩ := Option.isSome_iff_exists.1 (List.all_eq_true.1 hall url hurl)
    exact ⟨region, eq_ok_of_toOption hregion⟩
  exact ⟨isRound_attempt session (k := ⟨"user", "secret"⟩) rfl session.endpoint hregions replies,
    by decide +kernel⟩

end Tour

end CloudClient.RegionalHeaders
