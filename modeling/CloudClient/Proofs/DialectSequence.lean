import CloudClient.Proofs.Containment

/-!
# Which dialects are tried

To authenticate after a plan is to try its dialects in order, and what a
sequence of attempts comes to depends on all of them: each is held with the
replies that the ones before it have left, and the first that does not reject
decides. This module says that without the recursion. `AllReject` is a part of
the order in front, in which every attempt has rejected; `Ending` says what
comes after it; and `hold_follow_iff` that a transcript is the one of the
sequence exactly if it is such an ending. So nothing is sent but by the
attempts up to the deciding one.

A name that nobody has registered ends the sequence where it is reached. That
all dialects have rejected is told from every other ending by the role of the
fault, since no attempt ends in a fault of that role (`Fault.IsOfAttempt`).

## Who is asked

Credentials go out with every request, so it matters which locators are asked
for. An attempt asks for its `Dialect.targets` in order and may stop early; a
sequence asks for those of its dialects, one dialect after another
(`asked_sublist`). A plan for an endpoint with a mark has a single dialect,
and nothing is asked in another one.
-/

namespace CloudClient

/-! ## Attempts -/

namespace Conversation

variable {α : Type} {urls : List String} {c : Conversation α}

/-- A conversation asks for some locators in order, as far as it goes. -/
inductive Asks : List String → Conversation α → Prop where
  | ended (urls : List String) (a : α) : Asks urls (.ended a)
  | sends {urls : List String} {request : Request} {next : Reply → Conversation α}
      (h : ∀ reply, Asks urls (next reply)) : Asks (request.url :: urls) (.sends request next)

theorem Asks.exchange {url : String} {request : Request} {onFault : Fault → Conversation α}
    {onResponse : Response → Conversation α} (hurl : request.url = url)
    (hfault : ∀ fault, Asks urls (onFault fault))
    (hresponse : ∀ response, Asks urls (onResponse response)) :
    Asks (url :: urls) (.exchange request onFault onResponse) := by
  subst hurl
  refine .sends fun reply => ?_
  cases reply with
  | failure failure => exact hfault _
  | response response => exact hresponse response

theorem Asks.hold (h : c.Asks urls) (replies : List Reply) :
    (c.hold replies).requests.map (·.url) <+: urls := by
  induction h generalizing replies with
  | ended urls a => exact List.nil_prefix
  | sends _ ih =>
    cases replies with
    | nil => exact List.cons_prefix_cons.2 ⟨rfl, ih .silence []⟩
    | cons reply more => exact List.cons_prefix_cons.2 ⟨rfl, ih reply more⟩

end Conversation

/-- The locators that an attempt in a dialect asks for, in order. -/
def Dialect.targets (endpoint : String) : Dialect → List String
  | .identity => [Text.withoutTrailing '/' (EndpointList.first endpoint) ++ Identity.tokensPath]
  | .regional => EndpointList.all endpoint
  | .storage => [EndpointList.first endpoint]

theorem RegionalHeaders.asks_ask (account : String) (k : Keys) (urls : List String) :
    ∀ (home : Option String) (endpoints : EndpointMap),
      (ask account k home endpoints urls).Asks urls := by
  induction urls with
  | nil => exact fun _ _ => .ended _ _
  | cons url more ih =>
    intro home endpoints
    unfold ask
    refine .exchange rfl (fun fault => .ended _ _) fun answer => ?_
    split
    · exact .ended _ _
    · exact .ended _ _
    · split
      · exact .ended _ _
      · simp only
        split
        · exact .ended _ _
        · exact ih _ _

/-- **An attempt asks for its targets.** -/
theorem Dialect.asks_attempt (s : Session) (endpoint : String) (d : Dialect) :
    (d.attempt s endpoint).Asks (d.targets endpoint) := by
  cases d with
  | identity =>
    show (Identity.attempt s endpoint).Asks [_]
    unfold Identity.attempt
    split
    · exact .ended _ _
    · exact .exchange rfl (fun fault => .ended _ _) fun answer => .ended _ _
  | regional =>
    show (RegionalHeaders.attempt s endpoint).Asks (EndpointList.all endpoint)
    unfold RegionalHeaders.attempt
    split
    · exact .ended _ _
    · split
      · exact .ended _ _
      · exact RegionalHeaders.asks_ask ..
  | storage =>
    show (StorageHeaders.attempt s endpoint).Asks [_]
    unfold StorageHeaders.attempt
    simp only
    split
    · exact .ended _ _
    · split
      · exact .ended _ _
      · exact .exchange rfl (fun fault => .ended _ _) fun answer => .ended _ _

/-- **How sparing an attempt is**: it asks for its targets, and so at most
once, or once for each part of the endpoint that is not blank. -/
structure Dialect.Sparing (s : Session) (endpoint : String) (replies : List Reply) (d : Dialect) :
    Prop where
  asked : ((d.attempt s endpoint).hold replies).requests.map (·.url) <+: d.targets endpoint
  once : d ≠ .regional → ((d.attempt s endpoint).hold replies).requests.length ≤ 1
  perPart : d = .regional → ((d.attempt s endpoint).hold replies).requests.length
    ≤ (Text.pieces ',' endpoint).countP fun part => Text.trim part != ""

theorem Dialect.sparing (s : Session) (endpoint : String) (replies : List Reply) (d : Dialect) :
    d.Sparing s endpoint replies := by
  have hasked := (d.asks_attempt s endpoint).hold replies
  have hlength := hasked.length_le
  rw [List.length_map] at hlength
  refine ⟨hasked, fun hd => ?_, ?_⟩
  · cases d with
    | identity => exact hlength
    | regional => exact absurd rfl hd
    | storage => exact hlength
  · rintro rfl
    rw [← EndpointList.length_all]
    exact hlength

/-- **The faults of attempts**, also where a session has no readable keys. -/
theorem Dialect.ends_isOfAttempt (s : Session) (endpoint : String) (d : Dialect) :
    (d.attempt s endpoint).Ends (fun _ outcome => ∀ f, outcome = .ok (.failed f) →
      f.IsOfAttempt) none := by
  have hnetwork (request : Request) (failure : NetworkFailure) (f : Fault)
      (h : (.ok (.failed (.network request.method request.url failure)) : Except Defect Outcome)
        = .ok (.failed f)) : f.IsOfAttempt := by
    cases h
    exact .network ..
  cases d with
  | identity =>
    show (Identity.attempt s endpoint).Ends _ _
    unfold Identity.attempt
    split
    · exact .ended nofun
    · exact .exchange (fun failure => .ended (hnetwork _ failure))
        fun answer => .ended fun f h => Identity.isOfAttempt_of_judge h
  | regional =>
    show (RegionalHeaders.attempt s endpoint).Ends _ _
    unfold RegionalHeaders.attempt
    split
    · refine .ended fun f h => ?_
      cases h
      exact .document (.communication ..)
    · split
      · exact .ended nofun
      · exact (RegionalHeaders.ask_contained s _ _ _ _ none nofun).imp fun _ _ h => h.fault
  | storage =>
    show (StorageHeaders.attempt s endpoint).Ends _ _
    unfold StorageHeaders.attempt
    simp only
    split
    · exact .ended nofun
    · rename_i userName _
      split
      · exact .ended nofun
      · rename_i privateKey _
        let request := StorageHeaders.request (EndpointList.first endpoint) userName privateKey
        exact .exchange (fun failure => .ended (hnetwork request failure))
          fun answer => .ended (@StorageHeaders.judge_contained s request answer).fault

namespace Authentication

/-! ## Sequences -/

section Sequences

variable (known : List Dialect) (s : Session) (endpoint : String)

/-- **All have rejected**: the dialects of some names are tried one after the
other, each with the replies that the one before has left, and every attempt
rejects. Their exchanges stand one after the other, and so many replies are
left. -/
inductive AllReject : List String → List Reply → List (Request × Reply) → List Reply → Prop where
  | nil (replies : List Reply) : AllReject [] replies [] replies
  | cons {name : String} {d : Dialect} {why : Rejection} {names : List String}
      {replies : List Reply} {exchanges : List (Request × Reply)} {left : List Reply}
      (hd : Dialect.find? known name = some d)
      (h : ((d.attempt s endpoint).hold replies).outcome = .ok (.rejected why))
      (hmore : AllReject names ((d.attempt s endpoint).hold replies).left exchanges left) :
      AllReject (name :: names) replies
        (((d.attempt s endpoint).hold replies).exchanges ++ exchanges) left

/-- What a sequence comes to by an attempt that does not reject. -/
inductive Decides : Except Defect Outcome → Except Failure Catalog → Prop where
  | catalog (catalog : Catalog) : Decides (.ok (.authenticated catalog)) (.ok catalog)
  | fault (f : Fault) : Decides (.ok (.failed f)) (.error (.fault f))
  | defect (defect : Defect) : Decides (.error defect) (.error (.defect defect))

/-- **How a sequence ends**, and what has been said by then. -/
inductive Ending (order : List String) (replies : List Reply) :
    Transcript (Except Failure Catalog) → Prop where
  /-- All dialects have rejected. -/
  | exhausted {exchanges : List (Request × Reply)} {left : List Reply}
      (h : AllReject known s endpoint order replies exchanges left) :
      Ending order replies
        ⟨.error (.fault (.authenticationFailed (some endpoint))), exchanges, left⟩
  /-- After rejections comes a name without a dialect. -/
  | unknown {earlier later : List String} {name : String} {exchanges : List (Request × Reply)}
      {left : List Reply} (horder : order = earlier ++ name :: later)
      (h : AllReject known s endpoint earlier replies exchanges left)
      (hname : Dialect.find? known name = none) :
      Ending order replies
        ⟨.error (.fault (.internal (.unknownDialect name) [] none)), exchanges, left⟩
  /-- After rejections comes an attempt that does not reject. -/
  | decided {earlier later : List String} {name : String} {d : Dialect}
      {exchanges : List (Request × Reply)} {left : List Reply}
      {result : Except Failure Catalog} (horder : order = earlier ++ name :: later)
      (h : AllReject known s endpoint earlier replies exchanges left)
      (hname : Dialect.find? known name = some d)
      (hdecides : Decides ((d.attempt s endpoint).hold left).outcome result) :
      Ending order replies
        ⟨result, exchanges ++ ((d.attempt s endpoint).hold left).exchanges,
          ((d.attempt s endpoint).hold left).left⟩

end Sequences

section Holding

variable {known : List Dialect} {s : Session} {endpoint : String} {names order : List String}
  {replies left : List Reply} {exchanges : List (Request × Reply)}
  {t : Transcript (Except Failure Catalog)}

/-- **After rejections it goes on with the other names.** -/
theorem AllReject.hold_tryAll (h : AllReject known s endpoint names replies exchanges left)
    (others : List String) :
    (tryAll known s endpoint (names ++ others)).hold replies
      = { (tryAll known s endpoint others).hold left with
          exchanges := exchanges ++ ((tryAll known s endpoint others).hold left).exchanges } := by
  induction h with
  | nil => rfl
  | cons hd h hmore ih =>
    rw [List.cons_append, tryAll, hd]
    simp only [Conversation.hold_andThen, h, proceed, ih, List.append_assoc]

theorem hold_tryAll_of_unknown {name : String} (h : Dialect.find? known name = none)
    (others : List String) (replies : List Reply) :
    (tryAll known s endpoint (name :: others)).hold replies
      = ⟨.error (.fault (.internal (.unknownDialect name) [] none)), [], replies⟩ := by
  rw [tryAll, h]
  rfl

theorem hold_tryAll_of_decides {name : String} {d : Dialect} {result : Except Failure Catalog}
    (h : Dialect.find? known name = some d)
    (hdecides : Decides ((d.attempt s endpoint).hold replies).outcome result)
    (others : List String) :
    (tryAll known s endpoint (name :: others)).hold replies
      = ⟨result, ((d.attempt s endpoint).hold replies).exchanges,
          ((d.attempt s endpoint).hold replies).left⟩ := by
  rw [tryAll, h]
  simp only [Conversation.hold_andThen]
  generalize ((d.attempt s endpoint).hold replies).outcome = outcome at hdecides ⊢
  cases hdecides <;> simp [proceed]

/-- An ending after one more rejection. -/
theorem Ending.after_rejection {name : String} {d : Dialect} {why : Rejection}
    (hd : Dialect.find? known name = some d)
    (h : ((d.attempt s endpoint).hold replies).outcome = .ok (.rejected why))
    (hmore : Ending known s endpoint order ((d.attempt s endpoint).hold replies).left t) :
    Ending known s endpoint (name :: order) replies
      { t with exchanges := ((d.attempt s endpoint).hold replies).exchanges ++ t.exchanges } := by
  cases hmore with
  | exhausted hall => exact .exhausted (.cons hd h hall)
  | unknown horder hall hname => exact .unknown (congrArg _ horder) (.cons hd h hall) hname
  | decided horder hall hname hdecides =>
    rw [← List.append_assoc]
    exact .decided (congrArg _ horder) (.cons hd h hall) hname hdecides

/-- Every sequence has an ending. -/
theorem ending_hold_tryAll (known : List Dialect) (s : Session) (endpoint : String)
    (order : List String) (replies : List Reply) :
    Ending known s endpoint order replies ((tryAll known s endpoint order).hold replies) := by
  induction order generalizing replies with
  | nil => exact .exhausted (.nil replies)
  | cons name order ih =>
    cases hd : Dialect.find? known name with
    | none =>
      rw [hold_tryAll_of_unknown hd]
      exact .unknown (List.nil_append _).symm (.nil replies) hd
    | some d =>
      have hdecided {outcome : Except Defect Outcome} {result : Except Failure Catalog}
          (houtcome : ((d.attempt s endpoint).hold replies).outcome = outcome)
          (hdecides : Decides outcome result) : Ending known s endpoint (name :: order) replies
            ((tryAll known s endpoint (name :: order)).hold replies) := by
        subst houtcome
        rw [hold_tryAll_of_decides hd hdecides]
        exact .decided (List.nil_append _).symm (.nil replies) hd hdecides
      cases houtcome : ((d.attempt s endpoint).hold replies).outcome with
      | error defect => exact hdecided houtcome (.defect defect)
      | ok outcome =>
        cases outcome with
        | authenticated catalog => exact hdecided houtcome (.catalog catalog)
        | failed f => exact hdecided houtcome (.fault f)
        | rejected why =>
          have hrejected : AllReject known s endpoint [name] replies _ _ :=
            .cons hd houtcome (.nil _)
          rw [← List.singleton_append, hrejected.hold_tryAll, List.append_nil]
          exact (ih _).after_rejection hd houtcome

/-- **A transcript is the one of the sequence exactly if it is an ending.** -/
theorem hold_follow_iff {plan : Plan} :
    (follow known plan s).hold replies = t ↔ Ending known s plan.endpoint plan.order replies t := by
  constructor
  · rintro rfl
    exact ending_hold_tryAll ..
  · intro h
    unfold follow
    cases h with
    | exhausted h =>
      have hhold := h.hold_tryAll []
      rw [List.append_nil] at hhold
      rw [hhold]
      simp [tryAll]
    | unknown horder h hname =>
      rw [horder, h.hold_tryAll, hold_tryAll_of_unknown hname]
      simp
    | decided horder h hname hdecides =>
      rw [horder, h.hold_tryAll, hold_tryAll_of_decides hname hdecides]

end Holding

/-! ## When all have rejected -/

/-- A fault that says that all dialects have rejected. -/
def IsExhaustion : Except Failure Catalog → Prop
  | .error (.fault (.cloud (.authenticationFailed _) _ _ _ _ _)) => True
  | _ => False

theorem not_isExhaustion_of_isOfAttempt {f : Fault} (h : f.IsOfAttempt) :
    ¬ IsExhaustion (.error (.fault f)) := by
  cases h with
  | network => exact id
  | document h => cases h <;> exact id
  | reported => exact id

theorem isExhaustion_iff {known : List Dialect} {plan : Plan} {s : Session}
    {replies : List Reply} :
    IsExhaustion ((follow known plan s).hold replies).outcome
      ↔ ∃ exchanges left, AllReject known s plan.endpoint plan.order replies exchanges left := by
  constructor
  · intro h
    have hending := hold_follow_iff.1 (Eq.refl ((follow known plan s).hold replies))
    generalize (follow known plan s).hold replies = t at h hending
    cases hending with
    | exhausted hall => exact ⟨_, _, hall⟩
    | unknown => exact h.elim
    | decided _ _ _ hdecides =>
      generalize houtcome : (Conversation.hold _ _).outcome = outcome at hdecides
      cases hdecides with
      | catalog => exact h.elim
      | fault f => exact absurd h (not_isExhaustion_of_isOfAttempt
          ((Dialect.ends_isOfAttempt ..).hold _ f houtcome))
      | defect => exact h.elim
  · rintro ⟨exchanges, left, h⟩
    rw [hold_follow_iff.2 (.exhausted h)]
    trivial

/-! ## Who is asked -/

/-- **A sequence asks for the targets of its dialects**, one dialect after
another. -/
theorem asked_sublist (known : List Dialect) (s : Session) (endpoint : String)
    (names : List String) (replies : List Reply) :
    (((tryAll known s endpoint names).hold replies).requests.map (·.url)).Sublist
      ((names.filterMap (Dialect.find? known)).flatMap (Dialect.targets endpoint)) := by
  induction names generalizing replies with
  | nil => exact List.nil_sublist _
  | cons name names ih =>
    cases hd : Dialect.find? known name with
    | none =>
      rw [hold_tryAll_of_unknown hd]
      exact List.nil_sublist _
    | some d =>
      rw [List.filterMap_cons_some hd, List.flatMap_cons, tryAll, hd, Conversation.hold_andThen]
      simp only [Transcript.requests, List.map_append]
      refine ((d.asks_attempt s endpoint).hold replies).sublist.append ?_
      generalize (d.attempt s endpoint).hold replies = first
      obtain ⟨defect | catalog | why | f, exchanges, left⟩ := first
      · exact List.nil_sublist _
      · exact List.nil_sublist _
      · exact ih left
      · exact List.nil_sublist _

/-- **What the endpoint chooses**: the dialects to try, in order, and what they
are tried with. -/
inductive Chosen (endpoint : String) : List Dialect → String → Prop where
  | identity {rest : String} (h : Text.trim endpoint = Plan.identityMark ++ rest) :
      Chosen endpoint [.identity] rest
  | regional {rest : String} (h : Text.trim endpoint = Plan.regionalMark ++ rest) :
      Chosen endpoint [.regional] rest
  /-- Without a mark and with an early ending, slashes aside. -/
  | early (hidentity : ∀ rest, Text.trim endpoint ≠ Plan.identityMark ++ rest)
      (hregional : ∀ rest, Text.trim endpoint ≠ Plan.regionalMark ++ rest)
      (h : ∃ ending ∈ Plan.earlyEndings, ∃ front,
        Text.withoutTrailing '/' (Text.trim endpoint) = front ++ ending) :
      Chosen endpoint [.regional, .storage, .identity] (Text.trim endpoint)
  | late (hidentity : ∀ rest, Text.trim endpoint ≠ Plan.identityMark ++ rest)
      (hregional : ∀ rest, Text.trim endpoint ≠ Plan.regionalMark ++ rest)
      (h : ¬ ∃ ending ∈ Plan.earlyEndings, ∃ front,
        Text.withoutTrailing '/' (Text.trim endpoint) = front ++ ending) :
      Chosen endpoint [.identity, .regional, .storage] (Text.trim endpoint)

theorem isEarly_iff {endpoint : String} :
    Plan.isEarly endpoint = true ↔ ∃ ending ∈ Plan.earlyEndings, ∃ front,
      Text.withoutTrailing '/' endpoint = front ++ ending := by
  unfold Plan.isEarly
  simp only [List.any_eq_true, Text.endsWith_iff]

theorem exists_chosen (endpoint : String) :
    ∃ ds rest, Chosen endpoint ds rest ∧ Plan.choose endpoint = .of ds rest := by
  unfold Plan.choose
  simp only
  split
  · rename_i hidentity
    obtain ⟨rest, h⟩ := Text.startsWith_iff.1 hidentity
    rw [h, Text.dropFirst_append]
    exact ⟨_, _, .identity h, rfl⟩
  · rename_i hidentity
    rw [Text.startsWith_iff, not_exists] at hidentity
    split
    · rename_i hregional
      obtain ⟨rest, h⟩ := Text.startsWith_iff.1 hregional
      rw [h, Text.dropFirst_append]
      exact ⟨_, _, .regional h, rfl⟩
    · rename_i hregional
      rw [Text.startsWith_iff, not_exists] at hregional
      split
      · rename_i hearly
        exact ⟨_, _, .early hidentity hregional (isEarly_iff.1 hearly), rfl⟩
      · rename_i hlate
        exact ⟨_, _, .late hidentity hregional (mt isEarly_iff.2 hlate), rfl⟩

/-- The names of dialects are found among all dialects. -/
theorem filterMap_find?_names (ds : List Dialect) :
    (ds.map Dialect.name).filterMap (Dialect.find? Dialect.all) = ds := by
  have hfound : Dialect.find? Dialect.all ∘ Dialect.name = some := by
    funext d
    cases d <;> rfl
  rw [List.filterMap_map, hfound, List.filterMap_some]

/-! ## Altogether -/

/-- What a sequence after a plan comes to, whatever is replied. -/
structure Sequencing (known : List Dialect) (plan : Plan) (s : Session) (replies : List Reply) :
    Prop where
  /-- The transcript is the one that ends with the first attempt that does not
  reject, or the first name without a dialect. -/
  ending : ∀ t, (follow known plan s).hold replies = t
    ↔ Ending known s plan.endpoint plan.order replies t
  /-- It fails as exhausted only when there is neither. -/
  exhausted : IsExhaustion ((follow known plan s).hold replies).outcome
    ↔ ∃ exchanges left, AllReject known s plan.endpoint plan.order replies exchanges left
  asked : (((follow known plan s).hold replies).requests.map (·.url)).Sublist
    ((plan.order.filterMap (Dialect.find? known)).flatMap (Dialect.targets plan.endpoint))

/-- What a sequence after the plan for the endpoint does. -/
structure AsChosen (s : Session) (replies : List Reply) (ds : List Dialect) (rest : String) :
    Prop where
  chosen : Chosen s.endpoint ds rest
  plan : Plan.choose s.endpoint = .of ds rest
  asked : (((usual s).hold replies).requests.map (·.url)).Sublist
    (ds.flatMap (Dialect.targets rest))
  /-- Of a single dialect there is a single attempt. -/
  alone : ∀ d, ds = [d] →
    ((usual s).hold replies).exchanges = ((d.attempt s rest).hold replies).exchanges

theorem exists_asChosen (s : Session) (replies : List Reply) :
    ∃ ds rest, AsChosen s replies ds rest := by
  obtain ⟨ds, rest, hchosen, hplan⟩ := exists_chosen s.endpoint
  refine ⟨ds, rest, hchosen, hplan, ?_, ?_⟩
  · have hasked := asked_sublist Dialect.all s rest (Plan.of ds rest).order replies
    rw [Plan.of, filterMap_find?_names] at hasked
    unfold usual follow
    rw [hplan]
    exact hasked
  · rintro d rfl
    have hname : Dialect.find? Dialect.all d.name = some d := by cases d <;> rfl
    unfold usual follow
    rw [hplan]
    show ((tryAll Dialect.all s rest [d.name]).hold replies).exchanges = _
    rw [tryAll, hname, Conversation.hold_andThen]
    simp only
    generalize (d.attempt s rest).hold replies = first
    obtain ⟨defect | catalog | why | f, exchanges, left⟩ := first <;>
      exact List.append_nil exchanges

/-- **The sequence of dialects.** Whatever is registered, planned and replied,
it ends as described; every attempt is sparing; and after the plan for an
endpoint nothing is asked for but the targets of the dialects that the
endpoint chooses. -/
theorem dialect_sequence (known : List Dialect) (plan : Plan) (s : Session)
    (replies : List Reply) :
    Sequencing known plan s replies
      ∧ (∀ (d : Dialect) (endpoint : String), d.Sparing s endpoint replies)
      ∧ ∃ ds rest, AsChosen s replies ds rest :=
  ⟨⟨fun _ => hold_follow_iff, isExhaustion_iff, asked_sublist ..⟩,
    fun d endpoint => d.sparing s endpoint replies, exists_asChosen s replies⟩

end Authentication

end CloudClient
