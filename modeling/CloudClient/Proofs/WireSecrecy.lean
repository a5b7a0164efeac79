import CloudClient.Authentication.Sequence
import Mathlib.Data.List.Forall2

/-!
# What the wire log gives away

Where credentials go out in headers, the secret key is in every request and
the tokens are in the last answer, and the wire log writes all headers down.
It masks the values of some. That this is enough is a statement about *two*
runs: whoever reads the log of one cannot tell it from the log of another,
with another key and with other tokens.

Two things could go wrong, and a look at a single run shows neither. A value
could slip past the mask, because its header is spelt in another case or met
in another place; or a secret could decide how a run goes on, and then the log
has it though no record shows it. An attempt asks one endpoint after the
other, so the second is a matter of the whole run.

The two runs are followed side by side. Rows of headers are *alike* if they
differ in the values of secret headers only, and so are requests and replies.
Two conversations are alike if they send alike requests and alike replies lead
them to alike conversations (`Conversation.Alike`), and such conversations
leave the same log (`Alike.wireLog_hold`). An attempt through headers is alike
for any two keys: what is asked next depends on status, body and the host that
has been asked, and on no header.

Which headers are secret is said here once more, by their names
(`WireLog.secretNames`), so that the statement does not rest on the table of
the log itself.
-/

namespace CloudClient

/-! ## Secret headers -/

namespace WireLog

/-- The headers whose values are secret. -/
def secretNames : List String :=
  ["X-Auth-Token", "X-Storage-Token", "X-Auth-Key", "Authorization"]

/-- A header is secret, in whatever case its name is written. -/
def IsSecret (name : String) : Prop :=
  ∃ secret ∈ secretNames, Text.sameIgnoringCase name secret = true

/-- **Every secret header is masked.** -/
theorem isSensitive_of_isSecret {name : String} (h : IsSecret name) : isSensitive name = true := by
  obtain ⟨secret, hmem, hsame⟩ := h
  have hmasked : ∀ secret ∈ secretNames, isSensitive secret = true := by decide +kernel
  show sensitive.contains (Text.lower name) = true
  rw [show Text.lower name = Text.lower secret from eq_of_beq hsame]
  exact hmasked secret hmem

variable {α : Type}

/-- Two headers have one name, and one value as well unless they are secret. -/
def SameHeader (a b : String × α) : Prop := a.1 = b.1 ∧ (a.2 = b.2 ∨ IsSecret a.1)

/-- Headers that differ in secret values only are masked to the same. -/
theorem mask_eq_of_same {row row' : List (String × Json)}
    (h : List.Forall₂ SameHeader row row') : mask row = mask row' := by
  induction h with
  | nil => rfl
  | @cons a b more more' hab _ ih =>
    have hentry : maskEntry a = maskEntry b := by
      obtain ⟨name, value⟩ := a
      obtain ⟨name', value'⟩ := b
      obtain ⟨rfl, rfl | hsecret⟩ : name = name' ∧ (value = value' ∨ IsSecret name) := hab
      · rfl
      · unfold maskEntry
        rw [isSensitive_of_isSecret hsecret]
        rfl
    show maskEntry a :: mask more = maskEntry b :: mask more'
    rw [hentry, ih]

end WireLog

open WireLog

/-! ## Maps of alike entries -/

namespace Entries

variable {κ ν : Type} [BEq κ] [LawfulBEq κ] {R : κ → ν → ν → Prop}

/-- Entries with equal keys in the same places, and related values. -/
abbrev Alike (R : κ → ν → ν → Prop) : List (κ × ν) → List (κ × ν) → Prop :=
  List.Forall₂ fun a b => a.1 = b.1 ∧ R a.1 a.2 b.2

variable {entries entries' : List (κ × ν)} {k : κ} {v v' : ν}

omit [LawfulBEq κ] in
theorem Alike.has_eq (h : Alike R entries entries') (k : κ) : has entries k = has entries' k := by
  induction h with
  | nil => rfl
  | cons hab _ ih =>
    unfold has at ih ⊢
    rw [List.any_cons, List.any_cons, hab.1, ih]

theorem Alike.replace (h : Alike R entries entries') (hv : R k v v') :
    Alike R (replace entries k v) (replace entries' k v') := by
  unfold Entries.replace
  rw [Alike, List.forall₂_map_left_iff, List.forall₂_map_right_iff]
  refine h.imp fun a b hab => ?_
  rw [← hab.1]
  by_cases hk : a.1 = k
  · rw [if_pos (beq_iff_eq.2 hk), if_pos (beq_iff_eq.2 hk), hk]
    exact ⟨rfl, hv⟩
  · rw [if_neg fun h => hk (eq_of_beq h), if_neg fun h => hk (eq_of_beq h)]
    exact hab

/-- Setting a key to related values keeps maps alike. -/
theorem Alike.put (h : Alike R entries entries') (hv : R k v v') :
    Alike R (put entries k v) (put entries' k v') := by
  unfold Entries.put
  rw [h.has_eq k]
  split
  · exact h.replace hv
  · exact List.rel_append h (.cons ⟨rfl, hv⟩ .nil)

end Entries

namespace OrderedMap

variable {κ ν : Type} [BEq κ] [LawfulBEq κ] {R : κ → ν → ν → Prop}

theorem alike_putAll {pairs pairs' : List (κ × ν)} (h : Entries.Alike R pairs pairs') :
    ∀ m m' : OrderedMap κ ν, Entries.Alike R m.entries m'.entries →
      Entries.Alike R (m.putAll pairs).entries (m'.putAll pairs').entries := by
  induction h with
  | nil => exact fun _ _ hm => hm
  | @cons a b more more' hab _ ih =>
    intro m m' hm
    refine ih (m.put a.1 a.2) (m'.put b.1 b.2) ?_
    rw [entries_put, entries_put, ← hab.1]
    exact hm.put hab.2

theorem alike_ofList {pairs pairs' : List (κ × ν)} (h : Entries.Alike R pairs pairs') :
    Entries.Alike R (ofList pairs).entries (ofList pairs').entries :=
  alike_putAll h empty empty .nil

end OrderedMap

/-! ## Alike requests and replies -/

/-- **Two requests are alike**: they differ in the values of secret headers
only. -/
structure Request.Alike (a b : Request) : Prop where
  method : a.method = b.method
  url : a.url = b.url
  headers : List.Forall₂ SameHeader a.headers.entries b.headers.entries
  body : a.body = b.body

theorem Request.Alike.ofRequest_eq {a b : Request} (h : a.Alike b) :
    WireLog.ofRequest a = WireLog.ofRequest b := by
  unfold WireLog.ofRequest
  rw [h.method, h.url, h.body, mask_eq_of_same h.headers]

/-- **Two replies are alike**: the same failure, or two responses that arrive
with headers of the same names in the same order, which differ in the values
of secret ones only. -/
inductive Reply.Alike : Reply → Reply → Prop where
  | failure (f : NetworkFailure) : Alike (.failure f) (.failure f)
  | response {row row' : List (String × String)} (status : Int) (body : Octets) (reason : String)
      (h : List.Forall₂ SameHeader row row') :
      Alike (.response ⟨status, .ofList row, body, reason⟩)
        (.response ⟨status, .ofList row', body, reason⟩)

namespace ResponseHeaders

/-- Headers stand under their names in lower case, with the spelling in which
they have come. -/
abbrev Stored (_ : String) (a b : String × String) : Prop := SameHeader a b

theorem stored_set {row row' : List (String × String)} (h : List.Forall₂ SameHeader row row') :
    ∀ m m' : ResponseHeaders, Entries.Alike Stored m.entries.entries m'.entries.entries →
      Entries.Alike Stored (row.foldl (fun h e => h.set e.1 e.2) m).entries.entries
        (row'.foldl (fun h e => h.set e.1 e.2) m').entries.entries := by
  induction h with
  | nil => exact fun _ _ hm => hm
  | @cons a b more more' hab _ ih =>
    intro m m' hm
    refine ih (m.set a.1 a.2) (m'.set b.1 b.2) ?_
    show Entries.Alike Stored (Entries.put m.entries.entries (Text.lower a.1) a)
      (Entries.put m'.entries.entries (Text.lower b.1) b)
    rw [← hab.1]
    exact hm.put hab

/-- Rows of headers that differ in secret values only are merged to headers
that do. -/
theorem same_toList {row row' : List (String × String)} (h : List.Forall₂ SameHeader row row') :
    List.Forall₂ SameHeader (ofList row).toList (ofList row').toList := by
  have hfirst : List.Forall₂ SameHeader (OrderedMap.ofList row).entries
      (OrderedMap.ofList row').entries :=
    OrderedMap.alike_ofList (R := fun name value value' => value = value' ∨ IsSecret name) h
  have hmerged := stored_set hfirst empty empty .nil
  show List.Forall₂ SameHeader (List.map Prod.snd _) (List.map Prod.snd _)
  rw [List.forall₂_map_left_iff, List.forall₂_map_right_iff]
  exact hmerged.imp fun _ _ hab => hab.2

end ResponseHeaders

/-- The records of alike exchanges are the same. -/
theorem WireLog.ofExchange_eq {request request' : Request} {reply reply' : Reply}
    (hrequest : request.Alike request') (hreply : reply.Alike reply') :
    ofExchange request reply = ofExchange request' reply' := by
  cases hreply with
  | failure f => exact hrequest.ofRequest_eq
  | @response row row' status body reason h =>
    have hmask : mask ((ResponseHeaders.ofList row).toList.map fun h => (h.1, Json.str h.2))
        = mask ((ResponseHeaders.ofList row').toList.map fun h => (h.1, Json.str h.2)) := by
      refine mask_eq_of_same ?_
      rw [List.forall₂_map_left_iff, List.forall₂_map_right_iff]
      refine (ResponseHeaders.same_toList h).imp fun a b hab => ⟨hab.1, hab.2.imp_left ?_⟩
      exact congrArg fun value => Json.str (RawText.ofString value)
    show ofRequest request ++ ofResponse _ = ofRequest request' ++ ofResponse _
    unfold ofResponse
    rw [hrequest.ofRequest_eq, hmask]

/-! ## Alike conversations -/

namespace Conversation

variable {α : Type} {c c' : Conversation α} {replies replies' : List Reply}

/-- **Two conversations are alike**: they send alike requests, and alike
replies lead them to alike conversations. What they end with is left open. -/
inductive Alike : Conversation α → Conversation α → Prop where
  | ended (a b : α) : Alike (.ended a) (.ended b)
  | sends {request request' : Request} {next next' : Reply → Conversation α}
      (hrequest : request.Alike request')
      (h : ∀ reply reply', reply.Alike reply' → Alike (next reply) (next' reply')) :
      Alike (.sends request next) (.sends request' next')

/-- An exchange goes on alike if its two ways on do. -/
theorem Alike.exchange {request request' : Request} {onFault onFault' : Fault → Conversation α}
    {onResponse onResponse' : Response → Conversation α} (hrequest : request.Alike request')
    (hfault : ∀ f f', (onFault f).Alike (onFault' f'))
    (hresponse : ∀ answer answer', (Reply.response answer).Alike (.response answer') →
      (onResponse answer).Alike (onResponse' answer')) :
    (exchange request onFault onResponse).Alike (exchange request' onFault' onResponse') := by
  refine .sends hrequest fun reply reply' h => ?_
  cases h with
  | failure f => exact hfault _ _
  | response status body reason h => exact hresponse _ _ (.response status body reason h)

/-- **Alike conversations with alike replies** exchange alike requests and
replies, in the same number, and the same number of replies is left. -/
theorem Alike.hold (h : c.Alike c') (hreplies : List.Forall₂ Reply.Alike replies replies') :
    List.Forall₂ (fun e e' => e.1.Alike e'.1 ∧ e.2.Alike e'.2)
        (c.hold replies).exchanges (c'.hold replies').exchanges
      ∧ List.Forall₂ Reply.Alike (c.hold replies).left (c'.hold replies').left := by
  induction h generalizing replies replies' with
  | ended a b => exact ⟨.nil, hreplies⟩
  | sends hrequest _ ih =>
    cases hreplies with
    | nil =>
      have hsilence : Reply.silence.Alike Reply.silence := .failure _
      obtain ⟨hexchanges, hleft⟩ := ih .silence .silence hsilence .nil
      exact ⟨.cons ⟨hrequest, hsilence⟩ hexchanges, hleft⟩
    | cons hreply hmore =>
      obtain ⟨hexchanges, hleft⟩ := ih _ _ hreply hmore
      exact ⟨.cons ⟨hrequest, hreply⟩ hexchanges, hleft⟩

/-- **The logs of alike conversations are the same.** -/
theorem Alike.wireLog_hold (h : c.Alike c') (hreplies : List.Forall₂ Reply.Alike replies replies') :
    (c.hold replies).wireLog = (c'.hold replies').wireLog := by
  have hexchanges := (h.hold hreplies).1
  unfold Transcript.wireLog
  generalize (c.hold replies).exchanges = exchanges at hexchanges ⊢
  generalize (c'.hold replies').exchanges = exchanges' at hexchanges ⊢
  induction hexchanges with
  | nil => rfl
  | cons hexchange _ ih =>
    rw [List.flatMap_cons, List.flatMap_cons, ih,
      WireLog.ofExchange_eq hexchange.1 hexchange.2]

/-- And so are the requests, but for secret headers. -/
theorem Alike.requests_hold (h : c.Alike c')
    (hreplies : List.Forall₂ Reply.Alike replies replies') :
    List.Forall₂ Request.Alike (c.hold replies).requests (c'.hold replies').requests := by
  unfold Transcript.requests
  rw [List.forall₂_map_left_iff, List.forall₂_map_right_iff]
  exact (h.hold hreplies).1.imp fun _ _ hexchange => hexchange.1

end Conversation

/-! ## Attempts through headers -/

theorem WireLog.isSecret_key : IsSecret "X-Auth-Key" :=
  ⟨"X-Auth-Key", by decide, BEq.rfl⟩

/-- What an answer refuses is not in its headers. -/
theorem Reply.Alike.refusal?_eq {answer answer' : Response}
    (h : (Reply.response answer).Alike (.response answer')) (url : String) :
    ServiceHeaders.refusal? answer url = ServiceHeaders.refusal? answer' url := by
  cases h
  rfl

namespace StorageHeaders

theorem request_alike (url userName privateKey privateKey' : String) :
    (request url userName privateKey).Alike (request url userName privateKey') where
  method := rfl
  url := rfl
  headers := OrderedMap.alike_ofList (R := fun name value value' => value = value' ∨ IsSecret name)
    (.cons ⟨rfl, .inl rfl⟩ (.cons ⟨rfl, .inr isSecret_key⟩ .nil))
  body := rfl

theorem attempt_alike (s : Session) {key key' : AccessKey} (hkey : ∃ text, key.read = .ok text)
    (hkey' : ∃ text, key'.read = .ok text) (endpoints : String) :
    (attempt { s with privateKey := key } endpoints).Alike
      (attempt { s with privateKey := key' } endpoints) := by
  obtain ⟨text, hkey⟩ := hkey
  obtain ⟨text', hkey'⟩ := hkey'
  unfold attempt user
  simp only [Session.publicText, Session.privateText, hkey, hkey']
  split
  · exact .ended _ _
  · exact .exchange (request_alike ..) (fun _ _ => .ended _ _) fun _ _ _ => .ended _ _

end StorageHeaders

namespace RegionalHeaders

theorem request_alike (account publicKey privateKey privateKey' url : String) :
    (request account ⟨publicKey, privateKey⟩ url).Alike
      (request account ⟨publicKey, privateKey'⟩ url) where
  method := rfl
  url := rfl
  headers := OrderedMap.alike_ofList (R := fun name value value' => value = value' ∨ IsSecret name)
    (.cons ⟨rfl, .inl rfl⟩ (.cons ⟨rfl, .inr isSecret_key⟩ (.cons ⟨rfl, .inl rfl⟩ .nil)))
  body := rfl

/-- **The endpoints asked in order.** The services learnt may be different in
the two runs, since locators could be anything; the home region is the same. -/
theorem ask_alike (account publicKey privateKey privateKey' : String) (urls : List String) :
    ∀ (home : Option String) (endpoints endpoints' : EndpointMap),
      (ask account ⟨publicKey, privateKey⟩ home endpoints urls).Alike
        (ask account ⟨publicKey, privateKey'⟩ home endpoints' urls) := by
  induction urls with
  | nil => exact fun _ _ _ => .ended _ _
  | cons url more ih =>
    intro home endpoints endpoints'
    unfold ask
    refine .exchange (request_alike ..) (fun _ _ => .ended _ _) fun answer answer' h => ?_
    rw [← h.refusal?_eq url]
    cases ServiceHeaders.refusal? answer url with
    | error defect => exact .ended _ _
    | ok refusal =>
      cases refusal with
      | some outcome => exact .ended _ _
      | none =>
        cases Region.infer url with
        | error fault => exact .ended _ _
        | ok region =>
          by_cases hhome : region = home.getD region
          · simp only [← hhome, ↓reduceIte]
            exact .ended _ _
          · simp only [hhome, ↓reduceIte]
            exact ih _ _ _

theorem attempt_alike (s : Session) {key key' : AccessKey} (hkey : ∃ text, key.read = .ok text)
    (hkey' : ∃ text, key'.read = .ok text) (endpoints : String) :
    (attempt { s with privateKey := key } endpoints).Alike
      (attempt { s with privateKey := key' } endpoints) := by
  obtain ⟨text, hkey⟩ := hkey
  obtain ⟨text', hkey'⟩ := hkey'
  unfold attempt keys
  simp only [Session.publicText, Session.privateText, hkey, hkey']
  split
  · exact .ended _ _
  · cases s.publicKey.read with
    | error defect => exact .ended _ _
    | ok publicKey => exact ask_alike ..

end RegionalHeaders

/-- **The wire log tells no secret** of an attempt through headers. Runs with
two private keys, and with replies that differ in the values of secret
headers, ask the same endpoints in the same order and leave the same log;
their requests are the same but for the key. It makes no difference how many
endpoints are asked or how the attempt ends. -/
theorem wireLog_tells_no_secret {d : Dialect} (hd : d ≠ .identity) (s : Session)
    {key key' : AccessKey} (hkey : ∃ text, key.read = .ok text)
    (hkey' : ∃ text, key'.read = .ok text) (endpoint : String) {replies replies' : List Reply}
    (hreplies : List.Forall₂ Reply.Alike replies replies') :
    let t := (d.attempt { s with privateKey := key } endpoint).hold replies
    let t' := (d.attempt { s with privateKey := key' } endpoint).hold replies'
    t.requests.map Request.url = t'.requests.map Request.url
      ∧ t.wireLog = t'.wireLog
      ∧ List.Forall₂ Request.Alike t.requests t'.requests := by
  have halike : (d.attempt { s with privateKey := key } endpoint).Alike
      (d.attempt { s with privateKey := key' } endpoint) := by
    cases d with
    | identity => exact absurd rfl hd
    | regional => exact RegionalHeaders.attempt_alike s hkey hkey' endpoint
    | storage => exact StorageHeaders.attempt_alike s hkey hkey' endpoint
  have hrequests := halike.requests_hold hreplies
  refine ⟨?_, halike.wireLog_hold hreplies, hrequests⟩
  rw [← List.forall₂_eq_eq_eq, List.forall₂_map_left_iff, List.forall₂_map_right_iff]
  exact hrequests.imp fun _ _ h => h.url

/-! ## Two runs in two regions -/

namespace Masked

/-- A session that chooses the region of the second endpoint. -/
def session : Session where
  publicKey := .text "user"
  region := some "us"
  endpoint := "https://eu.cloud.example, https://us.cloud.example"
  account := "demo"
  endpoint_not_blank := by decide

/-- A success with a token, under a name in mixed case and under the usual
one. -/
def success (early token : String) : Reply :=
  .response ⟨204, .ofList [("x-AUTH-token", early), ("Server", "cloud"), ("X-Auth-Token", token)],
    [], "No Content"⟩

theorem success_alike (early early' token token' : String) :
    (success early token).Alike (success early' token') := by
  have htoken : IsSecret "X-Auth-Token" := ⟨"X-Auth-Token", by decide, BEq.rfl⟩
  have hearly : IsSecret "x-AUTH-token" := ⟨"X-Auth-Token", by decide, by decide +kernel⟩
  exact .response _ _ _
    (.cons ⟨rfl, .inr hearly⟩ (.cons ⟨rfl, .inl rfl⟩ (.cons ⟨rfl, .inr htoken⟩ .nil)))

/-- One run with a key as text, the other with another as octets. -/
theorem wireLog_tells_no_secret_masked :
    let t := (Dialect.regional.attempt { session with privateKey := .text "first" }
      session.endpoint).hold [success "a" "b", success "c" "d"]
    let t' := (Dialect.regional.attempt { session with privateKey := .octets [120, 121] }
      session.endpoint).hold [success "e" "f", success "g" "h"]
    t.requests.map Request.url = ["https://eu.cloud.example", "https://us.cloud.example"]
      ∧ t'.requests.map Request.url = ["https://eu.cloud.example", "https://us.cloud.example"]
      ∧ t.wireLog = t'.wireLog := by
  have hkey : ∃ text, (AccessKey.text "first").read = .ok text := ⟨_, rfl⟩
  have hkey' : ∃ text, (AccessKey.octets [120, 121]).read = .ok text := ⟨"xy", by decide +kernel⟩
  obtain ⟨hurls, hlog, _⟩ := wireLog_tells_no_secret (d := .regional) nofun session hkey hkey'
    session.endpoint
    (.cons (success_alike "a" "e" "b" "f") (.cons (success_alike "c" "g" "d" "h") .nil))
  have hasked : ((Dialect.regional.attempt { session with privateKey := .text "first" }
      session.endpoint).hold [success "a" "b", success "c" "d"]).requests.map Request.url
      = ["https://eu.cloud.example", "https://us.cloud.example"] := by decide +kernel
  exact ⟨hasked, hurls.symm.trans hasked, hlog⟩

end Masked

end CloudClient
