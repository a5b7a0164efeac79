import CloudClient.Proofs.CatalogRefresh
import CloudClient.Proofs.RequestCatalog

/-!
# Other spellings of the token header

A call puts the token of its catalog into the headers last, in place of
whatever the caller has put there under the same name. Headers are put
together in a map, and to the map a name in another case is another name; to
whoever reads the request it is the same one. So a caller may bring along a
token of its own after all, under another spelling.

Which headers a request has under the name of the token, in any spelling, is
a map of its own: what passes a test of the keys is set where it is set in the
whole map, and nothing else touches it (`OrderedMap.filter_putAll`). It comes
from the headers of the caller that pass the test, and from the token. From
there it can be told which of the headers have the token, and which value is
read when of several spellings the last one counts.
-/

namespace CloudClient

namespace Entries

variable {κ ν : Type _} [BEq κ]

/-! ## Entries that are set, and a test of their keys -/

/-- A present key is set where it is, and a new one comes last. -/
theorem getLast?_put (entries : List (κ × ν)) (k : κ) (v : ν) :
    (put entries k v).getLast? =
      if has entries k then entries.getLast?.map fun e => if e.1 == k then (e.1, v) else e
      else some (k, v) := by
  unfold put
  split
  · exact List.getLast?_map
  · exact List.getLast?_concat

/-- Where a key is not there is nothing to replace. -/
theorem replace_of_has_eq_false {entries : List (κ × ν)} {k : κ} (h : has entries k = false)
    (v : ν) : replace entries k v = entries := by
  refine (List.map_congr_left fun e he => if_neg ?_).trans (List.map_id entries)
  exact List.any_eq_false.1 h e he

theorem filter_replace (p : κ → Bool) (entries : List (κ × ν)) (k : κ) (v : ν) :
    (replace entries k v).filter (fun e => p e.1)
      = replace (entries.filter fun e => p e.1) k v := by
  unfold replace
  rw [List.filter_map]
  congr 1
  refine List.filter_congr fun e _ => ?_
  by_cases h : e.1 == k <;> simp [h]

variable [LawfulBEq κ]

/-- **Setting a key leaves the other entries**, and one entry with the key. -/
theorem mem_put_iff {entries : List (κ × ν)} {k : κ} {v : ν} {e : κ × ν} :
    e ∈ put entries k v ↔ e = (k, v) ∨ (e ∈ entries ∧ e.1 ≠ k) := by
  unfold put
  split
  · rename_i hthere
    unfold replace
    rw [List.mem_map]
    constructor
    · rintro ⟨e', hmem, rfl⟩
      by_cases hk : e'.1 = k
      · exact .inl (by rw [if_pos (beq_iff_eq.2 hk), hk])
      · rw [if_neg (mt eq_of_beq hk)]
        exact .inr ⟨hmem, hk⟩
    · rintro (rfl | ⟨hmem, hk⟩)
      · obtain ⟨e', hmem, hk⟩ := List.any_eq_true.1 hthere
        exact ⟨e', hmem, by rw [if_pos hk, eq_of_beq hk]⟩
      · exact ⟨e, hmem, if_neg (mt eq_of_beq hk)⟩
  · rename_i hthere
    have hother (h : e ∈ entries) : e.1 ≠ k := fun hk =>
      hthere (List.any_eq_true.2 ⟨e, h, beq_iff_eq.2 hk⟩)
    rw [List.mem_append, List.mem_singleton]
    exact ⟨fun h => h.symm.imp_right fun h => ⟨h, hother h⟩,
      fun h => (h.imp_right And.left).symm⟩

theorem has_filter (p : κ → Bool) {k : κ} (hk : p k = true) (entries : List (κ × ν)) :
    has (entries.filter fun e => p e.1) k = has entries k := by
  unfold has
  rw [List.any_filter]
  refine List.any_congr rfl fun e => ?_
  by_cases h : e.1 = k
  · simp [h, hk]
  · simp [h]

/-- **Setting a key and testing the keys** may change places: among the
entries that pass, a key that passes is set as among all, and one that does
not changes nothing. -/
theorem filter_put (p : κ → Bool) (entries : List (κ × ν)) (k : κ) (v : ν) :
    (put entries k v).filter (fun e => p e.1)
      = if p k then put (entries.filter fun e => p e.1) k v
        else entries.filter fun e => p e.1 := by
  unfold put
  cases hk : p k with
  | true =>
    rw [if_pos rfl, has_filter p hk]
    split
    · exact filter_replace p entries k v
    · rw [List.filter_append]
      simp [hk]
  | false =>
    rw [if_neg Bool.false_ne_true]
    split
    · -- no entry that passes has the key, so there is nothing to replace among them
      rw [filter_replace]
      refine replace_of_has_eq_false (List.any_eq_false.2 fun e he hek => ?_) v
      have hpasses := (List.mem_filter.1 he).2
      rw [eq_of_beq hek, hk] at hpasses
      exact Bool.false_ne_true hpasses
    · rw [List.filter_append]
      simp [hk]

end Entries

namespace OrderedMap

variable {κ ν : Type} [BEq κ] [LawfulBEq κ] (p : κ → Bool)

theorem filter_put (m : OrderedMap κ ν) (k : κ) (v : ν) :
    (m.put k v).filter (fun e => p e.1)
      = if p k then (m.filter fun e => p e.1).put k v else m.filter fun e => p e.1 := by
  refine ext_entries ((Entries.filter_put p m.entries k v).trans ?_)
  split <;> rfl

/-- **Among the keys that pass a test** it is as if only they had been set. -/
theorem filter_putAll (m : OrderedMap κ ν) (pairs : List (κ × ν)) :
    (m.putAll pairs).filter (fun e => p e.1)
      = (m.filter fun e => p e.1).putAll (pairs.filter fun e => p e.1) := by
  induction pairs generalizing m with
  | nil => rfl
  | cons pair more ih =>
    refine (ih (m.put pair.1 pair.2)).trans ?_
    rw [filter_put, List.filter_cons]
    split <;> rfl

theorem filter_ofList (pairs : List (κ × ν)) :
    (ofList pairs).filter (fun e => p e.1) = ofList (pairs.filter fun e => p e.1) :=
  filter_putAll p empty pairs

end OrderedMap

/-! ## The token among the headers -/

/-- **Whether a header has the name of the token**, in whatever case its ASCII
letters are written. -/
def namesToken (name : String) : Bool :=
  name.toList.map Text.lowerAscii == Call.tokenHeader.toList.map Text.lowerAscii

namespace RequestHeaders

/-- The headers under the name of the token, in any spelling. -/
def tokens (headers : RequestHeaders) : RequestHeaders := headers.filter fun e => namesToken e.1

/-- The token that is read if names are read regardless of case and the last
of several counts. -/
def readToken? (headers : RequestHeaders) : Option Json :=
  (tokens headers).entries.getLast?.map Prod.snd

theorem mem_tokens {headers : RequestHeaders} {e : String × Json} :
    e ∈ (tokens headers).entries ↔ e ∈ headers.entries ∧ namesToken e.1 = true :=
  List.mem_filter

end RequestHeaders

namespace Call

/-- The headers that a caller adds under the name of the token, in any
spelling. -/
def ownTokens (c : Call) : RequestHeaders := .ofList (c.headers.filter fun e => namesToken e.1)

/-- The header of the caller that counts instead of the token: the last one,
if it is spelt otherwise and the usual spelling, in whose place the token is
put, is there before it. -/
def overriding? (c : Call) : Option (String × Json) :=
  if c.ownTokens.has tokenHeader then
    c.ownTokens.entries.getLast?.filter fun e => e.1 != tokenHeader
  else none

end Call

/-- **The headers of a request under the name of the token**, whose call should
carry the given one. -/
structure CarriesToken (call : Call) (token : Json) (request : Request) : Prop where
  /-- They are those of the caller, and the token in its usual spelling, -/
  mem_iff : ∀ e, e ∈ request.headers.entries ∧ namesToken e.1 = true
    ↔ e = (Call.tokenHeader, token) ∨ (e ∈ call.ownTokens.entries ∧ e.1 ≠ Call.tokenHeader)
  /-- and all of them have the token just if the caller's other spellings do. -/
  guarded_iff : (∀ e ∈ request.headers.entries, namesToken e.1 = true → e.2 = token)
    ↔ ∀ e ∈ call.ownTokens.entries, e.1 ≠ Call.tokenHeader → e.2 = token
  /-- What is read is the token, unless a header of the caller overrides it. -/
  read_eq : RequestHeaders.readToken? request.headers
    = some ((call.overriding?.map Prod.snd).getD token)

section Requests

variable (c : Call) (payload : Option Octets) (catalog : Catalog) (url : String)

theorem tokens_ownHeaders : RequestHeaders.tokens c.ownHeaders = c.ownTokens := by
  have htype : ¬ namesToken Call.contentTypeHeader = true := by decide
  refine (OrderedMap.filter_ofList namesToken
    ((Call.contentTypeHeader, .str c.body.contentType) :: c.headers)).trans ?_
  rw [List.filter_cons, if_neg htype]
  rfl

/-- The headers under the name of the token are what the caller has added
under it, with the token put among them. -/
theorem tokens_requestTo :
    RequestHeaders.tokens (c.requestTo payload catalog url).headers
      = c.ownTokens.put Call.tokenHeader (catalog.tokenFor c.service) := by
  have hname : namesToken Call.tokenHeader = true := BEq.rfl
  refine (OrderedMap.filter_put namesToken c.ownHeaders Call.tokenHeader
    (catalog.tokenFor c.service)).trans ?_
  rw [if_pos hname]
  exact congrArg (OrderedMap.put · Call.tokenHeader _) (tokens_ownHeaders c)

theorem carriesToken_requestTo :
    CarriesToken c (catalog.tokenFor c.service) (c.requestTo payload catalog url) := by
  have htokens := congrArg OrderedMap.entries (tokens_requestTo c payload catalog url)
  rw [OrderedMap.entries_put] at htokens
  have hmem (e : String × Json) :
      e ∈ (c.requestTo payload catalog url).headers.entries ∧ namesToken e.1 = true
        ↔ e = (Call.tokenHeader, catalog.tokenFor c.service)
          ∨ (e ∈ c.ownTokens.entries ∧ e.1 ≠ Call.tokenHeader) := by
    rw [← Entries.mem_put_iff, ← htokens, RequestHeaders.mem_tokens]
  refine ⟨hmem, ⟨fun h e he hother => ?_, fun h e he hnamed => ?_⟩, ?_⟩
  · obtain ⟨hsent, hnamed⟩ := (hmem e).2 (.inr ⟨he, hother⟩)
    exact h e hsent hnamed
  · obtain rfl | ⟨hown, hother⟩ := (hmem e).1 ⟨he, hnamed⟩
    · rfl
    · exact h e hown hother
  · -- the token is put where the caller's usual spelling was, which need not be the end
    unfold RequestHeaders.readToken? Call.overriding? OrderedMap.has
    rw [htokens, Entries.getLast?_put]
    split
    · rename_i hhas
      cases hlast : c.ownTokens.entries.getLast? with
      | none => rw [List.getLast?_eq_none_iff.1 hlast] at hhas; cases hhas
      | some e => by_cases hk : e.1 = Call.tokenHeader <;> simp [Option.filter, hk]
    · rfl

end Requests

/-! ## The requests of a call -/

/-- What a call asks its resource with is its request for the catalog that it
holds. -/
theorem sent_of_mem_outward {c : Caller} {call : Call} {w : Surroundings} {held : Issued}
    {request : Request} {reply : Reply}
    (h : .exchange (.resource held) request reply ∈ (c.perform call).outward w) :
    ∃ payload, call.request payload held.catalog = .ok request := by
  obtain ⟨⟨v, act⟩, hm, hevent⟩ := List.mem_filterMap.1 h
  cases act with
  | send origin asked =>
    cases hevent
    have htried : ⟨held, request, _, _⟩ ∈ trials ((c.perform call).history w) :=
      List.mem_filterMap.2 ⟨_, hm, rfl⟩
    rcases RequestCatalog.handedOn_of_perform c call w with hnone | ⟨payload, _, -, -, hhanded⟩
    · rw [hnone] at htried
      cases htried
    · exact ⟨payload, hhanded.sent _ htried⟩
  | _ => cases hevent

theorem carriesToken_of_mem_outward {c : Caller} {call : Call} {w : Surroundings} {held : Issued}
    {request : Request} {reply : Reply}
    (h : .exchange (.resource held) request reply ∈ (c.perform call).outward w) :
    CarriesToken call (held.catalog.tokenFor call.service) request := by
  obtain ⟨payload, hrequest⟩ := sent_of_mem_outward h
  obtain ⟨base, url, -, -, rfl⟩ := RequestCatalog.exists_of_request hrequest
  exact carriesToken_requestTo call payload held.catalog url

/-- **What a call sends under the name of the token.** In each request for its
resource the usual spelling has the token of the catalog that the request is
made with. A header of the caller in another spelling is sent as it is: the
token is not read if it comes after the usual spelling, and all headers under
the name have the token just if the caller's have. -/
theorem other_spellings_sent (c : Caller) (call : Call) (w : Surroundings) :
    (c.execute call w).2.events = w.events ++ (c.perform call).outward w ∧
    ∀ held request reply,
      .exchange (.resource held) request reply ∈ (c.perform call).outward w →
      ∃ token, RequestCatalog.TokenFor held.catalog call.service token
        ∧ CarriesToken call token request :=
  ⟨Course.events_run _ w, fun _ _ _ hsent =>
    ⟨_, RequestCatalog.tokenFor_tokenFor _ _, carriesToken_of_mem_outward hsent⟩⟩

namespace Smuggled

open CatalogRefresh (someCaller refreshedMeanwhile)

/-- The resource is there. -/
def answered : Surroundings :=
  { refreshedMeanwhile with script := [⟨.response ⟨200, .empty, [], "OK"⟩, [], 0, 1⟩] }

/-- A call that brings along a token of its own, in two spellings. -/
def listServers : Call :=
  { CatalogRefresh.listServers with
    headers := [("X-Auth-Token", .str "mine"), ("x-auth-token", .str "mine")] }

theorem overriding?_listServers :
    listServers.overriding? = some ("x-auth-token", .str "mine") :=
  rfl

/-- Whether a resource is asked for with a catalog whose token is the given
one. -/
def asksWith (token : RawText) : Event → Bool
  | .exchange (.resource held) _ _ =>
    decide ((held.catalog.tokenFor listServers.service).shown = token)
  | _ => false

theorem any_asksWith :
    ((someCaller.perform listServers).outward answered).any (asksWith "outdated") = true := by
  decide +kernel

/-- The call asks once, with the catalog that is in the cache. -/
theorem exists_asked :
    ∃ held request reply,
      .exchange (.resource held) request reply ∈ (someCaller.perform listServers).outward answered ∧
      (held.catalog.tokenFor listServers.service).shown = RawText.ofString "outdated" := by
  obtain ⟨e, hmem, he⟩ := List.any_eq_true.1 any_asksWith
  cases e with
  | exchange origin request reply =>
    cases origin with
    | resource held => exact ⟨held, request, reply, hmem, of_decide_eq_true he⟩
    | _ => cases he
  | _ => cases he

/-- **The token of the caller is sent** besides that of the catalog, and it is
the one that is read. -/
theorem own_token_sent :
    ∃ held request reply,
      .exchange (.resource held) request reply ∈ (someCaller.perform listServers).outward answered ∧
      namesToken "x-auth-token" = true ∧
      ("x-auth-token", .str "mine") ∈ request.headers.entries ∧
      held.catalog.tokenFor listServers.service ≠ .str "mine" ∧
      RequestHeaders.readToken? request.headers = some (.str "mine") := by
  obtain ⟨held, request, reply, hmem, htoken⟩ := exists_asked
  have hcarries := carriesToken_of_mem_outward hmem
  have hown : ("x-auth-token", .str "mine") ∈ listServers.ownTokens.entries := .tail _ (.head _)
  obtain ⟨hsent, hnamed⟩ := (hcarries.mem_iff _).2 (.inr ⟨hown, by decide⟩)
  refine ⟨held, request, reply, hmem, hnamed, hsent, fun hmine => ?_, ?_⟩
  · rw [hmine] at htoken
    exact absurd htoken (by decide)
  · rw [hcarries.read_eq, overriding?_listServers]
    rfl

/-- The usual spelling has the token of the catalog all the same. -/
theorem other_spellings_sent_twice :
    ∃ held request reply token,
      .exchange (.resource held) request reply ∈ (someCaller.perform listServers).outward answered ∧
      RequestCatalog.TokenFor held.catalog listServers.service token ∧
      ("X-Auth-Token", token) ∈ request.headers.entries ∧
      RequestHeaders.readToken? request.headers = some (.str "mine") := by
  obtain ⟨held, request, reply, hmem, -⟩ := exists_asked
  obtain ⟨token, htoken, h⟩ := (other_spellings_sent someCaller listServers answered).2 _ _ _ hmem
  refine ⟨held, request, reply, token, hmem, htoken, ((h.mem_iff _).2 (.inl rfl)).1, ?_⟩
  rw [h.read_eq, overriding?_listServers]
  rfl

end Smuggled

end CloudClient
