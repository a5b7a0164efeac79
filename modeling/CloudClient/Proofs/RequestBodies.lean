import CloudClient.Authentication.Sequence
import CloudClient.Call.Request
import CloudClient.Call.Result
import CloudClient.Proofs.DocumentRoundTrip

/-!
# Bodies of requests

What goes out in the body of a request is read by somebody else, so the one
thing that can be shown about it here is that this library would read back
what it has written. It can, in both of its ways to read a body: as the result
of a call, where the octets say how they are encoded, and as the text of a
response (`Encodes`). This holds of every plain array and object, whatever
texts are in it.

The document of credentials is one of these, whatever the keys and the account
are. Two consequences are worth stating for themselves. The tenant is named
once, or not at all where the operator wants none (`NamesTenant`). And the
*skeleton* of the document, which is all of it but its texts, is the same for
all keys and nearly all accounts: quotes and brackets in a key stay in the key.
-/

namespace CloudClient

/-- **Octets encode a document**: they are ASCII, and it is read from them in
each way to read a body. -/
structure Encodes (octets : Octets) (v : Json) : Prop where
  ascii : ∀ b ∈ octets, b < 0x80
  /-- As the result of a call. -/
  result : ∀ (found : Bool) (code : Int) (headers : ResponseHeaders),
    (⟨found, code, headers, octets⟩ : CallResult).json = .ok v
  /-- As a response. -/
  response : ∀ (status : Int) (headers : ResponseHeaders) (reason : String),
    (⟨status, headers, octets, reason⟩ : Response).json = .ok v

namespace Json

/-- An array or an object. -/
def IsComposite : Json → Prop
  | .arr _ => True
  | .obj _ => True
  | _ => False

/-- A document does not begin with a blank. -/
theorem not_all_blank {v : Json} (h : v.IsPlain) :
    (Utf8.encode v.write).all CallResult.isBlankOctet = false := by
  have hshows := shows_chars h
  rw [write, encode_ofList hshows]
  obtain ⟨c, cs, hchars, hspace, -⟩ := opens_of_isPlain h
  rw [hchars] at hshows ⊢
  have hc := hshows c List.mem_cons_self
  have hne : c.toNat ≠ 0x20 := by
    intro h
    rw [show c = ' ' from Char.toNat_inj.1 h] at hspace
    cases hspace
  have hblank : CallResult.isBlankOctet (octetOf c) = false := by
    rw [CallResult.isBlankOctet, toNat_octetOf hc, Char.ofNat_toNat, Text.isAsciiBlank,
      Bool.or_eq_false_iff, Bool.and_eq_false_iff, decide_eq_false_iff_not,
      decide_eq_false_iff_not]
    exact ⟨.inr (by have := hc.1; omega), beq_false_of_ne hne⟩
  rw [List.map_cons, List.all_cons, hblank, Bool.false_and]

/-- **A plain document is encoded by what is written of it.** -/
theorem encodes_write {v : Json} (h : v.IsPlain) (hdepth : v.depth ≤ nestingLimit) :
    Encodes (Utf8.encode v.write) v := by
  obtain ⟨hoctets, htext⟩ := readOctets_encode h hdepth
  refine ⟨?_, fun found code headers => ?_, fun status headers reason => ?_⟩
  · rw [write, encode_ofList (shows_chars h)]
    intro b hb
    obtain ⟨c, hc, rfl⟩ := List.mem_map.1 hb
    have hshows := shows_chars h c hc
    rw [UInt8.lt_iff_toNat_lt, toNat_octetOf hshows]
    exact Nat.lt_of_lt_of_le hshows.2 (by decide)
  · rw [CallResult.json, if_neg (by rw [not_all_blank h]; exact Bool.false_ne_true), hoctets]
    rfl
  · rw [Response.json, Response.text, htext]
    rfl

/-! ## Skeletons -/

mutual

/-- A value with all its texts emptied; names of members stay. -/
def skeleton : Json → Json
  | .str _ => .str ⟨[]⟩
  | .arr elements => .arr (elementSkeletons elements)
  | .obj members => .obj (memberSkeletons members)
  | v => v

/-- The elements with all their texts emptied. -/
def elementSkeletons : List Json → List Json
  | [] => []
  | v :: more => skeleton v :: elementSkeletons more

/-- The members with all their texts emptied. -/
def memberSkeletons : List (RawText × Json) → List (RawText × Json)
  | [] => []
  | (name, v) :: more => (name, skeleton v) :: memberSkeletons more

end

/-! ## Objects with names -/

theorem isPlain_str (s : String) : (Json.str s).IsPlain :=
  Option.isSome_of_eq_some (RawText.toString?_ofString s)

theorem isPlain_ofEntries {entries : List (String × Json)}
    (hdistinct : (entries.map Prod.fst).Nodup) (h : ∀ e ∈ entries, e.2.IsPlain) :
    (ofEntries entries).IsPlain := by
  have hmembers (listed : List (String × Json)) (h : ∀ e ∈ listed, e.2.IsPlain) :
      MembersPlain (listed.map fun e => (RawText.ofString e.1, e.2)) := by
    induction listed with
    | nil => trivial
    | cons e more ih =>
      obtain ⟨he, hmore⟩ := List.forall_mem_cons.1 h
      exact ⟨isPlain_str e.1, he, ih hmore⟩
  refine ⟨?_, hmembers entries h⟩
  rw [Entries.Distinct, List.pairwise_map]
  refine (List.pairwise_map.1 hdistinct).imp fun hne => ?_
  exact beq_false_of_ne fun heq => hne (RawText.ofString_injective heq)

/-- Names that are texts are looked up as texts. -/
theorem member?_ofEntries (name : String) (entries : List (String × Json)) :
    (ofEntries entries).member? name = Entries.find? entries name := by
  show Entries.find? (entries.map fun e => (RawText.ofString e.1, e.2)) _ = _
  induction entries with
  | nil => rfl
  | cons e more ih =>
    have hsame : (RawText.ofString e.1 == RawText.ofString name) = (e.1 == name) := by
      rw [Bool.eq_iff_iff, beq_iff_eq, beq_iff_eq]
      exact ⟨RawText.ofString_injective, congrArg _⟩
    rw [List.map_cons, Entries.find?_cons, Entries.find?_cons, ih, hsame]

end Json

/-! ## The document of credentials -/

namespace Identity

/-- The document of credentials with the given parts. -/
def credentialDocument (family : OperatorFamily) (account publicKey privateKey : String) : Json :=
  .ofEntries [("auth", .ofEntries (credentialMembers family account publicKey privateKey))]

theorem credentials_eq {s : Session} {publicKey privateKey : String}
    (hpublic : s.publicText = .ok publicKey) (hprivate : s.privateText = .ok privateKey) :
    credentials s = .ok (credentialDocument s.family s.account publicKey privateKey) := by
  rw [credentials, hpublic, hprivate]
  rfl

section Document

variable (family : OperatorFamily) (account publicKey privateKey : String)

theorem isPlain_keys {first second : String} (hne : first ≠ second) :
    (Json.ofEntries [(first, .str publicKey), (second, .str privateKey)]).IsPlain := by
  refine Json.isPlain_ofEntries ?_ ?_
  · simpa using hne
  · simp only [List.forall_mem_cons]
    exact ⟨Json.isPlain_str _, Json.isPlain_str _, nofun⟩

theorem isPlain_credentialDocument :
    (credentialDocument family account publicKey privateKey).IsPlain := by
  have hmembers :
      (Json.ofEntries (credentialMembers family account publicKey privateKey)).IsPlain := by
    unfold credentialMembers
    split
    · refine Json.isPlain_ofEntries
        (show ["apiAccessKeyCredentials", "tenantId"].Nodup by decide) ?_
      simp only [List.forall_mem_cons]
      exact ⟨isPlain_keys publicKey privateKey (by decide), Json.isPlain_str _, nofun⟩
    · refine Json.isPlain_ofEntries (show ["RAX-KSKEY:apiKeyCredentials"].Nodup by decide) ?_
      simp only [List.forall_mem_cons]
      exact ⟨isPlain_keys publicKey privateKey (by decide), nofun⟩
    · have hnames : ["passwordCredentials", (tenantMember account).1].Nodup := by
        unfold tenantMember
        split
        · exact (show ["passwordCredentials", "tenantId"].Nodup by decide)
        · exact (show ["passwordCredentials", "tenantName"].Nodup by decide)
      have htenant : (tenantMember account).2.IsPlain := by
        unfold tenantMember
        split <;> exact Json.isPlain_str _
      refine Json.isPlain_ofEntries hnames ?_
      simp only [List.forall_mem_cons]
      exact ⟨isPlain_keys publicKey privateKey (by decide), htenant, nofun⟩
  refine Json.isPlain_ofEntries (show ["auth"].Nodup by decide) ?_
  simp only [List.forall_mem_cons]
  exact ⟨hmembers, nofun⟩

theorem depth_credentialDocument :
    (credentialDocument family account publicKey privateKey).depth ≤ Json.nestingLimit := by
  unfold credentialDocument credentialMembers
  split
  · exact (by decide : 3 ≤ Json.nestingLimit)
  · exact (by decide : 3 ≤ Json.nestingLimit)
  · unfold tenantMember
    split
    · exact (by decide : 3 ≤ Json.nestingLimit)
    · exact (by decide : 3 ≤ Json.nestingLimit)

end Document

/-- **The tenant is named** by its identifier or by its name, and by nothing
where the operator wants none. -/
structure NamesTenant (family : OperatorFamily) (account : String) (c : Json) : Prop where
  once : family ≠ .rackspace → ∃ auth, c.member? "auth" = some auth
    ∧ (auth.member? "tenantId" = some (.str account) ∧ auth.member? "tenantName" = none
      ∨ auth.member? "tenantId" = none ∧ auth.member? "tenantName" = some (.str account))
  never : family = .rackspace → ∃ auth, c.member? "auth" = some auth
    ∧ auth.member? "tenantId" = none ∧ auth.member? "tenantName" = none

theorem namesTenant_credentialDocument (family : OperatorFamily)
    (account publicKey privateKey : String) :
    NamesTenant family account (credentialDocument family account publicKey privateKey) := by
  have hauth : (credentialDocument family account publicKey privateKey).member? "auth"
      = some (.ofEntries (credentialMembers family account publicKey privateKey)) :=
    Json.member?_ofEntries "auth" _
  have hmember (name : String) := Json.member?_ofEntries name
    (credentialMembers family account publicKey privateKey)
  constructor
  · intro hfamily
    refine ⟨_, hauth, ?_⟩
    rw [hmember, hmember]
    unfold credentialMembers
    split
    · exact .inl ⟨rfl, rfl⟩
    · exact absurd rfl hfamily
    · unfold tenantMember
      split
      · exact .inl ⟨rfl, rfl⟩
      · exact .inr ⟨rfl, rfl⟩
  · rintro rfl
    exact ⟨_, hauth, hmember _, hmember _⟩

/-- The skeleton depends on the operator, and on whether the account is taken
for an identifier. -/
theorem skeleton_credentialDocument (family : OperatorFamily) {account account' : String}
    (h : account.length = tenantIdLength ↔ account'.length = tenantIdLength)
    (publicKey publicKey' privateKey privateKey' : String) :
    (credentialDocument family account publicKey privateKey).skeleton
      = (credentialDocument family account' publicKey' privateKey').skeleton := by
  unfold credentialDocument credentialMembers
  split
  · rfl
  · rfl
  · unfold tenantMember
    by_cases hid : account.length = tenantIdLength
    · rw [if_pos hid, if_pos (h.1 hid)]
      rfl
    · rw [if_neg hid, if_neg fun hid' => hid (h.2 hid')]
      rfl

/-- **What an identity service is sent** for a session: one request, whose body
encodes the document of its credentials. -/
structure IsSent (s : Session) (c : Json) : Prop where
  body : ∀ (endpoint : String) (replies : List Reply), ∃ request octets,
    ((Dialect.identity.attempt s endpoint).hold replies).requests = [request]
      ∧ request.body = some octets ∧ Encodes octets c
  tenant : NamesTenant s.family s.account c
  /-- Other credentials have the same skeleton. -/
  skeleton : ∀ (s' : Session) (c' : Json), s'.family = s.family →
    (s'.account.length = tenantIdLength ↔ s.account.length = tenantIdLength) →
    credentials s' = .ok c' → c'.skeleton = c.skeleton

theorem requests_attempt {s : Session} {c : Json} (h : credentials s = .ok c) (endpoint : String)
    (replies : List Reply) :
    ((Dialect.identity.attempt s endpoint).hold replies).requests = [request endpoint c] := by
  show ((attempt s endpoint).hold replies).requests = _
  unfold attempt
  rw [h]
  cases replies with
  | nil => rfl
  | cons reply more => cases reply <;> rfl

theorem isSent_of_credentials {s : Session} {publicKey privateKey : String}
    (hpublic : s.publicText = .ok publicKey) (hprivate : s.privateText = .ok privateKey) :
    IsSent s (credentialDocument s.family s.account publicKey privateKey) where
  body endpoint replies :=
    ⟨_, _, requests_attempt (credentials_eq hpublic hprivate) endpoint replies, rfl,
      Json.encodes_write (isPlain_credentialDocument ..) (depth_credentialDocument ..)⟩
  tenant := namesTenant_credentialDocument ..
  skeleton s' c' hfamily haccount hc' := by
    unfold credentials at hc'
    split at hc'
    · cases hc'
    · split at hc'
      · cases hc'
      · cases hc'
        rw [hfamily]
        exact skeleton_credentialDocument s.family haccount _ _ _ _

end Identity

/-- **Bodies decode back.** The octets of an array or object are ASCII and are
read as it, and so are those of the credentials that go to an identity
service, where no key and no account changes the form of the document. -/
theorem bodies_decode_back :
    (∀ v : Json, v.IsComposite → v.IsPlain → v.depth ≤ Json.nestingLimit →
        ∃ octets, (Body.ofJson v).encode = .ok (some octets) ∧ Encodes octets v)
      ∧ ∀ s : Session, (∃ k, s.publicText = .ok k) → (∃ k, s.privateText = .ok k) →
        ∃ c, Identity.credentials s = .ok c ∧ Identity.IsSent s c := by
  constructor
  · intro v hcomposite hplain hdepth
    cases v with
    | arr es => exact ⟨_, rfl, Json.encodes_write hplain hdepth⟩
    | obj ms => exact ⟨_, rfl, Json.encodes_write hplain hdepth⟩
    | _ => exact hcomposite.elim
  · rintro s ⟨publicKey, hpublic⟩ ⟨privateKey, hprivate⟩
    exact ⟨_, Identity.credentials_eq hpublic hprivate,
      Identity.isSent_of_credentials hpublic hprivate⟩

/-! ## Texts that could end too early -/

namespace Intruding

/-- An array with an object whose texts have quotes, brackets, a control and a
character of two units. -/
def sample : Json :=
  .arr [.null, .int (-42), .ofEntries [("a\"]", .str "\\\n"), ("", .arr [.str "\x01😀", .bool true])]]

/-- A session whose private key looks like the end of a document. -/
def session : Session where
  publicKey := .text "user"
  privateKey := .text "\"\x7d, \"tenantName\": \"other\"\x7d"
  endpoint := "https://keys"
  account := "démo"
  endpoint_not_blank := by decide

theorem isPlain_sample : sample.IsPlain := by
  have hobject : (Json.ofEntries
      [("a\"]", .str "\\\n"), ("", .arr [.str "\x01😀", .bool true])]).IsPlain := by
    refine Json.isPlain_ofEntries (show ["a\"]", ""].Nodup by decide) ?_
    simp only [List.forall_mem_cons]
    exact ⟨Json.isPlain_str _, ⟨Json.isPlain_str _, trivial, trivial⟩, nofun⟩
  have hdigits : (Nat.toDigits 10 (-42 : Int).natAbs).length ≤ 4300 := by decide
  exact ⟨trivial, hdigits, hobject, trivial⟩

theorem bodies_decode_back_intruding :
    sample.write = "[null, -42, \x7b\"a\\\"]\": \"\\\\\\n\", \"\": [\"\\u0001\\ud83d\\ude00\", true]\x7d]"
      ∧ (∃ octets, (Body.ofJson sample).encode = .ok (some octets) ∧ Encodes octets sample)
      ∧ ∃ c, Identity.credentials session = .ok c ∧ Identity.IsSent session c :=
  ⟨by decide +kernel, bodies_decode_back.1 sample trivial isPlain_sample (by decide),
    bodies_decode_back.2 session ⟨_, rfl⟩ ⟨_, rfl⟩⟩

end Intruding

end CloudClient
