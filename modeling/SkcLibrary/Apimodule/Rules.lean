import SkcLibrary.Apimodule.Intf

/-!
# What the token functions call

What `apimodule_uri_to_uri_data` checks, and which calls the functions of the api module issue,
whatever is answered. A token that is only looked for (`create = FALSE`) never initialises the module
anew; one that is created may, but the keys that are loaded then wait for the agent's lock.
-/

namespace SkcLibrary

open Interaction

/-! ## URIs -/

/-- What `apimodule_uri_to_uri_data` has checked. -/
theorem apimoduleUriToUriData_spec {parsed : Option P11KitUri} {uri : Bytes}
    {uriData : ApimoduleUriData} (h : apimoduleUriToUriData parsed uri = some uriData) :
    cstr uriData.tokenLabel = Kms.kmsPrefixToken ∧ minKeyidLen ≤ uriData.keyId.length := by
  obtain ⟨keyUri, -, h⟩ := Option.bind_eq_some_iff.mp h
  split at h
  · simp at h
  · obtain ⟨label, -, h⟩ := Option.bind_eq_some_iff.mp h
    obtain ⟨id, -, h⟩ := Option.bind_eq_some_iff.mp h
    split at h
    · simp at h
    · next hid =>
      split at h
      · simp at h
      · obtain ⟨type, -, h⟩ := Option.bind_eq_some_iff.mp h
        split at h
        · simp at h
        · obtain ⟨upin, -, h⟩ := Option.bind_eq_some_iff.mp h
          split at h
          · simp at h
          · obtain ⟨tokenLabel, -, h⟩ := Option.bind_eq_some_iff.mp h
            split at h
            · simp at h
            · next htoken =>
              rw [← Option.some.inj h]
              exact ⟨not_not.mp htoken, not_lt.mp hid⟩

/-- The pin that is handed on is a C string. -/
theorem apimoduleUriToUriData_pin {parsed : Option P11KitUri} {uri : Bytes}
    {uriData : ApimoduleUriData} (h : apimoduleUriToUriData parsed uri = some uriData) :
    cstr uriData.pin = uriData.pin := by
  obtain ⟨keyUri, -, h⟩ := Option.bind_eq_some_iff.mp h
  split at h
  · simp at h
  · obtain ⟨label, -, h⟩ := Option.bind_eq_some_iff.mp h
    obtain ⟨id, -, h⟩ := Option.bind_eq_some_iff.mp h
    split at h
    · simp at h
    · split at h
      · simp at h
      · obtain ⟨type, -, h⟩ := Option.bind_eq_some_iff.mp h
        split at h
        · simp at h
        · obtain ⟨upin, hupin, h⟩ := Option.bind_eq_some_iff.mp h
          split at h
          · simp at h
          · obtain ⟨tokenLabel, -, h⟩ := Option.bind_eq_some_iff.mp h
            split at h
            · simp at h
            · obtain ⟨pinValue, -, rfl⟩ := Option.map_eq_some_iff.mp hupin
              rw [← Option.some.inj h]
              exact cstr_cstr pinValue

/-! ## Tokens -/

/-- The calls of `apimodule_findtoken`. -/
def SlotCall : Call → Prop
  | .ck .cGetSlotListCount => True
  | .ck (.cGetSlotList _) => True
  | .ck (.cGetTokenInfo _) => True
  | .calloc _ => True
  | _ => False

/-- The calls of `lookup_apimodule_token`, and of `init_apimodule_token` for a token that is there. -/
def TokenCall : Call → Prop
  | .getApimodule => True
  | .ck (.cOpenSession _) => True
  | .ck (.cLogin _ .user _) => True
  | .ck (.cLogout _) => True
  | .cacheToken _ => True
  | .fault _ => True
  | c => SlotCall c

theorem findtokenLoop_issues (tokenLabel : Bytes) (slots : List Nat) (rv : CkRv) :
    (findtokenLoop tokenLabel slots rv).Issues SlotCall := by
  induction slots generalizing rv with
  | nil => trivial
  | cons slot rest ih =>
    refine Skc.issues_ck_bind.mpr ⟨trivial, fun a => ?_⟩
    obtain ⟨rv, info⟩ := a
    dsimp only
    split
    · exact ih rv
    · split
      · exact ih rv
      · split
        · trivial
        · exact ih rv

theorem apimoduleFindtoken_issues (data : ApimoduleUriData) :
    (apimoduleFindtoken data).Issues SlotCall := by
  refine Skc.issues_ck_bind.mpr ⟨trivial, fun a => ?_⟩
  obtain ⟨rv, nslots⟩ := a
  dsimp only
  split
  · trivial
  · refine Skc.issues_lift_bind.mpr ⟨trivial, fun b => ?_⟩
    cases b with
    | false => trivial
    | true =>
      refine Skc.issues_ck_bind.mpr ⟨trivial, fun c => ?_⟩
      obtain ⟨rv, slots⟩ := c
      dsimp only
      split
      · trivial
      · exact findtokenLoop_issues _ _ _

theorem SlotCall.tokenCall (c : Call) (h : SlotCall c) : TokenCall c := by
  cases c with
  | ck d => cases d <;> first | exact h | exact h.elim
  | calloc n => exact h
  | _ => exact h.elim

theorem openToken_issues (uriData : ApimoduleUriData) (atoken : ApimoduleToken)
    (err : Option GError) : (openToken uriData atoken err).Issues TokenCall := by
  refine ((apimoduleFindtoken_issues uriData).mono SlotCall.tokenCall).bind fun a => ?_
  obtain ⟨rv, slot⟩ := a
  dsimp only
  split
  · trivial
  · split
    · trivial
    · refine Skc.issues_ck_bind.mpr ⟨trivial, fun b => ?_⟩
      obtain ⟨rv, session⟩ := b
      dsimp only
      split
      · trivial
      · refine Skc.issues_ck_bind.mpr ⟨trivial, fun _ => ?_⟩
        refine Skc.issues_ck_bind.mpr ⟨trivial, fun rv => ?_⟩
        split <;> trivial

theorem openToken_label (uriData : ApimoduleUriData) (token : ApimoduleToken) (err : Option GError) :
    (openToken uriData token err).Returns fun r => r.2.1.tokenLabel = token.tokenLabel := by
  refine Prog.returns_bind fun a => ?_
  obtain ⟨rv, slot⟩ := a
  dsimp only
  split
  · rfl
  · cases slot with
    | none => rfl
    | some slot =>
      refine Prog.returns_bind fun a => ?_
      obtain ⟨rv, session⟩ := a
      dsimp only
      split
      · rfl
      · refine Prog.returns_bind fun _ => Prog.returns_bind fun rv => ?_
        split <;> rfl

theorem ensureToken_issues (cInitialize : Skc CkRv) (uriData : ApimoduleUriData)
    (err : Option GError) : (ensureToken cInitialize uriData false err).Issues TokenCall := by
  refine ((apimoduleFindtoken_issues uriData).mono SlotCall.tokenCall).bind fun a => ?_
  obtain ⟨rv, slot⟩ := a
  dsimp only
  split
  · trivial
  · split <;> trivial

/-- A token that is only looked for. -/
theorem initApimoduleToken_issues (cInitialize : Skc CkRv) (uriData : ApimoduleUriData)
    (err : Option GError) :
    (initApimoduleToken cInitialize uriData false err).Issues TokenCall := by
  refine (ensureToken_issues cInitialize uriData err).bind fun a => ?_
  obtain ⟨rv, err⟩ := a
  dsimp only
  split
  · trivial
  · refine (openToken_issues _ _ _).bind fun b => ?_
    obtain ⟨rv, atoken, err⟩ := b
    dsimp only
    split
    · trivial
    · exact ⟨trivial, fun _ => trivial⟩

theorem lookupApimoduleToken_issues (label : Bytes) :
    (lookupApimoduleToken label).Issues TokenCall := ⟨trivial, fun _ => trivial⟩

theorem readToken_issues (atoken : TokenRef) : (readToken atoken).Issues TokenCall :=
  ⟨trivial, fun _ => Skc.issues_deref trivial⟩

theorem lookupOrInitToken_issues (cInitialize : Skc CkRv) (uriData : ApimoduleUriData)
    (err : Option GError) :
    (lookupOrInitToken cInitialize uriData false err).Issues TokenCall := by
  refine (lookupApimoduleToken_issues _).bind fun atoken => ?_
  cases atoken with
  | some atoken => trivial
  | none => exact initApimoduleToken_issues _ _ _

/-! ## The whole api module -/

/-- A write to a cached token that leaves its session and its pin alone. -/
def KeepsOpening (f : ApimoduleToken → ApimoduleToken) : Prop :=
  ∀ t, (f t).session = t.session ∧ (f t).pin = t.pin

/-- A write to a cached token that leaves its wrapping key alone. -/
def KeepsWrapping (f : ApimoduleToken → ApimoduleToken) : Prop :=
  ∀ t, (f t).wrappingkeyHandle = t.wrappingkeyHandle

/-- The calls of `apimodule_createtoken`. -/
def CreateCall : Call → Prop
  | .ck .cGetSlotListCount => True
  | .ck (.cInitToken _ _ _) => True
  | .ck (.cOpenSession _) => True
  | .ck (.cLogin _ _ _) => True
  | .ck (.cLogout _) => True
  | .ck (.cInitPin _ _) => True
  | _ => False

/-- The calls of `sgx_get_challenge`. -/
def ChallengeCall : Call → Prop
  | .getApimodule => True
  | .writeToken _ f => KeepsOpening f
  | .ck (.cGenerateKeyPair _ _ _) => True
  | .ck (.cWrapKeySize _ _ _ _) => True
  | .ck (.cWrapKey _ _ _ _ _) => True
  | .fault _ => True
  | _ => False

/-- The same calls; no wrapping key is written. -/
def QuoteCall : Call → Prop
  | .writeToken _ f => KeepsOpening f ∧ KeepsWrapping f
  | c => ChallengeCall c

/-- The calls of `apimodule_findobject`. -/
def ObjectCall : Call → Prop
  | .ck (.cFindObjectsInit _ _ _) => True
  | .ck (.cFindObjects _) => True
  | .ck (.cFindObjectsFinal _) => True
  | .ck (.cGetAttributeValue _ _) => True
  | _ => False

/-- The calls of the api module's functions, but for the unwrapping of keys. -/
def ApimoduleCall : Call → Prop
  | .getApimodule => True
  | .writeToken _ f => KeepsOpening f
  | .cacheToken _ => True
  | .atomicIntAdd => True
  | .readLines _ => True
  | .calloc _ => True
  | .ck (.cUnwrapKey _ _ _ _ _) => False
  | .ck _ => True
  | .fault _ => True
  | .outOfFuel => True
  | _ => False

/-- The same calls, and those that unwrap the wrapping key of a session. -/
def SwkCall : Call → Prop
  | .ck (.cUnwrapKey _ .rsaPkcsOaep _ _ _) => True
  | c => ApimoduleCall c

/-- The calls with which a key and its token are looked for. -/
def LookupCall (c : Call) : Prop := TokenCall c ∨ ObjectCall c

theorem SlotCall.apimoduleCall (c : Call) (h : SlotCall c) : ApimoduleCall c := by
  cases c with
  | ck d => cases d <;> first | exact trivial | exact h.elim
  | calloc n => trivial
  | _ => exact h.elim

theorem TokenCall.apimoduleCall (c : Call) (h : TokenCall c) : ApimoduleCall c := by
  cases c with
  | ck d => cases d <;> first | exact trivial | exact h.elim
  | _ => first | exact trivial | exact h.elim

theorem ApimoduleCall.swkCall (c : Call) (h : ApimoduleCall c) : SwkCall c := by
  cases c with
  | ck d =>
    cases d with
    | cUnwrapKey session mechanism key wrapped template => exact h.elim
    | _ => exact h
  | _ => exact h

theorem CreateCall.apimoduleCall (c : Call) (h : CreateCall c) : ApimoduleCall c := by
  cases c with
  | ck d => cases d <;> first | exact trivial | exact h.elim
  | _ => exact h.elim

theorem ObjectCall.apimoduleCall (c : Call) (h : ObjectCall c) : ApimoduleCall c := by
  cases c with
  | ck d => cases d <;> first | exact trivial | exact h.elim
  | _ => exact h.elim

theorem TokenCall.swkCall (c : Call) (h : TokenCall c) : SwkCall c :=
  (TokenCall.apimoduleCall c h).swkCall c

theorem LookupCall.apimoduleCall (c : Call) (h : LookupCall c) : ApimoduleCall c := by
  rcases h with h | h
  · exact TokenCall.apimoduleCall c h
  · exact ObjectCall.apimoduleCall c h

theorem ChallengeCall.apimoduleCall (c : Call) (h : ChallengeCall c) : ApimoduleCall c := by
  cases c with
  | ck d => cases d <;> first | exact trivial | exact h.elim
  | writeToken atoken f => exact h
  | _ => first | exact trivial | exact h.elim

theorem QuoteCall.challengeCall (c : Call) (h : QuoteCall c) : ChallengeCall c := by
  cases c with
  | writeToken atoken f => exact h.1
  | _ => exact h

/-- What runs until the lock is asked for. -/
abbrev UntilLock {α : Type} (p : Skc α) : Prop :=
  p.IssuesUntil (fun c : Call => c = .rwLockWriterLock) ApimoduleCall

theorem createtokenLogin_issues {P : Call → Prop} {uriData : ApimoduleUriData} {session : Nat}
    (hlogin : ∀ u, P (.ck (.cLogin session u uriData.pin)))
    (hpin : P (.ck (.cInitPin session uriData.pin))) (hlogout : P (.ck (.cLogout session))) :
    (createtokenLogin uriData session).Issues P := by
  refine Skc.issues_ck_bind.mpr ⟨hlogin .so, fun rv => ?_⟩
  split
  · trivial
  · refine Skc.issues_ck_bind.mpr ⟨hpin, fun rv => ?_⟩
    split
    · trivial
    · exact ⟨hlogout, fun _ => ⟨hlogin .user, fun _ => trivial⟩⟩

/-- Every token is initialised with the pin and the padded label. -/
theorem createtoken_issues_of {P : Call → Prop} {uriData : ApimoduleUriData}
    (hinit : ∀ slot, P (.ck (.cInitToken slot uriData.pin (paddedLabel uriData.tokenLabel))))
    (hother : ∀ c, CreateCall c → (∀ slot pin label, c ≠ .ck (.cInitToken slot pin label)) → P c) :
    (apimoduleCreatetoken uriData).Issues P := by
  refine Skc.issues_ck_bind.mpr ⟨hother _ trivial nofun, fun a => ?_⟩
  obtain ⟨rv, nslots⟩ := a
  dsimp only
  split
  · trivial
  · refine Skc.issues_ck_bind.mpr ⟨hinit _, fun rv => ?_⟩
    split
    · trivial
    · refine Skc.issues_ck_bind.mpr ⟨hother _ trivial nofun, fun b => ?_⟩
      obtain ⟨rv, session⟩ := b
      dsimp only
      split
      · trivial
      · refine Prog.Issues.bind ?_ fun rv => trivial
        exact createtokenLogin_issues (fun _ => hother _ trivial nofun) (hother _ trivial nofun)
          (hother _ trivial nofun)

theorem createtoken_issues (uriData : ApimoduleUriData) :
    (apimoduleCreatetoken uriData).Issues CreateCall :=
  createtoken_issues_of (fun _ => trivial) fun _ hc _ => hc

theorem apimoduleFindobject_issues (session : Nat) (data : ApimoduleUriData) :
    (apimoduleFindobject session data).Issues ObjectCall := by
  refine Skc.issues_ck_bind.mpr ⟨trivial, fun rv => ?_⟩
  split
  · trivial
  · refine Skc.issues_ck_bind.mpr ⟨trivial, fun a => ?_⟩
    obtain ⟨rv, objects⟩ := a
    dsimp only
    split
    · trivial
    · refine Skc.issues_ck_bind.mpr ⟨trivial, fun rv => ?_⟩
      split
      · trivial
      · split
        · trivial
        · exact ⟨trivial, fun _ => trivial⟩

theorem readToken_bind_issues {α : Type} {P : Call → Prop} {atoken : TokenRef}
    {f : ApimoduleToken → Skc α} (hget : P .getApimodule) (hfault : ∀ reason, P (.fault reason))
    (h : ∀ token, (f token).Issues P) : (readToken atoken >>= f).Issues P :=
  Prog.Issues.bind ⟨hget, fun _ => Skc.issues_deref (hfault _)⟩ h

theorem generateRsaKeypair_issues (atoken : TokenRef) (label id : Bytes) :
    (generateRsaKeypair atoken label id).Issues QuoteCall := by
  refine ⟨⟨fun _ => ⟨rfl, rfl⟩, fun _ => rfl⟩, fun _ => ?_⟩
  refine readToken_bind_issues trivial (fun _ => trivial) fun token => ?_
  refine Skc.issues_ck_bind.mpr ⟨trivial, fun a => ?_⟩
  obtain ⟨rv, publicKey, privateKey⟩ := a
  dsimp only
  split
  · exact ⟨⟨fun _ => ⟨rfl, rfl⟩, fun _ => rfl⟩, fun _ => trivial⟩
  · trivial

theorem exportQuote_issues {params : CkRsaPublicKeyParams} (atoken : TokenRef) (policy : Int)
    (nonce : Bytes) (err : Option GError) :
    (exportQuote params atoken policy nonce err).Issues QuoteCall := by
  refine readToken_bind_issues trivial (fun _ => trivial) fun token => ?_
  refine Skc.issues_ck_bind.mpr ⟨trivial, fun a => ?_⟩
  obtain ⟨rv, quoteLen⟩ := a
  dsimp only
  split
  · trivial
  · refine readToken_bind_issues trivial (fun _ => trivial) fun token => ?_
    refine Skc.issues_ck_bind.mpr ⟨trivial, fun b => ?_⟩
    obtain ⟨rv, quote⟩ := b
    dsimp only
    split
    · trivial
    · exact (Skc.issues_deref trivial).bind fun challenge => ⟨⟨fun _ => ⟨rfl, rfl⟩, fun _ => rfl⟩, fun _ => trivial⟩

theorem sgxGetChallenge_quotes {params : CkRsaPublicKeyParams}
    (details : KeyagentApimoduleGetChallengeDetails) (request : KeyagentSgxChallengeRequest)
    (err : Option GError) : (sgxGetChallenge params details request err).Issues QuoteCall := by
  unfold sgxGetChallenge
  split
  · trivial
  · split
    · trivial
    · refine Prog.Issues.bind ⟨trivial, fun _ => trivial⟩ fun atoken => ?_
      split
      · trivial
      · refine (generateRsaKeypair_issues _ _ _).bind fun rv => ?_
        split
        · trivial
        · exact exportQuote_issues _ _ _ _

theorem sgxGetChallenge_issues {params : CkRsaPublicKeyParams}
    (details : KeyagentApimoduleGetChallengeDetails) (request : KeyagentSgxChallengeRequest)
    (err : Option GError) : (sgxGetChallenge params details request err).Issues ChallengeCall :=
  (sgxGetChallenge_quotes details request err).mono QuoteCall.challengeCall

section

variable {P : Call → Prop} (hget : P .getApimodule) (hfault : ∀ reason, P (.fault reason))

include hget hfault

theorem sgxSetWrappingKey_issues (hwrite : ∀ atoken f, KeepsOpening f → P (.writeToken atoken f))
    (hunwrap : ∀ session key wrapped template,
      P (.ck (.cUnwrapKey session .rsaPkcsOaep key wrapped template)))
    (details : KeyagentApimoduleSessionDetails) (err : Option GError) :
    (sgxSetWrappingKey details err).Issues P := by
  unfold sgxSetWrappingKey
  split
  · trivial
  · refine Prog.Issues.bind ⟨hget, fun _ => trivial⟩ fun atoken => ?_
    split
    · trivial
    · refine readToken_bind_issues hget hfault fun token => ?_
      refine Skc.issues_ck_bind.mpr ⟨hunwrap _ _ _ _, fun a => ?_⟩
      obtain ⟨rv, key⟩ := a
      dsimp only
      split
      · trivial
      · exact ⟨hwrite _ _ fun _ => ⟨rfl, rfl⟩, fun _ => trivial⟩

theorem sgxLoadKey_issues (hunwrap : ∀ session iv tagSize key wrapped template,
      P (.ck (.cUnwrapKey session (.aesGcm iv tagSize) key wrapped template)))
    (details : KeyagentApimoduleLoadkeyDetails) (err : Option GError) :
    (sgxLoadKey details err).Issues P := by
  have hkey : ∀ template atoken, (sgxUnwrapKey template details atoken).Issues P := by
    intro template atoken
    refine (Skc.issues_deref (hfault _)).bind fun iv => ?_
    refine readToken_bind_issues hget hfault fun token => ?_
    exact Skc.issues_ck_bind.mpr ⟨hunwrap _ _ _ _ _ _, fun _ => trivial⟩
  unfold sgxLoadKey
  split
  · trivial
  · refine Prog.Issues.bind ⟨hget, fun _ => trivial⟩ fun atoken => ?_
    split
    · trivial
    · refine Prog.Issues.bind ?_ fun rv => ?_
      · unfold sgxUnwrap
        split
        · exact hkey _ _
        · exact hkey _ _
        · trivial
      · split <;> trivial

theorem apimoduleSetWrappingKey_issues
    (hwrite : ∀ atoken f, KeepsOpening f → P (.writeToken atoken f))
    (hunwrap : ∀ session key wrapped template,
      P (.ck (.cUnwrapKey session .rsaPkcsOaep key wrapped template)))
    (details : KeyagentApimoduleSessionDetails) (err : Option GError) :
    (apimoduleSetWrappingKey details err).Issues P := by
  unfold apimoduleSetWrappingKey
  split
  · trivial
  · refine Prog.Issues.bind ⟨hget, fun _ => trivial⟩ fun atoken => ?_
    split
    · exact sgxSetWrappingKey_issues hget hfault hwrite hunwrap details err
    · trivial

theorem apimoduleLoadKey_issues (hunwrap : ∀ session iv tagSize key wrapped template,
      P (.ck (.cUnwrapKey session (.aesGcm iv tagSize) key wrapped template)))
    (details : KeyagentApimoduleLoadkeyDetails) (err : Option GError) :
    (apimoduleLoadKey details err).Issues P := by
  unfold apimoduleLoadKey
  split
  · trivial
  · refine Prog.Issues.bind ⟨hget, fun _ => trivial⟩ fun atoken => ?_
    split
    · dsimp only
      generalize (if _ = ckoData then keytypeClass details.type else _) = type
      split
      · trivial
      · exact sgxLoadKey_issues hget hfault hunwrap details err
    · trivial

end

/-! ## Sequences

A property that passes to sequences goes from the functions that are called to the one that calls them.
-/

section

variable {C : (α : Type) → Skc α → Prop} {cInit : Skc CkRv} {uriData : ApimoduleUriData} {create : Bool}
  {err : Option GError}

theorem ensureToken_closed (h : Prog.BindClosed C) (hfind : C _ (apimoduleFindtoken uriData))
    (hcreate : C _ (apimoduleCreatetoken uriData)) (hlogout : ∀ session, C _ (Skc.ck (.cLogout session)))
    (hclose : ∀ session, C _ (Skc.ck (.cCloseSession session))) (hfinalize : C _ (Skc.ck .cFinalize))
    (hinit : create = true → C _ cInit) : C _ (ensureToken cInit uriData create err) := by
  refine h.bind hfind ?_
  rintro ⟨rv, slot⟩
  dsimp only
  split
  · exact h.pure _
  · cases slot with
    | some slot => exact h.pure _
    | none =>
      cases create with
      | false => exact h.pure _
      | true =>
        refine h.bind hcreate ?_
        rintro ⟨rv, session⟩
        dsimp only
        split
        · exact h.pure _
        · refine h.bind (hlogout session) fun _ => h.bind (hclose session) fun _ => ?_
          exact h.bind hfinalize fun _ => h.bind (hinit rfl) fun _ => h.pure _

theorem initApimoduleToken_closed (h : Prog.BindClosed C)
    (hensure : C _ (ensureToken cInit uriData create err))
    (hopen : ∀ atoken err, C _ (openToken uriData atoken err))
    (hcache : ∀ atoken, C _ (cacheApimoduleToken atoken)) :
    C _ (initApimoduleToken cInit uriData create err) := by
  refine h.bind hensure ?_
  rintro ⟨rv, err⟩
  dsimp only
  split
  · exact h.pure _
  · refine h.bind (hopen _ err) ?_
    rintro ⟨rv, atoken, err⟩
    dsimp only
    split
    · exact h.pure _
    · exact h.bind (hcache atoken) fun _ => h.pure _

theorem lookupOrInitToken_closed (h : Prog.BindClosed C)
    (hlookup : C _ (lookupApimoduleToken uriData.tokenLabel))
    (hinit : C _ (initApimoduleToken cInit uriData create err)) :
    C _ (lookupOrInitToken cInit uriData create err) := by
  refine h.bind hlookup fun atoken => ?_
  cases atoken with
  | some atoken => exact h.pure _
  | none => exact hinit

theorem apimoduleGetChallenge_closed (h : Prog.BindClosed C)
    {params : CkRsaPublicKeyParams} {details : KeyagentApimoduleGetChallengeDetails}
    {request : KeyagentSgxChallengeRequest}
    (htoken : ∀ data, details.moduleData = some data → C _ (lookupOrInitToken cInit data true err))
    (hchallenge : ∀ err, C _ (sgxGetChallenge params details request err))
    (hread : ∀ atoken, C _ (readToken atoken))
    (hderef : ∀ challenge : Option Bytes, C _ (Skc.deref challenge "k_buffer_ref")) :
    C _ (apimoduleGetChallenge params cInit details request err) := by
  unfold apimoduleGetChallenge
  split
  · exact h.pure _
  · next data hdata =>
    refine h.bind (htoken data hdata) ?_
    rintro ⟨atoken, err⟩
    dsimp only
    split
    · refine h.bind (hchallenge err) ?_
      rintro ⟨ret, err⟩
      dsimp only
      split
      · exact h.bind (hread _) fun token => h.bind (hderef token.challenge) fun _ => h.pure _
      · exact h.pure _
    · exact h.pure _

theorem stmCreateChallenge_closed (h : Prog.BindClosed C) {config : SgxStmConfig}
    {params : CkRsaPublicKeyParams} {details : KeyagentStmCreateChallengeDetails}
    (hderef : ∀ qlPolicy : Option Bytes, C _ (Skc.deref qlPolicy "strcmp"))
    (hget : ∀ request, C _ (apimoduleGetChallenge params cInit
      ⟨details.label, details.nonce, details.moduleData⟩ request err)) :
    C _ (SgxStm.stmCreateChallenge config (apimoduleOps params cInit) details err) := by
  refine h.bind (hderef config.qlPolicy) fun qlPolicy => ?_
  split
  · exact h.pure _
  · refine h.bind (hget _) ?_
    rintro ⟨ret, challenge, err⟩
    dsimp only
    split <;> exact h.pure _

theorem onDemandLoadkey_closed (h : Prog.BindClosed C) {L : Library} {stm : StmOps} {uri : Bytes}
    (hload : C _ (keyagentLoadkeyWithModuledata (L.modules stm) (keyUrl uriData uri) (some uriData)
      err))
    (herror : ∀ error : Option GError, C _ (Skc.deref error "k_critical_error")) :
    C _ (onDemandLoadkey L stm uriData uri err) := by
  refine h.bind hload ?_
  rintro ⟨ret, err⟩
  dsimp only
  split
  · exact h.pure _
  · exact h.bind (herror err) fun _ => h.pure _

theorem cOnDemandKeyLoad_closed (h : Prog.BindClosed C) {L : Library} {stm : StmOps} {uri : Bytes}
    (htoken : ∀ uriData, apimoduleUriToUriData (L.p11KitUriParse (cstr uri)) uri = some uriData →
      C _ (lookupOrInitToken cInit uriData false none))
    (hread : ∀ atoken, C _ (readToken atoken))
    (hobject : ∀ session uriData, C _ (apimoduleFindobject session uriData))
    (hload : ∀ uriData err, C _ (onDemandLoadkey L stm uriData uri err)) :
    C _ (cOnDemandKeyLoad L stm cInit uri) := by
  unfold cOnDemandKeyLoad
  split
  · exact h.pure _
  · next uriData huri =>
    refine h.bind (htoken uriData huri) ?_
    rintro ⟨atoken, err⟩
    cases atoken with
    | none => exact hload uriData err
    | some atoken =>
      refine h.bind (hread atoken) fun token => ?_
      split
      · exact h.pure _
      · refine h.bind (hobject token.session uriData) ?_
        rintro ⟨rv, isPresent⟩
        dsimp only
        split
        · exact h.pure _
        · exact hload uriData err

end

/-! ### Initialisation -/

section

variable {C : (α : Type) → Skc α → Prop} {load : Bytes → Skc CkRv}

theorem preloadKeys_closed (h : Prog.BindClosed C)
    (hread : ∀ filename, C _ (Prog.lift (S := skcSig) (.readLines filename)))
    (hload : ∀ uri, C _ (load uri)) (preLoadKeyfile : Bytes) :
    C _ (apimodulePreloadKeys preLoadKeyfile load) := by
  have hlines : ∀ lines ret, C _ (preloadLines load lines ret) := by
    intro lines
    -- induction on the lines of the key file
    induction lines with
    | nil => exact fun ret => h.pure _
    | cons uri rest ih =>
      refine fun ret => h.bind (hload uri) fun rv => ?_
      split
      · exact h.pure _
      · exact ih true
  unfold apimodulePreloadKeys
  split
  · exact h.pure _
  · refine h.bind (hread preLoadKeyfile) fun lines => ?_
    cases lines with
    | none => exact h.pure _
    | some lines => exact hlines lines false

/-- The calls that `C_Initialize` makes itself have a property that passes to sequences. -/
structure InitializeClosed (C : (α : Type) → Skc α → Prop) : Prop extends Prog.BindClosed C where
  cInitialize : C _ (Skc.ck .cInitialize)
  atomicIntAdd : C _ (Prog.lift (S := skcSig) .atomicIntAdd)
  readLines : ∀ filename, C _ (Prog.lift (S := skcSig) (.readLines filename))
  criticalError : ∀ error : Option GError, C _ (Skc.deref error "k_critical_error")
  outOfFuel : C CkRv Skc.outOfFuel

theorem InitializeClosed.cInitialize_closed (h : InitializeClosed C) {L : Library}
    (hload : ∀ {cInit : Skc CkRv}, C _ cInit → ∀ uri,
      C _ (cOnDemandKeyLoad L (L.stmOps cInit) cInit uri)) (fuel : Nat) :
    C _ (SkcLibrary.cInitialize L fuel) := by
  -- induction on the depth of nested calls
  induction fuel with
  | zero => exact h.outOfFuel
  | succ fuel ih =>
    have hpreload := preloadKeys_closed h.toBindClosed h.readLines (hload ih) L.preLoadKeyfile
    refine h.bind h.cInitialize fun ret => ?_
    split
    · refine h.bind h.atomicIntAdd fun flag => ?_
      split
      · refine h.bind hpreload ?_
        rintro ⟨loaded, error⟩
        dsimp only
        split
        · exact h.pure _
        · exact h.bind (h.criticalError error) fun _ => h.pure _
      · exact h.pure _
    · exact h.pure _

end

section

variable {cInit : Skc CkRv}

theorem ensureToken_untilLock (hinit : UntilLock cInit) (uriData : ApimoduleUriData)
    (create : Bool) (err : Option GError) : UntilLock (ensureToken cInit uriData create err) :=
  ensureToken_closed Prog.issuesUntil_bindClosed
    ((apimoduleFindtoken_issues uriData).mono SlotCall.apimoduleCall).until
    ((createtoken_issues uriData).mono CreateCall.apimoduleCall).until
    (fun _ => .inr ⟨trivial, fun _ => trivial⟩) (fun _ => .inr ⟨trivial, fun _ => trivial⟩)
    (.inr ⟨trivial, fun _ => trivial⟩) fun _ => hinit

theorem initApimoduleToken_untilLock (hinit : UntilLock cInit) (uriData : ApimoduleUriData)
    (create : Bool) (err : Option GError) :
    UntilLock (initApimoduleToken cInit uriData create err) :=
  initApimoduleToken_closed Prog.issuesUntil_bindClosed (ensureToken_untilLock hinit uriData create err)
    (fun _ _ => ((openToken_issues _ _ _).mono TokenCall.apimoduleCall).until)
    fun _ => .inr ⟨trivial, fun _ => trivial⟩

theorem lookupOrInitToken_untilLock (hinit : UntilLock cInit) (uriData : ApimoduleUriData)
    (create : Bool) (err : Option GError) :
    UntilLock (lookupOrInitToken cInit uriData create err) :=
  lookupOrInitToken_closed Prog.issuesUntil_bindClosed
    ((lookupApimoduleToken_issues _).mono TokenCall.apimoduleCall).until
    (initApimoduleToken_untilLock hinit uriData create err)

theorem readToken_untilLock (atoken : TokenRef) : UntilLock (readToken atoken) :=
  ((readToken_issues atoken).mono TokenCall.apimoduleCall).until

/-- `stm_create_challenge` of the SGX module; it may initialise the PKCS#11 module anew. -/
theorem stmCreateChallenge_untilLock (hinit : UntilLock cInit) (config : SgxStmConfig)
    {params : CkRsaPublicKeyParams} (details : KeyagentStmCreateChallengeDetails)
    (err : Option GError) :
    UntilLock (SgxStm.stmCreateChallenge config (apimoduleOps params cInit) details err) := by
  refine stmCreateChallenge_closed Prog.issuesUntil_bindClosed
    (fun _ => (Skc.issues_deref trivial).until) fun request => ?_
  exact apimoduleGetChallenge_closed Prog.issuesUntil_bindClosed
    (fun _ _ => lookupOrInitToken_untilLock hinit _ _ _)
    (fun _ => ((sgxGetChallenge_issues _ _ _).mono ChallengeCall.apimoduleCall).until)
    readToken_untilLock fun _ => (Skc.issues_deref trivial).until

/-- A call of the library asks for the lock when it turns to the agent. -/
theorem onDemandLoadkey_untilLock {P : Call → Prop} (hfault : ∀ reason, P (.fault reason))
    (L : Library) (stm : StmOps) (uriData : ApimoduleUriData) (uri : Bytes) (err : Option GError) :
    (onDemandLoadkey L stm uriData uri err).IssuesUntil (fun c : Call => c = .rwLockWriterLock) P := by
  refine onDemandLoadkey_closed Prog.issuesUntil_bindClosed ?_
    fun _ => (Skc.issues_deref (hfault _)).until
  unfold keyagentLoadkeyWithModuledata
  refine (Skc.issues_deref (hfault _)).until.bind fun missing => ?_
  split
  · trivial
  · exact .inl rfl

theorem cOnDemandKeyLoad_untilLock (hinit : UntilLock cInit) (L : Library) (stm : StmOps)
    (uri : Bytes) : UntilLock (cOnDemandKeyLoad L stm cInit uri) :=
  cOnDemandKeyLoad_closed Prog.issuesUntil_bindClosed
    (fun _ _ => lookupOrInitToken_untilLock hinit _ _ _) readToken_untilLock
    (fun _ _ => ((apimoduleFindobject_issues _ _).mono ObjectCall.apimoduleCall).until)
    fun _ _ => onDemandLoadkey_untilLock (fun _ => trivial) _ _ _ _ _

/-- **`C_Initialize`**: the keys that it loads are never loaded if the lock is held. -/
theorem cInitialize_untilLock (L : Library) (fuel : Nat) : UntilLock (cInitialize L fuel) := by
  refine InitializeClosed.cInitialize_closed (C := fun _ p => UntilLock p)
    { Prog.issuesUntil_bindClosed with
      cInitialize := .inr ⟨trivial, fun _ => trivial⟩
      atomicIntAdd := .inr ⟨trivial, fun _ => trivial⟩
      readLines := fun _ => .inr ⟨trivial, fun _ => trivial⟩
      criticalError := fun _ => (Skc.issues_deref trivial).until
      outOfFuel := .inr ⟨trivial, fun a => a.elim⟩ } (fun hinit uri => ?_) fuel
  exact cOnDemandKeyLoad_untilLock hinit L _ uri

end

end SkcLibrary
