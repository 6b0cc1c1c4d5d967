import SkcLibrary.Apimodule.TokenObjects
import SkcLibrary.Npm.KmsRules

/-!
# The key of a challenge

Any number of threads, each of which loads a key on demand, from KBS. A key pair is generated and quoted,
the quote is posted, and what comes back is unwrapped with the private key of the pair. All of that is
done under the agent's lock. But the key is looked up in the cached token, and a token is also cached by
calls that do not hold the lock: by those that have asked for it before it was there.

`SparesToken` is the condition that no such call replaces a token while another one holds the lock.

* `challenge_keys_match` — a wrapping key is unwrapped with the key of its own challenge
-/

namespace SkcLibrary

open Interaction

variable {W : Type}

/-! ## Runs -/

/-- How far the exchange that brings a wrapping key has come. -/
inductive Exchange where
  | idle
  | pair (publicKey privateKey : Nat)
  | quoted (privateKey : Nat) (challenge : Bytes)
  | posted (privateKey : Nat) (response : HttpResponse)

/-- The quote in a request. -/
def HttpRequest.quote (request : HttpRequest) : Option Bytes :=
  match request.postdata.bind (·.member (lit "quote")) with
  | some (.string quote) => some quote
  | _ => none

/-- A challenge has been made of the quote of a public key. -/
def Exchange.quote (e : Exchange) (publicKey : Nat) (challenge : Bytes) : Exchange :=
  match e with
  | .pair pub priv => if pub = publicKey then .quoted priv challenge else e
  | _ => e

/-- A request has been answered. -/
def Exchange.post (e : Exchange) (request : HttpRequest) (response : HttpResponse) : Exchange :=
  match e with
  | .quoted priv challenge =>
    if request.quote = some (gBase64Encode challenge) then .posted priv response else e
  | _ => e

/-- One more call. -/
def noteExchange (params : CkRsaPublicKeyParams) (c : Call) : c.Ans → Exchange → Exchange :=
  match c with
  | .ck (.cGenerateKeyPair _ _ _) => fun a _ => if a.1 = ckrOk then .pair a.2.1 a.2.2 else .idle
  | .ck (.cWrapKey _ _ _ publicKey quoteLen) => fun a e =>
    if a.1 = ckrOk then (quoteChallenge params quoteLen a.2).elim e (e.quote publicKey) else e
  | .httpsSend request => fun response e => e.post request response
  | _ => fun _ e => e

/-- A wrapping key is unwrapped with the private key of the challenge that was posted for it. -/
def UsesChallengeKey (c : Call) (e : Exchange) : Prop :=
  match c with
  | .ck (.cUnwrapKey _ .rsaPkcsOaep key wrapped _) => ∃ response swktype,
    e = .posted key response ∧ Kms.parseSession response.body = .ok (wrapped, swktype)
  | _ => True

/-- While another call holds the lock, a token is cached only if there is none. -/
def SparesToken (i : Nat) (c : Call) (x : World W × Exchange) : c.Ans → Prop :=
  match c with
  | .cacheToken _ => fun _ => x.1.rwlock = none ∨ x.1.rwlock = some i ∨
    x.1.apimodule.apimoduleTokenHash.lookup Kms.kmsPrefixToken = none
  | _ => fun _ => True

/-- The steps of a thread, as far as they meet the condition. -/
abbrev challengeStep (E : Step skcSig W) (params : CkRsaPublicKeyParams) :
    Nat → Step skcSig (World W × Exchange) :=
  threadStep E (fun _ c _ => noteExchange params c) SparesToken

/-! ## What the thread with the lock knows -/

/-- The tokens and the exchange, if they are known. -/
abbrev Known := Option (Apimodule × Exchange)

/-- What a call tells the thread. Once there is a token, nothing changes without it. -/
def KnownStep (params : CkRsaPublicKeyParams) (c : Call) (z : Known) : c.Ans → Known → Prop :=
  match c with
  | .getApimodule => fun m z' => (∀ y, z = some y → m = y.1 ∧ z' = z) ∧
    (m.apimoduleTokenHash.lookup Kms.kmsPrefixToken ≠ none → ∃ e, z' = some (m, e))
  | .cacheToken token => fun atoken z' => token.tokenLabel = Kms.kmsPrefixToken →
    ∃ m e, z' = some (m, e) ∧ m.apimoduleTokenHash.lookup Kms.kmsPrefixToken = some atoken
  | .writeToken atoken f => fun _ z' => z' = z.map fun y => (y.1.mapToken atoken f, y.2)
  | .atomicIntAdd => fun _ _ => True
  | c => fun a z' => z' = z.map fun y => (y.1, noteExchange params c a y.2)

/-- Wrapping keys are unwrapped by a thread that knows what it is doing. -/
def KnownPre (c : Call) (z : Known) : Prop :=
  match c with
  | .ck (.cUnwrapKey _ .rsaPkcsOaep _ _ _) => ∃ y, z = some y ∧ UsesChallengeKey c y.2
  | .stm _ => False
  | _ => True

/-- The calls of the api module that ask for nothing. -/
def KnownCall : Call → Prop
  | .ck (.cUnwrapKey _ (.aesGcm _ _) _ _ _) => True
  | c => ApimoduleCall c

/-- The setting of the api module, under the lock. -/
abbrev knownLogic (params : CkRsaPublicKeyParams) : Logic skcSig Known :=
  freeLogic (KnownStep params) KnownPre True

/-- The token is cached. -/
def CachedToken (atoken : TokenRef) (z : Known) : Prop :=
  ∃ m e, z = some (m, e) ∧ m.apimoduleTokenHash.lookup Kms.kmsPrefixToken = some atoken

/-- And of the token and the exchange `P` is known. -/
def KnownToken (P : ApimoduleToken → Exchange → Prop) (atoken : TokenRef) (z : Known) : Prop :=
  ∃ m e token, z = some (m, e) ∧
    m.apimoduleTokenHash.lookup Kms.kmsPrefixToken = some atoken ∧
    m.tokens[atoken]? = some token ∧ P token e

/-- The key pair is the one of the token. -/
def Paired (token : ApimoduleToken) (e : Exchange) : Prop :=
  e = .pair token.publickeyChallengeHandle token.privatekeyChallengeHandle

/-- The challenge was made with the key pair of the token, and left there. -/
def Quoted (challenge : Bytes) (token : ApimoduleToken) (e : Exchange) : Prop :=
  token.challenge = some challenge ∧ e = .quoted token.privatekeyChallengeHandle challenge

/-- The challenge has been posted. -/
def Posted (response : HttpResponse) (token : ApimoduleToken) (e : Exchange) : Prop :=
  e = .posted token.privatekeyChallengeHandle response

section Known

variable {params : CkRsaPublicKeyParams} {α β : Type} {p : Skc α} {f : α → Skc β}
  {Q : β → Known → Prop} {z : Known} {m : Apimodule} {e : Exchange} {atoken : TokenRef}

theorem ApimoduleCall.knownCall (c : Call) (h : ApimoduleCall c) : KnownCall c := by
  cases c with
  | ck d =>
    cases d with
    | cUnwrapKey session mechanism key wrapped template => exact h.elim
    | _ => exact h
  | _ => exact h

theorem KnownCall.not_guarded {c : Call} (hc : KnownCall c) : ¬c.Guarded := by
  intro hguard
  cases c <;> first | exact hc | exact hguard

theorem KnownCall.pre {c : Call} (hc : KnownCall c) (z : Known) : KnownPre c z := by
  cases c with
  | ck d =>
    cases d with
    | cUnwrapKey session mechanism key wrapped template =>
      cases mechanism with
      | rsaPkcsOaep => exact hc.elim
      | aesGcm iv tagSize => trivial
    | _ => trivial
  | stm d => exact hc.elim
  | _ => trivial

/-- What asks for nothing may be run at any time. The lock that is held is never taken. -/
theorem sat_untilLock_known
    (hp : p.IssuesUntil (fun c : Call => c = .rwLockWriterLock) KnownCall) :
    Sat (knownLogic params) p (fun _ _ => True) z := by
  refine Sat.of_issuesUntil hp stable_seq (fun c hc z' _ => ?_) (fun c hc z' _ => ?_) trivial
  · exact ⟨.inl ⟨trivial, hc⟩, fun _ _ hstep => absurd hc hstep.1⟩
  · exact ⟨.inr ⟨hc.not_guarded, hc.pre z'⟩, fun _ _ _ => ⟨trivial, trivial⟩⟩

theorem sat_issues_known (hp : p.Issues KnownCall) : Sat (knownLogic params) p (fun _ _ => True) z :=
  sat_untilLock_known hp.until

/-! ### What is known is read and written -/

theorem sat_apimodule_known {f : Apimodule → Skc β} (h : Sat (knownLogic params) (f m) Q (some (m, e))) :
    Sat (knownLogic params) (Skc.apimodule >>= f) Q (some (m, e)) := by
  rw [Skc.apimodule_bind]
  refine sat_seq_call.mpr ⟨.inr ⟨id, trivial⟩, fun m' z' hstep => ?_⟩
  obtain ⟨rfl, rfl⟩ := hstep.2.1 (m, e) rfl
  exact h

theorem sat_lookup_known {label : Bytes} {f : Option TokenRef → Skc β}
    (hlabel : cstr label = Kms.kmsPrefixToken)
    (h : Sat (knownLogic params) (f (m.apimoduleTokenHash.lookup Kms.kmsPrefixToken)) Q (some (m, e))) :
    Sat (knownLogic params) (lookupApimoduleToken label >>= f) Q (some (m, e)) := by
  rw [lookupApimoduleToken, bind_assoc]
  refine sat_apimodule_known ?_
  rw [pure_bind, hlabel]
  exact h

theorem sat_readToken_known {f : ApimoduleToken → Skc β}
    (h : ∀ token, m.tokens[atoken]? = some token → Sat (knownLogic params) (f token) Q (some (m, e))) :
    Sat (knownLogic params) (readToken atoken >>= f) Q (some (m, e)) := by
  rw [readToken, bind_assoc]
  refine sat_apimodule_known ?_
  cases htoken : m.tokens[atoken]? with
  | none =>
    rw [Skc.deref_none, Skc.fault_bind]
    exact sat_seq_call.mpr ⟨.inr ⟨id, trivial⟩, fun a => nomatch a⟩
  | some token => exact h token htoken

theorem sat_writeToken_known {g : ApimoduleToken → ApimoduleToken} {f : Unit → Skc β}
    (h : Sat (knownLogic params) (f ()) Q (some (m.mapToken atoken g, e))) :
    Sat (knownLogic params) (writeToken atoken g >>= f) Q (some (m, e)) := by
  refine sat_seq_call.mpr ⟨.inr ⟨id, trivial⟩, fun _ z' hstep => ?_⟩
  obtain rfl : z' = some (m.mapToken atoken g, e) := hstep.2
  exact h

theorem sat_ck_known {d : CkCall} {f : d.Ans → Skc β}
    (hd : KnownCall (.ck d) ∨ UsesChallengeKey (.ck d) e)
    (h : ∀ a, Sat (knownLogic params) (f a) Q (some (m, noteExchange params (.ck d) a e))) :
    Sat (knownLogic params) (Skc.ck d >>= f) Q (some (m, e)) := by
  rw [Skc.ck_bind]
  refine sat_seq_call.mpr ⟨.inr ⟨id, ?_⟩, fun a z' hstep => ?_⟩
  · rcases hd with hd | hd
    · exact hd.pre _
    · cases d with
      | cUnwrapKey session mechanism key wrapped template =>
        cases mechanism with
        | rsaPkcsOaep => exact ⟨_, rfl, hd⟩
        | aesGcm iv tagSize => trivial
      | _ => trivial
  · obtain rfl : z' = some (m, noteExchange params (.ck d) a e) := hstep.2
    exact h a

theorem sat_deref_known {o : Option α} {reason : String}
    (h : ∀ a, o = some a → Sat (knownLogic params) (f a) Q z) :
    Sat (knownLogic params) (Skc.deref o reason >>= f) Q z := by
  cases o with
  | none =>
    rw [Skc.deref_none, Skc.fault_bind]
    exact sat_seq_call.mpr ⟨.inr ⟨id, trivial⟩, fun a => nomatch a⟩
  | some a => exact h a rfl

theorem mapToken_get {token : ApimoduleToken} (h : m.tokens[atoken]? = some token)
    (g : ApimoduleToken → ApimoduleToken) : (m.mapToken atoken g).tokens[atoken]? = some (g token) := by
  rw [Apimodule.mapToken, List.getElem?_modify_eq, h]
  rfl

end Known

/-! ## Challenges -/

section Challenge

variable {params : CkRsaPublicKeyParams} {cInit : Skc CkRv} {data : ApimoduleUriData} {z : Known}
  {atoken : TokenRef}

/-- A token that is initialised is cached. -/
theorem sat_initToken_known (hinit : UntilLock cInit)
    (hlabel : cstr data.tokenLabel = Kms.kmsPrefixToken) (create : Bool) (err : Option GError) :
    Sat (knownLogic params) (initApimoduleToken cInit data create err)
      (fun r z' => ∀ atoken, r.1 = some atoken → CachedToken atoken z') z := by
  have hensure := (ensureToken_untilLock hinit data create err).mono ApimoduleCall.knownCall
  refine (sat_untilLock_known hensure).bind ?_
  rintro ⟨rv, err⟩ z₁ -
  dsimp only
  split
  · exact sat_seq_pure.mpr nofun
  · have hopen : (openToken data (allocApimoduleToken data.tokenLabel data.pin) err).Issues
        KnownCall := (openToken_issues _ _ _).mono fun c hc =>
      (TokenCall.apimoduleCall c hc).knownCall
    refine ((sat_issues_known hopen).returns (openToken_label _ _ _)).bind ?_
    rintro ⟨rv, token, err⟩ z₂ ⟨-, htoken⟩
    have htoken : token.tokenLabel = Kms.kmsPrefixToken := htoken.trans hlabel
    dsimp only
    split
    · exact sat_seq_pure.mpr nofun
    · refine sat_seq_call.mpr ⟨.inr ⟨id, trivial⟩, fun ref z₃ hstep => sat_seq_pure.mpr ?_⟩
      rintro atoken ⟨⟩
      exact hstep.2 htoken

theorem sat_lookupOrInitToken_known (hinit : UntilLock cInit)
    (hlabel : cstr data.tokenLabel = Kms.kmsPrefixToken) (create : Bool) (err : Option GError) :
    Sat (knownLogic params) (lookupOrInitToken cInit data create err)
      (fun r z' => ∀ atoken, r.1 = some atoken → CachedToken atoken z') z := by
  rw [lookupOrInitToken, lookupApimoduleToken, bind_assoc, Skc.apimodule_bind]
  refine sat_seq_call.mpr ⟨.inr ⟨id, trivial⟩, fun m z₁ hstep => ?_⟩
  rw [pure_bind, hlabel]
  cases hlookup : m.apimoduleTokenHash.lookup Kms.kmsPrefixToken with
  | none => exact sat_initToken_known hinit hlabel create err
  | some atoken =>
    refine sat_seq_pure.mpr ?_
    rintro atoken' ⟨⟩
    obtain ⟨e, he⟩ := hstep.2.2 (by rw [hlookup]; nofun)
    exact ⟨m, e, he, hlookup⟩

/-- The key pair goes into the token. -/
theorem sat_generateRsaKeypair_known (hz : CachedToken atoken z) (label id : Bytes) :
    Sat (knownLogic params) (generateRsaKeypair atoken label id)
      (fun rv z' => rv = ckrOk → KnownToken Paired atoken z') z := by
  obtain ⟨m, e, rfl, hlookup⟩ := hz
  refine sat_writeToken_known (sat_readToken_known fun token htoken => ?_)
  refine sat_ck_known (.inl trivial) fun a => ?_
  obtain ⟨rv, publicKey, privateKey⟩ := a
  dsimp only
  split
  · next hrv =>
    refine sat_writeToken_known (sat_seq_pure.mpr fun _ => ?_)
    refine ⟨_, _, _, rfl, hlookup, mapToken_get htoken _, ?_⟩
    simp only [noteExchange, hrv, if_true, Paired]
  · next hrv => exact sat_seq_pure.mpr fun h => absurd h hrv

/-- The public key is quoted, and the challenge goes into the token. -/
theorem sat_exportQuote_known (hz : KnownToken Paired atoken z) (policy : Int) (nonce : Bytes)
    (err : Option GError) :
    Sat (knownLogic params) (exportQuote params atoken policy nonce err)
      (fun r z' => r.1 = true → ∃ challenge, KnownToken (Quoted challenge) atoken z') z := by
  obtain ⟨m, e, token, rfl, hlookup, htoken, rfl⟩ := hz
  refine sat_readToken_known fun token₁ htoken₁ => ?_
  refine sat_ck_known (.inl trivial) fun a => ?_
  obtain ⟨rv, quoteLen⟩ := a
  dsimp only
  split
  · exact sat_seq_pure.mpr nofun
  · refine sat_readToken_known fun token₂ htoken₂ => ?_
    obtain rfl : token = token₂ := Option.some.inj (htoken.symm.trans htoken₂)
    refine sat_ck_known (.inl trivial) fun b => ?_
    obtain ⟨rv, quote⟩ := b
    dsimp only
    split
    · exact sat_seq_pure.mpr nofun
    · next hrv =>
      refine sat_deref_known fun challenge hchallenge => ?_
      refine sat_writeToken_known (sat_seq_pure.mpr fun _ => ⟨challenge, ?_⟩)
      refine ⟨_, _, _, rfl, hlookup, mapToken_get htoken _, rfl, ?_⟩
      simp only [noteExchange, not_not.mp hrv, if_true, hchallenge, Option.elim_some, Exchange.quote]

/-- `sgx_get_challenge` -/
theorem sat_sgxGetChallenge_known (hz : CachedToken atoken z)
    {details : KeyagentApimoduleGetChallengeDetails}
    (hlabel : ∀ data, details.moduleData = some data → cstr data.tokenLabel = Kms.kmsPrefixToken)
    (request : KeyagentSgxChallengeRequest) (err : Option GError) :
    Sat (knownLogic params) (sgxGetChallenge params details request err)
      (fun r z' => r.1 = true → ∃ challenge, KnownToken (Quoted challenge) atoken z') z := by
  unfold sgxGetChallenge
  split
  · exact sat_seq_pure.mpr nofun
  · split
    · exact sat_seq_pure.mpr nofun
    · next data hdata =>
      obtain ⟨m, e, rfl, hlookup⟩ := hz
      refine sat_lookup_known (hlabel data hdata) ?_
      rw [hlookup]
      refine (sat_generateRsaKeypair_known ⟨m, e, rfl, hlookup⟩ _ _).bind fun rv z₁ hz₁ => ?_
      split
      · exact sat_seq_pure.mpr nofun
      · next hrv => exact sat_exportQuote_known (hz₁ (not_not.mp hrv)) _ _ _

/-- What is returned is the challenge of the token. -/
theorem sat_getChallenge_known (hinit : UntilLock cInit)
    {details : KeyagentApimoduleGetChallengeDetails}
    (hlabel : ∀ data, details.moduleData = some data → cstr data.tokenLabel = Kms.kmsPrefixToken)
    (request : KeyagentSgxChallengeRequest) (err : Option GError) :
    Sat (knownLogic params) (apimoduleGetChallenge params cInit details request err)
      (fun r z' => r.1 = true → ∃ challenge atoken, r.2.1 = some challenge ∧
        KnownToken (Quoted challenge) atoken z') z := by
  unfold apimoduleGetChallenge
  split
  · exact sat_seq_pure.mpr nofun
  · next data hdata =>
    refine (sat_lookupOrInitToken_known hinit (hlabel data hdata) true err).bind ?_
    rintro ⟨atoken, err⟩ z₁ hz₁
    dsimp only
    split
    · next atoken _ =>
      refine (sat_sgxGetChallenge_known (hz₁ _ rfl) hlabel request err).bind ?_
      rintro ⟨ret, err⟩ z₂ hz₂
      dsimp only
      split
      · next hret =>
        obtain ⟨challenge, m, e, token, rfl, hlookup, htoken, hquoted⟩ := hz₂ hret
        -- the same token is read again, so what is returned is the challenge that was quoted
        refine sat_readToken_known fun token' htoken' => ?_
        obtain rfl : token = token' := Option.some.inj (htoken.symm.trans htoken')
        refine sat_deref_known fun challenge' hchallenge' => sat_seq_pure.mpr fun _ => ?_
        obtain rfl : challenge = challenge' :=
          Option.some.inj (hquoted.1.symm.trans hchallenge')
        exact ⟨challenge, atoken, rfl, m, e, token, rfl, hlookup, htoken, hquoted⟩
      · exact sat_seq_pure.mpr nofun
    · exact sat_seq_pure.mpr nofun

theorem sat_stmCreateChallenge_known (hinit : UntilLock cInit) (config : SgxStmConfig)
    {details : KeyagentStmCreateChallengeDetails}
    (hlabel : ∀ data, details.moduleData = some data → cstr data.tokenLabel = Kms.kmsPrefixToken)
    (err : Option GError) :
    Sat (knownLogic params) (SgxStm.stmCreateChallenge config (apimoduleOps params cInit) details err)
      (fun r z' => r.1 = true → ∃ challenge atoken, r.2.1 = some challenge ∧
        KnownToken (Quoted challenge) atoken z') z := by
  refine sat_deref_known fun qlPolicy _ => ?_
  split
  · exact sat_seq_pure.mpr nofun
  · refine (sat_getChallenge_known hinit hlabel _ err).bind ?_
    rintro ⟨ret, challenge, err⟩ z₁ hz₁
    dsimp only
    split
    · exact sat_seq_pure.mpr nofun
    · exact sat_seq_pure.mpr hz₁

/-- **`sgx_set_wrapping_key`**, with what was posted for the challenge of the token. -/
theorem sat_setWrappingKey_known {response : HttpResponse}
    {details : KeyagentApimoduleSessionDetails} {swktype : Bytes}
    (hz : KnownToken (Posted response) atoken z)
    (hparse : Kms.parseSession response.body = .ok (details.session, swktype))
    (hlabel : ∀ data, details.moduleData = some data → cstr data.tokenLabel = Kms.kmsPrefixToken)
    (err : Option GError) :
    Sat (knownLogic params) (apimoduleSetWrappingKey details err) (fun _ _ => True) z := by
  obtain ⟨m, e, token, rfl, hlookup, htoken, rfl⟩ := hz
  unfold apimoduleSetWrappingKey
  split
  · exact sat_seq_pure.mpr trivial
  · next data hdata =>
    refine sat_lookup_known (hlabel data hdata) ?_
    rw [hlookup]
    split
    · unfold sgxSetWrappingKey
      rw [hdata]
      refine sat_lookup_known (hlabel data hdata) ?_
      rw [hlookup]
      refine sat_readToken_known fun token' htoken' => ?_
      obtain rfl : token = token' := Option.some.inj (htoken.symm.trans htoken')
      -- what is unwrapped is the session in the response to this challenge
      refine sat_ck_known (.inr ⟨response, swktype, rfl, hparse⟩) fun a => ?_
      obtain ⟨rv, key⟩ := a
      dsimp only
      split
      · exact sat_seq_pure.mpr trivial
      · exact sat_writeToken_known (sat_seq_pure.mpr trivial)
    · exact sat_seq_pure.mpr trivial

end Challenge

/-! ## The agent, and KBS -/

section Load

variable {params : CkRsaPublicKeyParams} {L : Library} {cInit : Skc CkRv}
  {uriData : ApimoduleUriData} {url : Bytes} {x y : Keyagent × Known}

theorem Call.Agent.knownPre {c : Call} {z : Known} (hc : c.Agent) : KnownPre c z := by
  cases c <;> trivial

/-- The thread with the lock. -/
abbrev knownView (params : CkRsaPublicKeyParams) : AgentView (Keyagent × Known) :=
  lockedView (KnownStep params) KnownPre Call.Agent.knownPre

/-- A call of the agent that is not an answer of KBS tells the thread nothing. -/
theorem known_quiet {R : Keyagent → Keyagent → Prop} (h : (knownView params).Quiet R x y) : y.2 = x.2 := by
  refine h.induction (J := fun y => y.2 = x.2) (fun {t u table a} ht hu => ?_) (fun ht _ => ht) rfl
  have hu : u.2 = t.2.map fun y => (y.1, y.2) := (lockedView_step Call.Agent.knownPre id hu).2
  rw [hu, ← ht]
  cases t.2 <;> rfl

/-- The challenge is in the request. -/
theorem quote_sessionData {request : HttpRequest} {req : Kms.ChallengeRequest} {challenge : Bytes}
    (h : request.postdata = some (Kms.sessionData req challenge)) :
    request.quote = some (gBase64Encode challenge) := by
  rw [HttpRequest.quote, h]
  rfl

variable {requestId : Bytes}

/-- **The challenge.** -/
theorem sat_stmGetChallenge_known (hinit : UntilLock cInit)
    (hlabel : cstr uriData.tokenLabel = Kms.kmsPrefixToken) {nonce name : Bytes}
    {error : Option GError} (honly : x.1.OnlyRequest requestId (some uriData)) :
    Sat (knownView L.rsaPublicKeyParams).logic
      (keyagentStmGetChallenge (L.stmOps cInit) requestId nonce name error)
      (fun r y => y.1.OnlyRequest requestId (some uriData) ∧
        (r.1 = true → ∃ challenge atoken, r.2.1 = some challenge ∧
          KnownToken (Quoted challenge) atoken y.2)) x := by
  refine AgentView.sat_keyagentStmGetChallenge (fun _ => ⟨honly, nofun⟩)
    fun lstm request _ hrequest => ?_
  have hdata : request.moduleData = some uriData := (honly _ _ hrequest).2
  refine (sat_locked_of_free (fun _ => trivial) (sat_stmCreateChallenge_known hinit L.sgxStm
    (fun data h => ?_) error)).mono fun r y hy => ?_
  · obtain rfl : uriData = data := Option.some.inj (hdata.symm.trans h)
    exact hlabel
  · refine ⟨?_, hy.2⟩
    rw [hy.1]
    exact honly.setStmName _ _

/-- **The wrapping key**, which KBS has sent for the challenge of the token. -/
theorem sat_sessionCreate_known {response : HttpResponse} {atoken : TokenRef}
    {name sessionId swk swkType : Bytes} {error : Option GError}
    (hlabel : cstr uriData.tokenLabel = Kms.kmsPrefixToken)
    (hparse : Kms.parseSession response.body = .ok (swk, swkType))
    (honly : x.1.OnlyRequest requestId (some uriData))
    (hx : KnownToken (Posted response) atoken x.2) :
    Sat (knownView L.rsaPublicKeyParams).logic
      (keyagentSessionCreateUncached (L.stmOps cInit) requestId name sessionId swk swkType error)
      (fun _ y => y.1.OnlyRequest requestId (some uriData)) x := by
  refine AgentView.sat_sessionCreate_swk (fun _ => honly) fun session err' y hy hswk => ?_
  have hyonly : y.1.OnlyRequest requestId (some uriData) := honly.of_requests hy.keysFrom.requests
  refine AgentView.sat_keyagentStmSetSession (fun _ _ _ _ => hyonly)
    fun data lstm request hdata _ hrequest => ?_
  have hmodule : request.moduleData = some uriData := (hyonly _ _ hrequest).2
  have hy : KnownToken (Posted response) atoken y.2 := by
    rw [known_quiet hy]
    exact hx
  have hparse : Kms.parseSession response.body = .ok (data.swk, swkType) := by
    rw [hswk data hdata]
    exact hparse
  refine (sat_locked_of_free (fun _ => trivial) (sat_setWrappingKey_known hy hparse (fun data' h => ?_)
    err')).mono fun _ z hz => ?_
  · obtain rfl : uriData = data' := Option.some.inj (hmodule.symm.trans h)
    exact hlabel
  · rw [hz.1]
    exact (hyonly.setStmName _ _).of_requests rfl

variable {details : KeyagentKeyloadDetails} {err : Option GError}

/-- An operation in which the token has no part. -/
theorem sat_own_known {stm : StmOps} {c : NpmCall} (hc : c.Own)
    (honly : x.1.OnlyRequest requestId (some uriData)) :
    Sat (knownView L.rsaPublicKeyParams).logic (npmOps stm c)
      (fun _ y => y.1.OnlyRequest requestId (some uriData)) x :=
  (sat_npmOps_own (V := knownView L.rsaPublicKeyParams) (X := fun _ => True) (fun _ _ _ _ => trivial)
    (fun _ => trivial) hc trivial honly).mono fun _ _ h => h.2

/-- The quote is posted, and the session that is answered is created. -/
theorem sat_postChallenge_known {req : Kms.ChallengeRequest} {challenge : Bytes}
    {atoken : TokenRef} (hlabel : cstr uriData.tokenLabel = Kms.kmsPrefixToken)
    (honly : x.1.OnlyRequest details.requestId (some uriData))
    (hx : KnownToken (Quoted challenge) atoken x.2) :
    Sat (knownView L.rsaPublicKeyParams).logic
      (runNpm (L.stmOps cInit) (Kms.postChallenge details req challenge err))
      (fun _ y => y.1.OnlyRequest details.requestId (some uriData)) x := by
  refine AgentView.sat_runNpm_postChallenge fun request hrequest => ?_
  refine AgentView.sat_lift'.mpr ⟨⟨nofun, trivial⟩, fun res y hy => ?_⟩
  obtain ⟨hka, hknown⟩ := lockedView_step Call.Agent.knownPre id hy
  have hyonly : y.1.OnlyRequest details.requestId (some uriData) := by
    rw [hka]
    exact honly
  -- the post turns the quoted challenge into the pair of challenge and response
  have hposted : KnownToken (Posted res) atoken y.2 := by
    obtain ⟨m, e, token, hm, hlookup, htoken, -, rfl⟩ := hx
    refine ⟨m, _, token, ?_, hlookup, htoken, rfl⟩
    rw [hm] at hknown
    refine Eq.trans hknown ?_
    simp only [Option.map_some, noteExchange, Exchange.post, quote_sessionData hrequest, if_true]
  refine ⟨fun _ => hyonly, AgentView.sat_runNpm_createSession (fun _ => hyonly) ?_⟩
  intro swk swkType hparse
  exact (sat_sessionCreate_known hlabel hparse hyonly hposted).mono fun _ _ hz =>
    ⟨fun _ => hz, fun _ _ => hz⟩

/-- **`start_session`** -/
theorem sat_startSession_known (hinit : UntilLock cInit)
    (hlabel : cstr uriData.tokenLabel = Kms.kmsPrefixToken) {transferData : Json}
    (honly : x.1.OnlyRequest details.requestId (some uriData)) :
    Sat (knownView L.rsaPublicKeyParams).logic
      (runNpm (L.stmOps cInit) (Kms.startSession details transferData err))
      (fun _ y => y.1.OnlyRequest details.requestId (some uriData)) x := by
  refine AgentView.sat_runNpm_startSession (fun _ _ => honly) (fun _ _ _ => honly) fun req _ _ => ?_
  refine (sat_own_known (c := .uninitialised _) trivial honly).mono fun _ y hy nonce => ?_
  refine (sat_stmGetChallenge_known hinit hlabel hy).mono ?_
  rintro ⟨ret, challenge, err⟩ z ⟨hz, hchallenge⟩
  refine ⟨fun _ => hz, fun hret challenge' hsome => ?_⟩
  obtain ⟨challenge, atoken, hsome', hknown⟩ := hchallenge hret
  obtain rfl : challenge = challenge' := Option.some.inj (hsome'.symm.trans hsome)
  exact sat_postChallenge_known hlabel hz hknown

/-- **`__npm_loadkey`**: every operation leaves the request as it was. -/
theorem sat_npmLoadkey_known (hinit : UntilLock cInit)
    (hlabel : cstr uriData.tokenLabel = Kms.kmsPrefixToken) {serverUrl : Bytes} {tries : Nat}
    (honly : x.1.OnlyRequest details.requestId (some uriData)) :
    Sat (knownView L.rsaPublicKeyParams).logic
      (runNpm (L.stmOps cInit) (Kms.npmLoadkey serverUrl details tries err))
      (fun _ y => y.1.OnlyRequest details.requestId (some uriData)) x := by
  refine AgentView.sat_runNpm_npmLoadkey
    (P := fun _ y => y.1.OnlyRequest details.requestId (some uriData))
    (A := fun _ _ y => y.1.OnlyRequest details.requestId (some uriData))
    (fun _ _ hy _ => hy) (fun _ y hy => ?_) (fun _ _ _ hy _ _ => hy) (fun _ _ _ _ hy _ _ _ => hy)
    (fun _ _ y hy _ _ => ?_) (fun _ _ y hy _ => ?_) honly
  · refine (sat_own_known (c := .sessionGetIds) trivial hy).mono fun _ z hz request _ => ?_
    exact sat_own_known (c := .httpsSend request) trivial hz
  · exact (sat_startSession_known hinit hlabel hy).mono fun _ _ hz => ⟨fun _ => hz, fun _ => hz⟩
  · refine AgentView.sat_runNpm_createKey (fun _ => hy) fun transfer tokens sessionId _ _ _ => ?_
    exact sat_own_known (c := .keyCreate _ _ _ _ _ _) trivial hy

/-- **A load between lock and unlock.** -/
theorem sat_loadkeyLocked_known (hinit : UntilLock cInit)
    (hlabel : cstr uriData.tokenLabel = Kms.kmsPrefixToken)
    (hnpm : ∀ npm ∈ L.npmHash, ∃ serverUrl, npm = Kms.npm serverUrl) (hreq : x.1.NoRequests) :
    Sat (knownView L.rsaPublicKeyParams).logic
      (loadkeyLocked (L.modules (L.stmOps cInit)) url (some uriData) err)
      (fun _ y => y.1.NoRequests) x := by
  have hsearch : Searching (knownView L.rsaPublicKeyParams) (L.modules (L.stmOps cInit)) url
      (some uriData) fun _ _ => True := by
    refine ⟨fun _ _ => trivial, fun _ => trivial, fun hmem _ _ honly => ?_, fun _ _ _ honly => ?_⟩
    · obtain ⟨serverUrl, rfl⟩ := hnpm _ hmem
      exact (sat_npmLoadkey_known hinit hlabel honly).mono fun _ _ hy => ⟨trivial, hy⟩
    · refine sat_loadkeyStm (Z := fun _ _ => True) (fun _ _ => trivial) (fun _ _ => trivial)
        (fun {label details err x} _ _ => ?_) trivial honly
      have hload := apimoduleLoadKey_issues (P := KnownCall) trivial (fun _ => trivial)
        fun _ _ _ _ _ _ => trivial
      exact (sat_locked_of_free (fun _ => trivial) (sat_issues_known (hload _ err))).mono
        fun _ y hy => ⟨trivial, hy.1⟩
  exact (hsearch.sat_loadkeyLocked (fun _ => trivial) (fun _ => trivial) hreq).mono
    fun _ y hy => hy.2.1

end Load

/-! ## Every interleaving -/

/-- A token that is there while the lock is held is left alone by the others. -/
def challengeMutex : Mutex Nat (World W × Exchange) where
  holder x := x.1.rwlock
  outside :=
    { rel := fun x y => y.1.keyagent = x.1.keyagent ∧ y.1.rwlock = x.1.rwlock ∧ y.2 = x.2 ∧
        (x.1.rwlock ≠ none → x.1.apimodule.apimoduleTokenHash.lookup Kms.kmsPrefixToken ≠ none →
          y.1.apimodule = x.1.apimodule)
      refl := fun _ => ⟨rfl, rfl, rfl, fun _ _ => rfl⟩
      trans := by
        rintro x y z ⟨hk, hlock, he, hm⟩ ⟨hk', hlock', he', hm'⟩
        refine ⟨hk'.trans hk, hlock'.trans hlock, he'.trans he, fun hheld htoken => ?_⟩
        have hxy := hm hheld htoken
        refine (hm' ?_ ?_).trans hxy
        · rw [hlock]
          exact hheld
        · rw [hxy]
          exact htoken }
  always :=
    { rel := fun x y => RequestsLocked x.1 → RequestsLocked y.1
      refl := fun _ => id
      trans := fun h h' => h' ∘ h }

/-- What the thread knows is true. -/
def SeesToken (x : World W × Exchange) (z : Known) : Prop :=
  ∀ y, z = some y → x.1.rwlock ≠ none ∧ x.1.apimodule = y.1 ∧ x.2 = y.2 ∧
    y.1.apimoduleTokenHash.lookup Kms.kmsPrefixToken ≠ none

section Threads

variable {params : CkRsaPublicKeyParams} {E : Step skcSig W} {L : Library} {uri : Nat → Bytes}
  {i : Nat} {fuel : Nat} {x y : World W × Exchange} {z : Known} {c : Call} {a : c.Ans}

theorem seesToken_none : SeesToken x none := nofun

theorem seesToken_some (hlock : x.1.rwlock ≠ none)
    (h : x.1.apimodule.apimoduleTokenHash.lookup Kms.kmsPrefixToken ≠ none) :
    SeesToken x (some (x.1.apimodule, x.2)) := by
  rintro y ⟨⟩
  exact ⟨hlock, rfl, rfl, h⟩

/-- The others leave the token alone. -/
theorem SeesToken.outside (h : SeesToken x z) (hxy : challengeMutex.outside.rel x y) :
    SeesToken y z := by
  intro v hv
  obtain ⟨hlock, hm, he, htoken⟩ := h v hv
  obtain ⟨-, hlock', he', hm'⟩ := hxy
  refine ⟨by rw [hlock']; exact hlock, ?_, he'.trans he, htoken⟩
  rw [hm' hlock (by rw [hm]; exact htoken), hm]

theorem KnownPre.uses (h : KnownPre c z) (hx : SeesToken x z) : UsesChallengeKey c x.2 := by
  cases c with
  | ck d =>
    cases d with
    | cUnwrapKey session mechanism key wrapped template =>
      cases mechanism with
      | rsaPkcsOaep =>
        obtain ⟨y, hy, huses⟩ := h
        rw [(hx y hy).2.2.1]
        exact huses
      | aesGcm iv tagSize => trivial
    | _ => trivial
  | _ => trivial

theorem challengeStep_always (h : challengeStep E params i c x a y) (hguard : ¬c.Guarded) :
    challengeMutex.always.rel x y := by
  intro hreq hfree
  rw [threadStep_keyagent h hguard]
  exact hreq (by rw [← threadStep_rwlock h hguard]; exact hfree)

/-- A call that does not write the tokens tells what it does to the exchange. -/
theorem SeesToken.noted (hx : SeesToken x z) (h : challengeStep E params i c x a y)
    (hlock : y.1.rwlock ≠ none) (hm : y.1.apimodule = x.1.apimodule) :
    SeesToken y (z.map fun y => (y.1, noteExchange params c a y.2)) := by
  rintro u hu
  obtain ⟨v, hv, rfl⟩ := Option.map_eq_some_iff.mp hu
  obtain ⟨-, hxm, hxe, htoken⟩ := hx v hv
  refine ⟨hlock, hm.trans hxm, ?_, htoken⟩
  rw [← hxe]
  exact h.1.2

/-- What a call tells is true. -/
theorem challengeStep_tells (h : challengeStep E params i c x a y) (hguard : ¬c.Guarded)
    (hheld : x.1.rwlock = some i) (hpre : KnownPre c z) (hx : SeesToken x z) :
    ∃ z', KnownStep params c z a z' ∧ SeesToken y z' := by
  have hlock : y.1.rwlock ≠ none := by
    rw [threadStep_rwlock h hguard, hheld]
    nofun
  by_cases hwrites : c.WritesTokens
  · cases c with
    | writeToken atoken f =>
      have hy : y.1 = { x.1 with apimodule := x.1.apimodule.mapToken atoken f } := h.1.1
      refine ⟨_, rfl, fun u hu => ?_⟩
      obtain ⟨v, hv, rfl⟩ := Option.map_eq_some_iff.mp hu
      obtain ⟨-, hm, he, htoken⟩ := hx v hv
      refine ⟨hlock, ?_, h.1.2.trans he, htoken⟩
      rw [hy, ← hm]
    | cacheToken token =>
      obtain ⟨href, hy⟩ := h.1.1
      -- only the KMS token's own label is followed; another label ends what is known
      by_cases hlabel : token.tokenLabel = Kms.kmsPrefixToken
      · have hlookup : y.1.apimodule.apimoduleTokenHash.lookup Kms.kmsPrefixToken = some a := by
          rw [hy, href, ← hlabel]
          exact AList.lookup_insert _
        refine ⟨some (y.1.apimodule, y.2), fun _ => ⟨_, _, rfl, hlookup⟩, seesToken_some hlock ?_⟩
        rw [hlookup]
        nofun
      · exact ⟨none, fun h => absurd h hlabel, seesToken_none⟩
    | atomicIntAdd => exact ⟨none, trivial, seesToken_none⟩
    | stm d => exact hpre.elim
    | _ => exact hwrites.elim
  · have hm : y.1.apimodule = x.1.apimodule := sysStep_apimodule h.1.1 hwrites
    cases c with
    | getApimodule =>
      obtain ⟨rfl, hy⟩ := h.1.1
      have he : y.2 = x.2 := h.1.2
      obtain rfl : y = x := Prod.ext hy he
      -- the first read under the lock fixes the Apimodule that is known from then on
      cases z with
      | some v =>
        obtain ⟨-, hv, -⟩ := hx v rfl
        refine ⟨some v, ⟨fun u hu => ⟨?_, rfl⟩, fun _ => ⟨v.2, ?_⟩⟩, hx⟩
        · rw [hv, Option.some.inj hu]
        · rw [hv]
      | none =>
        by_cases htoken : y.1.apimodule.apimoduleTokenHash.lookup Kms.kmsPrefixToken = none
        · exact ⟨none, ⟨nofun, fun h => absurd htoken h⟩, seesToken_none⟩
        · exact ⟨_, ⟨nofun, fun _ => ⟨y.2, rfl⟩⟩, seesToken_some hlock htoken⟩
    | getKeyagent | modifyKeyagent _ | foreachSession | rwLockWriterLock | rwLockWriterUnlock =>
      exact absurd trivial hguard
    | writeToken _ _ | cacheToken _ | atomicIntAdd | stm _ => exact absurd trivial hwrites
    | _ => exact ⟨_, rfl, hx.noted h hlock hm⟩

theorem sees_token (E : Step skcSig W) (params : CkRsaPublicKeyParams) (i : Nat) :
    Sees E (fun _ c _ => noteExchange params c) SparesToken challengeMutex
      (fun _ c x => UsesChallengeKey c x.2) i True (KnownStep params) KnownPre SeesToken where
  holder _ := rfl
  outside h := h.1
  unseen {c _ _ _} hc := by cases c <;> first | rfl | exact hc.elim
  guarded {c _} hc := by cases c <;> trivial
  put {x k z} hlocked hx := by
    refine ⟨⟨fun _ hfree => absurd (hlocked.symm.trans hfree) nofun, fun _ _ => trivial⟩, ?_⟩
    exact hx
  other {c x z} hheld hguard hpre hx := by
    refine ⟨hpre.uses hx, fun a y h => ⟨⟨challengeStep_always h hguard, fun _ _ => trivial⟩, ?_⟩⟩
    exact challengeStep_tells h hguard (hheld trivial) hpre hx

/-- A call without the lock leaves the token alone. -/
theorem lookupCall_outside (hc : LookupCall c) (hs : x.1.rwlock ≠ some i)
    (h : challengeStep E params i c x a y) : challengeMutex.outside.rel x y := by
  have hguard : ¬c.Guarded := ((hc.apimoduleCall c).swkCall c).not_guarded
  refine ⟨threadStep_keyagent h hguard, threadStep_rwlock h hguard, ?_, fun hheld htoken => ?_⟩
  · refine Eq.trans h.1.2 ?_
    rcases hc with hc | hc
    · cases c with
      | ck d => cases d <;> first | rfl | exact hc.elim
      | _ => first | rfl | exact hc.elim
    · cases c with
      | ck d => cases d <;> first | rfl | exact hc.elim
      | _ => exact hc.elim
  · by_cases hwrites : c.WritesTokens
    · cases c with
      | cacheToken token =>
        rcases h.2 with hfree | hown | hnone
        · exact absurd hfree hheld
        · exact absurd hown hs
        · exact absurd hnone htoken
      | writeToken atoken f => rcases hc with hc | hc <;> exact hc.elim
      | atomicIntAdd => rcases hc with hc | hc <;> exact hc.elim
      | stm d => rcases hc with hc | hc <;> exact hc.elim
      | _ => exact hwrites.elim
    · exact sysStep_apimodule h.1.1 hwrites

theorem usesChallengeKey_of_ne_ck {e : Exchange} (hc : ∀ d, c ≠ .ck d) : UsesChallengeKey c e := by
  cases c <;> first | trivial | exact absurd rfl (hc _)

theorem LookupCall.usesChallengeKey {e : Exchange} (hc : LookupCall c) : UsesChallengeKey c e := by
  have hc := hc.apimoduleCall c
  cases c with
  | ck d =>
    cases d with
    | cUnwrapKey session mechanism key wrapped template => exact hc.elim
    | _ => trivial
  | _ => trivial

/-- A call that takes the lock. -/
theorem takesLock_known {cInit : Skc CkRv} {uriData : ApimoduleUriData} (hinit : UntilLock cInit)
    (hdata : callData L (uri i) = some uriData)
    (hnpm : ∀ npm ∈ L.npmHash, ∃ serverUrl, npm = Kms.npm serverUrl) :
    TakesLock E (fun _ c _ => noteExchange L.rsaPublicKeyParams c) SparesToken challengeMutex
      (fun _ c x => UsesChallengeKey c x.2) i (L.modules (L.stmOps cInit)) uriData (uri i)
      (fun x => RequestsLocked x.1) fun _ _ => True where
  holder _ := rfl
  outside h := h.1
  known hx h := h hx
  result _ _ := trivial
  failure _ := trivial
  pre hc := usesChallengeKey_of_ne_ck hc
  acquire {x a x'} hx h := by
    obtain ⟨hfree, hx'⟩ := h.1.1
    -- nothing is known of the token when the lock is taken
    have hheld : x'.1.rwlock = some i := by rw [hx']
    refine ⟨⟨fun _ hnone => absurd (hheld.symm.trans hnone) nofun, fun _ _ => trivial⟩,
      fun err => ?_⟩
    have hreq : x'.1.keyagent.NoRequests := by
      rw [hx']
      exact hx hfree
    have hload : Sat (knownView L.rsaPublicKeyParams).logic (loadkeyLocked (L.modules (L.stmOps cInit))
        (keyUrl uriData (uri i)) (some uriData) err) (fun _ y => y.1.NoRequests)
        (x'.1.keyagent, none) :=
      sat_loadkeyLocked_known hinit (apimoduleUriToUriData_spec hdata).1 hnpm hreq
    refine ((sees_token E L.rsaPublicKeyParams i).sat_locked (fun hx _ hout => hx.outside hout)
      hload hheld seesToken_none).mono fun r y hy => ?_
    obtain ⟨hheld, z, -, hreq⟩ := hy
    exact ⟨hheld, hreq, fun _ => trivial⟩
  release {x a x'} hreq h := by
    refine ⟨fun _ _ => ?_, fun _ _ => trivial⟩
    rw [show x'.1 = _ from h.1.1]
    exact hreq

/-- **The key of a challenge.** Whatever the interleaving, if every step meets the condition: a wrapping
key is unwrapped with the private key that was generated for the challenge that was posted for it. -/
theorem challenge_keys_match {s : World W} {e : Exchange}
    {q : Pool Nat skcSig (World W × Exchange) CkRv} (hfree : s.rwlock = none)
    (hreq : s.keyagent.NoRequests) (hnpm : ∀ npm ∈ L.npmHash, ∃ serverUrl, npm = Kms.npm serverUrl)
    (hr : Pool.Reach (challengeStep E L.rsaPublicKeyParams) (loadThreads L fuel uri (s, e)) q)
    (i session key : Nat) (wrapped : Bytes) (template : CkTemplate) (k : CkRv × Nat → Skc CkRv)
    (hk : q.threads i = .call (.ck (.cUnwrapKey session .rsaPkcsOaep key wrapped template)) k) :
    ∃ response swktype, q.state.2 = .posted key response ∧
      Kms.parseSession response.body = .ok (wrapped, swktype) := by
  have hinit := cInitialize_untilLock L fuel
  have hp : ∀ i, Sat (challengeMutex.logic i (challengeStep E L.rsaPublicKeyParams) fun _ c x =>
        UsesChallengeKey c x.2)
      ((loadThreads L fuel uri (s, e)).threads i) (fun _ _ => True) (s, e) := by
    intro i
    refine TakesLock.sat_onDemand (J := fun x => RequestsLocked x.1) (by rw [hfree]; nofun)
      (fun _ => hreq) (fun _ hdata => takesLock_known hinit hdata hnpm) fun {c x} hc hs hx => ?_
    refine ⟨hc.usesChallengeKey, fun a y h => ⟨lookupCall_outside hc hs h, ?_,
      fun _ _ => trivial⟩⟩
    exact challengeStep_always h ((hc.apimoduleCall c).swkCall c).not_guarded
  exact Pool.pre_of_sat (challengeMutex.sat_reach hp hr i) hk

end Threads

/-! ## Two calls for one token -/

/-- The key with which a wrapping key is about to be unwrapped, and the wrapped key. -/
def swkUnwrap {α : Type} : Skc α → Option (Nat × Bytes)
  | .call (.ck (.cUnwrapKey _ .rsaPkcsOaep key wrapped _)) _ => some (key, wrapped)
  | _ => none

theorem swkUnwrap_eq_some {α : Type} {p : Skc α} {key : Nat} {wrapped : Bytes}
    (h : swkUnwrap p = some (key, wrapped)) : ∃ session template k,
      p = .call (.ck (.cUnwrapKey session .rsaPkcsOaep key wrapped template)) k := by
  unfold swkUnwrap at h
  split at h
  · obtain ⟨rfl, rfl⟩ := Prod.mk.inj (Option.some.inj h)
    exact ⟨_, _, _, rfl⟩
  · cases h

/-- The key whose challenge has been posted. -/
def Exchange.postedKey : Exchange → Option Nat
  | .posted priv _ => some priv
  | _ => none

instance (i : Nat) (c : Call) (x : World W × Exchange) (a : c.Ans) :
    Decidable (SparesToken i c x a) := by
  casesm* Call
  case cacheToken =>
    exact inferInstanceAs (Decidable (x.1.rwlock = none ∨ x.1.rwlock = some i ∨
      x.1.apimodule.apimoduleTokenHash.lookup Kms.kmsPrefixToken = none))
  all_goals exact isTrue trivial

/-- The handler of a thread, with the exchange. -/
def exchangeHandler (i : Nat) (c : skcSig.Op) (x : World TokenStore × Exchange) :
    Option (skcSig.Ans c × World TokenStore × Exchange) :=
  observing (S := skcSig) (sysHandler tokenStoreHandler i)
    (fun c _ => noteExchange ckRsaPublicKeyParams c) c x

theorem exchangeHandler_step (i : Nat) (c : skcSig.Op) (x : World TokenStore × Exchange)
    (a : skcSig.Ans c) (y : World TokenStore × Exchange) (h : exchangeHandler i c x = some (a, y)) :
    (sysStep tokenStoreStep i).observed (fun c _ => noteExchange ckRsaPublicKeyParams c) c x a y :=
  observing_step sysHandler_answers c x a y h

theorem kmsLibrary_npm : ∀ npm ∈ kmsLibrary.npmHash, ∃ serverUrl, npm = Kms.npm serverUrl :=
  fun _ hnpm => ⟨_, List.mem_singleton.mp hnpm⟩

/-- Two threads that ask for one key, over a token that is there already. -/
def twoCalls : Pool Nat skcSig (World TokenStore × Exchange) CkRv :=
  loadThreads kmsLibrary 2 twoSpellings (tokenStoreWorld (some (lit "1234")), .idle)

/-- Both of them cache the token before one of them takes the lock. -/
theorem challenge_keys_match_early : ∃ (q : Pool Nat skcSig (World TokenStore × Exchange) CkRv)
    (wrapped : Bytes) (response : HttpResponse) (swktype : Bytes),
    Pool.Reach (challengeStep tokenStoreStep ckRsaPublicKeyParams) twoCalls q ∧
    swkUnwrap (q.threads 0) = some (4, wrapped) ∧ q.state.2 = .posted 4 response ∧
    Kms.parseSession response.body = .ok (wrapped, swktype) := by
  obtain ⟨q, hq, hv⟩ := Option.map_eq_some_iff.mp (show
    (Pool.schedule (fun i => restricting (exchangeHandler i) (SparesToken i))
      [(0, 1), (1, 1), (0, 16), (1, 12), (0, 41)] twoCalls).map
      (fun q => (swkUnwrap (q.threads 0)).map Prod.fst) = some (some 4) by decide +kernel)
  obtain ⟨⟨key, wrapped⟩, hunwrap, rfl⟩ := Option.map_eq_some_iff.mp hv
  obtain ⟨session, template, k, hk⟩ := swkUnwrap_eq_some hunwrap
  have hreach := Pool.schedule_reach (R := challengeStep tokenStoreStep ckRsaPublicKeyParams)
    (fun i c x a y => restricting_step (exchangeHandler_step i) c x a y) hq
  obtain ⟨response, swktype, hposted, hparse⟩ := challenge_keys_match rfl
    (noRequests_tokenStoreWorld _) kmsLibrary_npm hreach 0 session 4 wrapped template k hk
  exact ⟨q, wrapped, response, swktype, hreach, hunwrap, hposted, hparse⟩

/-- The second thread caches a token of its own when the first has posted its challenge. -/
theorem not_challenge_keys_match : ¬∀ (W : Type) (L : Library) (fuel : Nat) (E : Step skcSig W)
    (uri : Nat → Bytes) (s : World W) (e : Exchange)
    (q : Pool Nat skcSig (World W × Exchange) CkRv), s.rwlock = none → s.keyagent.NoRequests →
    (∀ npm ∈ L.npmHash, ∃ serverUrl, npm = Kms.npm serverUrl) →
    Pool.Reach (fun i => (sysStep E i).observed fun c _ => noteExchange L.rsaPublicKeyParams c)
      (loadThreads L fuel uri (s, e)) q →
    ∀ i session key wrapped template k,
      q.threads i = .call (.ck (.cUnwrapKey session .rsaPkcsOaep key wrapped template)) k →
      ∃ response swktype, q.state.2 = .posted key response ∧
        Kms.parseSession response.body = .ok (wrapped, swktype) := by
  intro h
  obtain ⟨q, hq, hv⟩ := Option.map_eq_some_iff.mp (show
    (Pool.schedule exchangeHandler [(0, 1), (1, 1), (0, 41), (1, 12), (0, 16)] twoCalls).map
      (fun q => ((swkUnwrap (q.threads 0)).map Prod.fst, q.state.2.postedKey)) =
      some (some 0, some 3) by decide +kernel)
  obtain ⟨hkey, hposted⟩ := Prod.mk.inj hv
  obtain ⟨⟨key, wrapped⟩, hunwrap, rfl⟩ := Option.map_eq_some_iff.mp hkey
  obtain ⟨session, template, k, hk⟩ := swkUnwrap_eq_some hunwrap
  obtain ⟨response, swktype, hstate, -⟩ := h TokenStore kmsLibrary 2 tokenStoreStep twoSpellings _
    .idle q rfl (noRequests_tokenStoreWorld _) kmsLibrary_npm
    (Pool.schedule_reach (fun i c x a y h => exchangeHandler_step i c x a y h) hq) 0 session 0 wrapped
    template k hk
  rw [hstate] at hposted
  cases hposted

end SkcLibrary
