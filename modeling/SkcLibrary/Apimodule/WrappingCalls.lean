import SkcLibrary.Apimodule.OnDemandRuns
import SkcLibrary.Threads

/-!
# What the api module does with wrapping keys

A wrapping key is unwrapped once for each session, and its handle noted in the cached token. A token is
only cached if there is none, and nothing else writes the handle.

`NamesInstalled` is the condition that KBS hands out no key for a session of the table after a wrapping
key was refused. `SwkInv` is what then holds between two calls.
-/

namespace SkcLibrary

open Interaction

variable {W : Type}

/-! ## Runs -/

/-- What was seen of the wrapping keys. -/
structure Wrapping where
  /-- The last that was to be unwrapped. -/
  offered : Option Bytes
  /-- The last that was unwrapped, and its handle. -/
  installed : Option (Nat × Bytes)

/-- Before the first call. -/
def Wrapping.nothing : Wrapping := ⟨none, none⟩

/-- One more call. -/
def noteSwk (c : Call) (_ : World W) : c.Ans → Wrapping → Wrapping :=
  match c with
  | .ck (.cUnwrapKey _ .rsaPkcsOaep _ wrapped _) => fun a w =>
    ⟨some wrapped, if a.1 = ckrOk then some (a.2, wrapped) else w.installed⟩
  | _ => fun _ w => w

/-- The session for which KBS hands out a key. -/
def transferSession (res : HttpResponse) : Option Bytes :=
  if res.status = 200 then
    match Kms.parseKeyTransfer res.body, Kms.sessionIdTokens res.headers with
    | .ok _, some tokens => (gStrv tokens 2).join.map gStrstrip
    | _, _ => none
  else none

/-- KBS hands out a key for a session of the table only if the last wrapping key was accepted. -/
def NamesInstalled (c : Call) (x : World W × Wrapping) : c.Ans → Prop :=
  match c with
  | .httpsSend request => fun res => request.postdata = none →
    ∀ id, transferSession res = some id → x.1.keyagent.sessionHash.lookup (hashKey id) ≠ none →
      x.2.offered = x.2.installed.map Prod.snd
  | _ => fun _ => True

/-- The steps of a run, as far as they meet the condition. -/
abbrev wrapStep (E : Step skcSig W) : Step skcSig (World W × Wrapping) :=
  ((sysStep E 0).observed noteSwk).restrict NamesInstalled

/--
What is unwrapped is the payload of the key that was asked for, and the handle is the one of the present
wrapping key of the key's session.
-/
def UnwrapsOwn (L : Library) (uri : Bytes) (c : Call) (x : World W × Wrapping) : Prop :=
  match c with
  | .ck (.cUnwrapKey _ (.aesGcm iv tagSize) handle wrapped _) =>
    ∃ url key r d keydata, callUrl L uri = some url ∧
      x.1.keyagent.keyHash.lookup (hashKey url) = some key ∧ key.session = some r ∧
      x.1.keyagent.sessions[r]? = some d ∧
      key.attributes.lookup keyagentAttrKeydata = some keydata ∧
      splitKeytransfer keydata = some (.parts (some iv) wrapped tagSize) ∧
      x.2.installed = some (handle, d.swk)
  | _ => True

/-! ## The setting -/

theorem Call.Agent.unwrapsOwn {L : Library} {uri : Bytes} {c : Call} {x : World W × Wrapping}
    (hc : c.Agent) : UnwrapsOwn L uri c x := by
  cases c with
  | ck d => exact hc.elim
  | _ => trivial

/-- A single thread, with what is seen of the wrapping keys, before the condition. -/
abbrev unrestrictedView (E : Step skcSig W) (L : Library) (uri : Bytes) :
    AgentView (World W × Wrapping) :=
  observedView E noteSwk (UnwrapsOwn L uri) (fun _ _ _ => rfl) (fun _ _ _ _ => rfl)
    (fun _ _ _ => rfl) Call.Agent.unwrapsOwn

/-- The same, with the steps that meet the condition. -/
def wrapView (E : Step skcSig W) (L : Library) (uri : Bytes) : AgentView (World W × Wrapping) where
  step := wrapStep E
  pre := UnwrapsOwn L uri
  ka x := x.1.keyagent
  put x k := ({ x.1 with keyagent := k }, x.2)
  ka_put _ _ := rfl
  put_put _ _ _ := rfl
  put_ka _ := rfl
  getKeyagent := (and_iff_left trivial).trans (unrestrictedView E L uri).getKeyagent
  modifyKeyagent := (and_iff_left trivial).trans (unrestrictedView E L uri).modifyKeyagent
  foreachSession := (and_iff_left trivial).trans (unrestrictedView E L uri).foreachSession
  ka_step hs hc := sysStep_keyagent hs.1.1 hc
  pre_of_agent := Call.Agent.unwrapsOwn

/-- The handle of the wrapping key in the cached token. -/
def Apimodule.wrappingHandle (m : Apimodule) : Option Nat :=
  (m.apimoduleTokenHash.lookup Kms.kmsPrefixToken).bind fun atoken =>
    m.tokens[atoken]?.map (·.wrappingkeyHandle)

/-- There is a cached token. -/
def HasToken (x : World W × Wrapping) : Prop :=
  x.1.apimodule.apimoduleTokenHash.lookup Kms.kmsPrefixToken ≠ none

/-- The cached token has the handle of the wrapping key that was installed last. -/
def HandleKnown (x : World W × Wrapping) : Prop :=
  ∀ handle swk, x.2.installed = some (handle, swk) → x.1.apimodule.wrappingHandle = some handle

/--
Every session of the table is SGX's, and has the wrapping key that was offered last; the token has the
handle of the one that was installed last. This is what holds between two calls.
-/
structure SwkInv (x : World W × Wrapping) : Prop where
  tables : TablesInv x.1.keyagent
  sessions : ∀ p r, x.1.keyagent.sessionHash.lookup p = some r → ∃ d,
    x.1.keyagent.sessions[r]? = some d ∧ d.name = lit "SGX" ∧ x.2.offered = some d.swk
  handle : HandleKnown x

/-- Nothing has changed but the tokens and what is outside. -/
structure Aside (x y : World W × Wrapping) : Prop where
  keyagent : y.1.keyagent = x.1.keyagent
  rwlock : y.1.rwlock = x.1.rwlock
  wrapping : y.2 = x.2

/-- And the handle is the same, in the same token. -/
structure Steady (x y : World W × Wrapping) : Prop extends Aside x y where
  tokenHash : y.1.apimodule.apimoduleTokenHash = x.1.apimodule.apimoduleTokenHash
  handle : y.1.apimodule.wrappingHandle = x.1.apimodule.wrappingHandle

/-- The calls of the api module that neither cache a token nor write a wrapping key. -/
def SteadyCall : Call → Prop
  | .cacheToken _ => False
  | .writeToken _ f => KeepsOpening f ∧ KeepsWrapping f
  | c => ApimoduleCall c

section Frames

variable {x y z : World W × Wrapping}

theorem Aside.refl (x : World W × Wrapping) : Aside x x := ⟨rfl, rfl, rfl⟩

theorem Aside.trans (h : Aside x y) (h' : Aside y z) : Aside x z :=
  ⟨h'.keyagent.trans h.keyagent, h'.rwlock.trans h.rwlock, h'.wrapping.trans h.wrapping⟩

theorem Steady.refl (x : World W × Wrapping) : Steady x x := ⟨.refl x, rfl, rfl⟩

theorem Steady.trans (h : Steady x y) (h' : Steady y z) : Steady x z :=
  ⟨h.toAside.trans h'.toAside, h'.tokenHash.trans h.tokenHash, h'.handle.trans h.handle⟩

theorem Steady.of_apimodule (h : Aside x y) (hm : y.1.apimodule = x.1.apimodule) : Steady x y :=
  ⟨h, by rw [hm], by rw [hm]⟩

theorem Steady.hasToken (h : Steady x y) (hx : HasToken x) : HasToken y := by
  rw [HasToken, h.tokenHash]
  exact hx

/-- The handle does not matter before a wrapping key is installed. -/
theorem Aside.swkInv (h : Aside x y) (hx : SwkInv x) (hnone : x.2.installed = none) : SwkInv y where
  tables := by rw [h.keyagent]; exact hx.tables
  sessions := by rw [h.keyagent, h.wrapping]; exact hx.sessions
  handle := by
    intro handle swk hi
    rw [h.wrapping, hnone] at hi
    cases hi

theorem Steady.handleKnown (h : Steady x y) (hx : HandleKnown x) : HandleKnown y := by
  intro handle swk hi
  rw [h.wrapping] at hi
  rw [h.handle]
  exact hx handle swk hi

theorem Steady.swkInv (h : Steady x y) (hx : SwkInv x) : SwkInv y where
  tables := by rw [h.keyagent]; exact hx.tables
  sessions := by rw [h.keyagent, h.wrapping]; exact hx.sessions
  handle := h.handleKnown hx.handle

/-- No wrapping key is installed without a token. -/
theorem SwkInv.installed_none (hx : SwkInv x) (h : ¬HasToken x) : x.2.installed = none := by
  cases hi : x.2.installed with
  | none => rfl
  | some a =>
    obtain ⟨handle, swk⟩ := a
    have hhandle := hx.handle handle swk hi
    rw [Apimodule.wrappingHandle, not_not.mp h] at hhandle
    simp at hhandle

/-- A token that is written keeps its wrapping key. -/
theorem mapToken_wrappingHandle (m : Apimodule) (atoken : TokenRef)
    {f : ApimoduleToken → ApimoduleToken} (hf : KeepsWrapping f) :
    (m.mapToken atoken f).wrappingHandle = m.wrappingHandle := by
  unfold Apimodule.wrappingHandle
  cases hlookup : m.apimoduleTokenHash.lookup Kms.kmsPrefixToken with
  | none =>
    rw [show (m.mapToken atoken f).apimoduleTokenHash = m.apimoduleTokenHash from rfl, hlookup]
    rfl
  | some ref =>
    rw [show (m.mapToken atoken f).apimoduleTokenHash = m.apimoduleTokenHash from rfl, hlookup,
      Option.bind_some, Option.bind_some, Apimodule.mapToken, List.getElem?_modify]
    cases m.tokens[ref]? with
    | none => rfl
    | some token =>
      by_cases href : atoken = ref
      · simp [href, hf token]
      · simp [href]

theorem SteadyCall.apimoduleCall (c : Call) (h : SteadyCall c) : ApimoduleCall c := by
  cases c with
  | writeToken atoken f => exact h.1
  | cacheToken token => exact h.elim
  | _ => exact h

theorem QuoteCall.steadyCall (c : Call) (h : QuoteCall c) : SteadyCall c := by
  cases c with
  | writeToken atoken f => exact h
  | ck d => cases d <;> first | exact trivial | exact h.elim
  | _ => first | exact trivial | exact h.elim

theorem ObjectCall.steadyCall (c : Call) (h : ObjectCall c) : SteadyCall c := by
  cases c with
  | ck d => cases d <;> first | exact trivial | exact h.elim
  | _ => exact h.elim

end Frames

/-! ## Calls -/

section Calls

variable {E : Step skcSig W} {L : Library} {uri : Bytes} {x y : World W × Wrapping} {α β : Type}

theorem ApimoduleCall.unwrapsOwn {c : Call} (hc : ApimoduleCall c) : UnwrapsOwn L uri c x := by
  cases c with
  | ck d =>
    cases d with
    | cUnwrapKey session mechanism key wrapped template => exact hc.elim
    | _ => trivial
  | _ => trivial

theorem ApimoduleCall.aside {c : Call} (hc : ApimoduleCall c) {a : c.Ans}
    (h : wrapStep E c x a y) : Aside x y := by
  have hguard : ¬c.Guarded := (hc.swkCall c).not_guarded
  refine ⟨sysStep_keyagent h.1.1 ?_, sysStep_rwlock h.1.1 ?_ ?_, h.1.2.trans ?_⟩
  · rintro f rfl
    exact hc
  · rintro rfl
    exact hc
  · rintro rfl
    exact hc
  · cases c with
    | ck d =>
      cases d with
      | cUnwrapKey session mechanism key wrapped template => exact hc.elim
      | _ => rfl
    | _ => rfl

theorem SteadyCall.steady {c : Call} (hc : SteadyCall c) {a : c.Ans} (h : wrapStep E c x a y) :
    Steady x y := by
  have haside : Aside x y := ApimoduleCall.aside (hc.apimoduleCall c) h
  by_cases hwrites : c.WritesTokens
  · cases c with
    | writeToken atoken f =>
      have hy : y.1 = { x.1 with apimodule := x.1.apimodule.mapToken atoken f } := h.1.1
      refine ⟨haside, ?_, ?_⟩
      · rw [hy]
        rfl
      · rw [hy]
        exact mapToken_wrappingHandle _ _ hc.2
    | cacheToken token => exact hc.elim
    | atomicIntAdd =>
      have hy : y.1 = { x.1 with apimodule := x.1.apimodule.addFlag } := h.1.1.2
      refine ⟨haside, ?_, ?_⟩
      · rw [hy]
        rfl
      · rw [hy]
        rfl
    | stm d => exact hc.elim
    | _ => exact hwrites.elim
  · exact .of_apimodule haside (sysStep_apimodule h.1.1 hwrites)

/-- A call of the agent's own functions. -/
theorem steady_agent {c : Call} (hc : c.Agent) (hmod : ∀ f, c ≠ .modifyKeyagent f) {a : c.Ans}
    (h : wrapStep E c x a y) : Steady x y := by
  refine .of_apimodule ⟨sysStep_keyagent h.1.1 hmod, sysStep_rwlock h.1.1 ?_ ?_, h.1.2.trans ?_⟩
    (sysStep_apimodule h.1.1 ?_)
  · rintro rfl
    exact hc
  · rintro rfl
    exact hc
  · cases c with
    | ck d => exact hc.elim
    | _ => rfl
  · intro hwrites
    cases c <;> first | exact hc | exact hwrites

/-- What the api module does until it asks for a lock that is held. -/
theorem sat_untilLock_aside {p : Skc α} (hp : UntilLock p) (hheld : x.1.rwlock ≠ none) :
    Sat (wrapView E L uri).logic p (fun _ y => Aside x y) x := by
  refine Sat.of_issuesUntil hp stable_seq (fun c hc t ht => ?_) (fun c hc t ht => ?_) (.refl x)
  · subst hc
    refine ⟨trivial, fun a u hu => absurd hu.1.1.1 ?_⟩
    rw [ht.rwlock]
    exact hheld
  · exact ⟨hc.unwrapsOwn, fun a u hu => ⟨trivial, ht.trans (ApimoduleCall.aside hc hu)⟩⟩

theorem sat_issues_aside {p : Skc α} (hp : p.Issues ApimoduleCall) :
    Sat (wrapView E L uri).logic p (fun _ y => Aside x y) x := by
  refine Sat.of_issues hp stable_seq (fun c hc t ht => ?_) (.refl x)
  exact ⟨hc.unwrapsOwn, fun a u hu => ⟨trivial, ht.trans (ApimoduleCall.aside hc hu)⟩⟩

theorem sat_issues_steady {p : Skc α} (hp : p.Issues SteadyCall) :
    Sat (wrapView E L uri).logic p (fun _ y => Steady x y) x := by
  refine Sat.of_issues hp stable_seq (fun c hc t ht => ?_) (.refl x)
  exact ⟨(hc.apimoduleCall c).unwrapsOwn, fun a u hu => ⟨trivial, ht.trans (hc.steady hu)⟩⟩

variable {Q : α → World W × Wrapping → Prop}

theorem sat_apimodule_swk {f : Apimodule → Skc α}
    (h : Sat (wrapView E L uri).logic (f x.1.apimodule) Q x) :
    Sat (wrapView E L uri).logic (Skc.apimodule >>= f) Q x := by
  rw [Skc.apimodule_bind]
  refine sat_seq_call.mpr ⟨trivial, fun m y hy => ?_⟩
  obtain ⟨⟨⟨rfl, hy⟩, hnote⟩, -⟩ := hy
  obtain rfl : y = x := Prod.ext hy hnote
  exact h

theorem sat_lookup_swk {label : Bytes} {f : Option TokenRef → Skc α}
    (hlabel : cstr label = Kms.kmsPrefixToken)
    (h : Sat (wrapView E L uri).logic
      (f (x.1.apimodule.apimoduleTokenHash.lookup Kms.kmsPrefixToken)) Q x) :
    Sat (wrapView E L uri).logic (lookupApimoduleToken label >>= f) Q x := by
  rw [lookupApimoduleToken, bind_assoc]
  refine sat_apimodule_swk ?_
  rw [pure_bind, hlabel]
  exact h

theorem sat_readToken_swk {atoken : TokenRef} {f : ApimoduleToken → Skc α}
    (h : ∀ token, x.1.apimodule.tokens[atoken]? = some token →
      Sat (wrapView E L uri).logic (f token) Q x) :
    Sat (wrapView E L uri).logic (readToken atoken >>= f) Q x := by
  rw [readToken, bind_assoc]
  exact sat_apimodule_swk (AgentView.sat_deref.mpr h)

end Calls

/-! ## Tokens and challenges -/

section Challenge

variable {E : Step skcSig W} {L : Library} {uri : Bytes} {x : World W × Wrapping} {cInit : Skc CkRv}
  {data : ApimoduleUriData}

/-- A token is only initialised if there is none, and then no wrapping key is installed. -/
theorem sat_lookupToken_swk (hlabel : cstr data.tokenLabel = Kms.kmsPrefixToken) (hx : SwkInv x)
    (err : Option GError) :
    Sat (wrapView E L uri).logic (lookupOrInitToken cInit data false err)
      (fun _ y => Aside x y ∧ SwkInv y) x := by
  rw [lookupOrInitToken]
  refine sat_lookup_swk hlabel ?_
  cases hlookup : x.1.apimodule.apimoduleTokenHash.lookup Kms.kmsPrefixToken with
  | some atoken => exact sat_seq_pure.mpr ⟨.refl x, hx⟩
  | none =>
    have hnone : x.2.installed = none := hx.installed_none (not_not.mpr hlookup)
    have hinit := (initApimoduleToken_issues cInit data err).mono TokenCall.apimoduleCall
    exact (sat_issues_aside hinit).mono fun _ y hy => ⟨hy, hy.swkInv hx hnone⟩

/-- A token that is initialised is cached. -/
theorem sat_initToken_swk (hinit : UntilLock cInit)
    (hlabel : cstr data.tokenLabel = Kms.kmsPrefixToken) (hheld : x.1.rwlock ≠ none)
    (err : Option GError) :
    Sat (wrapView E L uri).logic (initApimoduleToken cInit data true err)
      (fun r y => Aside x y ∧ ∀ atoken, r.1 = some atoken → HasToken y) x := by
  refine (sat_untilLock_aside (ensureToken_untilLock hinit data true err) hheld).bind ?_
  rintro ⟨rv, err⟩ y hy
  dsimp only
  split
  · exact sat_seq_pure.mpr ⟨hy, nofun⟩
  · have hopen := (openToken_issues data (allocApimoduleToken data.tokenLabel data.pin) err).mono
      TokenCall.apimoduleCall
    refine ((sat_issues_aside hopen).returns (openToken_label _ _ _)).bind ?_
    rintro ⟨rv, token, err⟩ z ⟨hz, htoken⟩
    have htoken : token.tokenLabel = Kms.kmsPrefixToken := htoken.trans hlabel
    dsimp only
    split
    · exact sat_seq_pure.mpr ⟨hy.trans hz, nofun⟩
    · refine (AgentView.sat_lift (c := .cacheToken token)).mpr ⟨trivial, fun atoken u hu => ?_⟩
      refine sat_seq_pure.mpr ⟨(hy.trans hz).trans (ApimoduleCall.aside (c := .cacheToken token)
        trivial hu), fun _ _ => ?_⟩
      -- the token just opened is the one that the label finds
      obtain ⟨⟨⟨-, hu⟩, -⟩, -⟩ := hu
      rw [HasToken, hu, ← htoken]
      show (z.1.apimodule.apimoduleTokenHash.insert token.tokenLabel _).lookup token.tokenLabel ≠ none
      rw [AList.lookup_insert]
      nofun

theorem sat_lookupOrInitToken_swk (hinit : UntilLock cInit)
    (hlabel : cstr data.tokenLabel = Kms.kmsPrefixToken) (hheld : x.1.rwlock ≠ none) (hx : SwkInv x)
    (err : Option GError) :
    Sat (wrapView E L uri).logic (lookupOrInitToken cInit data true err)
      (fun r y => Aside x y ∧ SwkInv y ∧ ∀ atoken, r.1 = some atoken → HasToken y) x := by
  rw [lookupOrInitToken]
  refine sat_lookup_swk hlabel ?_
  cases hlookup : x.1.apimodule.apimoduleTokenHash.lookup Kms.kmsPrefixToken with
  | some atoken =>
    refine sat_seq_pure.mpr ⟨.refl x, hx, fun _ _ => ?_⟩
    rw [HasToken, hlookup]
    nofun
  | none =>
    have hnone : x.2.installed = none := hx.installed_none (not_not.mpr hlookup)
    exact (sat_initToken_swk hinit hlabel hheld err).mono fun r y hy =>
      ⟨hy.1, hy.1.swkInv hx hnone, hy.2⟩

/-- Challenges are made for SGX only, and with a token. -/
theorem sat_getChallenge_swk (hinit : UntilLock cInit) {params : CkRsaPublicKeyParams}
    {details : KeyagentApimoduleGetChallengeDetails}
    (hlabel : ∀ data, details.moduleData = some data → cstr data.tokenLabel = Kms.kmsPrefixToken)
    (hheld : x.1.rwlock ≠ none) (hx : SwkInv x) (request : KeyagentSgxChallengeRequest)
    (err : Option GError) :
    Sat (wrapView E L uri).logic (apimoduleGetChallenge params cInit details request err)
      (fun r y => Aside x y ∧ SwkInv y ∧
        (r.1 = true → details.label = lit "SGX" ∧ HasToken y)) x := by
  unfold apimoduleGetChallenge
  split
  · exact sat_seq_pure.mpr ⟨.refl x, hx, nofun⟩
  · next data hdata =>
    refine (sat_lookupOrInitToken_swk hinit (hlabel data hdata) hheld hx err).bind ?_
    rintro ⟨atoken, err⟩ y ⟨hy, hinv, htoken⟩
    dsimp only
    split
    · next atoken hknown =>
      have hname : details.label = lit "SGX" := of_decide_eq_true hknown
      refine (sat_issues_steady ((sgxGetChallenge_quotes details request err).mono
        QuoteCall.steadyCall)).bind ?_
      rintro ⟨ret, err⟩ z hz
      have hxz : Aside x z := hy.trans hz.toAside
      dsimp only
      split
      · refine sat_readToken_swk fun token _ => AgentView.sat_deref.mpr fun challenge _ => ?_
        exact sat_seq_pure.mpr ⟨hxz, hz.swkInv hinv, fun _ => ⟨hname, hz.hasToken (htoken _ rfl)⟩⟩
      · exact sat_seq_pure.mpr ⟨hxz, hz.swkInv hinv, nofun⟩
    · exact sat_seq_pure.mpr ⟨hy, hinv, nofun⟩

theorem sat_stmCreateChallenge_swk (hinit : UntilLock cInit) (config : SgxStmConfig)
    {params : CkRsaPublicKeyParams} {details : KeyagentStmCreateChallengeDetails}
    (hlabel : ∀ data, details.moduleData = some data → cstr data.tokenLabel = Kms.kmsPrefixToken)
    (hheld : x.1.rwlock ≠ none) (hx : SwkInv x) (err : Option GError) :
    Sat (wrapView E L uri).logic
      (SgxStm.stmCreateChallenge config (apimoduleOps params cInit) details err)
      (fun r y => Aside x y ∧ SwkInv y ∧
        (r.1 = true → details.label = lit "SGX" ∧ HasToken y)) x := by
  refine AgentView.sat_deref.mpr fun qlPolicy _ => ?_
  split
  · exact sat_seq_pure.mpr ⟨.refl x, hx, nofun⟩
  · refine (sat_getChallenge_swk hinit hlabel hheld hx _ err).bind ?_
    rintro ⟨ret, challenge, err⟩ y ⟨hy, hinv, hret⟩
    dsimp only
    split
    · exact sat_seq_pure.mpr ⟨hy, hinv, nofun⟩
    · exact sat_seq_pure.mpr ⟨hy, hinv, hret⟩

end Challenge

/-! ## Wrapping keys -/

/-- A wrapping key was offered; if it was accepted its handle is in the token. -/
structure Offered (swk : Bytes) (x y : World W × Wrapping) : Prop where
  keyagent : y.1.keyagent = x.1.keyagent
  rwlock : y.1.rwlock = x.1.rwlock
  offered : y.2.offered = some swk
  handle : HandleKnown y

section Session

variable {E : Step skcSig W} {L : Library} {uri : Bytes} {x y : World W × Wrapping}
  {cInit : Skc CkRv} {uriData : ApimoduleUriData}

/-- **`sgx_set_wrapping_key`** -/
theorem sat_setWrappingKey_swk {details : KeyagentApimoduleSessionDetails}
    (hname : details.label = lit "SGX") (hdata : details.moduleData = some uriData)
    (hlabel : cstr uriData.tokenLabel = Kms.kmsPrefixToken) (htoken : HasToken x)
    (hx : HandleKnown x) (err : Option GError) :
    Sat (wrapView E L uri).logic (apimoduleSetWrappingKey details err)
      (fun _ y => Offered details.session x y) x := by
  obtain ⟨atoken, hlookup⟩ := Option.ne_none_iff_exists'.mp htoken
  have hknown : apimoduleApiKnown details.label = true := decide_eq_true hname
  unfold apimoduleSetWrappingKey
  rw [hdata, hknown]
  refine sat_lookup_swk hlabel ?_
  rw [hlookup]
  unfold sgxSetWrappingKey
  rw [hdata]
  refine sat_lookup_swk hlabel ?_
  rw [hlookup]
  refine sat_readToken_swk fun token hget => AgentView.sat_ck.mpr ⟨trivial, fun a y hy => ?_⟩
  obtain ⟨⟨⟨w, -, hy⟩, hnote⟩, -⟩ := hy
  obtain ⟨rv, key⟩ := a
  dsimp only
  split
  -- a failed unwrap leaves the token's handle alone
  · next hrv =>
    have hnote : y.2 = ⟨some details.session, x.2.installed⟩ := hnote.trans (by
      simp only [noteSwk, if_neg hrv])
    refine sat_seq_pure.mpr ⟨by rw [hy], by rw [hy], by rw [hnote], fun handle swk hi => ?_⟩
    rw [hnote] at hi
    rw [hy]
    exact hx handle swk hi
  -- a key that was unwrapped becomes the token's handle
  · next hrv =>
    have hnote : y.2 = ⟨some details.session, some (key, details.session)⟩ := hnote.trans (by
      simp only [noteSwk, if_pos (not_not.mp hrv)])
    refine (AgentView.sat_lift (c := .writeToken atoken _)).mpr ⟨trivial, fun _ z hz => ?_⟩
    obtain ⟨⟨hz, hnote'⟩, -⟩ := hz
    have hz : z.1 = { y.1 with apimodule := y.1.apimodule.mapToken atoken fun t =>
        { t with wrappingkeyHandle := key } } := hz
    have hnote' : z.2 = y.2 := hnote'
    refine sat_seq_pure.mpr ⟨by rw [hz, hy], by rw [hz, hy], by rw [hnote', hnote], ?_⟩
    intro handle swk hi
    rw [hnote', hnote] at hi
    obtain ⟨rfl, -⟩ := Prod.mk.inj (Option.some.inj hi)
    rw [hz, hy, Apimodule.wrappingHandle, Apimodule.mapToken, hlookup, Option.bind_some,
      List.getElem?_modify_eq, hget]
    rfl

end Session

end SkcLibrary
