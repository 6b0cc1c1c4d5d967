import SkcLibrary.Apimodule.TokenObjects
import SkcLibrary.Keyagent.LoadRules

/-!
# The sessions of cached tokens

`C_Initialize`, `C_Finalize`, `C_OnDemand_KeyLoad` and `apimodule_prepare_child`, one after the other
and in any order, with any NPMs, over a PKCS#11 module whose `C_Finalize` closes all sessions.

A cached token keeps the session it was cached with. `C_Finalize` and the fork handler do not know
about it, and a token that is gone when it is looked for a second time is cached without a session.
`KeepsSessions` is the condition that neither matters.

* `sessions_live` — every cached token has a session that is open
-/

namespace SkcLibrary

open Interaction

variable {W : Type}

/-! ## Runs -/

/-- What is seen of the sessions on the PKCS#11 module. -/
structure CkSessions where
  initialised : Bool
  /-- What `C_OpenSession` has returned since the last `C_Finalize`. -/
  opened : List Nat
  /-- It has returned one since the slots were last counted, as each search for a token begins. -/
  found : Bool
  /-- A token was cached at the last `C_Finalize`. -/
  stale : Bool

/-- One more call of the library. -/
def CkSessions.note (c : Call) (s : World W) : c.Ans → CkSessions → CkSessions :=
  match c with
  | .ck .cInitialize => fun rv w =>
    if rv = ckrOk ∨ rv = ckrCryptokiAlreadyInitialized then { w with initialised := true } else w
  | .ck .cFinalize => fun rv w =>
    if rv = ckrOk then ⟨false, [], false, s.apimodule.tokens.isEmpty = false⟩ else w
  | .ck .cGetSlotListCount => fun _ w => { w with found := false }
  | .ck (.cOpenSession _) => fun a w =>
    if a.1 = ckrOk then { w with opened := a.2 :: w.opened, found := true } else w
  | _ => fun _ w => w

/--
The module is not initialised again after it was finalised with a token in the cache, and a token is
cached only if the last search has found one to open.
-/
def KeepsSessions (c : Call) (x : World W × CkSessions) : c.Ans → Prop :=
  match c with
  | .ck .cInitialize => fun rv =>
    rv = ckrOk ∨ rv = ckrCryptokiAlreadyInitialized → x.2.stale = false
  | .cacheToken _ => fun _ => x.2.found = true
  | _ => fun _ => True

/-- The operations of a process. -/
inductive CkOp where
  | cInitialize
  | cFinalize
  | onDemand (uri : Bytes)
  | prepareChild

/-- What an operation does. -/
def CkOp.prog (L : Library) (fuel : Nat) : CkOp → Skc Unit
  | .cInitialize => do let _ ← SkcLibrary.cInitialize L fuel
  | .cFinalize => do let _ ← SkcLibrary.cFinalize
  | .onDemand uri => do let _ ← SkcLibrary.onDemand L fuel uri
  | .prepareChild => apimodulePrepareChild L fuel

/-- No key is asked for after the module was finalised with a token in the cache. -/
def CkOp.allow : CkOp → World W × CkSessions → Prop
  | .onDemand _, x => x.2.stale = false
  | _, _ => True

/-- The steps of a run, as far as they meet the condition. -/
def ckStep (E : Step skcSig W) : Step skcSig (World W × CkSessions) :=
  ((sysStep E 0).observed CkSessions.note).restrict KeepsSessions

/-- A process that has just been started. -/
structure Idle (s : World W) : Prop where
  tokens : s.apimodule.tokens = []
  rwlock : s.rwlock = none
  requests : s.keyagent.NoRequests

/-- Before the first call. -/
def CkSessions.start : CkSessions := ⟨false, [], false, false⟩

/-- The states between the operations of a run whose steps meet the condition. -/
abbrev CkReach (L : Library) (fuel : Nat) (E : Step skcSig W) :=
  Serial (ckStep E) (CkOp.prog L fuel) CkOp.allow

/-- Every token in `apimodule_token_hash` has a session that was opened after the last `C_Finalize`. -/
def TokensLive (x : World W × CkSessions) : Prop :=
  ∀ label atoken token, x.1.apimodule.apimoduleTokenHash.lookup label = some atoken →
    x.1.apimodule.tokens[atoken]? = some token → token.session ∈ x.2.opened

/-- The calls of `apimodule_findobject` and the unwrapping are on a session that is open. -/
def OnLiveSession (c : Call) (x : World W × CkSessions) : Prop :=
  match c with
  | .ck (.cFindObjectsInit session _ _) => session ∈ x.2.opened
  | .ck (.cFindObjects session) => session ∈ x.2.opened
  | .ck (.cFindObjectsFinal session) => session ∈ x.2.opened
  | .ck (.cGetAttributeValue session _) => session ∈ x.2.opened
  | .ck (.cUnwrapKey session _ _ _ _) => session ∈ x.2.opened
  | _ => True

/-! ## The setting -/

/-- A single thread, with what is seen of its sessions. -/
def sessionsView (E : Step skcSig W) : AgentView (World W × CkSessions) :=
  (observedView E CkSessions.note OnLiveSession (fun _ _ _ => rfl) (fun _ _ _ _ => rfl)
    (fun _ _ _ => rfl) fun {c _} hc => by cases c <;> trivial).restrict
    KeepsSessions fun {c _ _} hc => by cases c <;> trivial

/--
Every cached token has a session that is open. There are none behind the one that is found under the
only label there is.
-/
structure Live (x : World W × CkSessions) : Prop where
  stale : x.2.stale = false
  opened : ∀ token ∈ x.1.apimodule.tokens, token.session ∈ x.2.opened
  cached : x.1.apimodule.apimoduleTokenHash.lookup Kms.kmsPrefixToken = none →
    x.1.apimodule.tokens = []

/-- What the calls do that neither finalise the module nor cache a token. -/
structure Onward (x y : World W × CkSessions) : Prop where
  keyagent : y.1.keyagent = x.1.keyagent
  rwlock : y.1.rwlock = x.1.rwlock
  tokenHash : y.1.apimodule.apimoduleTokenHash = x.1.apimodule.apimoduleTokenHash
  sessions : y.1.apimodule.tokens.map ApimoduleToken.session
    = x.1.apimodule.tokens.map ApimoduleToken.session
  opened : x.2.opened ⊆ y.2.opened
  stale : y.2.stale = x.2.stale

namespace Onward

variable {x y z : World W × CkSessions}

theorem refl (x : World W × CkSessions) : Onward x x :=
  ⟨rfl, rfl, rfl, rfl, List.Subset.refl _, rfl⟩

theorem trans (h : Onward x y) (h' : Onward y z) : Onward x z where
  keyagent := h'.keyagent.trans h.keyagent
  rwlock := h'.rwlock.trans h.rwlock
  tokenHash := h'.tokenHash.trans h.tokenHash
  sessions := h'.sessions.trans h.sessions
  opened := List.Subset.trans h.opened h'.opened
  stale := h'.stale.trans h.stale

theorem tokens (h : Onward x y) (hx : x.1.apimodule.tokens = []) : y.1.apimodule.tokens = [] := by
  have hs := h.sessions
  rw [hx] at hs
  exact List.map_eq_nil_iff.mp hs

theorem live (h : Onward x y) (hx : Live x) : Live y where
  stale := h.stale.trans hx.stale
  opened := by
    intro token htoken
    have hmem : token.session ∈ x.1.apimodule.tokens.map ApimoduleToken.session := by
      rw [← h.sessions]
      exact List.mem_map_of_mem htoken
    obtain ⟨token', htoken', he⟩ := List.mem_map.mp hmem
    rw [← he]
    exact h.opened (hx.opened token' htoken')
  cached := by
    intro hnone
    rw [h.tokenHash] at hnone
    exact h.tokens (hx.cached hnone)

end Onward

/-- The calls that only go onward, and on no session that has to be open. -/
def OnwardCall : Call → Prop
  | .getApimodule => True
  | .writeToken _ f => ∀ t, (f t).session = t.session
  | .atomicIntAdd => True
  | .readLines _ => True
  | .calloc _ => True
  | .fault _ => True
  | .outOfFuel => True
  | .ck .cFinalize => False
  | .ck (.cFindObjectsInit _ _ _) => False
  | .ck (.cFindObjects _) => False
  | .ck (.cFindObjectsFinal _) => False
  | .ck (.cGetAttributeValue _ _) => False
  | .ck (.cUnwrapKey _ _ _ _ _) => False
  | .ck _ => True
  | _ => False

section Calls

variable {E : Step skcSig W} {x y : World W × CkSessions}

/-- A call of the PKCS#11 module leaves the library's variables alone. -/
theorem onward_ck {d : CkCall} (hd : d ≠ .cFinalize) {a : d.Ans}
    (h : (sessionsView E).step (.ck d) x a y) : Onward x y := by
  obtain ⟨⟨⟨w, -, hw⟩, hnote⟩, -⟩ := h
  have hseen : x.2.opened ⊆ y.2.opened ∧ y.2.stale = x.2.stale := by
    rw [hnote]
    cases d with
    | cFinalize => exact absurd rfl hd
    | cInitialize =>
      simp only [CkSessions.note]
      split <;> exact ⟨List.Subset.refl _, rfl⟩
    | cOpenSession slot =>
      simp only [CkSessions.note]
      split
      · exact ⟨List.subset_cons_self _ _, rfl⟩
      · exact ⟨List.Subset.refl _, rfl⟩
    | _ => exact ⟨List.Subset.refl _, rfl⟩
  rw [show y = (y.1, y.2) from rfl, hw]
  exact ⟨rfl, rfl, rfl, rfl, hseen.1, hseen.2⟩

theorem OnwardCall.pre {c : Call} (hc : OnwardCall c) (x : World W × CkSessions) :
    OnLiveSession c x := by
  cases c with
  | ck d => cases d <;> trivial
  | _ => trivial

theorem OnwardCall.onward {c : Call} (hc : OnwardCall c) {a : c.Ans}
    (h : (sessionsView E).step c x a y) : Onward x y := by
  cases c with
  | ck d =>
    refine onward_ck (fun hd => ?_) h
    rw [hd] at hc
    exact hc
  | getApimodule =>
    obtain ⟨⟨⟨-, ht⟩, hnote⟩, -⟩ := h
    rw [show y = x from Prod.ext ht hnote]
    exact .refl x
  | writeToken atoken f =>
    obtain ⟨⟨ht, hnote⟩, -⟩ := h
    rw [show y = (y.1, y.2) from rfl, ht, hnote]
    refine ⟨rfl, rfl, rfl, ?_, List.Subset.refl _, rfl⟩
    -- a write that keeps the sessions of the tokens changes no session of the list
    refine List.ext_getElem? fun i => ?_
    simp only [Apimodule.mapToken, List.getElem?_map, List.getElem?_modify]
    split
    · cases x.1.apimodule.tokens[i]? with
      | none => rfl
      | some t => exact congrArg some (hc t)
    · simp
  | atomicIntAdd =>
    obtain ⟨⟨⟨-, ht⟩, hnote⟩, -⟩ := h
    rw [show y = (y.1, y.2) from rfl, ht, hnote]
    exact ⟨rfl, rfl, rfl, rfl, List.Subset.refl _, rfl⟩
  | readLines filename =>
    obtain ⟨⟨⟨w, -, ht⟩, hnote⟩, -⟩ := h
    rw [show y = (y.1, y.2) from rfl, ht, hnote]
    exact ⟨rfl, rfl, rfl, rfl, List.Subset.refl _, rfl⟩
  | calloc n =>
    obtain ⟨⟨⟨w, -, ht⟩, hnote⟩, -⟩ := h
    rw [show y = (y.1, y.2) from rfl, ht, hnote]
    exact ⟨rfl, rfl, rfl, rfl, List.Subset.refl _, rfl⟩
  | fault reason => exact a.elim
  | outOfFuel => exact a.elim
  | _ => exact hc.elim

theorem sat_onward {α : Type} {p : Skc α} (hp : p.Issues OnwardCall) :
    Sat (sessionsView E).logic p (fun _ y => Onward x y) x := by
  refine Sat.of_issues hp stable_seq (fun c hc t ht => ?_) (.refl x)
  exact ⟨hc.pre t, fun a u hu => ⟨trivial, ht.trans (hc.onward hu)⟩⟩

theorem SlotCall.onward {c : Call} (h : SlotCall c) : OnwardCall c := by
  cases c with
  | ck d => cases d <;> trivial
  | calloc n => trivial
  | _ => exact h.elim

/-- One more call of the PKCS#11 module. -/
theorem sat_onward_ck {α : Type} {d : CkCall} {f : d.Ans → Skc α} {Q : α → World W × CkSessions → Prop}
    (hd : d ≠ .cFinalize) (hpre : OnLiveSession (.ck d) x)
    (h : ∀ a y, Onward x y → Sat (sessionsView E).logic (f a) Q y) :
    Sat (sessionsView E).logic (Skc.ck d >>= f) Q x :=
  AgentView.sat_ck.mpr ⟨hpre, fun a y hy => h a y (onward_ck hd hy)⟩

theorem sat_apimodule {α : Type} {f : Apimodule → Skc α} {Q : α → World W × CkSessions → Prop} :
    Sat (sessionsView E).logic (Skc.apimodule >>= f) Q x ↔
      Sat (sessionsView E).logic (f x.1.apimodule) Q x := by
  rw [Skc.apimodule, AgentView.sat_lift]
  constructor
  · exact fun h => h.2 _ x ⟨⟨⟨rfl, rfl⟩, rfl⟩, trivial⟩
  · refine fun h => ⟨trivial, fun m y hy => ?_⟩
    obtain ⟨⟨⟨hm, ht⟩, hnote⟩, -⟩ := hy
    rw [show y = x from Prod.ext ht hnote, hm]
    exact h

theorem sat_lookupToken {α : Type} {label : Bytes} {f : Option TokenRef → Skc α}
    {Q : α → World W × CkSessions → Prop} :
    Sat (sessionsView E).logic (lookupApimoduleToken label >>= f) Q x ↔
      Sat (sessionsView E).logic (f (x.1.apimodule.apimoduleTokenHash.lookup (cstr label))) Q x := by
  simp only [lookupApimoduleToken, bind_assoc, sat_apimodule, pure_bind]

/-- `apimodule_findobject`, on a session that is open. -/
theorem sat_findobject {session : Nat} {data : ApimoduleUriData} (h : session ∈ x.2.opened) :
    Sat (sessionsView E).logic (apimoduleFindobject session data) (fun _ y => Onward x y) x := by
  unfold apimoduleFindobject
  refine sat_onward_ck nofun h fun rv y hy => ?_
  split
  · exact sat_seq_pure.mpr hy
  · refine sat_onward_ck nofun (hy.opened h) fun a z hz => ?_
    obtain ⟨rv, objects⟩ := a
    have hz := hy.trans hz
    dsimp only
    split
    · exact sat_seq_pure.mpr hz
    · refine sat_onward_ck nofun (hz.opened h) fun rv u hu => ?_
      have hu := hz.trans hu
      split
      · exact sat_seq_pure.mpr hu
      · split
        · exact sat_seq_pure.mpr hu
        · exact sat_onward_ck nofun (hu.opened h) fun rv v hv => sat_seq_pure.mpr (hu.trans hv)

/-- A search opens no session. -/
theorem SlotCall.not_found {c : Call} (hc : SlotCall c) {a : c.Ans}
    (h : (sessionsView E).step c x a y) (hx : x.2.found = false) : y.2.found = false := by
  have hnote : y.2 = CkSessions.note c x.1 a x.2 := h.1.2
  rw [hnote]
  cases c with
  | ck d =>
    cases d with
    | cGetSlotListCount => rfl
    | cGetSlotList n | cGetTokenInfo slot => exact hx
    | _ => exact hc.elim
  | calloc n => exact hx
  | _ => exact hc.elim

/-- `apimodule_findtoken` begins a search. -/
theorem sat_findtoken_anew {data : ApimoduleUriData} :
    Sat (sessionsView E).logic (apimoduleFindtoken data)
      (fun _ y => Onward x y ∧ y.2.found = false) x := by
  refine AgentView.sat_ck.mpr ⟨trivial, fun a y hy => ?_⟩
  have hstart : y.2.found = false := by
    have hnote : y.2 = CkSessions.note (.ck .cGetSlotListCount) x.1 a x.2 := hy.1.2
    rw [hnote]
    rfl
  have hissues := (Skc.issues_ck_bind.mp (apimoduleFindtoken_issues data)).2 a
  have honward : Onward x y := onward_ck (d := .cGetSlotListCount) nofun hy
  refine Sat.of_issues hissues stable_seq (fun c hc z hz => ?_) ⟨honward, hstart⟩
  exact ⟨hc.onward.pre z, fun _ u hu =>
    ⟨trivial, hz.1.trans (hc.onward.onward hu), hc.not_found hu hz.2⟩⟩

/-- A token that is opened has a session that is open, if it was found. -/
theorem sat_openToken {uriData : ApimoduleUriData} {atoken : ApimoduleToken} {err : Option GError} :
    Sat (sessionsView E).logic (openToken uriData atoken err)
      (fun r y => Onward x y ∧ r.2.1.tokenLabel = atoken.tokenLabel ∧
        (r.1 = ckrOk → y.2.found = true → r.2.1.session ∈ y.2.opened)) x := by
  unfold openToken
  refine sat_findtoken_anew.bind ?_
  rintro ⟨rv, slot⟩ y ⟨hy, hfound⟩
  dsimp only
  split
  · next hrv => exact sat_seq_pure.mpr ⟨hy, rfl, fun h => absurd h hrv⟩
  · split
    · exact sat_seq_pure.mpr ⟨hy, rfl, fun _ h => absurd (hfound.symm.trans h) nofun⟩
    · refine AgentView.sat_ck.mpr ⟨trivial, fun a z hz => ?_⟩
      obtain ⟨rv, session⟩ := a
      have hyz := hy.trans (onward_ck (d := .cOpenSession _) nofun hz)
      dsimp only
      split
      · next hrv => exact sat_seq_pure.mpr ⟨hyz, rfl, fun h => absurd h hrv⟩
      · next hrv =>
        -- C_OpenSession's answer is a session that is now open
        have hopen : session ∈ z.2.opened := by
          have hnote : z.2 = CkSessions.note (.ck (.cOpenSession _)) y.1 (rv, session) y.2 := hz.1.2
          rw [hnote]
          simp [CkSessions.note, not_not.mp hrv]
        refine sat_onward_ck nofun trivial fun _ u hu => ?_
        refine sat_onward_ck nofun trivial fun rv v hv => ?_
        have huv := hu.trans hv
        split
        · next hlogin => exact sat_seq_pure.mpr ⟨hyz.trans huv, rfl, fun h => absurd h hlogin⟩
        · exact sat_seq_pure.mpr ⟨hyz.trans huv, rfl, fun _ _ => huv.opened hopen⟩

end Calls

/-! ## Functions that initialise the module anew -/

/-- Nobody's key is being loaded unless the lock is held. -/
structure Ready (x : World W × CkSessions) : Prop where
  live : Live x
  idle : x.1.rwlock = none → x.1.keyagent.NoRequests

/-- What a call of the library does; it leaves the agent alone if the lock is held. -/
structure Served (x y : World W × CkSessions) : Prop where
  live : Live y
  rwlock : y.1.rwlock = x.1.rwlock
  keyagent : x.1.rwlock ≠ none → y.1.keyagent = x.1.keyagent
  idle : x.1.rwlock = none → y.1.keyagent.NoRequests

namespace Served

variable {x y z : World W × CkSessions}

theorem ready (h : Served x y) : Ready y := ⟨h.live, fun hy => h.idle (h.rwlock ▸ hy)⟩

theorem trans (h : Served x y) (h' : Served y z) : Served x z where
  live := h'.live
  rwlock := h'.rwlock.trans h.rwlock
  keyagent hx := (h'.keyagent (h.rwlock ▸ hx)).trans (h.keyagent hx)
  idle hx := h'.idle (h.rwlock ▸ hx)

theorem refl (hx : Ready x) : Served x x := ⟨hx.live, rfl, fun _ => rfl, hx.idle⟩

end Served

theorem Onward.served {x y : World W × CkSessions} (h : Onward x y) (hx : Ready x) : Served x y where
  live := h.live hx.live
  rwlock := h.rwlock
  keyagent _ := h.keyagent
  idle hnone := h.keyagent ▸ hx.idle hnone

/-- A program that serves a call. -/
def Serves (E : Step skcSig W) {α : Type} (p : Skc α) : Prop :=
  ∀ x, Ready x → Sat (sessionsView E).logic p (fun _ y => Served x y) x

section Serve

variable {E : Step skcSig W} {x y : World W × CkSessions} {cInit : Skc CkRv}

theorem CreateCall.onward {c : Call} (h : CreateCall c) : OnwardCall c := by
  cases c with
  | ck d => cases d <;> first | exact trivial | exact h.elim
  | _ => exact h.elim

theorem ChallengeCall.onward {c : Call} (h : ChallengeCall c) : OnwardCall c := by
  cases c with
  | ck d => cases d <;> first | exact trivial | exact h.elim
  | writeToken atoken f => exact fun t => (h t).1
  | _ => first | exact trivial | exact h.elim

/-- The module is finalised while no token is cached. -/
theorem served_finalize (hx : Ready x) (htokens : x.1.apimodule.tokens = []) {rv : CkRv}
    (h : (sessionsView E).step (.ck .cFinalize) x rv y) : Served x y := by
  obtain ⟨⟨⟨w, -, hw⟩, hnote⟩, -⟩ := h
  have hstale : y.2.stale = false := by
    rw [hnote]
    simp only [CkSessions.note]
    split
    · simp [htokens]
    · exact hx.live.stale
  have htokens' : y.1.apimodule.tokens = [] := by rw [hw]; exact htokens
  refine ⟨⟨hstale, fun token htoken => ?_, fun _ => htokens'⟩, by rw [hw], fun _ => by rw [hw],
    fun hnone => ?_⟩
  · rw [htokens'] at htoken
    exact absurd htoken List.not_mem_nil
  · rw [hw]
    exact hx.idle hnone

/-- The first part of `init_apimodule_token`; no token is cached if one is created. -/
theorem sat_ensureToken (hinit : Serves E cInit) {uriData : ApimoduleUriData} {create : Bool}
    {err : Option GError} (hx : Ready x) (hcreate : create = true → x.1.apimodule.tokens = []) :
    Sat (sessionsView E).logic (ensureToken cInit uriData create err)
      (fun _ y => Served x y) x := by
  unfold ensureToken
  refine (sat_onward ((apimoduleFindtoken_issues uriData).mono fun _ => SlotCall.onward)).bind ?_
  rintro ⟨rv, slot⟩ y hy
  dsimp only
  split
  · exact sat_seq_pure.mpr (hy.served hx)
  · split
    · exact sat_seq_pure.mpr (hy.served hx)
    · split
      · exact sat_seq_pure.mpr (hy.served hx)
      · next hc =>
        refine (sat_onward ((createtoken_issues uriData).mono fun _ => CreateCall.onward)).bind ?_
        rintro ⟨rv, session⟩ z hz
        have hyz := hy.trans hz
        dsimp only
        split
        · exact sat_seq_pure.mpr (hyz.served hx)
        · refine sat_onward_ck nofun trivial fun _ u hu => ?_
          refine sat_onward_ck nofun trivial fun _ v hv => ?_
          have hxv := hyz.trans (hu.trans hv)
          -- C_Finalize closes every session, but a call that creates has no token cached yet
          have htokens := hxv.tokens (hcreate (Bool.of_not_eq_false hc))
          have hv := hxv.served hx
          refine AgentView.sat_ck.mpr ⟨trivial, fun rv w hw => ?_⟩
          have hw := hv.trans (served_finalize hv.ready htokens hw)
          refine (hinit w hw.ready).bind fun _ t ht => ?_
          exact sat_seq_pure.mpr (hw.trans ht)

/-- A token that was found is cached with a session that is open. -/
theorem served_cacheToken (hx : Ready x) {token : ApimoduleToken}
    (hlabel : token.tokenLabel = Kms.kmsPrefixToken)
    (hsession : x.2.found = true → token.session ∈ x.2.opened) {atoken : TokenRef}
    (h : (sessionsView E).step (.cacheToken token) x atoken y) : Served x y := by
  obtain ⟨⟨⟨-, hy⟩, hnote⟩, hallow⟩ := h
  have hopen : token.session ∈ x.2.opened := hsession hallow
  have hseen : y.2 = x.2 := hnote
  refine ⟨⟨by rw [hseen]; exact hx.live.stale, fun t ht => ?_, fun hnone => ?_⟩, by rw [hy],
    fun _ => by rw [hy], fun hnone => by rw [hy]; exact hx.idle hnone⟩
  · rw [hy] at ht
    rw [hseen]
    rcases List.mem_append.mp ht with ht | ht
    · exact hx.live.opened t ht
    · rw [List.mem_singleton.mp ht]
      exact hopen
  · rw [hy] at hnone
    simp [Apimodule.addToken, hlabel] at hnone

theorem sat_initApimoduleToken (hinit : Serves E cInit) {uriData : ApimoduleUriData}
    (hlabel : cstr uriData.tokenLabel = Kms.kmsPrefixToken) {create : Bool} {err : Option GError}
    (hx : Ready x) (hcreate : create = true → x.1.apimodule.tokens = []) :
    Sat (sessionsView E).logic (initApimoduleToken cInit uriData create err)
      (fun _ y => Served x y) x := by
  unfold initApimoduleToken
  refine (sat_ensureToken hinit hx hcreate).bind ?_
  rintro ⟨rv, err⟩ y hy
  dsimp only
  split
  · exact sat_seq_pure.mpr hy
  · refine sat_openToken.bind ?_
    rintro ⟨rv, atoken, err⟩ z ⟨hz, hl, hs⟩
    have hz := hy.trans (hz.served hy.ready)
    dsimp only
    split
    · exact sat_seq_pure.mpr hz
    · next hrv =>
      refine (AgentView.sat_lift (c := .cacheToken _)).mpr ⟨trivial, fun r u hu => ?_⟩
      exact sat_seq_pure.mpr (hz.trans
        (served_cacheToken hz.ready (hl.trans hlabel) (hs (not_not.mp hrv)) hu))

/-- The token of a URI. One is created only if none is cached. -/
theorem serves_lookupOrInitToken (hinit : Serves E cInit) {uriData : ApimoduleUriData}
    (hlabel : cstr uriData.tokenLabel = Kms.kmsPrefixToken) (create : Bool) (err : Option GError) :
    Serves E (lookupOrInitToken cInit uriData create err) := by
  intro x hx
  unfold lookupOrInitToken
  rw [sat_lookupToken, hlabel]
  split
  · exact sat_seq_pure.mpr (.refl hx)
  · next hnone => exact sat_initApimoduleToken hinit hlabel hx fun _ => hx.live.cached hnone

theorem serves_onward {α : Type} {p : Skc α} (hp : p.Issues OnwardCall) : Serves E p :=
  fun _ hx => (sat_onward hp).mono fun _ _ hy => hy.served hx

theorem Serves.bind {α β : Type} {p : Skc α} {f : α → Skc β} (hp : Serves E p)
    (hf : ∀ a, Serves E (f a)) : Serves E (p >>= f) :=
  fun x hx => (hp x hx).bind fun a y hy => (hf a y hy.ready).mono fun _ _ hz => hy.trans hz

theorem Serves.pure {α : Type} (a : α) : Serves E (Pure.pure a : Skc α) :=
  fun _ hx => sat_seq_pure.mpr (.refl hx)

theorem serves_bindClosed : Prog.BindClosed fun _ (p : Skc _) => Serves E p := ⟨.pure, .bind⟩

/-- A cached token has a session that is open, and so may be used. -/
theorem serves_readToken {α : Type} {atoken : TokenRef} {f : ApimoduleToken → Skc α}
    (h : ∀ token y, Ready y → token.session ∈ y.2.opened →
      Sat (sessionsView E).logic (f token) (fun _ z => Served y z) y) :
    Serves E (readToken atoken >>= f) := by
  intro x hx
  unfold readToken
  rw [bind_assoc, sat_apimodule]
  refine AgentView.sat_deref.mpr fun token htoken => ?_
  exact h token x hx (hx.live.opened token (List.mem_of_getElem? htoken))

/-! ### The callbacks -/

/-- A look-up in the table of tokens. -/
theorem Serves.lookupToken {α : Type} {label : Bytes} {f : Option TokenRef → Skc α}
    (h : ∀ atoken, Serves E (f atoken)) : Serves E (lookupApimoduleToken label >>= f) :=
  fun x hx => sat_lookupToken.mpr (h _ x hx)

theorem Serves.readToken (atoken : TokenRef) : Serves E (readToken atoken) :=
  serves_onward ⟨trivial, fun _ => Skc.issues_deref trivial⟩

theorem serves_getChallenge (hinit : Serves E cInit) {params : CkRsaPublicKeyParams}
    {details : KeyagentApimoduleGetChallengeDetails} {data : ApimoduleUriData}
    (hdata : details.moduleData = some data) (hlabel : cstr data.tokenLabel = Kms.kmsPrefixToken)
    (request : KeyagentSgxChallengeRequest) (err : Option GError) :
    Serves E (apimoduleGetChallenge params cInit details request err) := by
  refine apimoduleGetChallenge_closed serves_bindClosed (fun data' hdata' => ?_)
    (fun _ => serves_onward ((sgxGetChallenge_issues _ _ _).mono fun _ => ChallengeCall.onward))
    Serves.readToken fun _ => serves_onward (Skc.issues_deref trivial)
  obtain rfl : data = data' := Option.some.inj (hdata.symm.trans hdata')
  exact serves_lookupOrInitToken hinit hlabel true err

/-- Unwrapping, on the session of a cached token. -/
theorem sat_unwrap {session key : Nat} {mechanism : CkMechanism} {wrapped : Bytes}
    {template : CkTemplate} {α : Type} {f : CkRv × Nat → Skc α} (hx : Ready x)
    (hsession : session ∈ x.2.opened) (h : ∀ a, Serves E (f a)) :
    Sat (sessionsView E).logic (Skc.ck (.cUnwrapKey session mechanism key wrapped template) >>= f)
      (fun _ y => Served x y) x :=
  sat_onward_ck nofun hsession fun a y hy =>
    (h a y (hy.served hx).ready).mono fun _ _ hz => (hy.served hx).trans hz

theorem serves_setWrappingKey (details : KeyagentApimoduleSessionDetails) (err : Option GError) :
    Serves E (apimoduleSetWrappingKey details err) := by
  unfold apimoduleSetWrappingKey
  split
  · exact .pure _
  · refine .lookupToken fun atoken => ?_
    split
    · unfold sgxSetWrappingKey
      split
      · exact .pure _
      · refine .lookupToken fun atoken => ?_
        split
        · exact .pure _
        · refine serves_readToken fun token y hy hsession => sat_unwrap hy hsession fun a => ?_
          obtain ⟨rv, key⟩ := a
          dsimp only
          split
          · exact .pure _
          · exact serves_onward ⟨fun _ => rfl, fun _ => trivial⟩
    · exact .pure _

theorem serves_sgxUnwrap (details : KeyagentApimoduleLoadkeyDetails) (uriData : ApimoduleUriData)
    (atoken : TokenRef) : Serves E (sgxUnwrap details uriData atoken) := by
  have hunwrap : ∀ template, Serves E (sgxUnwrapKey template details atoken) := by
    intro template x hx
    refine AgentView.sat_deref.mpr fun iv _ => ?_
    refine serves_readToken (fun token y hy hsession => sat_unwrap hy hsession fun a => ?_) x hx
    exact .pure _
  unfold sgxUnwrap
  split
  · exact hunwrap _
  · exact hunwrap _
  · exact .pure _

theorem serves_sgxLoadKey (details : KeyagentApimoduleLoadkeyDetails) (err : Option GError) :
    Serves E (sgxLoadKey details err) := by
  unfold sgxLoadKey
  split
  · exact .pure _
  · refine .lookupToken fun atoken => ?_
    split
    · exact .pure _
    · refine (serves_sgxUnwrap _ _ _).bind fun rv => ?_
      split
      · exact .pure _
      · exact .pure _

theorem serves_loadKey (details : KeyagentApimoduleLoadkeyDetails) (err : Option GError) :
    Serves E (apimoduleLoadKey details err) := by
  unfold apimoduleLoadKey
  split
  · exact .pure _
  · next data _ =>
    refine .lookupToken fun atoken => ?_
    split
    · by_cases htype : (if data.type = ckoData then keytypeClass details.type else data.type) ≠
          keytypeClass details.type
      · exact (if_pos htype).symm ▸ Serves.pure _
      · exact (if_neg htype).symm ▸ serves_sgxLoadKey details err
    · exact .pure _

/-! ### A key load -/

theorem serves_createChallenge (hinit : Serves E cInit) (config : SgxStmConfig)
    {params : CkRsaPublicKeyParams} {details : KeyagentStmCreateChallengeDetails}
    {data : ApimoduleUriData} (hdata : details.moduleData = some data)
    (hlabel : cstr data.tokenLabel = Kms.kmsPrefixToken) (err : Option GError) :
    Serves E (SgxStm.stmCreateChallenge config (apimoduleOps params cInit) details err) :=
  stmCreateChallenge_closed serves_bindClosed (fun _ => serves_onward (Skc.issues_deref trivial))
    fun request => serves_getChallenge hinit hdata hlabel request err

/-- What holds while the lock is held. -/
structure Locked (x : World W × CkSessions) : Prop where
  live : Live x
  rwlock : x.1.rwlock = some 0

/-- A program that leaves the agent alone while the lock is held. -/
theorem Serves.locked {α : Type} {p : Skc α} (hp : Serves E p) (hx : Locked x) :
    Sat (sessionsView E).logic p (fun _ y => Locked y ∧ y.1.keyagent = x.1.keyagent) x := by
  have hne : x.1.rwlock ≠ none := by rw [hx.rwlock]; exact nofun
  refine (hp x ⟨hx.live, fun hnone => absurd hnone hne⟩).mono fun _ y hy => ?_
  exact ⟨⟨hy.live, hy.rwlock.trans hx.rwlock⟩, hy.keyagent hne⟩

/-- What the agent calls goes onward. -/
theorem onward_agent {c : Call} (hc : c.Agent) (hmod : ∀ f, c ≠ .modifyKeyagent f) {a : c.Ans}
    (h : (sessionsView E).step c x a y) : Onward x y := by
  obtain ⟨⟨hy, hnote⟩, -⟩ := h
  have hsame : y.1.apimodule = x.1.apimodule ∧ y.1.rwlock = x.1.rwlock ∧ y.2 = x.2 := by
    cases c with
    | modifyKeyagent f => exact absurd rfl (hmod f)
    | getKeyagent => exact ⟨by rw [hy.2], by rw [hy.2], hnote⟩
    | foreachSession => exact ⟨by rw [hy.2], by rw [hy.2], hnote⟩
    | fault reason => exact a.elim
    | generateUuid | uninitialised _ | httpsSend _ | insertRow _ =>
      obtain ⟨w, -, hw⟩ := hy
      exact ⟨by rw [hw], by rw [hw], hnote⟩
    | _ => exact hc.elim
  obtain ⟨hm, hl, hw⟩ := hsame
  refine ⟨sysStep_keyagent hy hmod, hl, by rw [hm], by rw [hm], ?_, by rw [hw]⟩
  rw [hw]
  exact List.Subset.refl _

/-- The SGX security module serves a call. -/
theorem serving_sgx (hinit : Serves E cInit) (L : Library) {data : ApimoduleUriData}
    (hlabel : cstr data.tokenLabel = Kms.kmsPrefixToken) :
    Serving (sessionsView E) (L.stmOps cInit) (some data) Locked where
  call hc hmod hx hy :=
    ⟨(onward_agent hc hmod hy).live hx.live, (onward_agent hc hmod hy).rwlock.trans hx.rwlock⟩
  put hx := ⟨⟨hx.live.stale, hx.live.opened, hx.live.cached⟩, hx.rwlock⟩
  createChallenge hdata hx := (serves_createChallenge hinit _ hdata hlabel _).locked hx
  setSession _ hx := (serves_setWrappingKey _ _).locked hx

theorem sat_loadkeyLocked_live (hinit : Serves E cInit) (L : Library) {data : ApimoduleUriData}
    (hlabel : cstr data.tokenLabel = Kms.kmsPrefixToken) {url : Bytes} {err : Option GError}
    (hx : Locked x) (hreq : x.1.keyagent.NoRequests) :
    Sat (sessionsView E).logic (loadkeyLocked (L.modules (L.stmOps cInit)) url (some data) err)
      (fun _ y => Locked y ∧ y.1.keyagent.NoRequests) x := by
  have hloading : Loading (sessionsView E) (L.modules (L.stmOps cInit)) url (some data)
      Locked Locked :=
    (serving_sgx hinit L hlabel).loading id
      (fun hy => ⟨⟨hy.live.stale, hy.live.opened, hy.live.cached⟩, hy.rwlock⟩)
      fun _ hy => ((serves_loadKey _ _).locked hy).mono fun _ z hz => ⟨by simpa using hz.1, hz.2⟩
  exact (hloading.sat_loadkeyLocked (fun _ => hx) (fun _ => hx) hreq).mono fun _ y hy =>
    ⟨hy.1, hy.2.1⟩

theorem serves_loadkeyWithModuledata (hinit : Serves E cInit) (L : Library)
    {data : ApimoduleUriData} (hlabel : cstr data.tokenLabel = Kms.kmsPrefixToken) (url : Bytes)
    (err : Option GError) :
    Serves E (keyagentLoadkeyWithModuledata (L.modules (L.stmOps cInit)) url (some data) err) := by
  intro x hx
  refine AgentView.sat_loadkeyWithModuledata (fun _ => .refl hx) fun _ => ⟨trivial, fun _ y hy => ?_⟩
  obtain ⟨⟨⟨hfree, hy⟩, hnote⟩, -⟩ := hy
  have hlocked : Locked y := by
    rw [show y = (y.1, y.2) from rfl, hy, hnote]
    exact ⟨⟨hx.live.stale, hx.live.opened, hx.live.cached⟩, rfl⟩
  have hreq : y.1.keyagent.NoRequests := by
    rw [hy]
    exact hx.idle hfree
  refine (sat_loadkeyLocked_live hinit L hlabel hlocked hreq).mono fun r z hz => ?_
  refine ⟨trivial, fun _ u hu => ?_⟩
  obtain ⟨⟨hu, hnote⟩, -⟩ := hu
  rw [show u = (u.1, u.2) from rfl, show u.1 = _ from hu, show u.2 = z.2 from hnote]
  exact ⟨⟨hz.1.live.stale, hz.1.live.opened, hz.1.live.cached⟩, hfree.symm,
    fun hne => absurd hfree hne, fun _ => hz.2⟩

theorem serves_onDemand (hinit : Serves E cInit) (L : Library) (uri : Bytes) :
    Serves E (cOnDemandKeyLoad L (L.stmOps cInit) cInit uri) := by
  unfold cOnDemandKeyLoad
  split
  · exact .pure _
  · next uriData huri =>
    have hlabel := (apimoduleUriToUriData_spec huri).1
    have hload : ∀ err, Serves E (onDemandLoadkey L (L.stmOps cInit) uriData uri err) := by
      intro err
      exact onDemandLoadkey_closed serves_bindClosed
        (serves_loadkeyWithModuledata hinit L hlabel _ err)
        fun _ => serves_onward (Skc.issues_deref trivial)
    refine (serves_lookupOrInitToken hinit hlabel false none).bind fun a => ?_
    obtain ⟨atoken, err⟩ := a
    cases atoken with
    | none => exact hload err
    | some atoken =>
      refine serves_readToken fun token y hy hsession => ?_
      split
      · exact sat_seq_pure.mpr (.refl hy)
      · refine (sat_findobject hsession).bind ?_
        rintro ⟨rv, isPresent⟩ z hz
        have hz := hz.served hy
        dsimp only
        split
        · exact sat_seq_pure.mpr hz
        · exact (hload err z hz.ready).mono fun _ _ hu => hz.trans hu

/-- **`C_Initialize`**, however deep it is nested. -/
theorem serves_cInitialize (L : Library) (fuel : Nat) : Serves E (cInitialize L fuel) := by
  refine InitializeClosed.cInitialize_closed (C := fun _ p => Serves E p)
    { serves_bindClosed with
      cInitialize := serves_onward (Prog.issues_lift.mpr trivial)
      atomicIntAdd := serves_onward (Prog.issues_lift.mpr trivial)
      readLines := fun _ => serves_onward (Prog.issues_lift.mpr trivial)
      criticalError := fun _ => serves_onward (Skc.issues_deref trivial)
      outOfFuel := serves_onward ⟨trivial, fun a => a.elim⟩ } (fun hinit uri => ?_) fuel
  exact serves_onDemand hinit L uri

end Serve

/-! ## Every run -/

/-- What holds between the operations of a process. -/
structure Between (x : World W × CkSessions) : Prop where
  initialised : x.2.initialised = true → x.2.stale = false
  live : x.2.stale = false → Live x
  rwlock : x.1.rwlock = none
  requests : x.1.keyagent.NoRequests

section Operations

variable {E : Step skcSig W} {x y : World W × CkSessions} {L : Library} {fuel : Nat}

theorem Between.ready (h : Between x) (hstale : x.2.stale = false) : Ready x :=
  ⟨h.live hstale, fun _ => h.requests⟩

theorem Served.between (h : Served x y) (hx : Between x) : Between y where
  initialised _ := h.live.stale
  live _ := h.live
  rwlock := h.rwlock.trans hx.rwlock
  requests := h.idle hx.rwlock

/-- Only `C_Initialize` initialises the module. -/
theorem between_onward {c : Call} (hc : OnwardCall c) (hne : c ≠ .ck .cInitialize) {a : c.Ans}
    (h : (sessionsView E).step c x a y) (hx : Between x) : Between y := by
  have hy := hc.onward h
  have hinit : y.2.initialised = x.2.initialised := by
    obtain ⟨⟨-, hnote⟩, -⟩ := h
    rw [hnote]
    cases c with
    | ck d =>
      cases d with
      | cInitialize => exact absurd rfl hne
      | cFinalize => exact hc.elim
      | cOpenSession slot =>
        simp only [CkSessions.note]
        split <;> rfl
      | _ => rfl
    | _ => rfl
  refine ⟨fun h => ?_, fun h => ?_, hy.rwlock.trans hx.rwlock, by rw [hy.keyagent]; exact hx.requests⟩
  · rw [hinit] at h
    rw [hy.stale]
    exact hx.initialised h
  · rw [hy.stale] at h
    exact hy.live (hx.live h)

/-- An operation that keeps what holds between operations. -/
def Keeps (E : Step skcSig W) {α : Type} (p : Skc α) : Prop :=
  ∀ x, Between x → Sat (sessionsView E).logic p (fun _ y => Between y) x

theorem keeps_onward {α : Type} {p : Skc α}
    (hp : p.Issues fun c : Call => OnwardCall c ∧ c ≠ .ck .cInitialize) : Keeps E p := by
  intro x hx
  refine Sat.of_issues hp stable_seq (fun c hc t ht => ?_) hx
  exact ⟨hc.1.pre t, fun a u hu => ⟨trivial, between_onward hc.1 hc.2 hu ht⟩⟩

theorem Keeps.bind {α β : Type} {p : Skc α} {f : α → Skc β} (hp : Keeps E p)
    (hf : ∀ a, Keeps E (f a)) : Keeps E (p >>= f) :=
  fun x hx => (hp x hx).bind fun a y hy => hf a y hy

theorem Keeps.pure {α : Type} (a : α) : Keeps E (Pure.pure a : Skc α) :=
  fun _ hx => sat_seq_pure.mpr hx

/-- The module is not initialised again if a cached token has lost its session. -/
theorem keeps_cInitialize (L : Library) (fuel : Nat) : Keeps E (cInitialize L fuel) := by
  intro x hx
  cases hstale : x.2.stale with
  | false =>
    exact (serves_cInitialize L fuel x (hx.ready hstale)).mono fun _ y hy => hy.between hx
  | true =>
    cases fuel with
    | zero => exact sat_seq_call.mpr ⟨trivial, fun a => a.elim⟩
    | succ fuel =>
      refine AgentView.sat_ck.mpr ⟨trivial, fun rv y hy => ?_⟩
      obtain ⟨⟨⟨w, -, hw⟩, hnote⟩, hallow⟩ := hy
      have hrv : ¬(rv = ckrOk ∨ rv = ckrCryptokiAlreadyInitialized) := fun h =>
        absurd (hstale.symm.trans (hallow h)) nofun
      have hsame : y.2 = x.2 := hnote.trans (if_neg hrv)
      rw [show y = (y.1, y.2) from rfl, hw, hsame, if_neg hrv]
      refine sat_seq_pure.mpr ⟨hx.initialised, fun h => ?_, hx.rwlock, hx.requests⟩
      exact absurd (hstale.symm.trans h) nofun

theorem keeps_cFinalize : Keeps E cFinalize := by
  intro x hx
  refine AgentView.sat_lift'.mpr ⟨trivial, fun rv y hy => ?_⟩
  obtain ⟨⟨⟨w, -, hw⟩, hnote⟩, -⟩ := hy
  rw [show y = (y.1, y.2) from rfl, hw, hnote]
  simp only [CkSessions.note]
  split
  · refine ⟨nofun, fun h => ?_, hx.rwlock, hx.requests⟩
    have htokens : x.1.apimodule.tokens = [] := by simpa using h
    refine ⟨h, fun token htoken => ?_, fun _ => htokens⟩
    rw [show token ∈ x.1.apimodule.tokens ↔ token ∈ [] by rw [htokens]] at htoken
    exact absurd htoken List.not_mem_nil
  · refine ⟨hx.initialised, fun h => ?_, hx.rwlock, hx.requests⟩
    exact ⟨h, (hx.live h).opened, (hx.live h).cached⟩

theorem SlotCall.keeps {c : Call} (h : SlotCall c) : OnwardCall c ∧ c ≠ .ck .cInitialize := by
  refine ⟨h.onward, ?_⟩
  rintro rfl
  exact h

/-- The session that the child opens is not the one of the cached token. -/
theorem keeps_prepareChildLogin (uriData : ApimoduleUriData) :
    Keeps E (prepareChildLogin uriData) := by
  refine keeps_onward (((apimoduleFindtoken_issues uriData).mono fun _ => SlotCall.keeps).bind ?_)
  rintro ⟨rv, slot⟩
  dsimp only
  split
  · trivial
  · split
    · trivial
    · refine Skc.issues_ck_bind.mpr ⟨⟨trivial, nofun⟩, fun a => ?_⟩
      obtain ⟨rv, session⟩ := a
      dsimp only
      split
      · trivial
      · exact ⟨⟨trivial, nofun⟩, fun _ => trivial⟩

/-- Every operation that may be started keeps what holds between operations. -/
theorem sat_op_between (op : CkOp) (hallow : op.allow x) (hx : Between x) :
    Sat (sessionsView E).logic (op.prog L fuel) (fun _ y => Between y) x := by
  cases op with
  | cInitialize => exact ((keeps_cInitialize L fuel).bind fun _ => .pure _) x hx
  | cFinalize => exact (keeps_cFinalize.bind fun _ => .pure _) x hx
  | onDemand uri =>
    have hserves : Serves E (onDemand L fuel uri) := serves_onDemand (serves_cInitialize L fuel) L uri
    refine (hserves x (hx.ready hallow)).bind fun _ y hy => ?_
    exact sat_seq_pure.mpr (hy.between hx)
  | prepareChild =>
    refine (keeps_cFinalize.bind fun _ => (keeps_cInitialize L fuel).bind fun _ => ?_) x hx
    refine Keeps.bind (keeps_onward (Prog.issues_lift.mpr ⟨trivial, nofun⟩)) fun lines => ?_
    split
    · exact .pure _
    · exact .pure _
    · split
      · exact .pure _
      · exact keeps_prepareChildLogin _

theorem CkReach.between {s : World W} (hs : Idle s) (h : CkReach L fuel E (s, .start) x) :
    Between x := by
  refine h.invariant (fun hu ha hr => (sat_op_between _ ha hu).runs hr) ?_
  refine ⟨fun _ => rfl, fun _ => ⟨rfl, fun token htoken => ?_, fun _ => hs.tokens⟩, hs.rwlock,
    hs.requests⟩
  rw [show token ∈ s.apimodule.tokens ↔ token ∈ [] by rw [hs.tokens]] at htoken
  exact absurd htoken List.not_mem_nil

/--
**The sessions of cached tokens.** In every run whose steps meet the condition: when the module is
initialised after an operation, every cached token has a session that was opened after the last
`C_Finalize`; and no operation uses a session that was not.
-/
theorem sessions_live {s : World W} (hs : Idle s) (h : CkReach L fuel E (s, .start) x) :
    (x.2.initialised = true → TokensLive x) ∧
    ∀ (op : CkOp) (c : Call) (k : c.Ans → Skc Unit) (y : World W × CkSessions), op.allow x →
      Exec (ckStep E) (op.prog L fuel) x (.call c k) y → OnLiveSession c y := by
  have hx := h.between hs
  constructor
  · intro hinit label atoken token _ htoken
    exact (hx.live (hx.initialised hinit)).opened token (List.mem_of_getElem? htoken)
  · intro op c k y hallow hexec
    exact (sat_op_between op hallow hx).issued hexec

end Operations

/-! ## Processes that preload a key -/

instance (c : Call) (x : World W × CkSessions) (a : c.Ans) : Decidable (KeepsSessions c x a) := by
  casesm* Call, CkCall
  case ck.cInitialize =>
    exact inferInstanceAs
      (Decidable (a = ckrOk ∨ a = ckrCryptokiAlreadyInitialized → x.2.stale = false))
  case cacheToken => exact inferInstanceAs (Decidable (x.2.found = true))
  all_goals exact isTrue trivial

instance (op : CkOp) (x : World W × CkSessions) : Decidable (op.allow x) := by
  cases op with
  | onDemand uri => exact inferInstanceAs (Decidable (x.2.stale = false))
  | _ => exact isTrue trivial

/-- A library that loads a key when it is initialised. -/
def preloadLibrary : Library := { kmsLibrary with preLoadKeyfile := lit "/root/keys.txt" }

/-- A module without a token, and a file with one key. -/
def preloadStoreHandler (c : Call) (w : TokenStore) : Option (c.Ans × TokenStore) :=
  match c with
  | .readLines _ => some (some [lit "pkcs11:type=private"], w)
  | c => tokenStoreHandler c w

/-- The surroundings with that module and that file. -/
def preloadStoreStep : Step skcSig TokenStore := fun c w a w' =>
  preloadStoreHandler c w = some (a, w')

/-- A process that has not been initialised. -/
def preloadStoreWorld : World TokenStore :=
  { tokenStoreWorld none with apimodule := ⟨∅, [], 0⟩ }

theorem preloadStoreHandler_keeps (c : skcSig.Op) (x : World TokenStore × CkSessions)
    (a : skcSig.Ans c) (y : World TokenStore × CkSessions)
    (h : restricting (S := skcSig) (observing (sysHandler preloadStoreHandler 0) CkSessions.note)
      KeepsSessions c x = some (a, y)) : ckStep preloadStoreStep c x a y :=
  restricting_step (observing_step sysHandler_answers) c x a y h

theorem idle_preloadStoreWorld : Idle preloadStoreWorld := ⟨rfl, rfl, fun _ => rfl⟩

/--
The token is created while a key is preloaded, with session 1; `C_Finalize` closes it before the
token is opened and cached. The object is then looked for on the session it was cached with.
-/
theorem sessions_live_preload : ∃ x : World TokenStore × CkSessions,
    CkReach preloadLibrary 2 preloadStoreStep (preloadStoreWorld, .start) x ∧
    x.2.initialised = true ∧ x.2.opened = [2] ∧
    x.1.apimodule.tokens.map ApimoduleToken.session = [2] ∧ TokensLive x := by
  obtain ⟨x, hx, hv⟩ := Option.map_eq_some_iff.mp (show
    (Prog.runSerial (restricting (observing (sysHandler preloadStoreHandler 0) CkSessions.note)
      KeepsSessions) (CkOp.prog preloadLibrary 2) CkOp.allow [.cInitialize, .onDemand (twoSpellings 0)]
      (preloadStoreWorld, .start)).map
      (fun x => (x.2.initialised, x.2.opened, x.1.apimodule.tokens.map ApimoduleToken.session)) =
      some (true, [2], [2]) by decide +kernel)
  obtain ⟨hinit, hv⟩ := Prod.mk.inj hv
  obtain ⟨hopened, htokens⟩ := Prod.mk.inj hv
  have hreach : CkReach preloadLibrary 2 preloadStoreStep (preloadStoreWorld, .start) x :=
    Prog.runSerial_serial preloadStoreHandler_keeps .refl hx
  exact ⟨x, hreach, hinit, hopened, htokens, (sessions_live idle_preloadStoreWorld hreach).1 hinit⟩

/-- The same, over a module that only counts its sessions. -/
def preloadWorld : World Nat :=
  ⟨{ sgxAgent with apimoduleLoadkeyHash := ∅ }, ⟨∅, [], 0⟩, none, 0⟩

/-- A module with one token that holds the key; the handles of its sessions are counted. -/
def oneTokenHandler (c : Call) (w : Nat) : Option (c.Ans × Nat) :=
  match c with
  | .calloc _ => some (true, w)
  | .readLines _ => some (some [lit "pkcs11:type=private"], w)
  | .ck .cInitialize => some (ckrOk, w)
  | .ck .cFinalize => some (ckrOk, w)
  | .ck .cGetSlotListCount => some ((ckrOk, 1), w)
  | .ck (.cGetSlotList _) => some ((ckrOk, [0]), w)
  | .ck (.cGetTokenInfo _) => some ((ckrOk, lit "KMS"), w)
  | .ck (.cOpenSession _) => some ((ckrOk, w + 1), w + 1)
  | .ck (.cLogout _) => some (ckrOk, w)
  | .ck (.cLogin _ _ _) => some (ckrOk, w)
  | .ck (.cFindObjectsInit _ _ _) => some (ckrOk, w)
  | .ck (.cFindObjects _) => some ((ckrOk, [1]), w)
  | .ck (.cFindObjectsFinal _) => some (ckrOk, w)
  | .ck (.cGetAttributeValue _ _) => some (ckrOk, w)
  | _ => none

/-- The surroundings with that module. -/
def oneTokenStep : Step skcSig Nat := fun c w a w' => oneTokenHandler c w = some (a, w')

theorem oneTokenHandler_step (c : skcSig.Op) (x : World Nat × CkSessions) (a : skcSig.Ans c)
    (y : World Nat × CkSessions)
    (h : observing (S := skcSig) (sysHandler oneTokenHandler 0) CkSessions.note c x = some (a, y)) :
    (sysStep oneTokenStep 0).observed CkSessions.note c x a y :=
  observing_step sysHandler_answers c x a y h

theorem idle_preloadWorld : Idle preloadWorld := ⟨rfl, rfl, fun _ => rfl⟩

/-- The application finalises the module and initialises it again. -/
theorem not_sessions_live : ¬∀ (W : Type) (L : Library) (fuel : Nat) (E : Step skcSig W)
    (s : World W) (x : World W × CkSessions), Idle s →
    Serial ((sysStep E 0).observed CkSessions.note) (CkOp.prog L fuel) (fun _ _ => True)
      (s, .start) x → x.2.initialised = true → TokensLive x := by
  intro h
  obtain ⟨x, hx, hv⟩ := Option.map_eq_some_iff.mp (show
    (Prog.runSerial (observing (sysHandler oneTokenHandler 0) CkSessions.note)
      (CkOp.prog preloadLibrary 2) (fun _ _ => True) [.cInitialize, .cFinalize, .cInitialize]
      (preloadWorld, .start)).map
      (fun x => (x.2.initialised, x.2.opened, x.1.apimodule.tokens.map (·.session),
        x.1.apimodule.apimoduleTokenHash.lookup (lit "KMS"))) =
      some (true, [], [1], some 0) by decide +kernel)
  obtain ⟨hinit, hv⟩ := Prod.mk.inj hv
  obtain ⟨hopened, hv⟩ := Prod.mk.inj hv
  obtain ⟨htokens, hlookup⟩ := Prod.mk.inj hv
  have hlive := h Nat preloadLibrary 2 oneTokenStep preloadWorld x idle_preloadWorld
    (Prog.runSerial_serial oneTokenHandler_step .refl hx) hinit
  have htoken : (x.1.apimodule.tokens.map (·.session))[0]? = some 1 := by rw [htokens]; rfl
  rw [List.getElem?_map] at htoken
  obtain ⟨token, htoken, -⟩ := Option.map_eq_some_iff.mp htoken
  have hmem := hlive (lit "KMS") 0 token hlookup htoken
  rw [hopened] at hmem
  exact absurd hmem List.not_mem_nil

end SkcLibrary
