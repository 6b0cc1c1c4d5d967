import SkcLibrary.Apimodule.TokenObjects

/-!
# The pin of the token

Any number of threads, each of which loads a key on demand, with NPMs that accept a URL without an
error, over a PKCS#11 module that lets a user log in only with the pin its token was created with.

The pin of a URI is compared when the token is cached already, and tried when it is not; but a call
whose login has failed goes on to the agent, and under the agent's lock nobody looks at the pin
again. `PinChecked` is the condition that the token found there is one with the pin of the call.

* `pins_respected` — who succeeds, or has a key unwrapped, has the pin of the token
-/

namespace SkcLibrary

open Interaction

variable {W : Type}

/-! ## Runs -/

/-- The pin the token was created with, once there is a token. -/
abbrev TokenPin := Option Bytes

/-- What is seen of the PKCS#11 module. -/
structure PinSeen where
  pin : TokenPin
  /-- The threads whose last search has found the token. -/
  found : Nat → Bool

/-- One more call: a token that is created gets its pin. -/
def notePin (c : Call) : c.Ans → TokenPin → TokenPin :=
  match c with
  | .ck (.cInitToken _ pin _) => fun rv w => if rv = ckrOk then some pin else w
  | _ => fun _ w => w

/-- A search begins with a count of the slots; a session is opened on a token that is found. -/
def noteFound (c : Call) : c.Ans → Bool → Bool :=
  match c with
  | .ck .cGetSlotListCount => fun _ _ => false
  | .ck (.cOpenSession _) => fun a found => if a.1 = ckrOk then true else found
  | _ => fun _ found => found

/-- One more call of thread `i`. -/
def PinSeen.note (i : Nat) (c : Call) (a : c.Ans) (w : PinSeen) : PinSeen where
  pin := notePin c a w.pin
  found := Function.update w.found i (noteFound c a (w.found i))

/-- Nothing is seen of the agent's variables and of the lock. -/
theorem PinSeen.note_guarded (i : Nat) {c : Call} (hc : c.Guarded) (a : c.Ans) (w : PinSeen) :
    PinSeen.note i c a w = w := by
  have hfound : Function.update w.found i (w.found i) = w.found := Function.update_eq_self i _
  cases c <;> first | exact congrArg (PinSeen.mk w.pin) hfound | exact hc.elim

/-- Before the first call, over a token with the given pin. -/
def PinSeen.start (pin : TokenPin) : PinSeen := ⟨pin, fun _ => false⟩

/--
What the PKCS#11 module does: only the pin of the token lets a user log in, or the token be created
again.
-/
def PinStore (c : Call) (w : TokenPin) : c.Ans → Prop :=
  match c with
  | .ck (.cInitToken _ pin _) => fun rv => rv = ckrOk → w = none ∨ w = some pin
  | .ck (.cLogin _ .user pin) => fun rv => rv = ckrOk → w = some pin
  | _ => fun _ => True

/-- The pin in the URI of a call. -/
def callPin (L : Library) (uri : Bytes) : Option Bytes := (callData L uri).map (·.pin)

/-- The pin is the right one where nobody checks it. -/
def PinChecked (L : Library) (uri : Nat → Bytes) (i : Nat) (c : Call) (x : World W × PinSeen) :
    c.Ans → Prop :=
  match c with
  -- the token is looked up again, with the lock
  | .getApimodule => fun m => x.1.rwlock = some i → ∀ pin ∈ callPin L (uri i),
    ∀ atoken ∈ m.apimoduleTokenHash.lookup Kms.kmsPrefixToken, ∀ token ∈ m.tokens[atoken]?,
    token.pin = pin
  -- the key was asked for before
  | .rwLockWriterLock => fun _ => ∀ uriData ∈ callData L (uri i),
    x.1.keyagent.keyHash.lookup (hashKey (keyUrl uriData (uri i))) ≠ none →
    x.2.pin = some uriData.pin
  -- someone else has logged in
  | .ck (.cLogin _ .user pin) => fun rv => rv = ckrUserAlreadyLoggedIn → x.2.pin = some pin
  -- the token was there, and is found again
  | .cacheToken _ => fun _ => x.2.found i = true
  | _ => fun _ => True

/-- A thread, over a PKCS#11 module that knows its pin. -/
abbrev pinStoreStep (E : Step skcSig W) : Nat → Step skcSig (World W × PinSeen) :=
  threadStep E (fun i c _ => PinSeen.note i c) fun _ c x => PinStore c x.2.pin

/-- The same steps, as far as they meet the condition. -/
abbrev pinStep (E : Step skcSig W) (L : Library) (uri : Nat → Bytes) :
    Nat → Step skcSig (World W × PinSeen) :=
  threadStep E (fun i c _ => PinSeen.note i c) fun i c x a =>
    PinStore c x.2.pin a ∧ PinChecked L uri i c x a

/-! ## What a thread knows of the pin -/

/-- A pin that was known stays known. -/
def Grows (z z' : TokenPin) : Prop := ∀ pin, z = some pin → z' = some pin

namespace Grows

variable {z z' z'' : TokenPin}

theorem refl (z : TokenPin) : Grows z z := fun _ h => h

theorem trans (h : Grows z z') (h' : Grows z' z'') : Grows z z'' := fun pin hz => h' pin (h pin hz)

end Grows

/-- What a thread knows: the pin, once it does, and whether its last search has found the token. -/
structure ThreadPin where
  pin : TokenPin
  found : Bool

/-- What an answer tells of the pin; `held` says that the thread has the lock. -/
def PinTold (own : Bytes) (held : Prop) (c : Call) : c.Ans → TokenPin → Prop :=
  match c with
  | .getApimodule => fun m w => (∀ token ∈ m.tokens, w = some token.pin) ∧
    (held → m.apimoduleTokenHash.lookup Kms.kmsPrefixToken ≠ none → w = some own)
  | .ck (.cLogin _ .user pin) => fun rv w => loginRv rv = ckrOk → w = some pin
  | _ => fun _ _ => True

/-- What a call does to the knowledge of a thread with the pin `own`. -/
structure PinStep (own : Bytes) (held : Prop) (c : Call) (z : ThreadPin) (a : c.Ans)
    (z' : ThreadPin) : Prop where
  grows : Grows z.pin z'.pin
  found : z'.found = noteFound c a z.found
  told : PinTold own held c a z'.pin

/-- Tokens are cached with a pin that is known, and keys are unwrapped by whoever has it. -/
def PinPre (own : Bytes) (c : Call) (z : ThreadPin) : Prop :=
  match c with
  | .writeToken _ f => KeepsOpening f
  | .cacheToken token => z.found = true → z.pin = some token.pin
  | .ck (.cUnwrapKey _ _ _ _ _) => z.pin = some own
  | .stm _ => False
  | _ => True

/-- The calls that need no pin, and if the pin is known those that unwrap keys. -/
def PinCall (known : Prop) : Call → Prop
  | .cacheToken _ => False
  | .ck (.cUnwrapKey _ _ _ _ _) => known
  | c => ApimoduleCall c

/-- Whatever the thread knows, it knows at the end. -/
def KeepsPin (own : Bytes) (held : Prop) {α : Type} (p : Skc α) : Prop :=
  ∀ z, Sat (freeLogic (PinStep own held) (PinPre own) held) p (fun _ z' => Grows z.pin z'.pin) z

section Free

variable {own : Bytes} {held : Prop} {α β : Type} {p : Skc α} {f : α → Skc β} {z : ThreadPin}

theorem PinCall.pre {known : Prop} {c : Call} (hc : PinCall known c)
    (hz : known → z.pin = some own) : ¬c.Guarded ∧ PinPre own c z := by
  refine ⟨fun hguard => ?_, ?_⟩
  · cases c <;> first | exact hc | exact hguard
  · cases c with
    | ck d => cases d <;> first | trivial | exact hz hc
    | writeToken atoken f => exact hc
    | cacheToken token => exact hc.elim
    | stm d => exact hc.elim
    | _ => trivial

theorem sat_pinCall {known : Prop} (hz : known → z.pin = some own) (hp : p.Issues (PinCall known)) :
    Sat (freeLogic (PinStep own held) (PinPre own) held) p (fun _ z' => Grows z.pin z'.pin) z := by
  refine Sat.of_issues hp stable_seq (fun c hc z' hz' => ?_) (.refl z.pin)
  refine ⟨.inr (hc.pre fun h => hz' own (hz h)), fun a z'' hstep => ⟨trivial, ?_⟩⟩
  exact hz'.trans hstep.2.grows

namespace KeepsPin

theorem of_issues (hp : p.Issues (PinCall False)) : KeepsPin own held p := fun _ =>
  sat_pinCall False.elim hp

theorem bind (hp : KeepsPin own held p) (hf : ∀ a, KeepsPin own held (f a)) :
    KeepsPin own held (p >>= f) := fun z =>
  (hp z).bind fun a z' hz => (hf a z').mono fun _ _ hz' => hz.trans hz'

theorem pure (a : α) : KeepsPin own held (Pure.pure a : Skc α) := fun z =>
  sat_seq_pure.mpr (.refl z.pin)

theorem bindClosed : Prog.BindClosed fun _ (p : Skc _) => KeepsPin own held p := ⟨pure, bind⟩

theorem readToken (atoken : TokenRef) : KeepsPin own held (readToken atoken) :=
  .of_issues ⟨trivial, fun _ => Skc.issues_deref trivial⟩

/-- The lock that is held already is never taken. -/
theorem of_issuesUntil (hp : p.IssuesUntil (fun c : Call => c = .rwLockWriterLock) (PinCall False)) :
    KeepsPin own True p := by
  intro z
  refine Sat.of_issuesUntil hp stable_seq (fun c hc z' _ => ?_) (fun c hc z' hz' => ?_)
    (.refl z.pin)
  · exact ⟨.inl ⟨trivial, hc⟩, fun _ _ hstep => absurd hc hstep.1⟩
  · refine ⟨.inr (hc.pre False.elim), fun a z'' hstep => ⟨trivial, ?_⟩⟩
    exact hz'.trans hstep.2.grows

end KeepsPin

/-! ## Tokens -/

theorem SlotCall.pinCall (c : Call) (h : SlotCall c) : PinCall False c := by
  cases c with
  | ck d => cases d <;> first | exact trivial | exact h.elim
  | calloc n => trivial
  | _ => exact h.elim

theorem CreateCall.pinCall (c : Call) (h : CreateCall c) : PinCall False c := by
  cases c with
  | ck d => cases d <;> first | exact trivial | exact h.elim
  | _ => exact h.elim

theorem ObjectCall.pinCall (c : Call) (h : ObjectCall c) : PinCall False c := by
  cases c with
  | ck d => cases d <;> first | exact trivial | exact h.elim
  | _ => exact h.elim

theorem ChallengeCall.pinCall (c : Call) (h : ChallengeCall c) : PinCall False c := by
  cases c with
  | ck d => cases d <;> first | exact trivial | exact h.elim
  | writeToken atoken f => exact h
  | _ => first | exact trivial | exact h.elim

/-- A call that needs no pin. -/
theorem sat_ck_pins {d : CkCall} (hd : PinCall False (.ck d)) {k : d.Ans → Skc β}
    {Q : β → ThreadPin → Prop} (h : ∀ a z', PinStep own held (.ck d) z a z' →
      Sat (freeLogic (PinStep own held) (PinPre own) held) (k a) Q z') :
    Sat (freeLogic (PinStep own held) (PinPre own) held) (Skc.ck d >>= k) Q z :=
  sat_seq_call.mpr ⟨.inr (hd.pre False.elim), fun a z' hstep => h a z' hstep.2⟩

/-- A search does not find the token by itself. -/
theorem SlotCall.noteFound {c : Call} (hc : SlotCall c) (a : c.Ans) :
    noteFound c a false = false := by
  cases c with
  | ck d => cases d <;> first | rfl | exact hc.elim
  | calloc n => rfl
  | _ => exact hc.elim

/-- `apimodule_findtoken` begins a search. -/
theorem sat_findtoken_pins (uriData : ApimoduleUriData) :
    Sat (freeLogic (PinStep own held) (PinPre own) held) (apimoduleFindtoken uriData)
      (fun _ z' => Grows z.pin z'.pin ∧ z'.found = false) z := by
  refine sat_ck_pins (d := .cGetSlotListCount) trivial fun a z₁ h₁ => ?_
  have hissues := (Skc.issues_ck_bind.mp (apimoduleFindtoken_issues uriData)).2 a
  refine Sat.of_issues hissues stable_seq (fun c hc z₂ hz₂ => ?_) ⟨h₁.grows, h₁.found⟩
  obtain ⟨hgrows, hfound⟩ := hz₂
  refine ⟨.inr ((hc.pinCall c).pre False.elim), fun a z₃ hstep => ⟨trivial, ?_⟩⟩
  refine ⟨hgrows.trans hstep.2.grows, ?_⟩
  rw [hstep.2.found, hfound, hc.noteFound a]

/-- The pin of a token that is found is known. -/
def OpenedPin (z : ThreadPin) (r : CkRv × ApimoduleToken × Option GError) (z' : ThreadPin) : Prop :=
  Grows z.pin z'.pin ∧ (r.1 = ckrOk → z'.found = true → z'.pin = some r.2.1.pin)

/-- A token gets a session when its pin has let the user log in. -/
theorem sat_openToken_pins {uriData : ApimoduleUriData} {atoken : ApimoduleToken}
    {err : Option GError} (hpin : atoken.pin = uriData.pin) :
    Sat (freeLogic (PinStep own held) (PinPre own) held) (openToken uriData atoken err)
      (OpenedPin z) z := by
  have hfail : ∀ {rv : CkRv} {e : Option GError} {z₁ : ThreadPin}, Grows z.pin z₁.pin → rv ≠ ckrOk →
      Sat (freeLogic (PinStep own held) (PinPre own) held)
        (pure (rv, atoken, e) : Skc (CkRv × ApimoduleToken × Option GError)) (OpenedPin z) z₁ :=
    fun hz₁ hrv => sat_seq_pure.mpr ⟨hz₁, fun h => absurd h hrv⟩
  unfold openToken
  refine (sat_findtoken_pins uriData).bind ?_
  rintro ⟨rv, slot⟩ z₁ ⟨hz₁, hfound⟩
  dsimp only
  split
  · next hrv => exact hfail hz₁ hrv
  · cases slot with
    | none => exact sat_seq_pure.mpr ⟨hz₁, fun _ h => absurd (hfound.symm.trans h) nofun⟩
    | some slot =>
      refine sat_ck_pins (d := .cOpenSession slot) trivial fun a z₂ h₂ => ?_
      obtain ⟨rv, session⟩ := a
      have hz₂ : Grows z.pin z₂.pin := hz₁.trans h₂.grows
      dsimp only
      split
      · next hrv => exact hfail hz₂ hrv
      -- C_Logout keeps what is known of the pin, and C_Login with the token's own pin sets it
      · refine sat_ck_pins (d := .cLogout session) trivial fun _ z₃ h₃ => ?_
        refine sat_ck_pins (d := .cLogin session .user _) trivial fun rv z₄ h₄ => ?_
        have hz₄ : Grows z.pin z₄.pin := hz₂.trans (h₃.grows.trans h₄.grows)
        split
        · next hrv => exact hfail hz₄ hrv
        · next hrv =>
          refine sat_seq_pure.mpr ⟨hz₄, fun _ _ => ?_⟩
          show z₄.pin = some atoken.pin
          rw [hpin]
          exact h₄.told (not_not.mp hrv)

section

variable {cInit : Skc CkRv} {create : Bool}

theorem ensureToken_pins (hinit : create = true → KeepsPin own held cInit)
    (uriData : ApimoduleUriData) (err : Option GError) :
    KeepsPin own held (ensureToken cInit uriData create err) :=
  ensureToken_closed KeepsPin.bindClosed
    (.of_issues ((apimoduleFindtoken_issues uriData).mono SlotCall.pinCall))
    (.of_issues ((createtoken_issues uriData).mono CreateCall.pinCall))
    (fun _ => .of_issues ⟨trivial, fun _ => trivial⟩) (fun _ => .of_issues ⟨trivial, fun _ => trivial⟩)
    (.of_issues ⟨trivial, fun _ => trivial⟩) hinit

/-- A token that is cached has the pin that was tried. -/
theorem initApimoduleToken_pins (hinit : create = true → KeepsPin own held cInit)
    {uriData : ApimoduleUriData} (hpin : cstr uriData.pin = uriData.pin) (err : Option GError) :
    KeepsPin own held (initApimoduleToken cInit uriData create err) := by
  refine (ensureToken_pins hinit uriData err).bind ?_
  rintro ⟨rv, err⟩
  dsimp only
  split
  · exact .pure _
  · intro z
    refine (sat_openToken_pins hpin).bind ?_
    rintro ⟨rv, atoken, err⟩ z₁ ⟨hz₁, hopen⟩
    dsimp only
    split
    · exact sat_seq_pure.mpr hz₁
    · next hrv =>
      refine sat_seq_call.mpr ⟨.inr ⟨id, hopen (not_not.mp hrv)⟩, fun a z₂ hstep => ?_⟩
      exact sat_seq_pure.mpr (hz₁.trans hstep.2.grows)

theorem lookupOrInitToken_pins (hinit : create = true → KeepsPin own held cInit)
    {uriData : ApimoduleUriData} (hpin : cstr uriData.pin = uriData.pin) (err : Option GError) :
    KeepsPin own held (lookupOrInitToken cInit uriData create err) :=
  lookupOrInitToken_closed KeepsPin.bindClosed (.of_issues ⟨trivial, fun _ => trivial⟩)
    (initApimoduleToken_pins hinit hpin err)

end

/-- A token that is read has the pin. -/
theorem sat_readToken_pins {atoken : TokenRef} :
    Sat (freeLogic (PinStep own held) (PinPre own) held) (readToken atoken)
      (fun token z' => z'.pin = some token.pin) z := by
  refine sat_seq_call.mpr ⟨.inr ⟨id, trivial⟩, fun m z' hstep => ?_⟩
  show Sat _ (Skc.deref m.tokens[atoken]? _) _ z'
  cases htoken : m.tokens[atoken]? with
  | none => exact sat_seq_call.mpr ⟨.inr ⟨id, trivial⟩, fun a => nomatch a⟩
  | some token => exact sat_seq_pure.mpr (hstep.2.told.1 token (List.mem_of_getElem? htoken))

end Free

/-! ## Keys that are loaded with the lock -/

section Held

variable {own : Bytes} {z : ThreadPin} {L : Library} {cInit : Skc CkRv}

/-- A call made by someone who holds the lock. -/
theorem cOnDemandKeyLoad_pins (stm : StmOps) (uri : Bytes) :
    KeepsPin own True (cOnDemandKeyLoad L stm cInit uri) := by
  have hinit : false = true → KeepsPin own True cInit := nofun
  exact cOnDemandKeyLoad_closed KeepsPin.bindClosed
    (fun _ huri => lookupOrInitToken_pins hinit (apimoduleUriToUriData_pin huri) none)
    KeepsPin.readToken
    (fun _ _ => .of_issues ((apimoduleFindobject_issues _ _).mono ObjectCall.pinCall))
    fun _ _ => .of_issuesUntil (onDemandLoadkey_untilLock (fun _ => trivial) _ _ _ _ _)

theorem cInitialize_pins (L : Library) (fuel : Nat) : KeepsPin own True (cInitialize L fuel) := by
  refine InitializeClosed.cInitialize_closed (C := fun _ p => KeepsPin own True p)
    { KeepsPin.bindClosed with
      cInitialize := .of_issues ⟨trivial, fun _ => trivial⟩
      atomicIntAdd := .of_issues ⟨trivial, fun _ => trivial⟩
      readLines := fun _ => .of_issues ⟨trivial, fun _ => trivial⟩
      criticalError := fun _ => .of_issues (Skc.issues_deref trivial)
      outOfFuel := .of_issues ⟨trivial, fun a => a.elim⟩ } (fun _ uri => ?_) fuel
  exact cOnDemandKeyLoad_pins _ uri

theorem apimoduleGetChallenge_pins (hinit : KeepsPin own True cInit) {params : CkRsaPublicKeyParams}
    {details : KeyagentApimoduleGetChallengeDetails}
    (hpin : ∀ data, details.moduleData = some data → cstr data.pin = data.pin)
    (request : KeyagentSgxChallengeRequest) (err : Option GError) :
    KeepsPin own True (apimoduleGetChallenge params cInit details request err) :=
  apimoduleGetChallenge_closed KeepsPin.bindClosed
    (fun data hdata => lookupOrInitToken_pins (fun _ => hinit) (hpin data hdata) err)
    (fun _ => .of_issues ((sgxGetChallenge_issues _ _ _).mono ChallengeCall.pinCall))
    KeepsPin.readToken
    fun _ => .of_issues (Skc.issues_deref trivial)

theorem stmCreateChallenge_pins (hinit : KeepsPin own True cInit) (config : SgxStmConfig)
    {params : CkRsaPublicKeyParams} {details : KeyagentStmCreateChallengeDetails}
    (hpin : ∀ data, details.moduleData = some data → cstr data.pin = data.pin)
    (err : Option GError) :
    KeepsPin own True (SgxStm.stmCreateChallenge config (apimoduleOps params cInit) details err) :=
  stmCreateChallenge_closed KeepsPin.bindClosed (fun _ => .of_issues (Skc.issues_deref trivial))
    fun request => apimoduleGetChallenge_pins hinit hpin request err

/-- The token that is found with the lock has the thread's pin. -/
theorem sat_lookup_pins {uriData : ApimoduleUriData}
    (hlabel : cstr uriData.tokenLabel = Kms.kmsPrefixToken) :
    Sat (freeLogic (PinStep own True) (PinPre own) True) (lookupApimoduleToken uriData.tokenLabel)
      (fun atoken z' => Grows z.pin z'.pin ∧ (atoken ≠ none → z'.pin = some own)) z := by
  refine sat_seq_call.mpr ⟨.inr ⟨id, trivial⟩, fun m z' hstep => sat_seq_pure.mpr ?_⟩
  rw [hlabel]
  exact ⟨hstep.2.grows, hstep.2.told.2 trivial⟩

theorem sgxSetWrappingKey_pinCalls (details : KeyagentApimoduleSessionDetails)
    (err : Option GError) : (sgxSetWrappingKey details err).Issues (PinCall True) :=
  sgxSetWrappingKey_issues trivial (fun _ => trivial) (fun _ _ hf => hf) (fun _ _ _ _ => trivial)
    details err

theorem sgxLoadKey_pinCalls (details : KeyagentApimoduleLoadkeyDetails) (err : Option GError) :
    (sgxLoadKey details err).Issues (PinCall True) :=
  sgxLoadKey_issues trivial (fun _ => trivial) (fun _ _ _ _ _ _ => trivial) details err

theorem apimoduleSetWrappingKey_pins {details : KeyagentApimoduleSessionDetails}
    (hlabel : ∀ data, details.moduleData = some data → cstr data.tokenLabel = Kms.kmsPrefixToken)
    (err : Option GError) : KeepsPin own True (apimoduleSetWrappingKey details err) := by
  unfold apimoduleSetWrappingKey
  split
  · exact .pure _
  · next data hdata =>
    intro z
    refine (sat_lookup_pins (hlabel data hdata)).bind fun atoken z₁ hz₁ => ?_
    split
    · have hown : z₁.pin = some own := hz₁.2 nofun
      exact (sat_pinCall (fun _ => hown) (sgxSetWrappingKey_pinCalls details err)).mono
        fun _ _ hz₂ => hz₁.1.trans hz₂
    · exact sat_seq_pure.mpr hz₁.1

/-- A key that is loaded was loaded with the pin. -/
theorem sat_apimoduleLoadKey_pins {details : KeyagentApimoduleLoadkeyDetails}
    (hlabel : ∀ data, details.moduleData = some data → cstr data.tokenLabel = Kms.kmsPrefixToken)
    (err : Option GError) :
    Sat (freeLogic (PinStep own True) (PinPre own) True) (apimoduleLoadKey details err)
      (fun r z' => r.1 = true → z'.pin = some own) z := by
  unfold apimoduleLoadKey
  split
  · exact sat_seq_pure.mpr nofun
  · next data hdata =>
    refine (sat_lookup_pins (hlabel data hdata)).bind fun atoken z₁ hz₁ => ?_
    split
    · have hown : z₁.pin = some own := hz₁.2 nofun
      dsimp only
      by_cases htype : (if data.type = ckoData then keytypeClass details.type else data.type) ≠
          keytypeClass details.type
      · exact (if_pos htype).symm ▸ sat_seq_pure.mpr nofun
      · rw [if_neg htype]
        exact (sat_pinCall (fun _ => hown) (sgxLoadKey_pinCalls details err)).mono
          fun _ _ hz₂ _ => hz₂ own hown
    · exact sat_seq_pure.mpr nofun

end Held

section Load

variable {own url uri : Bytes} {L : Library} {cInit : Skc CkRv} {uriData : ApimoduleUriData}

theorem Call.Agent.pinPre {c : Call} {z : ThreadPin} (hc : c.Agent) : PinPre own c z := by
  cases c <;> trivial

/-- The thread with the lock, and what it knows of the pin. -/
abbrev pinView (own : Bytes) : AgentView (Keyagent × ThreadPin) :=
  lockedView (PinStep own True) (PinPre own) Call.Agent.pinPre

theorem sat_keepsPin {α : Type} {p : Skc α} (hp : KeepsPin own True p) {x : Keyagent × ThreadPin} :
    Sat (pinView own).logic p (fun _ y => True ∧ y.1 = x.1) x :=
  (sat_locked_of_free (fun _ => trivial) (hp x.2)).mono fun _ _ h => ⟨trivial, h.1⟩

/-- The SGX security module, for a call of the library. -/
theorem serving_pins (hinit : KeepsPin own True cInit) (hdata : callData L uri = some uriData) :
    Serving (pinView own) (L.stmOps cInit) (some uriData) (fun _ => True) where
  call _ _ _ _ := trivial
  put _ := trivial
  createChallenge {_ details err x} hmodule _ := by
    refine sat_keepsPin (stmCreateChallenge_pins hinit _ (fun data h => ?_) err)
    obtain rfl : uriData = data := Option.some.inj (hmodule.symm.trans h)
    exact apimoduleUriToUriData_pin hdata
  setSession {_ details err x} hmodule _ := by
    refine sat_keepsPin (apimoduleSetWrappingKey_pins (fun data h => ?_) err)
    obtain rfl : uriData = data := Option.some.inj (hmodule.symm.trans h)
    exact (apimoduleUriToUriData_spec hdata).1

/-- If the search has ended, the pin was the right one, or there is no key. -/
def PinLoaded (own url : Bytes) (found : Bool) (x : Keyagent × ThreadPin) : Prop :=
  found = true → x.2.pin = some own ∨ x.1.keyHash.lookup (hashKey url) = none

theorem searching_pins (hinit : KeepsPin own True cInit) (hdata : callData L uri = some uriData)
    (hnpm : ∀ npm ∈ L.npmHash, RegisterClean npm) :
    Searching (pinView own) (L.modules (L.stmOps cInit)) url (some uriData)
      (PinLoaded own url) where
  uuid _ _ := nofun
  request hx := hx
  keyLoad _ _ _ honly :=
    ((serving_pins hinit hdata).sat_npm _ trivial honly).mono fun _ _ h => ⟨nofun, h.2⟩
  loadkeyStm {npm requestId err x} hmem hregister _ honly := by
    have hclean : err = none := hnpm npm hmem url err hregister
    refine sat_loadkeyStm (Z := PinLoaded own url) (fun {e s} he _ => ?_) (fun h _ _ => .inr h)
      (fun {label details err s} hmodule _ => ?_) nofun honly
    · rw [hclean] at he
      simp at he
    · refine (sat_locked_of_free (fun _ => trivial)
        (sat_apimoduleLoadKey_pins (fun data h => ?_) err)).mono fun r y hy => ?_
      · obtain rfl : uriData = data := Option.some.inj (hmodule.symm.trans h)
        exact (apimoduleUriToUriData_spec hdata).1
      · exact ⟨fun hr => .inl (hy.2 hr), hy.1⟩

/-- **A load between lock and unlock.** If it succeeds, the pin is the right one. -/
theorem sat_loadkeyLocked_pins (hinit : KeepsPin own True cInit)
    (hdata : callData L uri = some uriData) (hnpm : ∀ npm ∈ L.npmHash, RegisterClean npm)
    {err : Option GError} {x : Keyagent × ThreadPin}
    (hhit : x.1.keyHash.lookup (hashKey url) ≠ none → x.2.pin = some own) (hreq : x.1.NoRequests) :
    Sat (pinView own).logic (loadkeyLocked (L.modules (L.stmOps cInit)) url (some uriData) err)
      (fun r y => y.1.NoRequests ∧ (r.1 = true → y.2.pin = some own)) x := by
  refine ((searching_pins hinit hdata hnpm).sat_loadkeyLocked (fun h _ => .inl (hhit h))
    (fun _ => nofun) hreq).mono fun r y hy => ⟨hy.2.1, fun hr => ?_⟩
  obtain ⟨⟨found, hfound, htrue⟩, -, hkey⟩ := hy
  exact (hfound (htrue hr)).resolve_right (hkey hr)

end Load

/-! ## Every interleaving -/

/-- Every cached token has the pin of the token. -/
structure PinsKnown (m : Apimodule) (w : TokenPin) : Prop where
  pins : ∀ token ∈ m.tokens, w = some token.pin
  refs : ∀ label atoken, m.apimoduleTokenHash.lookup label = some atoken → atoken < m.tokens.length

namespace PinsKnown

variable {m : Apimodule} {w w' : TokenPin}

theorem grows (h : PinsKnown m w) (hw : Grows w w') : PinsKnown m w' where
  pins token ht := hw _ (h.pins token ht)
  refs := h.refs

theorem mapToken (h : PinsKnown m w) {f : ApimoduleToken → ApimoduleToken} (hf : KeepsOpening f)
    (atoken : TokenRef) : PinsKnown (m.mapToken atoken f) w where
  pins token ht := by
    obtain ⟨r, hr⟩ := List.getElem?_of_mem ht
    simp only [Apimodule.mapToken, List.getElem?_modify] at hr
    obtain ⟨t, hget, rfl⟩ := Option.map_eq_some_iff.mp hr
    have ht : w = some t.pin := h.pins t (List.mem_of_getElem? hget)
    split
    · rw [(hf t).2]
      exact ht
    · exact ht
  refs label r hr := by
    simp only [Apimodule.mapToken, List.length_modify]
    exact h.refs label r hr

theorem addToken (h : PinsKnown m w) {token : ApimoduleToken} (hpin : w = some token.pin) :
    PinsKnown (m.addToken token) w where
  pins t ht := by
    rcases List.mem_append.mp ht with ht | ht
    · exact h.pins t ht
    · rw [List.mem_singleton.mp ht]
      exact hpin
  refs label r hr := by
    show r < (m.tokens ++ [token]).length
    rw [List.length_append, List.length_singleton]
    rw [Apimodule.addToken, GHashTable.lookup_insert_eq] at hr
    split at hr
    · rw [← Option.some.inj hr]
      exact Nat.lt_succ_self _
    · exact Nat.lt_succ_of_lt (h.refs label r hr)

end PinsKnown

/-- Tokens keep their pins, whoever holds the lock; a search is the thread's own. -/
def pinMutex : Mutex Nat (World W × PinSeen) where
  holder x := x.1.rwlock
  outside :=
    { rel := fun x y => y.1.keyagent = x.1.keyagent
      refl := fun _ => rfl
      trans := fun h h' => h'.trans h }
  always :=
    { rel := fun x y => (RequestsLocked x.1 → RequestsLocked y.1) ∧
        (PinsKnown x.1.apimodule x.2.pin → PinsKnown y.1.apimodule y.2.pin) ∧ Grows x.2.pin y.2.pin
      refl := fun _ => ⟨id, id, .refl _⟩
      trans := fun h h' => ⟨h'.1 ∘ h.1, h'.2.1 ∘ h.2.1, h.2.2.trans h'.2.2⟩ }
  own i :=
    { rel := fun x y => y.2.found i = x.2.found i
      refl := fun _ => rfl
      trans := fun h h' => h'.trans h }

/-- Whoever has a key unwrapped has the pin of the token. -/
def PinUsed (L : Library) (uri : Nat → Bytes) (i : Nat) (c : Call) (x : World W × PinSeen) : Prop :=
  match c with
  | .ck (.cUnwrapKey _ _ _ _ _) => ∀ pin ∈ callPin L (uri i), x.2.pin = some pin
  | _ => True

/-- What holds of the process, whoever runs. -/
structure PinsKept (x : World W × PinSeen) : Prop where
  requests : RequestsLocked x.1
  known : PinsKnown x.1.apimodule x.2.pin

theorem PinsKept.always {x y : World W × PinSeen} (h : PinsKept x)
    (hxy : pinMutex.always.rel x y) : PinsKept y := ⟨hxy.1 h.requests, hxy.2.1 h.known⟩

/-- What thread `i` knows is true. -/
structure SeesPin (i : Nat) (x : World W × PinSeen) (z : ThreadPin) : Prop where
  kept : PinsKept x
  pin : Grows z.pin x.2.pin
  found : x.2.found i = z.found

theorem PinsKept.sees {x : World W × PinSeen} (h : PinsKept x) (i : Nat) :
    SeesPin i x ⟨x.2.pin, x.2.found i⟩ := ⟨h, .refl _, rfl⟩

theorem SeesPin.others {i : Nat} {x y : World W × PinSeen} {z : ThreadPin} (h : SeesPin i x z)
    (hxy : (pinMutex.others i).rel x y) : SeesPin i y z :=
  ⟨h.kept.always hxy.1, h.pin.trans hxy.1.2.2, hxy.2.trans h.found⟩

section Threads

variable {E : Step skcSig W} {L : Library} {uri : Nat → Bytes} {i : Nat} {own : Bytes}
  {x y : World W × PinSeen} {z : ThreadPin} {c : Call} {a : c.Ans}

/-- The module does not change the pin. -/
theorem PinStore.grows {w : TokenPin} (h : PinStore c w a) : Grows w (notePin c a w) := by
  cases c with
  | ck d =>
    cases d with
    | cInitToken slot pin label =>
      intro p hp
      simp only [notePin]
      split
      · next hrv =>
        rcases h hrv with hw | hw
        · rw [hw] at hp
          simp at hp
        · rw [← hp, hw]
      · exact hp
    | _ => exact .refl _
  | _ => exact .refl _

theorem pinStep_apimodule (h : pinStep E L uri i c x a y) (hpre : PinPre own c z)
    (hx : SeesPin i x z) : PinsKnown y.1.apimodule x.2.pin := by
  obtain ⟨⟨hsys, -⟩, -, hchecked⟩ := h
  have hknown := hx.kept.known
  by_cases hc : c.WritesTokens
  · cases c with
    | writeToken atoken f =>
      rw [show y.1 = _ from hsys]
      exact hknown.mapToken hpre atoken
    | cacheToken token =>
      rw [show y.1 = _ from hsys.2]
      exact hknown.addToken (hx.pin _ (hpre (hx.found.symm.trans hchecked)))
    | atomicIntAdd =>
      rw [show y.1 = _ from hsys.2]
      exact ⟨hknown.pins, hknown.refs⟩
    | stm d => exact hpre.elim
    | _ => exact hc.elim
  · rw [sysStep_apimodule hsys hc]
    exact hknown

theorem pinStep_keeps (h : pinStep E L uri i c x a y) (hguard : ¬c.Guarded)
    (hpre : PinPre own c z) (hx : SeesPin i x z) : pinMutex.keeps i x y := by
  have hy : y.2 = PinSeen.note i c a x.2 := h.1.2
  have hgrows : Grows x.2.pin y.2.pin := by
    rw [hy]
    exact h.2.1.grows
  refine ⟨⟨fun hreq hfree => ?_, fun _ => (pinStep_apimodule h hpre hx).grows hgrows, hgrows⟩,
    fun j hij => ?_⟩
  · rw [threadStep_keyagent h hguard]
    exact hreq (by rw [← threadStep_rwlock h hguard]; exact hfree)
  · show y.2.found j = x.2.found j
    rw [hy]
    exact Function.update_of_ne hij.symm _ _

/-- What a call tells is true. -/
theorem pinStep_tells {held : Prop} (hown : callPin L (uri i) = some own)
    (h : pinStep E L uri i c x a y) (hheld : held → x.1.rwlock = some i)
    (hknown : PinsKnown x.1.apimodule x.2.pin) : PinTold own held c a y.2.pin := by
  obtain ⟨⟨hsys, hnote⟩, hstore, hchecked⟩ := h
  have hw : y.2.pin = notePin c a x.2.pin := by rw [show y.2 = _ from hnote]; rfl
  rw [hw]
  -- only a read of the token table and a user's C_Login say anything of the pin
  cases c with
  | getApimodule =>
    obtain ⟨rfl, -⟩ := hsys
    refine ⟨hknown.pins, fun hlocked hsome => ?_⟩
    obtain ⟨atoken, hatoken⟩ := Option.ne_none_iff_exists'.mp hsome
    have hlt := hknown.refs _ _ hatoken
    have htoken : x.1.apimodule.tokens[atoken]? = some x.1.apimodule.tokens[atoken] :=
      List.getElem?_eq_getElem hlt
    have hpin := hchecked (hheld hlocked) own hown atoken hatoken _ htoken
    rw [show notePin .getApimodule _ x.2.pin = x.2.pin from rfl,
      hknown.pins _ (List.getElem_mem hlt), hpin]
  | ck d =>
    cases d with
    | cLogin session userType pin =>
      cases userType with
      | so => trivial
      | user =>
        intro hrv
        unfold loginRv at hrv
        split at hrv
        · next halready => exact hchecked halready
        · exact hstore hrv
    | _ => trivial
  | _ => trivial

theorem sees_pins (E : Step skcSig W) (hown : callPin L (uri i) = some own) (held : Prop) :
    Sees E (fun i c _ => PinSeen.note i c)
      (fun i c x a => PinStore c x.2.pin a ∧ PinChecked L uri i c x a) pinMutex (PinUsed L uri) i held
      (PinStep own held) (PinPre own) (SeesPin i) where
  holder _ := rfl
  outside h := h
  unseen hc := PinSeen.note_guarded i hc _ _
  guarded {c _} hc := by cases c <;> trivial
  put {x k z} hlocked hx := by
    have hreq : RequestsLocked { x.1 with keyagent := k } := fun hfree =>
      absurd (hlocked.symm.trans hfree) nofun
    exact ⟨⟨⟨fun _ => hreq, id, .refl _⟩, fun _ _ => rfl⟩, ⟨hreq, hx.kept.known⟩, hx.pin, hx.found⟩
  other {c x z} hheld hguard hpre hx := by
    refine ⟨?_, fun a y h => ?_⟩
    · cases c with
      | ck d =>
        cases d with
        | cUnwrapKey session mechanism key wrapped template =>
          intro pin hpin
          obtain rfl : own = pin := Option.some.inj (hown.symm.trans hpin)
          exact hx.pin _ hpre
        | _ => trivial
      | _ => trivial
    · have hkeeps := pinStep_keeps h hguard hpre hx
      have hfound : y.2.found i = noteFound c a z.found := by
        rw [show y.2 = PinSeen.note i c a x.2 from h.1.2, ← hx.found]
        exact Function.update_self ..
      have htold := pinStep_tells hown h hheld hx.kept.known
      exact ⟨hkeeps, ⟨y.2.pin, y.2.found i⟩, ⟨hx.pin.trans hkeeps.1.2.2, hfound, htold⟩,
        (hx.kept.always hkeeps.1).sees i⟩

end Threads

section Runs

variable {E : Step skcSig W} {L : Library} {uri : Nat → Bytes} {fuel : Nat}

/-- A call that takes the lock succeeds with the pin of the token. -/
theorem takesLock_pins {i : Nat} {uriData : ApimoduleUriData}
    (hdata : callData L (uri i) = some uriData) (hnpm : ∀ npm ∈ L.npmHash, RegisterClean npm) :
    TakesLock E (fun i c _ => PinSeen.note i c)
      (fun i c x a => PinStore c x.2.pin a ∧ PinChecked L uri i c x a) pinMutex (PinUsed L uri) i
      (L.modules (L.stmOps (cInitialize L fuel))) uriData (uri i) PinsKept
      (fun rv x => rv = ckrOk → x.2.pin = some uriData.pin) where
  holder _ := rfl
  outside h := h
  known hx h := hx.always h
  result hx h hrv := h.2.2 _ (hx hrv)
  failure hrv hok := absurd hok hrv
  pre {c x} hc := by cases c <;> first | trivial | exact absurd rfl (hc _)
  acquire {x a x'} hx h := by
    have hown : callPin L (uri i) = some uriData.pin := by rw [callPin, hdata]; rfl
    have hw : x'.2 = x.2 :=
      h.1.2.trans (PinSeen.note_guarded i (c := .rwLockWriterLock) trivial a x.2)
    obtain ⟨⟨⟨hfree, hx'⟩, -⟩, -, hchecked⟩ := h
    have hlocked : x'.1.rwlock = some i := by rw [hx']
    have hkept : PinsKept x' := by
      refine ⟨fun hnone => absurd (hlocked.symm.trans hnone) nofun, ?_⟩
      rw [hx', hw]
      exact hx.known
    refine ⟨⟨⟨fun _ => hkept.requests, fun _ => hkept.known, ?_⟩, fun j _ => ?_⟩, fun err => ?_⟩
    · rw [hw]
      exact .refl _
    · show x'.2.found j = x.2.found j
      rw [hw]
    -- under the lock the load keeps to the pin of this call's own URI
    have hload : Sat (pinView uriData.pin).logic
        (loadkeyLocked (L.modules (L.stmOps (cInitialize L fuel))) (keyUrl uriData (uri i))
          (some uriData) err)
        (fun r y => y.1.NoRequests ∧ (r.1 = true → y.2.pin = some uriData.pin))
        (x'.1.keyagent, ⟨x'.2.pin, x'.2.found i⟩) := by
      rw [hx', hw]
      exact sat_loadkeyLocked_pins (cInitialize_pins L fuel) hdata hnpm (hchecked uriData hdata)
        (hx.requests hfree)
    refine ((sees_pins E hown True).sat_locked (fun hx h _ => hx.others h) hload hlocked
      (hkept.sees i)).mono fun r y hy => ?_
    obtain ⟨hheld, z, hz, hreq, hpin⟩ := hy
    exact ⟨hheld, hreq, fun hr _ => hz.pin _ (hpin hr)⟩
  release {x a x'} hreq h := by
    have hw : x'.2 = x.2 :=
      h.1.2.trans (PinSeen.note_guarded i (c := .rwLockWriterUnlock) trivial a x.2)
    have hx' : x'.1 = { x.1 with rwlock := none } := h.1.1
    refine ⟨⟨fun _ _ => ?_, fun hknown => ?_, ?_⟩, fun j _ => ?_⟩
    · rw [hx']
      exact hreq
    · rw [hx', hw]
      exact hknown
    · rw [hw]
      exact .refl _
    · show x'.2.found j = x.2.found j
      rw [hw]

/-- What a call that succeeds is known to have. -/
def PinOk (L : Library) (uri : Bytes) (rv : CkRv) (x : World W × PinSeen) : Prop :=
  rv = ckrOk → ∀ pin ∈ callPin L uri, x.2.pin = some pin

theorem sat_onDemand_pins {s : World W} {w : PinSeen} (hfree : s.rwlock = none)
    (hreq : s.keyagent.NoRequests) (hknown : PinsKnown s.apimodule w.pin)
    (hnpm : ∀ npm ∈ L.npmHash, RegisterClean npm) (i : Nat) :
    Sat (pinMutex.logic i (pinStep E L uri) (PinUsed L uri)) (onDemand L fuel (uri i))
      (PinOk L (uri i)) (s, w) := by
  have hs : SeesPin i (s, w) ⟨w.pin, w.found i⟩ := PinsKept.sees ⟨fun _ => hreq, hknown⟩ i
  have hne : (s, w).1.rwlock ≠ some i := by rw [show (s, w).1.rwlock = none from hfree]; nofun
  unfold onDemand cOnDemandKeyLoad
  split
  · exact Sat.pure fun _ _ hrv => absurd hrv (by decide)
  · next uriData huri =>
    have hdata : callData L (uri i) = some uriData := huri
    have hown : callPin L (uri i) = some uriData.pin := by rw [callPin, hdata]; rfl
    -- what the call does before it takes the lock, and what it does from there on
    have hfree : ∀ {α : Type} {p : Skc α} {Q : α → ThreadPin → Prop} {x z},
        Sat (freeLogic (PinStep uriData.pin False) (PinPre uriData.pin) False) p Q z →
        x.1.rwlock ≠ some i → SeesPin i x z →
        Sat (pinMutex.logic i (pinStep E L uri) (PinUsed L uri)) p
          (fun a y => y.1.rwlock ≠ some i ∧ ∃ z, SeesPin i y z ∧ Q a z) x := fun hp hne hx =>
      (sees_pins E hown False).sat_unlocked SeesPin.others
        (fun hguard _ _ _ h => threadStep_keyagent h hguard) hp hne hx
    have hload : ∀ {x z}, x.1.rwlock ≠ some i → SeesPin i x z → ∀ err,
        Sat (pinMutex.logic i (pinStep E L uri) (PinUsed L uri))
          (onDemandLoadkey L (L.stmOps (cInitialize L fuel)) uriData (uri i) err)
          (PinOk L (uri i)) x := by
      intro x z hne hx err
      refine ((takesLock_pins hdata hnpm).sat_onDemandLoadkey hne hx.kept err).mono ?_
      intro rv y hy hrv pin hpin
      obtain rfl : uriData.pin = pin := Option.some.inj (hown.symm.trans hpin)
      exact hy hrv
    have hinit : false = true → KeepsPin uriData.pin False (cInitialize L fuel) := nofun
    refine (hfree (lookupOrInitToken_pins hinit (apimoduleUriToUriData_pin huri) none _) hne
      hs).bind ?_
    rintro ⟨atoken, err⟩ x ⟨hne, z, hz, -⟩
    cases atoken with
    | none => exact hload hne hz err
    | some atoken =>
      refine (hfree sat_readToken_pins hne hz).bind ?_
      rintro token x ⟨hne, z, hz, htoken⟩
      split
      · exact Sat.pure fun _ _ hrv => absurd hrv (by decide)
      · next hpin =>
        have hzpin : z.pin = some uriData.pin := by
          rw [htoken, not_not.mp hpin, apimoduleUriToUriData_pin huri]
        refine (hfree (KeepsPin.of_issues
          ((apimoduleFindobject_issues _ _).mono ObjectCall.pinCall) z) hne hz).bind ?_
        rintro ⟨rv, isPresent⟩ x ⟨hne, z', hz', hgrows⟩
        have hx : x.2.pin = some uriData.pin := hz'.pin _ (hgrows _ hzpin)
        dsimp only
        split
        · refine Sat.pure fun y hy _ pin hown' => ?_
          obtain rfl : uriData.pin = pin := Option.some.inj (hown.symm.trans hown')
          exact hy.1.1.2.2 _ hx
        · exact hload hne hz' err

/--
**The pin of the token.** Whatever the interleaving, if every step meets the condition: a call that
succeeds has the pin of the token in its URI, and so has one that has a key unwrapped.
-/
theorem pins_respected {s : World W} {w : PinSeen}
    {q : Pool Nat skcSig (World W × PinSeen) CkRv} (hfree : s.rwlock = none)
    (hreq : s.keyagent.NoRequests) (htokens : s.apimodule.tokens = [])
    (hhash : s.apimodule.apimoduleTokenHash = ∅) (hnpm : ∀ npm ∈ L.npmHash, RegisterClean npm)
    (hr : Pool.Reach (pinStep E L uri) (loadThreads L fuel uri (s, w)) q) (i : Nat) (pin : Bytes)
    (hpin : callPin L (uri i) = some pin) :
    (q.result i = some ckrOk → q.state.2.pin = some pin) ∧
    ∀ session mechanism key wrapped template k,
      q.threads i = .call (.ck (.cUnwrapKey session mechanism key wrapped template)) k →
      q.state.2.pin = some pin := by
  have hknown : PinsKnown s.apimodule w.pin := by
    refine ⟨fun token ht => ?_, fun label r hr => ?_⟩
    · rw [htokens] at ht
      simp at ht
    · rw [hhash] at hr
      simp at hr
  have hsat := pinMutex.sat_reach (fun i => sat_onDemand_pins hfree hreq hknown hnpm i) hr i
  refine ⟨fun hrv => Pool.result_of_sat hsat hrv rfl pin hpin, fun _ _ _ _ _ k hk => ?_⟩
  exact Pool.pre_of_sat hsat hk pin hpin

end Runs

/-! ## Two pins -/

instance (c : Call) (w : TokenPin) (a : c.Ans) : Decidable (PinStore c w a) := by
  casesm* Call, CkCall, CkUser
  case ck.cInitToken slot pin label =>
    exact inferInstanceAs (Decidable (a = ckrOk → w = none ∨ w = some pin))
  case ck.cLogin.user session pin => exact inferInstanceAs (Decidable (a = ckrOk → w = some pin))
  all_goals exact isTrue trivial

instance (L : Library) (uri : Nat → Bytes) (i : Nat) (c : Call) (x : World W × PinSeen)
    (a : c.Ans) : Decidable (PinChecked L uri i c x a) := by
  casesm* Call, CkCall, CkUser
  case getApimodule =>
    exact inferInstanceAs (Decidable (x.1.rwlock = some i → ∀ pin ∈ callPin L (uri i),
      ∀ atoken ∈ a.apimoduleTokenHash.lookup Kms.kmsPrefixToken, ∀ token ∈ a.tokens[atoken]?,
      token.pin = pin))
  case rwLockWriterLock =>
    exact inferInstanceAs (Decidable (∀ uriData ∈ callData L (uri i),
      x.1.keyagent.keyHash.lookup (hashKey (keyUrl uriData (uri i))) ≠ none →
      x.2.pin = some uriData.pin))
  case ck.cLogin.user session pin =>
    exact inferInstanceAs (Decidable (a = ckrUserAlreadyLoggedIn → x.2.pin = some pin))
  case cacheToken => exact inferInstanceAs (Decidable (x.2.found i = true))
  all_goals exact isTrue trivial

/-- A library that finds the pin in the last four bytes of a URI. -/
def pinLibrary : Library :=
  { kmsLibrary with
    p11KitUriParse := fun uri => some
      { tokenLabel := lit "KMS", label := some (lit "key"), id := some (List.replicate 36 97),
        objectClass := some ckoPrivateKey, pinValue := some (uri.drop (uri.length - 4)) } }

theorem registerClean_pinLibrary : ∀ npm ∈ pinLibrary.npmHash, RegisterClean npm :=
  registerClean_kmsLibrary

/-- Two threads ask for one key with different pins. -/
def twoPins (i : Nat) : Bytes :=
  if i = 0 then lit "pkcs11:token=KMS;object=key;type=private?pin-value=1234"
  else lit "pkcs11:token=KMS;object=key;type=private?pin-value=9999"

/-- The second thread looks for the token when it is there. -/
theorem pins_respected_late : ∃ q : Pool Nat skcSig (World TokenStore × PinSeen) CkRv,
    Pool.Reach (pinStep tokenStoreStep pinLibrary twoPins)
      (loadThreads pinLibrary 2 twoPins (tokenStoreWorld none, .start none)) q ∧
    q.result 0 = some ckrOk ∧ q.result 1 = some ckrGeneralError ∧
    q.state.2.pin = some (lit "1234") := by
  obtain ⟨q, hq, hv⟩ := Option.map_eq_some_iff.mp (show
    (Pool.schedule (fun i => restricting (observing (S := skcSig)
        (sysHandler tokenStoreHandler i) fun c _ => PinSeen.note i c)
        fun c x a => PinStore c x.2.pin a ∧ PinChecked pinLibrary twoPins i c x a)
      [(0, 1000), (1, 1000)]
      (loadThreads pinLibrary 2 twoPins (tokenStoreWorld none, .start none))).map
      (fun q => (q.result 0, q.result 1)) = some (some ckrOk, some ckrGeneralError)
    by decide +kernel)
  obtain ⟨h₀, h₁⟩ := Prod.mk.inj hv
  have hreach := Pool.schedule_reach (R := pinStep tokenStoreStep pinLibrary twoPins)
    (fun _ => restricting_step (observing_step sysHandler_answers)) hq
  have hpin : callPin pinLibrary (twoPins 0) = some (lit "1234") := by decide +kernel
  exact ⟨q, hreach, h₀, h₁, (pins_respected rfl (noRequests_tokenStoreWorld _) rfl rfl
    registerClean_pinLibrary hreach 0 _ hpin).1 h₀⟩

/-- The second thread looks for the token before the first creates it. -/
theorem not_pins_respected : ¬∀ (W : Type) (L : Library) (fuel : Nat) (E : Step skcSig W)
    (uri : Nat → Bytes) (s : World W) (w : PinSeen)
    (q : Pool Nat skcSig (World W × PinSeen) CkRv), s.rwlock = none → s.keyagent.NoRequests →
    s.apimodule.tokens = [] → s.apimodule.apimoduleTokenHash = ∅ →
    (∀ npm ∈ L.npmHash, RegisterClean npm) →
    Pool.Reach (pinStoreStep E) (loadThreads L fuel uri (s, w)) q → ∀ i pin,
    callPin L (uri i) = some pin → q.result i = some ckrOk → q.state.2.pin = some pin := by
  intro h
  obtain ⟨q, hq, hv⟩ := Option.map_eq_some_iff.mp (show
    (Pool.schedule (fun i => restricting (observing (S := skcSig)
        (sysHandler tokenStoreHandler i) fun c _ => PinSeen.note i c) fun c x => PinStore c x.2.pin)
      [(0, 1), (1, 1), (0, 1000), (1, 1000)]
      (loadThreads pinLibrary 2 twoPins (tokenStoreWorld none, .start none))).map
      (fun q => (q.result 1, q.state.2.pin)) = some (some ckrOk, some (lit "1234"))
    by decide +kernel)
  obtain ⟨h₁, hpin⟩ := Prod.mk.inj hv
  have hreach := Pool.schedule_reach (R := pinStoreStep tokenStoreStep)
    (fun _ => restricting_step (observing_step sysHandler_answers)) hq
  have hown : callPin pinLibrary (twoPins 1) = some (lit "9999") := by decide +kernel
  have hpin' := h TokenStore pinLibrary 2 tokenStoreStep twoPins _ (.start none) q rfl
    (noRequests_tokenStoreWorld _) rfl rfl registerClean_pinLibrary hreach 1 _ hown h₁
  exact absurd (hpin.symm.trans hpin') (by decide)

end SkcLibrary
