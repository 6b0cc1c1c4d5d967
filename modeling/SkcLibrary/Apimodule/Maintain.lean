import SkcLibrary.Apimodule.Rules
import SkcLibrary.Keyagent.Maintain

/-!
# What the library keeps

An assertion about the PKCS#11 module or the lock, and the calls that keep it: from these, what the
functions of the api module keep, up to `C_OnDemand_KeyLoad`. Four calls stand apart, `C_InitToken`,
`C_Initialize`, the counter of `C_Initialize` and the lock.

* `CreatesTokens` — what is asked of the creation of a token
* `maintains_onDemand` — a load, from an assertion without the lock and one with it
-/

namespace SkcLibrary

open Interaction

variable {σ α : Type} {K : Logic skcSig σ} {I J W : σ → Prop} {cInit : Skc CkRv}

/-! ## Plain calls -/

/-- All calls but those that stand apart, and those of security modules that are not modelled. -/
def PlainCall : Call → Prop
  | .ck (.cInitToken _ _ _) => False
  | .ck .cInitialize => False
  | .atomicIntAdd => False
  | .rwLockWriterLock => False
  | .rwLockWriterUnlock => False
  | .stm _ => False
  | .outOfFuel => False
  | _ => True

theorem Call.Agent.plain (c : Call) (h : c.Agent) : PlainCall c := by
  cases c <;> first | exact trivial | exact h.elim

theorem TokenCall.plain (c : Call) (h : TokenCall c) : PlainCall c := by
  cases c with
  | ck d => cases d <;> first | exact trivial | exact h.elim
  | _ => first | exact trivial | exact h.elim

theorem SlotCall.plain (c : Call) (h : SlotCall c) : PlainCall c :=
  TokenCall.plain c (SlotCall.tokenCall c h)

theorem ObjectCall.plain (c : Call) (h : ObjectCall c) : PlainCall c := by
  cases c with
  | ck d => cases d <;> first | exact trivial | exact h.elim
  | _ => exact h.elim

theorem ChallengeCall.plain (c : Call) (h : ChallengeCall c) : PlainCall c := by
  cases c with
  | ck d => cases d <;> first | exact trivial | exact h.elim
  | _ => first | exact trivial | exact h.elim

/-- The plain calls keep `I`. -/
structure KeptByCalls (K : Logic skcSig σ) (I : σ → Prop) : Prop where
  stable : Stable K I
  call : ∀ c : Call, PlainCall c → K.Triple I c fun _ => I

namespace KeptByCalls

variable (h : KeptByCalls K I)

include h

theorem plain {P : Call → Prop} {p : Skc α} (hP : ∀ c, P c → PlainCall c) (hp : p.Issues P) :
    Maintains K I p := .of_issues h.stable h.call (hp.mono hP)

theorem pure (a : α) : Maintains K I (Pure.pure a : Skc α) := .pure h.stable a

theorem lift {c : Call} (hc : PlainCall c) : Maintains K I (Prog.lift (S := skcSig) c) :=
  h.plain (P := PlainCall) (fun _ h => h) ⟨hc, fun _ => trivial⟩

theorem ck {c : CkCall} (hc : PlainCall (.ck c)) : Maintains K I (Skc.ck c) := h.lift hc

theorem deref (p : Option α) (reason : String) : Maintains K I (Skc.deref p reason) :=
  h.plain (P := PlainCall) (fun _ h => h) (Skc.issues_deref trivial)

theorem readToken (atoken : TokenRef) : Maintains K I (readToken atoken) :=
  h.plain TokenCall.plain (readToken_issues atoken)

theorem bindClosed : Prog.BindClosed fun _ (p : Skc _) => Maintains K I p :=
  Maintains.bindClosed h.stable

end KeptByCalls

/-! ## Tokens -/

/--
What keeps `I` while tokens are created. `C_Initialize` is called when a token has been created, and `W`
is what is known then.
-/
structure CreatesTokens (K : Logic skcSig σ) (I W : σ → Prop) (cInit : Skc CkRv) : Prop where
  calls : KeptByCalls K I
  ready : KeptByCalls K fun s => I s ∧ W s
  createtoken : ∀ uriData s, I s →
    Sat K (apimoduleCreatetoken uriData) (fun r t => I t ∧ (r.1 = ckrOk → W t)) s
  cInitialize : ∀ s, I s → W s → Sat K cInit (fun _ t => I t) s

namespace CreatesTokens

variable (h : CreatesTokens K I W cInit)

include h

theorem ensureToken (uriData : ApimoduleUriData) (create : Bool) (err : Option GError) :
    Maintains K I (ensureToken cInit uriData create err) := by
  refine (h.calls.plain SlotCall.plain (apimoduleFindtoken_issues uriData)).bind fun a => ?_
  obtain ⟨rv, slot⟩ := a
  dsimp only
  split
  · exact h.calls.pure _
  · split
    · exact h.calls.pure _
    · split
      · exact h.calls.pure _
      · intro s hs
        refine (h.createtoken uriData s hs).bind ?_
        rintro ⟨rv, session⟩ t ⟨ht, hready⟩
        dsimp only
        split
        · exact h.calls.pure _ t ht
        · next hrv =>
          refine (h.ready.ck (c := .cLogout session) trivial t ⟨ht, hready (not_not.mp hrv)⟩).bind ?_
          refine fun _ u hu => (h.ready.ck (c := .cCloseSession session) trivial u hu).bind ?_
          refine fun _ v hv => (h.ready.ck (c := .cFinalize) trivial v hv).bind ?_
          exact fun _ w hw => (h.cInitialize w hw.1 hw.2).bind fun _ => h.calls.pure _

theorem initApimoduleToken (uriData : ApimoduleUriData) (create : Bool) (err : Option GError) :
    Maintains K I (initApimoduleToken cInit uriData create err) :=
  initApimoduleToken_closed h.calls.bindClosed (h.ensureToken uriData create err)
    (fun _ _ => h.calls.plain TokenCall.plain (openToken_issues _ _ _))
    fun _ => h.calls.plain (P := PlainCall) (fun _ h => h) ⟨trivial, fun _ => trivial⟩

theorem lookupOrInitToken (uriData : ApimoduleUriData) (create : Bool) (err : Option GError) :
    Maintains K I (lookupOrInitToken cInit uriData create err) :=
  lookupOrInitToken_closed h.calls.bindClosed
    (h.calls.plain TokenCall.plain (lookupApimoduleToken_issues _))
    (h.initApimoduleToken uriData create err)

theorem getChallenge {params : CkRsaPublicKeyParams} (details : KeyagentApimoduleGetChallengeDetails)
    (request : KeyagentSgxChallengeRequest) (err : Option GError) :
    Maintains K I (apimoduleGetChallenge params cInit details request err) :=
  apimoduleGetChallenge_closed h.calls.bindClosed (fun _ _ => h.lookupOrInitToken _ _ _)
    (fun _ => h.calls.plain ChallengeCall.plain (sgxGetChallenge_issues _ _ _)) h.calls.readToken
    fun _ => h.calls.deref _ _

/-- **The security module of the library.** -/
theorem stmOps (L : Library) : KeptBy K I (L.stmOps cInit) where
  stable := h.calls.stable
  agent c hc := h.calls.call c hc.plain
  createChallenge _ _ err :=
    stmCreateChallenge_closed h.calls.bindClosed (fun _ => h.calls.deref _ _)
      fun request => h.getChallenge _ request err
  setSession _ _ _ :=
    h.calls.plain (P := PlainCall) (fun _ h => h) (apimoduleSetWrappingKey_issues trivial
      (fun _ => trivial) (fun _ _ _ => trivial) (fun _ _ _ _ => trivial) _ _)
  loadKey _ _ _ :=
    h.calls.plain (P := PlainCall) (fun _ h => h) (apimoduleLoadKey_issues trivial
      (fun _ => trivial) (fun _ _ _ _ _ _ => trivial) _ _)

end CreatesTokens

/-! ## Loads -/

section

variable (hI : KeptByCalls K I) (hJ : CreatesTokens K J W cInit)
  (hlock : K.Triple I .rwLockWriterLock fun _ => J)
  (hunlock : K.Triple J .rwLockWriterUnlock fun _ => I)

include hI hJ hlock hunlock

theorem maintains_loadkeyWithModuledata (L : Library) (url : Bytes)
    (moduleData : Option ApimoduleUriData) (err : Option GError) :
    Maintains K I (keyagentLoadkeyWithModuledata (L.modules (L.stmOps cInit)) url moduleData err) := by
  refine (hI.deref _ _).bind fun missing => ?_
  split
  · exact hI.pure _
  · refine fun s hs => Sat.call hI.stable hlock (fun _ t ht => ?_) hs
    refine (((hJ.stmOps L).loadkeyLocked (M := L.modules _) url moduleData err) t ht).bind ?_
    exact fun r u hu => Sat.call hJ.calls.stable hunlock (fun _ v hv => hI.pure r v hv) hu

theorem maintains_onDemandLoadkey (L : Library) (uriData : ApimoduleUriData) (uri : Bytes)
    (err : Option GError) :
    Maintains K I (onDemandLoadkey L (L.stmOps cInit) uriData uri err) :=
  onDemandLoadkey_closed hI.bindClosed
    (maintains_loadkeyWithModuledata hI hJ hlock hunlock L _ _ err) fun _ => hI.deref _ _

/-- **`C_OnDemand_KeyLoad`**, from what holds without the lock and what holds with it. -/
theorem maintains_onDemand (L : Library) (uri : Bytes) :
    Maintains K I (cOnDemandKeyLoad L (L.stmOps cInit) cInit uri) :=
  cOnDemandKeyLoad_closed hI.bindClosed
    (fun _ _ => hI.plain TokenCall.plain (lookupOrInitToken_issues _ _ _)) hI.readToken
    (fun _ _ => hI.plain ObjectCall.plain (apimoduleFindobject_issues _ _))
    fun _ _ => maintains_onDemandLoadkey hI hJ hlock hunlock L _ _ _

end

/-- The preloading of keys, from what a load keeps. -/
theorem KeptByCalls.preloadKeys (h : KeptByCalls K I) {load : Bytes → Skc CkRv}
    (hload : ∀ uri, Maintains K I (load uri)) (preLoadKeyfile : Bytes) :
    Maintains K I (apimodulePreloadKeys preLoadKeyfile load) :=
  preloadKeys_closed h.bindClosed (fun _ => h.lift trivial) hload preLoadKeyfile

end SkcLibrary
