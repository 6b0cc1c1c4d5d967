import SkcLibrary.Keyagent.Maintain

/-!
# What a load consists of

A property of programs that passes to sequences goes from what a load calls to the load: from the calls on
the agent's variables, the operations of the security module, and the programs of the NPMs.

* `AgentClosed.loadkeyLocked` — the part of a load between lock and unlock
-/

namespace SkcLibrary

open Interaction

/-- The calls that the agent makes for itself. -/
def Call.Own : Call → Prop
  | .getKeyagent => True
  | .modifyKeyagent _ => True
  | .foreachSession => True
  | .insertRow _ => True
  | .fault _ => True
  | _ => False

/-- The agent's own calls have the property, and the operations of the security modules do. -/
structure AgentClosed (C : (α : Type) → Skc α → Prop) (stm : StmOps) : Prop
    extends Prog.BindClosed C where
  own : ∀ {α : Type} {p : Skc α}, p.Issues Call.Own → C α p
  generateUuid : C Bytes (Prog.lift (S := skcSig) .generateUuid)
  createChallenge : ∀ label details err, C _ (stm.createChallenge label details err)
  setSession : ∀ label details err, C _ (stm.setSession label details err)
  loadKey : ∀ label details err, C _ (stm.loadKey label details err)

theorem AgentView.CacheCall.own {R : Keyagent → Keyagent → Prop} (c : Call)
    (h : AgentView.CacheCall R c) : c.Own := by
  cases c <;> first | exact trivial | exact h.elim

namespace AgentClosed

/-! ## Functions that call nothing else -/

theorem keyagent_own {α : Type} {f : Keyagent → Skc α} (h : ∀ k, (f k).Issues Call.Own) :
    (Skc.keyagent >>= f).Issues Call.Own := ⟨trivial, h⟩

theorem modifyKeyagent_own (f : Keyagent → Keyagent) : (Skc.modifyKeyagent f).Issues Call.Own :=
  ⟨trivial, fun _ => trivial⟩

theorem keyagentKeyLookup_own (url : Bytes) : (keyagentKeyLookup url).Issues Call.Own :=
  keyagent_own fun _ => trivial

theorem keyagentSessionLookup_own (sessionId : Bytes) :
    (keyagentSessionLookup sessionId).Issues Call.Own := keyagent_own fun _ => trivial

theorem keyagentStmGetByName_own (name : Bytes) : (keyagentStmGetByName name).Issues Call.Own :=
  keyagent_own fun _ => trivial

theorem requestLookup_own (requestId : Bytes) : (requestLookup requestId).Issues Call.Own :=
  keyagent_own fun _ => trivial

theorem sessionUpdateOrInsert_own (session : Option SessionRef)
    (label sessionId swk swkType : Bytes) (cacheId : Int) :
    (sessionUpdateOrInsert session label sessionId swk swkType cacheId).Issues Call.Own := by
  unfold sessionUpdateOrInsert
  split
  · refine keyagent_own fun k => (Skc.issues_deref trivial).bind fun data => ?_
    split
    · exact (modifyKeyagent_own _).bind fun _ => trivial
    · trivial
  · exact keyagent_own fun k => (modifyKeyagent_own _).bind fun _ => trivial

theorem sessionCreateCache_own (session : SessionRef) (cacheId : Int) (error : Option GError) :
    (sessionCreateCache session cacheId error).Issues Call.Own := by
  unfold sessionCreateCache
  split
  · rw [map_eq_pure_bind]
    refine Prog.Issues.bind ?_ fun _ => trivial
    exact (AgentView.keyagentCacheSession_issues session error).mono AgentView.CacheCall.own
  · trivial

theorem keyCreateCache_own (url : Bytes) (cacheId : Int) (error : Option GError) :
    (keyCreateCache url cacheId error).Issues Call.Own := by
  unfold keyCreateCache
  split
  · rw [map_eq_pure_bind]
    refine Prog.Issues.bind ?_ fun _ => trivial
    exact (AgentView.keyagentCacheKey_issues url error).mono AgentView.CacheCall.own
  · trivial

theorem keyCreate_own (url : Bytes) (type : KeyagentKeytype) (attrs : Option KAttributes)
    (sessionId : Option Bytes) (error : Option GError) :
    (keyagentKeyCreate url type attrs sessionId error).Issues Call.Own := by
  refine (keyagentKeyLookup_own url).bind fun key => ?_
  split
  · exact (keyCreateCache_own _ _ _).bind fun _ => trivial
  · split
    · split
      · trivial
      · refine (keyagentSessionLookup_own _).bind fun session => ?_
        split
        · trivial
        · refine (modifyKeyagent_own _).bind fun _ => ?_
          exact (keyCreateCache_own _ _ _).bind fun _ => trivial
    · trivial

theorem sessionReplaceCurrent_own (current : Option SessionRef) (sessionId : Bytes) :
    (sessionReplaceCurrent current sessionId).Issues Call.Own :=
  (AgentView.sessionReplaceCurrent_issues removes_true (fun _ _ => trivial) current sessionId).mono
    AgentView.CacheCall.own

/-! ## Functions that call a security module -/

section

variable {C : (α : Type) → Skc α → Prop} {stm : StmOps} (h : AgentClosed C stm)

include h

theorem deref {α : Type} (p : Option α) (reason : String) : C α (Skc.deref p reason) :=
  h.own (Skc.issues_deref trivial)

theorem keyagent : C _ Skc.keyagent := h.own (keyagent_own fun _ => trivial)

theorem stmSetSession (requestId : Bytes) (session : SessionRef) (error : Option GError) :
    C _ (keyagentStmSetSession stm requestId session error) := by
  refine h.bind h.keyagent fun k => h.bind (h.deref _ _) fun data => ?_
  refine h.bind (h.own (keyagentStmGetByName_own _)) fun lstm => ?_
  refine h.bind (h.own (requestLookup_own _)) fun request => ?_
  split
  · refine h.bind (h.own (modifyKeyagent_own _)) fun _ => ?_
    refine h.bind (h.own (modifyKeyagent_own _)) fun _ => ?_
    exact h.setSession _ _ _
  · exact h.pure _

theorem stmGetChallenge (requestId nonce name : Bytes) (error : Option GError) :
    C _ (keyagentStmGetChallenge stm requestId nonce name error) := by
  refine h.bind (h.own (keyagentStmGetByName_own _)) fun lstm => ?_
  refine h.bind (h.own (requestLookup_own _)) fun request => ?_
  split
  · exact h.bind (h.own (modifyKeyagent_own _)) fun _ => h.createChallenge _ _ _
  · exact h.pure _

theorem stmLoadKey (requestId : Bytes) (key : KeyagentKeyReal) (error : Option GError) :
    C _ (keyagentStmLoadKey stm requestId key error) := by
  unfold keyagentStmLoadKey
  split
  · exact h.pure _
  · refine h.bind h.keyagent fun k => h.bind (h.deref _ _) fun data => ?_
    refine h.bind (h.own (keyagentStmGetByName_own _)) fun lstm => ?_
    refine h.bind (h.own (requestLookup_own _)) fun request => ?_
    split
    · refine h.bind (h.deref _ _) fun keydata => h.bind (h.deref _ _) fun parts => ?_
      split
      · exact h.pure _
      · exact h.bind (h.deref _ _) fun current => h.loadKey _ _ _
    · exact h.pure _

theorem sessionCreate (requestId label sessionId swk swkType : Bytes) (error : Option GError) :
    C _ (keyagentSessionCreateUncached stm requestId label sessionId swk swkType error) := by
  refine h.bind (h.own (keyagentSessionLookup_own _)) fun session => ?_
  split
  · exact h.pure _
  · refine h.bind (h.own (keyagentStmGetByName_own _)) fun lstm => ?_
    split
    · exact h.pure _
    · refine h.bind (h.own (sessionReplaceCurrent_own _ _)) fun _ => ?_
      refine h.bind (h.own (sessionUpdateOrInsert_own _ _ _ _ _ _)) fun session => ?_
      refine h.bind (h.own (sessionCreateCache_own _ _ _)) fun error => ?_
      exact h.stmSetSession _ _ _

/-! ## Loads -/

/-- An NPM whose operations outside of the agent have the property. -/
theorem runNpm {α : Type} {p : Npm α} {P : NpmCall → Prop} (hp : p.Issues P)
    (hsend : ∀ request, P (.httpsSend request) →
      C HttpResponse (Prog.lift (S := skcSig) (.httpsSend request)))
    (huninit : ∀ n, C (Uninitialised n) (Prog.lift (S := skcSig) (.uninitialised n))) :
    C α (runNpm stm p) := by
  induction p with
  | ret a => exact h.pure a
  | call c k ih =>
    refine h.bind ?_ fun a => ih a (hp.2 a)
    cases c with
    | sessionGetIds => exact h.own ⟨trivial, fun _ => ⟨trivial, fun _ => trivial⟩⟩
    | stmGetChallenge requestId nonce name error => exact h.stmGetChallenge _ _ _ _
    | sessionCreate requestId name sessionId swk swkType error => exact h.sessionCreate _ _ _ _ _ _
    | keyCreate requestId url type attrs sessionId error => exact h.own (keyCreate_own _ _ _ _ _)
    | httpsSend request => exact hsend request hp.1
    | uninitialised n => exact huninit n
    | fault reason => exact h.own (Skc.issues_fault trivial)

theorem loadkeyStm (requestId url : Bytes) (tmpError : Option GError) :
    C _ (loadkeyStm stm requestId url tmpError) := by
  unfold SkcLibrary.loadkeyStm
  split
  · exact h.pure _
  · refine h.bind (h.own (keyagentKeyLookup_own _)) fun key => ?_
    split
    · exact h.stmLoadKey _ _ _
    · exact h.pure _

end

section

variable {C : (α : Type) → Skc α → Prop} {M : Modules} {url : Bytes}
  {moduleData : Option ApimoduleUriData} (h : AgentClosed C M.stm)

include h

theorem loadkey {npm : KeyagentNpmReal} (hnpm : ∀ details err, details.url = url →
    details.sslOpts = M.config.sslOpts → C _ (SkcLibrary.runNpm M.stm (npm.keyLoad details err)))
    (err : Option GError) : C _ (loadkey M npm url moduleData err) := by
  unfold SkcLibrary.loadkey
  split
  · exact h.pure _
  · split
    · exact h.pure _
    · refine h.bind h.generateUuid fun requestId => ?_
      refine h.bind (h.own (modifyKeyagent_own _)) fun _ => h.bind h.keyagent fun k => ?_
      refine h.bind (hnpm _ _ rfl rfl) fun r => h.bind (h.loadkeyStm _ _ _) fun r' => ?_
      exact h.bind (h.own (modifyKeyagent_own _)) fun _ => h.pure _

variable (hnpm : ∀ npm ∈ M.npmHash, ∀ details err, details.url = url →
    details.sslOpts = M.config.sslOpts → C _ (SkcLibrary.runNpm M.stm (npm.keyLoad details err)))

include hnpm

theorem npmHashFind {npms : List KeyagentNpmReal} (hnpms : npms ⊆ M.npmHash) (err : Option GError) :
    C _ (npmHashFind M url moduleData npms err) := by
  induction npms generalizing err with
  | nil => exact h.pure _
  | cons npm rest ih =>
    refine h.bind (h.loadkey (hnpm npm (hnpms List.mem_cons_self)) err) fun r => ?_
    obtain ⟨ret, err⟩ := r
    cases ret with
    | true => exact h.pure _
    | false => exact ih (fun n hn => hnpms (List.mem_cons_of_mem _ hn)) err

/-- **A load between lock and unlock.** -/
theorem loadkeyLocked (err : Option GError) : C _ (loadkeyLocked M url moduleData err) := by
  refine h.bind (h.own (keyagentKeyLookup_own _)) fun key => ?_
  split
  · exact h.pure _
  · refine h.bind (h.npmHashFind hnpm (List.Subset.refl _) err) fun r => ?_
    dsimp only
    split
    · exact h.pure _
    · exact h.bind (h.own (keyagentKeyLookup_own _)) fun key => h.pure _

/-- **A load**, if asking for the lock has the property too. -/
theorem loadkeyWithModuledata (hlock : C _ (Prog.lift (S := skcSig) .rwLockWriterLock))
    (hunlock : C _ (Prog.lift (S := skcSig) .rwLockWriterUnlock)) (err : Option GError) :
    C _ (keyagentLoadkeyWithModuledata M url moduleData err) := by
  refine h.bind (h.deref _ _) fun missing => ?_
  split
  · exact h.pure _
  · refine h.bind hlock fun _ => h.bind (h.loadkeyLocked hnpm err) fun r => ?_
    exact h.bind hunlock fun _ => h.pure r

end

end AgentClosed

end SkcLibrary
