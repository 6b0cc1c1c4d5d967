import SkcLibrary.Keyagent.Rules

/-!
# What the agent keeps, whatever is in its tables

An assertion that the agent's own calls and the security modules keep, every load keeps, by any NPMs. Nothing
is asked of the tables and nothing is learned about them: this is for assertions about something else.

* `KeptBy.loadkeyLocked` — the part of a load between lock and unlock
-/

namespace SkcLibrary

open Interaction

variable {σ α : Type} {K : Logic skcSig σ} {I : σ → Prop} {stm : StmOps} {M : Modules}

/-- The agent's own calls keep `I`, and so do the operations of the security modules. -/
structure KeptBy (K : Logic skcSig σ) (I : σ → Prop) (stm : StmOps) : Prop where
  stable : Stable K I
  agent : ∀ c : Call, c.Agent → K.Triple I c fun _ => I
  createChallenge : ∀ label details err, Maintains K I (stm.createChallenge label details err)
  setSession : ∀ label details err, Maintains K I (stm.setSession label details err)
  loadKey : ∀ label details err, Maintains K I (stm.loadKey label details err)

/-! ## Functions that call nothing else -/

theorem AgentView.CacheCall.agent {R : Keyagent → Keyagent → Prop} (c : Call)
    (h : AgentView.CacheCall R c) : c.Agent := by
  cases c <;> first | exact trivial | exact h.elim

theorem removes_true : Removes fun _ _ => True := by
  constructor <;> intros <;> trivial

theorem keyagent_issues : Skc.keyagent.Issues Call.Agent := ⟨trivial, fun _ => trivial⟩

theorem lift_issues {c : Call} (hc : c.Agent) : (Prog.lift (S := skcSig) c).Issues Call.Agent :=
  ⟨hc, fun _ => trivial⟩

theorem keyagentSessionLookup_issues (sessionId : Bytes) :
    (keyagentSessionLookup sessionId).Issues Call.Agent := ⟨trivial, fun _ => trivial⟩

theorem keyagentStmGetByName_issues (name : Bytes) :
    (keyagentStmGetByName name).Issues Call.Agent := ⟨trivial, fun _ => trivial⟩

theorem requestLookup_issues (requestId : Bytes) :
    (requestLookup requestId).Issues Call.Agent := ⟨trivial, fun _ => trivial⟩

theorem keyagentKeyLookup_issues (url : Bytes) :
    (keyagentKeyLookup url).Issues Call.Agent := ⟨trivial, fun _ => trivial⟩

theorem modifyKeyagent_issues (f : Keyagent → Keyagent) :
    (Skc.modifyKeyagent f).Issues Call.Agent := ⟨trivial, fun _ => trivial⟩

theorem sessionUpdateOrInsert_issues (session : Option SessionRef)
    (label sessionId swk swkType : Bytes) (cacheId : Int) :
    (sessionUpdateOrInsert session label sessionId swk swkType cacheId).Issues Call.Agent := by
  unfold sessionUpdateOrInsert
  split
  · refine Skc.issues_keyagent_bind.mpr ⟨trivial, fun k => ?_⟩
    refine (Skc.issues_deref trivial).bind fun data => ?_
    split
    · exact (modifyKeyagent_issues _).bind fun _ => trivial
    · trivial
  · refine Skc.issues_keyagent_bind.mpr ⟨trivial, fun k => ?_⟩
    exact (modifyKeyagent_issues _).bind fun _ => trivial

theorem sessionCreateCache_issues (session : SessionRef) (cacheId : Int) (error : Option GError) :
    (sessionCreateCache session cacheId error).Issues Call.Agent := by
  unfold sessionCreateCache
  split
  · rw [map_eq_pure_bind]
    refine Prog.Issues.bind ?_ fun _ => trivial
    exact (AgentView.keyagentCacheSession_issues session error).mono AgentView.CacheCall.agent
  · trivial

theorem keyCreateCache_issues (url : Bytes) (cacheId : Int) (error : Option GError) :
    (keyCreateCache url cacheId error).Issues Call.Agent := by
  unfold keyCreateCache
  split
  · rw [map_eq_pure_bind]
    refine Prog.Issues.bind ?_ fun _ => trivial
    exact (AgentView.keyagentCacheKey_issues url error).mono AgentView.CacheCall.agent
  · trivial

theorem keyagentKeyCreateWithCacheid_issues (url : Bytes) (type : KeyagentKeytype)
    (attrs : Option KAttributes) (sessionId : Option Bytes) (cacheId : Int) (error : Option GError) :
    (keyagentKeyCreateWithCacheid url type attrs sessionId cacheId error).Issues Call.Agent := by
  refine (keyagentKeyLookup_issues url).bind fun key => ?_
  split
  · exact (keyCreateCache_issues _ _ _).bind fun _ => trivial
  · split
    · split
      · trivial
      · refine (keyagentSessionLookup_issues _).bind fun session => ?_
        split
        · trivial
        · refine (modifyKeyagent_issues _).bind fun _ => ?_
          exact (keyCreateCache_issues _ _ _).bind fun _ => trivial
    · trivial

/-! ## Functions that call a security module -/

namespace KeptBy

variable (h : KeptBy K I stm)

include h

/-- Nothing but the agent's own calls. -/
theorem own {p : Skc α} (hp : p.Issues Call.Agent) : Maintains K I p :=
  .of_issues h.stable h.agent hp

theorem pure (a : α) : Maintains K I (Pure.pure a : Skc α) := .pure h.stable a

theorem stmSetSession (requestId : Bytes) (session : SessionRef) (error : Option GError) :
    Maintains K I (keyagentStmSetSession stm requestId session error) := by
  refine (h.own keyagent_issues).bind fun k => ?_
  refine (h.own (Skc.issues_deref trivial)).bind fun data => ?_
  refine (h.own (keyagentStmGetByName_issues _)).bind fun lstm => ?_
  refine (h.own (requestLookup_issues _)).bind fun request => ?_
  split
  · refine (h.own (modifyKeyagent_issues _)).bind fun _ => ?_
    refine (h.own (modifyKeyagent_issues _)).bind fun _ => ?_
    exact h.setSession _ _ _
  · exact h.pure _

theorem stmGetChallenge (requestId nonce name : Bytes) (error : Option GError) :
    Maintains K I (keyagentStmGetChallenge stm requestId nonce name error) := by
  refine (h.own (keyagentStmGetByName_issues _)).bind fun lstm => ?_
  refine (h.own (requestLookup_issues _)).bind fun request => ?_
  split
  · exact (h.own (modifyKeyagent_issues _)).bind fun _ => h.createChallenge _ _ _
  · exact h.pure _

theorem stmLoadKey (requestId : Bytes) (key : KeyagentKeyReal) (error : Option GError) :
    Maintains K I (keyagentStmLoadKey stm requestId key error) := by
  unfold keyagentStmLoadKey
  split
  · exact h.pure _
  · refine (h.own keyagent_issues).bind fun k => ?_
    refine (h.own (Skc.issues_deref trivial)).bind fun data => ?_
    refine (h.own (keyagentStmGetByName_issues _)).bind fun lstm => ?_
    refine (h.own (requestLookup_issues _)).bind fun request => ?_
    split
    · refine (h.own (Skc.issues_deref trivial)).bind fun keydata => ?_
      refine (h.own (Skc.issues_deref trivial)).bind fun parts => ?_
      split
      · exact h.pure _
      · exact (h.own (Skc.issues_deref trivial)).bind fun current => h.loadKey _ _ _
    · exact h.pure _

theorem sessionCreate (requestId label sessionId swk swkType : Bytes) (cacheId : Int)
    (error : Option GError) :
    Maintains K I (keyagentSessionCreate stm requestId label sessionId swk swkType cacheId error) := by
  refine (h.own (keyagentSessionLookup_issues _)).bind fun session => ?_
  split
  · exact h.pure _
  · refine (h.own (keyagentStmGetByName_issues _)).bind fun lstm => ?_
    split
    · exact h.pure _
    · refine (h.own ?_).bind fun _ => ?_
      · exact (AgentView.sessionReplaceCurrent_issues removes_true (fun _ _ => trivial) _ _).mono
          AgentView.CacheCall.agent
      · refine (h.own (sessionUpdateOrInsert_issues _ _ _ _ _ _)).bind fun session => ?_
        refine (h.own (sessionCreateCache_issues _ _ _)).bind fun error => ?_
        exact h.stmSetSession _ _ _

/-! ## Loads -/

theorem npmOps (c : NpmCall) : Maintains K I (npmOps stm c) := by
  cases c with
  | sessionGetIds => exact h.own ⟨trivial, fun _ => ⟨trivial, fun _ => trivial⟩⟩
  | stmGetChallenge requestId nonce name error => exact h.stmGetChallenge _ _ _ _
  | sessionCreate requestId name sessionId swk swkType error => exact h.sessionCreate _ _ _ _ _ _ _
  | keyCreate requestId url type attrs sessionId error =>
    exact h.own (keyagentKeyCreateWithCacheid_issues _ _ _ _ _ _)
  | httpsSend request => exact h.own (lift_issues trivial)
  | uninitialised n => exact h.own (lift_issues trivial)
  | fault reason => exact h.own (Skc.issues_fault trivial)

/-- An NPM, whatever its program. -/
theorem runNpm (p : Npm α) : Maintains K I (runNpm stm p) := .interp h.stable h.npmOps p

theorem loadkeyStm (requestId url : Bytes) (tmpError : Option GError) :
    Maintains K I (loadkeyStm stm requestId url tmpError) := by
  unfold SkcLibrary.loadkeyStm
  split
  · exact h.pure _
  · refine (h.own (keyagentKeyLookup_issues _)).bind fun key => ?_
    split
    · exact h.stmLoadKey _ _ _
    · exact h.pure _

end KeptBy

section

variable (h : KeptBy K I M.stm)

include h

theorem KeptBy.loadkey (npm : KeyagentNpmReal) (url : Bytes) (moduleData : Option ApimoduleUriData)
    (err : Option GError) : Maintains K I (loadkey M npm url moduleData err) := by
  unfold SkcLibrary.loadkey
  split
  · exact h.pure _
  · split
    · exact h.pure _
    · refine (h.own (lift_issues (c := .generateUuid) trivial)).bind fun requestId => ?_
      refine (h.own (modifyKeyagent_issues _)).bind fun _ => ?_
      refine (h.own keyagent_issues).bind fun k => ?_
      refine (h.runNpm _).bind fun r => ?_
      refine (h.loadkeyStm _ _ _).bind fun r' => ?_
      exact (h.own (modifyKeyagent_issues _)).bind fun _ => h.pure _

theorem KeptBy.npmHashFind (url : Bytes) (moduleData : Option ApimoduleUriData)
    (npms : List KeyagentNpmReal) (err : Option GError) :
    Maintains K I (npmHashFind M url moduleData npms err) := by
  induction npms generalizing err with
  | nil => exact h.pure _
  | cons npm rest ih =>
    refine (h.loadkey npm url moduleData err).bind fun r => ?_
    obtain ⟨ret, err⟩ := r
    cases ret with
    | true => exact h.pure _
    | false => exact ih err

/-- **A load between lock and unlock.** -/
theorem KeptBy.loadkeyLocked (url : Bytes) (moduleData : Option ApimoduleUriData)
    (err : Option GError) : Maintains K I (loadkeyLocked M url moduleData err) := by
  refine (h.own (keyagentKeyLookup_issues _)).bind fun key => ?_
  split
  · exact h.pure _
  · refine (h.npmHashFind url moduleData _ err).bind fun r => ?_
    dsimp only
    split
    · exact h.pure _
    · exact (h.own (keyagentKeyLookup_issues _)).bind fun key => h.pure _

end

end SkcLibrary
