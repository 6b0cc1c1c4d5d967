import SkcLibrary.Keyagent.Maintain

/-!
# Unknown security modules

`StmOps.unknown` is a security module about which nothing is known. Any other one can be put in its place:
a load over a module is the load over the unknown one, with the calls to that replaced by what the module does.

* `Becomes.loadkeyLocked` — this of a load between lock and unlock
-/

namespace SkcLibrary

open Interaction

/-- The operations of a security module in the place of the calls to one that is not known. -/
def StmOps.handler (stm : StmOps) : (c : Call) → Skc c.Ans
  | .stm (.createChallenge label details err) => stm.createChallenge label details err
  | .stm (.setSession label details err) => stm.setSession label details err
  | .stm (.loadKey label details err) => stm.loadKey label details err
  | c => Prog.lift (S := skcSig) c

/-- The calls of a load: the agent's own and those of a security module. -/
def Call.OfLoad (c : Call) : Prop := c.Agent ∨ ∃ d, c = .stm d

/-- `p` is what becomes of the load `q` if `stm` is its security module. -/
structure Becomes (stm : StmOps) {α : Type} (q p : Skc α) : Prop where
  issues : q.Issues Call.OfLoad
  interp : q.interp stm.handler = p

namespace Becomes

variable {stm : StmOps} {α β : Type} {p q : Skc α}

theorem pure (a : α) : Becomes stm (Pure.pure a : Skc α) (Pure.pure a) := ⟨trivial, rfl⟩

theorem bind {f g : α → Skc β} (h : Becomes stm q p) (hf : ∀ a, Becomes stm (g a) (f a)) :
    Becomes stm (q >>= g) (p >>= f) where
  issues := h.issues.bind fun a => (hf a).issues
  interp := by
    rw [Prog.interp_bind, h.interp]
    exact congrArg _ (funext fun a => (hf a).interp)

theorem handler_agent {c : Call} (hc : c.Agent) : stm.handler c = Prog.lift (S := skcSig) c := by
  cases c <;> first | rfl | exact hc.elim

/-- The agent's own calls stay as they are. -/
theorem own (hp : p.Issues Call.Agent) : Becomes stm p p where
  issues := hp.mono fun _ => .inl
  interp := by
    induction p with
    | ret a => rfl
    | call c k ih =>
      rw [Prog.interp, handler_agent hp.1, Prog.lift_bind]
      exact congrArg _ (funext fun a => ih a (hp.2 a))

theorem ofStm (d : StmCall) : Becomes stm (Prog.lift (S := skcSig) (.stm d)) (stm.handler (.stm d)) where
  issues := ⟨.inr ⟨d, rfl⟩, fun _ => trivial⟩
  interp := Prog.interp_lift _ _

theorem stmSetSession (requestId : Bytes) (session : SessionRef) (error : Option GError) :
    Becomes stm (keyagentStmSetSession .unknown requestId session error)
      (keyagentStmSetSession stm requestId session error) := by
  refine (own keyagent_issues).bind fun k => ?_
  refine (own (Skc.issues_deref trivial)).bind fun data => ?_
  refine (own (keyagentStmGetByName_issues _)).bind fun lstm => ?_
  refine (own (requestLookup_issues _)).bind fun request => ?_
  split
  · refine (own (modifyKeyagent_issues _)).bind fun _ => ?_
    refine (own (modifyKeyagent_issues _)).bind fun _ => ?_
    exact .ofStm (.setSession _ _ _)
  · exact .pure _

theorem stmGetChallenge (requestId nonce name : Bytes) (error : Option GError) :
    Becomes stm (keyagentStmGetChallenge .unknown requestId nonce name error)
      (keyagentStmGetChallenge stm requestId nonce name error) := by
  refine (own (keyagentStmGetByName_issues _)).bind fun lstm => ?_
  refine (own (requestLookup_issues _)).bind fun request => ?_
  split
  · exact (own (modifyKeyagent_issues _)).bind fun _ => .ofStm (.createChallenge _ _ _)
  · exact .pure _

theorem stmLoadKey (requestId : Bytes) (key : KeyagentKeyReal) (error : Option GError) :
    Becomes stm (keyagentStmLoadKey .unknown requestId key error)
      (keyagentStmLoadKey stm requestId key error) := by
  unfold keyagentStmLoadKey
  split
  · exact .pure _
  · refine (own keyagent_issues).bind fun k => ?_
    refine (own (Skc.issues_deref trivial)).bind fun data => ?_
    refine (own (keyagentStmGetByName_issues _)).bind fun lstm => ?_
    refine (own (requestLookup_issues _)).bind fun request => ?_
    split
    · refine (own (Skc.issues_deref trivial)).bind fun keydata => ?_
      refine (own (Skc.issues_deref trivial)).bind fun parts => ?_
      split
      · exact .pure _
      · exact (own (Skc.issues_deref trivial)).bind fun current => .ofStm (.loadKey _ _ _)
    · exact .pure _

theorem sessionCreate (requestId label sessionId swk swkType : Bytes) (cacheId : Int)
    (error : Option GError) :
    Becomes stm (keyagentSessionCreate .unknown requestId label sessionId swk swkType cacheId error)
      (keyagentSessionCreate stm requestId label sessionId swk swkType cacheId error) := by
  refine (own (keyagentSessionLookup_issues _)).bind fun session => ?_
  split
  · exact .pure _
  · refine (own (keyagentStmGetByName_issues _)).bind fun lstm => ?_
    split
    · exact .pure _
    · refine (own ?_).bind fun _ => ?_
      · exact (AgentView.sessionReplaceCurrent_issues removes_true (fun _ _ => trivial) _ _).mono
          AgentView.CacheCall.agent
      · refine (own (sessionUpdateOrInsert_issues _ _ _ _ _ _)).bind fun session => ?_
        refine (own (sessionCreateCache_issues _ _ _)).bind fun error => ?_
        exact stmSetSession _ _ _

theorem npmOps (c : NpmCall) : Becomes stm (npmOps .unknown c) (npmOps stm c) := by
  cases c with
  | sessionGetIds => exact own ⟨trivial, fun _ => ⟨trivial, fun _ => trivial⟩⟩
  | stmGetChallenge requestId nonce name error => exact stmGetChallenge _ _ _ _
  | sessionCreate requestId name sessionId swk swkType error => exact sessionCreate _ _ _ _ _ _ _
  | keyCreate requestId url type attrs sessionId error =>
    exact own (keyagentKeyCreateWithCacheid_issues _ _ _ _ _ _)
  | httpsSend request => exact own (lift_issues trivial)
  | uninitialised n => exact own (lift_issues trivial)
  | fault reason => exact own (Skc.issues_fault trivial)

/-- An NPM, whatever its program. -/
theorem runNpm (p : Npm α) : Becomes stm (runNpm .unknown p) (runNpm stm p) := by
  induction p with
  | ret a => exact .pure a
  | call c k ih => exact (npmOps c).bind ih

theorem loadkeyStm (requestId url : Bytes) (tmpError : Option GError) :
    Becomes stm (loadkeyStm .unknown requestId url tmpError)
      (loadkeyStm stm requestId url tmpError) := by
  unfold SkcLibrary.loadkeyStm
  split
  · exact .pure _
  · refine (own (keyagentKeyLookup_issues _)).bind fun key => ?_
    split
    · exact stmLoadKey _ _ _
    · exact .pure _

variable {config : KeyagentConfig} {npmHash : List KeyagentNpmReal}

theorem loadkey (npm : KeyagentNpmReal) (url : Bytes) (moduleData : Option ApimoduleUriData)
    (err : Option GError) :
    Becomes stm (loadkey ⟨config, npmHash, .unknown⟩ npm url moduleData err)
      (loadkey ⟨config, npmHash, stm⟩ npm url moduleData err) := by
  unfold SkcLibrary.loadkey
  split
  · exact .pure _
  · split
    · exact .pure _
    · refine (own (lift_issues (c := .generateUuid) trivial)).bind fun requestId => ?_
      refine (own (modifyKeyagent_issues _)).bind fun _ => ?_
      refine (own keyagent_issues).bind fun k => ?_
      refine (runNpm _).bind fun r => ?_
      refine (loadkeyStm _ _ _).bind fun r' => ?_
      exact (own (modifyKeyagent_issues _)).bind fun _ => .pure _

theorem npmHashFind (url : Bytes) (moduleData : Option ApimoduleUriData)
    (npms : List KeyagentNpmReal) (err : Option GError) :
    Becomes stm (npmHashFind ⟨config, npmHash, .unknown⟩ url moduleData npms err)
      (npmHashFind ⟨config, npmHash, stm⟩ url moduleData npms err) := by
  induction npms generalizing err with
  | nil => exact .pure _
  | cons npm rest ih =>
    refine (loadkey npm url moduleData err).bind fun r => ?_
    obtain ⟨ret, err⟩ := r
    cases ret with
    | true => exact .pure _
    | false => exact ih err

/-- **A load between lock and unlock.** -/
theorem loadkeyLocked (url : Bytes) (moduleData : Option ApimoduleUriData) (err : Option GError) :
    Becomes stm (loadkeyLocked ⟨config, npmHash, .unknown⟩ url moduleData err)
      (loadkeyLocked ⟨config, npmHash, stm⟩ url moduleData err) := by
  refine (own (keyagentKeyLookup_issues _)).bind fun key => ?_
  split
  · exact .pure _
  · refine (npmHashFind url moduleData _ err).bind fun r => ?_
    dsimp only
    split
    · exact .pure _
    · exact (own (keyagentKeyLookup_issues _)).bind fun key => .pure _

end Becomes

end SkcLibrary
