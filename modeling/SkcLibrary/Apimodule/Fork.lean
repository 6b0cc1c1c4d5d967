import SkcLibrary.Apimodule.Deadlock

/-!
# Children of the process

A forked child has the variables of its parent and the lock as it was, and of the threads the one that has
called `fork`. That one first runs `apimodule_prepare_child`, which sets up the PKCS#11 module anew. Nobody
sets up the lock anew.

* `child_of_fork` — whether a child can load keys
-/

namespace SkcLibrary

open Interaction

variable {W W' : Type}

/-- The process of a child; what is outside may be another one. -/
def World.fork (s : World W) (env : W') : World W' where
  keyagent := s.keyagent
  apimodule := s.apimodule
  rwlock := s.rwlock
  env := env

/--
The threads of a child: the one that has called `fork` runs the handler and then goes on, the others are
started by it. The thread that held the lock is not there.
-/
def childThreads (L : Library) (i : Nat) (calls : Nat → List EntryPoint) (s : World W) :
    Pool Nat skcSig (World W) Unit where
  threads j :=
    if s.rwlock = some j then pure ()
    else if j = i then do
      apimodulePrepareChild L 2
      application L (calls j)
    else application L (calls j)
  state := s

/-! ## The handler -/

theorem prepareChildLogin_issues (uriData : ApimoduleUriData) :
    (prepareChildLogin uriData).Issues TokenCall := by
  refine ((apimoduleFindtoken_issues uriData).mono SlotCall.tokenCall).bind fun a => ?_
  obtain ⟨rv, slot⟩ := a
  dsimp only
  split
  · trivial
  · split
    · trivial
    · refine Skc.issues_ck_bind.mpr ⟨trivial, fun b => ?_⟩
      obtain ⟨rv, session⟩ := b
      dsimp only
      split
      · trivial
      · exact Skc.issues_ck_bind.mpr ⟨trivial, fun _ => trivial⟩

/-- The handler, from what passes to sequences. -/
theorem prepareChild_closed {C : (α : Type) → Skc α → Prop} (h : Prog.BindClosed C) {L : Library}
    {fuel : Nat} (hfinalize : C _ cFinalize) (hinit : C _ (cInitialize L fuel))
    (hread : C _ (Prog.lift (S := skcSig) (.readLines L.preLoadKeyfile)))
    (hlogin : ∀ uriData, C _ (prepareChildLogin uriData)) : C _ (apimodulePrepareChild L fuel) := by
  refine h.bind hfinalize fun _ => h.bind hinit fun _ => h.bind hread fun lines => ?_
  split
  · exact h.pure ()
  · exact h.pure ()
  · split
    · exact h.pure ()
    · exact hlogin _

/-! ## While another thread held the lock -/

theorem prepareChild_untilLock (L : Library) (fuel : Nat) : UntilLock (apimodulePrepareChild L fuel) :=
  prepareChild_closed Prog.issuesUntil_bindClosed (.inr ⟨trivial, fun _ => trivial⟩)
    (cInitialize_untilLock L fuel) (.inr ⟨trivial, fun _ => trivial⟩)
    fun uriData => ((prepareChildLogin_issues uriData).mono TokenCall.apimoduleCall).until

theorem prog_untilLock (L : Library) (call : EntryPoint) : UntilLock (call.prog L) := by
  cases call with
  | cInitialize => exact cInitialize_untilLock L 2
  | cFinalize => exact .inr ⟨trivial, fun _ => trivial⟩
  | onDemand uri => exact cOnDemandKeyLoad_untilLock (cInitialize_untilLock L 1) L _ uri

theorem application_untilLock (L : Library) (calls : List EntryPoint) :
    UntilLock (application L calls) := by
  induction calls with
  | nil => trivial
  | cons call calls ih => exact (prog_untilLock L call).bind fun _ => ih

section

variable {L : Library} {i : Nat} {calls : Nat → List EntryPoint} {s : World W} {E : Step skcSig W}

theorem childThreads_untilLock (j : Nat) : UntilLock ((childThreads L i calls s).threads j) := by
  unfold childThreads
  dsimp only
  split
  · trivial
  · split
    · exact (prepareChild_untilLock L 2).bind fun _ => application_untilLock L _
    · exact application_untilLock L _

/-- Nobody gives the lock back, and without it the agent is left alone. -/
theorem child_stopped {holder : Nat} {q r : Pool Nat skcSig (World W) Unit}
    (hq : ∀ j, UntilLock (q.threads j))
    (hstate : q.state.rwlock = some holder ∧ q.state.keyagent = s.keyagent)
    (hr : Pool.Reach (appStep E) q r) :
    (r.state.rwlock = some holder ∧ r.state.keyagent = s.keyagent) ∧
      (∀ j, UntilLock (r.threads j)) ∧
      ∀ j c k, q.threads j = .call c k → c = .rwLockWriterLock → r.threads j = .call c k := by
  refine Pool.stopped_reach (I := fun t => t.rwlock = some holder ∧ t.keyagent = s.keyagent) ?_ ?_ hq
    hstate hr
  · rintro j c t a u rfl ⟨ht, -⟩ hstep
    exact absurd (ht.symm.trans hstep.1.1) nofun
  · rintro j c t a u hc ⟨hlock, hka⟩ hstep
    have hguard : ¬c.Guarded := (hc.swkCall c).not_guarded
    refine ⟨?_, ?_⟩
    · rw [sysStep_rwlock hstep.1]
      · exact hlock
      · rintro rfl
        exact hguard trivial
      · rintro rfl
        exact hguard trivial
    · rw [sysStep_keyagent hstep.1]
      · exact hka
      · rintro f rfl
        exact hguard trivial

/-! ## While nobody held it -/

theorem maintains_prepareChild (L : Library) :
    Maintains (appLogic E i) (AtLock i False) (apimodulePrepareChild L 2) :=
  prepareChild_closed keptByCalls_atLock.bindClosed (keptByCalls_atLock.ck trivial)
    (maintains_cInitialize L 1) (keptByCalls_atLock.lift trivial)
    fun uriData => keptByCalls_atLock.plain TokenCall.plain (prepareChildLogin_issues uriData)

theorem childThreads_returning (hflag : s.apimodule.preloadKeysFlag ≠ 0) (hfree : s.rwlock = none) :
    appMutex.Returning (appStep E) AppPre (childThreads L i calls s) := by
  intro j
  have hs : AtLock j False s := ⟨by rw [hfree]; exact ⟨nofun, False.elim⟩, hflag⟩
  have hmaintains : Maintains (appLogic E j) (AtLock j False) ((childThreads L i calls s).threads j) := by
    unfold childThreads
    dsimp only
    split
    · exact keptByCalls_atLock.pure ()
    · split
      · exact (maintains_prepareChild L).bind fun _ => maintains_application L _
      · exact maintains_application L _
  exact (hmaintains s hs).mono fun _ t ht => ht.holder.mp

end

/--
**Children.** A thread forks when it has made its calls, whatever the other threads of the parent are doing
then. If no thread of the parent held the lock, no thread of the child ever waits for ever. If one did, the
agent of the child never changes, nothing goes to KBS, and who asks for the lock waits for ever.
-/
theorem child_of_fork {L : Library} {parentCalls calls : Nat → List EntryPoint} {E : Step skcSig W}
    {E' : Step skcSig W'} (hE' : Answering E') {s : World W} (hflag : s.apimodule.preloadKeysFlag ≠ 0)
    (hlock : s.rwlock = none) {p : Pool Nat skcSig (World W) Unit}
    (hp : Pool.Reach (appStep E) ⟨fun j => application L (parentCalls j), s⟩ p) {i : Nat}
    (hi : (p.result i).isSome) (env : W') {q : Pool Nat skcSig (World W') Unit}
    (hq : Pool.Reach (appStep E') (childThreads L i calls (p.state.fork env)) q) :
    p.state.rwlock ≠ some i ∧
      (p.state.rwlock = none → ∀ j,
        Pool.Forces (appStep E') (fun r => (r.result j).isSome ∨ ∃ k, r.Halted Halts k) q) ∧
      (p.state.rwlock ≠ none → q.state.keyagent = p.state.keyagent ∧
        (∀ j c k, q.threads j = .call c k → c = .rwLockWriterLock ∨ ApimoduleCall c) ∧
        ∀ j k r, q.threads j = .call .rwLockWriterLock k → Pool.Reach (appStep E') q r →
          r.threads j = .call .rwLockWriterLock k) := by
  have hstart : ∀ j, Sat (appLogic E j) (application L (parentCalls j))
      (fun _ t => t.rwlock ≠ some j) s := by
    intro j
    have hs : AtLock j False s := ⟨by rw [hlock]; exact ⟨nofun, False.elim⟩, hflag⟩
    exact (maintains_application L (parentCalls j) s hs).mono fun _ t ht => ht.holder.mp
  have hret : appMutex.Returning (appStep E) AppPre p := Mutex.sat_reach hstart hp
  have hpflag : p.state.apimodule.preloadKeysFlag ≠ 0 := Mutex.always_reach hstart hp hflag
  refine ⟨?_, fun hfree j => ?_, fun hheld => ?_⟩
  · obtain ⟨a, ha⟩ := Option.isSome_iff_exists.mp hi
    exact Pool.result_of_sat (hret i) ha
  · have hchild : appMutex.Returning (appStep E') AppPre (childThreads L i calls (p.state.fork env)) :=
      childThreads_returning hpflag hfree
    exact (waits hE').drain (Mutex.sat_reach hchild hq) j
  · obtain ⟨holder, hholder⟩ := Option.ne_none_iff_exists'.mp hheld
    have hfork : (p.state.fork env).rwlock = some holder := hholder
    obtain ⟨hstate, huntil, -⟩ := child_stopped childThreads_untilLock ⟨hfork, rfl⟩ hq
    refine ⟨hstate.2, fun j c k hc => ?_, fun j k r hk hr => ?_⟩
    · have hj := huntil j
      rw [hc] at hj
      exact hj.imp id And.left
    · exact (child_stopped huntil hstate hr).2.2 j _ k hk rfl

/-! ## A child that is forked during a load -/

theorem preloadStoreHandler_any (c : skcSig.Op) (w : TokenStore) (a : skcSig.Ans c) (w' : TokenStore)
    (h : preloadStoreHandler c w = some (a, w')) : anyStoreStep c w a w' := by
  cases c with
  | readLines filename => exact .inr rfl
  | _ => exact .inl h

/-- One thread loads a key, the others have nothing to do. -/
def oneLoad (i : Nat) : List EntryPoint := if i = 0 then [.onDemand (twoSpellings 0)] else []

/-- The thread that has forked asks for the same key. -/
def childLoad (i : Nat) : List EntryPoint := if i = 1 then [.onDemand (twoSpellings 1)] else []

/-- The next call is the one for the lock. -/
def asksLock (p : Skc Unit) : Bool :=
  match p with
  | .call .rwLockWriterLock _ => true
  | _ => false

theorem exists_of_asksLock {p : Skc Unit} (h : asksLock p = true) :
    ∃ k, p = .call (S := skcSig) .rwLockWriterLock k := by
  unfold asksLock at h
  split at h
  · exact ⟨_, rfl⟩
  · exact absurd h Bool.false_ne_true

/-- The parent loads a key when it is forked. The child logs in, looks for the key, and waits. -/
theorem child_of_fork_waits : ∃ (p q : Pool Nat skcSig (World TokenStore) Unit) (k : Unit → Skc Unit),
    Pool.Reach (appStep anyStoreStep)
      ⟨fun j => application preloadLibrary (oneLoad j), tokenStoreWorld none⟩ p ∧
    p.state.rwlock = some 0 ∧
    Pool.Reach (appStep anyStoreStep)
      (childThreads preloadLibrary 1 childLoad (p.state.fork p.state.env)) q ∧
    q.threads 1 = .call (S := skcSig) .rwLockWriterLock k ∧
    ∀ r, Pool.Reach (appStep anyStoreStep) q r → r.threads 1 = .call (S := skcSig) .rwLockWriterLock k := by
  obtain ⟨p, hp, hv⟩ := Option.bind_eq_some_iff.mp (show
    ((Pool.schedule (fun i => restricting (sysHandler preloadStoreHandler i) NoWrap) [(0, 40)]
      ⟨fun j => application preloadLibrary (oneLoad j), tokenStoreWorld none⟩).bind
      fun p => (Pool.schedule (fun i => restricting (sysHandler preloadStoreHandler i) NoWrap) [(1, 27)]
        (childThreads preloadLibrary 1 childLoad (p.state.fork p.state.env))).map
      fun q => (p.state.rwlock, (p.result 1).isSome, asksLock (q.threads 1))) =
      some (some 0, true, true)
    by decide +kernel)
  obtain ⟨q, hq, hv⟩ := Option.map_eq_some_iff.mp hv
  obtain ⟨hheld, hv⟩ := Prod.mk.inj hv
  obtain ⟨hret, hasks⟩ := Prod.mk.inj hv
  have hstep : ∀ i c s a t, restricting (sysHandler preloadStoreHandler i) NoWrap c s = some (a, t) →
      appStep anyStoreStep i c s a t := fun i =>
    restricting_step fun _ _ _ _ h => sysHandler_step preloadStoreHandler_any h
  have hp := Pool.schedule_reach hstep hp
  have hq := Pool.schedule_reach hstep hq
  obtain ⟨k, hk⟩ := exists_of_asksLock hasks
  obtain ⟨-, -, hlocked⟩ := child_of_fork answering_anyStoreStep (by decide) rfl hp hret _ hq
  have hne : p.state.rwlock ≠ none := by
    rw [hheld]
    exact nofun
  exact ⟨p, q, k, hp, hheld, hq, hk, fun r hr => (hlocked hne).2.2 1 k r hk hr⟩

end SkcLibrary
