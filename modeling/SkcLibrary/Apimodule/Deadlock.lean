import SkcLibrary.Apimodule.Nesting

/-!
# The lock of the agent

Threads of an application call the library after `C_Initialize` has returned once, each of them as often as
it likes. All of them wait at the same lock, and it is not one that a thread could take twice.

* `never_deadlocked` — no thread waits for itself, none keeps the lock when it returns, and each of them
  can be run to its end
-/

namespace SkcLibrary

open Interaction

variable {W : Type}

/-- The calls that a thread makes, one after the other. -/
def application (L : Library) : List EntryPoint → Skc Unit
  | [] => pure ()
  | call :: calls => do
    let _ ← call.prog L
    application L calls

/-- The counter of `C_Initialize` does not get back to 0. -/
def NoWrap (c : Call) (s : World W) (_ : c.Ans) : Prop :=
  c = .atomicIntAdd → s.apimodule.preloadKeysFlag + 1 ≠ 0

/-- What thread `i` does as long as it does not. -/
def appStep (E : Step skcSig W) (i : Nat) : Step skcSig (World W) := (sysStep E i).restrict NoWrap

/-- A thread is stopped by a memory error, or by the counter. -/
def Halts (c : Call) (s : World W) : Prop :=
  (∃ reason, c = .fault reason) ∨ c = .atomicIntAdd ∧ s.apimodule.preloadKeysFlag + 1 = 0

/-- Whatever the library asks of others it is told in the end. -/
def Answering (E : Step skcSig W) : Prop :=
  ∀ c w, ¬c.Internal → (∀ reason, c ≠ .fault reason) → c ≠ .outOfFuel → ∃ a w', E c w a w'

/-- `keyagent::rwlock`; the counter, once raised, stays so. -/
def appMutex : Mutex Nat (World W) where
  holder s := s.rwlock
  outside := ⟨fun _ _ => True, fun _ => trivial, fun _ _ => trivial⟩
  always :=
    { rel := fun s t => s.apimodule.preloadKeysFlag ≠ 0 → t.apimodule.preloadKeysFlag ≠ 0
      refl := fun _ => id
      trans := fun h h' hs => h' (h hs) }

/-- The lock is asked for by a thread that does not hold it, and given back by the one that does. -/
def AppPre (i : Nat) (c : Call) (s : World W) : Prop :=
  c ≠ .outOfFuel ∧ (c = .rwLockWriterLock → s.rwlock ≠ some i) ∧
    (c = .rwLockWriterUnlock → s.rwlock = some i)

/-- The setting of a thread. -/
abbrev appLogic (E : Step skcSig W) (i : Nat) : Logic skcSig (World W) :=
  appMutex.logic i (appStep E) AppPre

/-- What a thread knows: whether it holds the lock, and that `C_Initialize` has been called. -/
structure AtLock (i : Nat) (held : Prop) (s : World W) : Prop where
  holder : s.rwlock = some i ↔ held
  flag : s.apimodule.preloadKeysFlag ≠ 0

section

variable {E : Step skcSig W} {i : Nat} {held : Prop} {s t : World W}

theorem stable_atLock : Stable (appLogic E i) (AtLock i held) := by
  intro s t hs hr
  obtain ⟨⟨hflag, -⟩, hheld, hfree⟩ := hr
  refine ⟨⟨fun ht => ?_, fun h => (hheld (hs.holder.mpr h)).1⟩, hflag hs.flag⟩
  by_contra hn
  exact hfree (fun h => hn (hs.holder.mp h)) ht

/-- A step that leaves the lock alone. -/
theorem AtLock.turn (h : AtLock i held s) (hlock : t.rwlock = s.rwlock)
    (hflag : t.apimodule.preloadKeysFlag ≠ 0) : appMutex.guar i s t ∧ AtLock i held t := by
  refine ⟨⟨⟨fun _ => hflag, fun _ _ => trivial⟩, ?_⟩, by rw [hlock]; exact h.holder, hflag⟩
  by_cases hs : s.rwlock = some i
  · exact .inside hs (hlock.trans hs)
  · exact .outside hs hlock trivial

theorem ordinary_atLock {c : Call} (hc : OrdinaryCall c) :
    (appLogic E i).Triple (AtLock i held) c fun _ => AtLock i held := by
  refine fun s hs => ⟨⟨?_, ?_, ?_⟩, fun a t ht => ?_⟩
  · rintro rfl
    exact hc
  · rintro rfl
    exact hc.elim
  · rintro rfl
    exact hc.elim
  · refine hs.turn (sysStep_rwlock ht.1 ?_ ?_) ?_
    · rintro rfl
      exact hc
    · rintro rfl
      exact hc
    · rw [sysStep_flag ht.1]
      · exact hs.flag
      · rintro rfl
        exact hc
      · rintro d rfl
        exact hc

theorem keptByCalls_atLock : KeptByCalls (appLogic E i) (AtLock i held) where
  stable := stable_atLock
  call _ hc := ordinary_atLock hc.ordinary

theorem ckInitialize_atLock : (appLogic E i).Triple (AtLock i held) (.ck .cInitialize) fun _ =>
    AtLock i held := by
  refine fun s hs => ⟨⟨nofun, nofun, nofun⟩, fun rv t ht => ?_⟩
  refine hs.turn (sysStep_rwlock ht.1 nofun nofun) ?_
  rw [sysStep_flag ht.1 nofun nofun]
  exact hs.flag

/-- The counter has been raised before. -/
theorem atomicIntAdd_atLock : (appLogic E i).Triple (AtLock i held) .atomicIntAdd fun flag t =>
    flag ≠ 0 ∧ AtLock i held t := by
  refine fun s hs => ⟨⟨nofun, nofun, nofun⟩, fun flag t ht => ?_⟩
  obtain ⟨⟨hflag, ht⟩, hwrap⟩ := ht
  obtain ⟨hguar, ht⟩ := hs.turn (t := t) (by rw [ht]) (by rw [ht]; exact hwrap rfl)
  exact ⟨hguar, by rw [hflag]; exact hs.flag, ht⟩

/-- `C_Initialize` finds the counter raised and loads no keys: it never asks for the lock. -/
theorem maintains_cInitializeWith (preLoadKeyfile : Bytes) (load : Bytes → Skc CkRv) :
    Maintains (appLogic E i) (AtLock i held) (cInitializeWith preLoadKeyfile load) := by
  intro s hs
  rw [cInitializeWith, Skc.ck_bind]
  refine Sat.call stable_atLock ckInitialize_atLock (fun rv t ht => ?_) hs
  split
  · rw [Prog.lift_bind]
    refine Sat.call stable_atLock atomicIntAdd_atLock (fun flag u hu => ?_) ht
    rw [if_neg hu.1]
    exact keptByCalls_atLock.pure _ u hu.2
  · exact keptByCalls_atLock.pure _ t ht

theorem maintains_cInitialize (L : Library) (fuel : Nat) :
    Maintains (appLogic E i) (AtLock i held) (cInitialize L (fuel + 1)) :=
  maintains_cInitializeWith _ _

/-- A token may be created with the lock. -/
theorem createsTokens_atLock (L : Library) (fuel : Nat) :
    CreatesTokens (appLogic E i) (AtLock i held) (fun _ => True) (cInitialize L (fuel + 1)) where
  calls := keptByCalls_atLock
  ready := by
    refine ⟨fun s t hs ht => ⟨stable_atLock s t hs.1 ht, trivial⟩, fun c hc => ?_⟩
    exact (keptByCalls_atLock.call c hc).conseq (fun _ hs => hs.1) fun _ _ ht => ⟨ht, trivial⟩
  createtoken uriData s hs := (Sat.of_issues (createtoken_issues uriData) stable_atLock
    (fun c hc => ordinary_atLock hc.ordinary) hs).mono fun _ _ ht => ⟨ht, fun _ => trivial⟩
  cInitialize s hs _ := maintains_cInitialize L fuel s hs

theorem lock_atLock : (appLogic E i).Triple (AtLock i False) .rwLockWriterLock fun _ =>
    AtLock i True := by
  intro s hs
  refine ⟨⟨nofun, fun _ => hs.holder.mp, nofun⟩, fun _ t ht => ?_⟩
  obtain ⟨⟨hfree, ht⟩, -⟩ := ht
  have hflag : t.apimodule.preloadKeysFlag ≠ 0 := by
    rw [ht]
    exact hs.flag
  have hheld : t.rwlock = some i := by rw [ht]
  exact ⟨⟨⟨fun _ => hflag, fun _ _ => trivial⟩, .acquire hfree hheld⟩,
    ⟨fun _ => trivial, fun _ => hheld⟩, hflag⟩

theorem unlock_atLock : (appLogic E i).Triple (AtLock i True) .rwLockWriterUnlock fun _ =>
    AtLock i False := by
  intro s hs
  have hheld : s.rwlock = some i := hs.holder.mpr trivial
  refine ⟨⟨nofun, nofun, fun _ => hheld⟩, fun _ t ht => ?_⟩
  have ht : t = { s with rwlock := none } := ht.1
  have hflag : t.apimodule.preloadKeysFlag ≠ 0 := by
    rw [ht]
    exact hs.flag
  have hfree : t.rwlock = none := by rw [ht]
  refine ⟨⟨⟨fun _ => hflag, fun _ _ => trivial⟩, .release hheld hfree⟩,
    ⟨fun h => ?_, False.elim⟩, hflag⟩
  exact absurd (hfree.symm.trans h) nofun

/-- **Every call**, of a thread that does not hold the lock. -/
theorem maintains_prog (L : Library) (call : EntryPoint) :
    Maintains (appLogic E i) (AtLock i False) (call.prog L) := by
  cases call with
  | cInitialize => exact maintains_cInitialize L 1
  | cFinalize => exact keptByCalls_atLock.ck trivial
  | onDemand uri =>
    exact maintains_onDemand keptByCalls_atLock (createsTokens_atLock L 0) lock_atLock unlock_atLock
      L uri

theorem maintains_application (L : Library) (calls : List EntryPoint) :
    Maintains (appLogic E i) (AtLock i False) (application L calls) := by
  induction calls with
  | nil => exact keptByCalls_atLock.pure ()
  | cons call calls ih => exact (maintains_prog L call).bind fun _ => ih

/-- Only the lock is waited for. -/
theorem waits (hE : Answering E) :
    appMutex.Waits (appStep E) AppPre (fun c => c = .rwLockWriterLock) Halts where
  acquire hpre hc := hpre.2.1 hc
  step {i c s} hpre hhalt hfree := by
    have hfault : ∀ reason, c ≠ .fault reason := fun reason hc => hhalt (.inl ⟨reason, hc⟩)
    suffices ∃ a t, sysStep E i c s a t by
      obtain ⟨a, t, ht⟩ := this
      exact ⟨a, t, ht, fun hadd hwrap => hhalt (.inr ⟨hadd, hwrap⟩)⟩
    by_cases hi : c.Internal
    · cases c with
      | getKeyagent => exact ⟨_, _, rfl, rfl⟩
      | modifyKeyagent f => exact ⟨(), _, rfl⟩
      | foreachSession => exact ⟨_, _, List.Perm.refl _, rfl⟩
      | getApimodule => exact ⟨_, _, rfl, rfl⟩
      | writeToken atoken f => exact ⟨(), _, rfl⟩
      | cacheToken token => exact ⟨_, _, rfl, rfl⟩
      | atomicIntAdd => exact ⟨_, _, rfl, rfl⟩
      | rwLockWriterLock => exact ⟨(), _, hfree rfl, rfl⟩
      | rwLockWriterUnlock => exact ⟨(), _, rfl⟩
      | _ => exact hi.elim
    · obtain ⟨a, w, hw⟩ := hE c s.env hi hfault hpre.1
      by_cases hstm : ∃ d, c = .stm d
      · obtain ⟨d, rfl⟩ := hstm
        exact ⟨a, _, w, s.apimodule, hw, rfl⟩
      · exact ⟨a, _, (sysStep_external hi fun d hd => hstm ⟨d, hd⟩).mpr ⟨w, hw, rfl⟩⟩

/--
**No deadlock.** In every interleaving: a thread asks for the lock only if it does not hold it and gives it
back only if it does, does not hold it when it has returned, and can be run to its end by a choice of who runs
that does not depend on any answer, unless a thread is stopped by a memory error.
-/
theorem never_deadlocked {L : Library} {calls : Nat → List EntryPoint} (hE : Answering E)
    (hflag : s.apimodule.preloadKeysFlag ≠ 0) (hlock : s.rwlock = none)
    {q : Pool Nat skcSig (World W) Unit}
    (hr : Pool.Reach (appStep E) ⟨fun i => application L (calls i), s⟩ q) (i : Nat) :
    (∀ c k, q.threads i = .call c k → AppPre i c q.state) ∧
      ((q.result i).isSome → q.state.rwlock ≠ some i) ∧
      Pool.Forces (appStep E) (fun r => (r.result i).isSome ∨ ∃ j, r.Halted Halts j) q := by
  have hstart : appMutex.Returning (appStep E) AppPre ⟨fun i => application L (calls i), s⟩ := by
    intro i
    have hs : AtLock i False s := ⟨by rw [hlock]; exact ⟨nofun, False.elim⟩, hflag⟩
    exact (maintains_application L (calls i) s hs).mono fun _ t ht => ht.holder.mp
  have hq : appMutex.Returning (appStep E) AppPre q := Mutex.sat_reach hstart hr
  refine ⟨fun c k hc => Pool.pre_of_sat (hq i) hc, fun hret => ?_, (waits hE).drain hq i⟩
  obtain ⟨a, ha⟩ := Option.isSome_iff_exists.mp hret
  exact Pool.result_of_sat (hq i) ha

end

/-! ## A token that is created with the lock held -/

instance (c : Call) (s : World W) (a : c.Ans) : Decidable (NoWrap c s a) := by
  casesm* Call
  case atomicIntAdd =>
    exact decidable_of_iff (s.apimodule.preloadKeysFlag + 1 ≠ 0) ⟨fun h _ => h, fun h => h rfl⟩
  all_goals exact isTrue nofun

/-- The surroundings with a token store, which answers other calls as it likes. -/
def anyStoreStep : Step skcSig TokenStore := fun c w a w' =>
  tokenStoreHandler c w = some (a, w') ∨ tokenStoreHandler c w = none

theorem answering_anyStoreStep : Answering anyStoreStep := by
  intro c w hc hfault hfuel
  cases h : tokenStoreHandler c w with
  | some r => exact ⟨r.1, r.2, .inl h⟩
  | none =>
    suffices Nonempty c.Ans from this.elim fun a => ⟨a, w, .inr h⟩
    cases c with
    | fault reason => exact absurd rfl (hfault reason)
    | outOfFuel => exact absurd rfl hfuel
    | httpsSend request => cases h
    | uninitialised n => exact ⟨zeroBytes n⟩
    | stm d => cases d <;> exact ⟨default⟩
    | ck d => cases d <;> exact ⟨default⟩
    | _ => first | exact absurd trivial hc | exact ⟨default⟩

/-- Two threads that load a key and close the module, and many that do nothing. -/
def twoApplications (i : Nat) : List EntryPoint :=
  if i < 2 then [.onDemand (twoSpellings i), .cFinalize] else []

/-- One thread has created a token and holds the lock, the other one waits. -/
theorem never_deadlocked_created : ∃ q : Pool Nat skcSig (World TokenStore) Unit,
    Pool.Reach (appStep anyStoreStep)
      ⟨fun i => application kmsLibrary (twoApplications i), tokenStoreWorld none⟩ q ∧
    q.state.rwlock = some 0 ∧ q.state.apimodule.preloadKeysFlag = 2 ∧
    Pool.Forces (appStep anyStoreStep) (fun r => (r.result 1).isSome ∨ ∃ j, r.Halted Halts j) q := by
  obtain ⟨q, hq, hv⟩ := Option.map_eq_some_iff.mp (show
    (Pool.schedule (fun i => restricting (sysHandler tokenStoreHandler i) NoWrap) [(1, 5), (0, 40)]
      ⟨fun i => application kmsLibrary (twoApplications i), tokenStoreWorld none⟩).map
      (fun q => (q.state.rwlock, q.state.apimodule.preloadKeysFlag)) = some (some 0, 2)
    by decide +kernel)
  obtain ⟨hheld, hflag⟩ := Prod.mk.inj hv
  have hr : Pool.Reach (appStep anyStoreStep) _ q := Pool.schedule_reach
    (fun i => restricting_step fun _ _ _ _ h => sysHandler_step (fun _ _ _ _ => .inl) h) hq
  exact ⟨q, hr, hheld, hflag,
    (never_deadlocked answering_anyStoreStep (by decide) rfl hr 1).2.2⟩

end SkcLibrary
