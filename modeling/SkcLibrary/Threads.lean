import SkcLibrary.System
import SkcLibrary.Apimodule.Rules
import SkcLibrary.Keyagent.LoadRules
import SkcLibrary.Interaction.Mutex

/-!
# Threads

The calls of an application run in threads that share the process. `keyagent::rwlock` protects the
agent's variables; the tables of the api module are not protected.

`lockedView` is the setting in which the thread that holds the lock runs: it has the agent's variables
for itself, and sees of everything else what an abstract state says.

* `sat_locked` — what is judged there holds in the process
-/

namespace SkcLibrary

open Interaction

variable {W γ τ : Type}

/-- Key loads are registered under the lock only. -/
def RequestsLocked (s : World W) : Prop := s.rwlock = none → s.keyagent.NoRequests

/--
What thread `i` does, with an observation of the run, as far as it meets a condition. The observation
may tell the threads apart.
-/
def threadStep (E : Step skcSig W) (obs : Nat → (c : Call) → World W → c.Ans → γ → γ)
    (allow : Nat → (c : Call) → World W × γ → c.Ans → Prop) (i : Nat) :
    Step skcSig (World W × γ) :=
  ((sysStep E i).observed (obs i)).restrict (allow i)

/-- Only the two operations on the lock change who holds it. -/
theorem sysStep_rwlock {E : Step skcSig W} {i : Nat} {c : Call} {s t : World W} {a : c.Ans}
    (hs : sysStep E i c s a t) (hlock : c ≠ .rwLockWriterLock) (hunlock : c ≠ .rwLockWriterUnlock) :
    t.rwlock = s.rwlock := by
  by_cases hi : c.Internal
  · cases c <;> try exact hi.elim
    case rwLockWriterLock => exact absurd rfl hlock
    case rwLockWriterUnlock => exact absurd rfl hunlock
    case modifyKeyagent => rw [show t = _ from hs]
    case writeToken => rw [show t = _ from hs]
    all_goals rw [hs.2]
  · cases c <;> try exact absurd trivial hi
    case stm d =>
      obtain ⟨w, m, -, ht⟩ := hs
      rw [ht]
    all_goals
      obtain ⟨w, -, ht⟩ := hs
      rw [ht]

/-! ## The thread that holds the lock -/

/-- Calls on the agent's variables and on the lock. -/
def Call.Guarded : Call → Prop
  | .getKeyagent => True
  | .modifyKeyagent _ => True
  | .foreachSession => True
  | .rwLockWriterLock => True
  | .rwLockWriterUnlock => True
  | _ => False

/-- What a call does, as far as it is seen. The lock is not taken twice. -/
def lockedStep (R : (c : Call) → τ → c.Ans → τ → Prop) : Step skcSig (Keyagent × τ) := fun c x =>
  match c with
  | .getKeyagent => fun k y => k = x.1 ∧ y = x
  | .modifyKeyagent f => fun _ y => y = (f x.1, x.2)
  | .foreachSession => fun l y => l.Perm x.1.sessionHash.values ∧ y = x
  | .rwLockWriterLock => fun _ _ => False
  | c => fun a y => y.1 = x.1 ∧ R c x.2 a y.2

theorem lockedStep_other {R : (c : Call) → τ → c.Ans → τ → Prop} {c : Call}
    (hc : ¬c.Guarded ∨ c = .rwLockWriterUnlock) {x y : Keyagent × τ} {a : c.Ans} :
    lockedStep R c x a y ↔ y.1 = x.1 ∧ R c x.2 a y.2 := by
  rcases hc with hc | rfl
  · cases c <;> first | exact Iff.rfl | exact absurd trivial hc
  · exact Iff.rfl

/-- The setting of the thread that holds the lock. It does not give it back. -/
def lockedView (R : (c : Call) → τ → c.Ans → τ → Prop) (pre : Call → τ → Prop)
    (hpre : ∀ {c y}, c.Agent → pre c y) : AgentView (Keyagent × τ) where
  step := lockedStep R
  pre c x := c ≠ .rwLockWriterUnlock ∧ pre c x.2
  ka x := x.1
  put x k := (k, x.2)
  ka_put _ _ := rfl
  put_put _ _ _ := rfl
  put_ka _ := rfl
  getKeyagent := Iff.rfl
  modifyKeyagent := Iff.rfl
  foreachSession := Iff.rfl
  ka_step {c x a y} h hmod := by
    by_cases hc : ¬c.Guarded ∨ c = .rwLockWriterUnlock
    · exact ((lockedStep_other hc).mp h).1
    · cases c with
      | modifyKeyagent f => exact absurd rfl (hmod f)
      | getKeyagent => exact congrArg Prod.fst h.2
      | foreachSession => exact congrArg Prod.fst h.2
      | rwLockWriterLock => exact h.elim
      | rwLockWriterUnlock => exact absurd (.inr rfl) hc
      | _ => exact absurd (.inl id) hc
  pre_of_agent {c x} hc := by
    refine ⟨?_, hpre hc⟩
    rintro rfl
    exact hc

/-- A call on something else than the agent's variables. -/
theorem lockedView_step {R : (c : Call) → τ → c.Ans → τ → Prop} {pre : Call → τ → Prop}
    (hpre : ∀ {c : Call} {y : τ}, c.Agent → pre c y) {c : Call} {x y : Keyagent × τ} {a : c.Ans}
    (hc : ¬c.Guarded) (h : (lockedView R pre hpre).step c x a y) : y.1 = x.1 ∧ R c x.2 a y.2 :=
  (lockedStep_other (.inl hc)).mp h

/--
The setting of functions that leave the agent's variables alone. If the thread holds the lock and asks
for it again, it waits for ever.
-/
def freeLogic (R : (c : Call) → τ → c.Ans → τ → Prop) (pre : Call → τ → Prop) (held : Prop) :
    Logic skcSig τ :=
  .seq (fun c y a z => c ≠ .rwLockWriterLock ∧ R c y a z)
    fun c y => (held ∧ c = .rwLockWriterLock) ∨ ¬c.Guarded ∧ pre c y

section Threads

variable {E : Step skcSig W} {obs : Nat → (c : Call) → World W → c.Ans → γ → γ}
  {allow : Nat → (c : Call) → World W × γ → c.Ans → Prop} {M : Mutex Nat (World W × γ)} {i : Nat}
  {P : Nat → Call → World W × γ → Prop} {R : (c : Call) → τ → c.Ans → τ → Prop}
  {pre : Call → τ → Prop} {hpre : ∀ {c : Call} {y : τ}, c.Agent → pre c y}
  {rel : World W × γ → τ → Prop} {α : Type} {p : Skc α} {Q : α → τ → Prop}
  {x : World W × γ} {y : τ}

theorem threadStep_keyagent {c : Call} {a : c.Ans} {x' : World W × γ}
    (h : threadStep E obs allow i c x a x') (hc : ¬c.Guarded) :
    x'.1.keyagent = x.1.keyagent := by
  refine sysStep_keyagent h.1.1 fun f hf => ?_
  rw [hf] at hc
  exact hc trivial

theorem threadStep_rwlock {c : Call} {a : c.Ans} {x' : World W × γ}
    (h : threadStep E obs allow i c x a x') (hc : ¬c.Guarded) : x'.1.rwlock = x.1.rwlock := by
  refine sysStep_rwlock h.1.1 ?_ ?_
  · rintro rfl
    exact hc trivial
  · rintro rfl
    exact hc trivial

/-- **A function that issues calls of one kind, run without the lock.** -/
theorem sat_unlocked_issues {C : Call → Prop} {J : World W × γ → Prop}
    (hholder : ∀ x, M.holder x = x.1.rwlock) (hp : p.Issues C)
    (hC : ∀ c, C c → ¬c.Guarded) (hJ : ∀ {x x'}, J x → M.always.rel x x' → J x')
    (hstep : ∀ {c x}, C c → x.1.rwlock ≠ some i → J x → P i c x ∧ ∀ a x',
      threadStep E obs allow i c x a x' → M.outside.rel x x' ∧ M.keeps i x x')
    (hs : x.1.rwlock ≠ some i) (hx : J x) :
    Sat (M.logic i (threadStep E obs allow) P) p
      (fun _ x' => x'.1.rwlock ≠ some i ∧ J x') x := by
  refine (Sat.of_issues hp (Mutex.stable_outside fun hx h => hJ hx h.1) (fun c hc x hx => ?_)
    ⟨by rw [hholder]; exact hs, hx⟩).mono fun _ x' hx' => ⟨by rw [← hholder]; exact hx'.1, hx'.2⟩
  obtain ⟨hne, hx⟩ := hx
  obtain ⟨hP, hstep⟩ := hstep hc (by rw [← hholder]; exact hne) hx
  refine ⟨hP, fun a x' hx' => ?_⟩
  obtain ⟨hout, hkeeps⟩ := hstep a x' hx'
  have hsame : M.holder x' = M.holder x := by
    rw [hholder, hholder, threadStep_rwlock hx' (hC c hc)]
  exact ⟨⟨hkeeps, .outside hne hsame hout⟩, by rw [hsame]; exact hne, hJ hx hkeeps.1⟩

/--
An abstract state that thread `i` sees: `rel` says of which. `held` says that it is seen with the lock
only.
-/
structure Sees (E : Step skcSig W) (obs : Nat → (c : Call) → World W → c.Ans → γ → γ)
    (allow : Nat → (c : Call) → World W × γ → c.Ans → Prop) (M : Mutex Nat (World W × γ))
    (P : Nat → Call → World W × γ → Prop) (i : Nat) (held : Prop)
    (R : (c : Call) → τ → c.Ans → τ → Prop) (pre : Call → τ → Prop)
    (rel : World W × γ → τ → Prop) : Prop where
  holder : ∀ x, M.holder x = x.1.rwlock
  outside : ∀ {x x'}, M.outside.rel x x' → x'.1.keyagent = x.1.keyagent
  /-- The calls on the agent's variables are not observed. -/
  unseen : ∀ {c s a w}, c.Guarded → obs i c s a w = w
  guarded : ∀ {c x}, c.Guarded → P i c x
  /-- The thread writes the agent's variables. -/
  put : ∀ {x k y}, x.1.rwlock = some i → rel x y →
    M.keeps i x ({ x.1 with keyagent := k }, x.2) ∧ rel ({ x.1 with keyagent := k }, x.2) y
  other : ∀ {c x y}, (held → x.1.rwlock = some i) → ¬c.Guarded → pre c y → rel x y → P i c x ∧
    ∀ a x', threadStep E obs allow i c x a x' → M.keeps i x x' ∧ ∃ z, R c y a z ∧ rel x' z

namespace Sees

/-- **The agent, run by the thread that holds the lock.** -/
theorem sat_locked {held : Prop} (h : Sees E obs allow M P i held R pre rel)
    (hrel : ∀ {x x' y}, rel x y → (M.others i).rel x x' → M.outside.rel x x' → rel x' y)
    {Q : α → Keyagent × τ → Prop} (hp : Sat (lockedView R pre hpre).logic p Q (x.1.keyagent, y))
    (hs : x.1.rwlock = some i) (hx : rel x y) :
    Sat (M.logic i (threadStep E obs allow) P) p
      (fun a x' => x'.1.rwlock = some i ∧ ∃ z, rel x' z ∧ Q a (x'.1.keyagent, z)) x := by
  have hkeep : ∀ {x x' : World W × γ} {y : Keyagent × τ}, x.1.keyagent = y.1 ∧ rel x y.2 →
      (M.others i).rel x x' → M.outside.rel x x' → x'.1.keyagent = y.1 ∧ rel x' y.2 :=
    fun hxy hothers hout => ⟨(h.outside hout).trans hxy.1, hrel hxy.2 hothers hout⟩
  refine (Mutex.sat_inside @hkeep (fun c y x hc hheld hxy => ?_) hp (by rw [h.holder, hs])
    ⟨rfl, hx⟩).mono fun a x' hx' => ?_
  · obtain ⟨hka, hxy⟩ := hxy
    rw [h.holder] at hheld
    by_cases hguard : c.Guarded
    · refine ⟨h.guarded hguard, fun a x' hstep => ?_⟩
      obtain ⟨⟨hsys, hobs⟩, -⟩ := hstep
      have hw : x'.2 = x.2 := hobs.trans (h.unseen hguard)
      -- a guarded call does to the Keyagent what it does in the locked program
      cases c with
      | getKeyagent =>
        obtain ⟨hk, hx'⟩ := hsys
        obtain rfl : x' = x := Prod.ext hx' hw
        exact ⟨by rw [h.holder, hheld], Mutex.keeps_refl _, y, ⟨hk.trans hka, rfl⟩, hka, hxy⟩
      | foreachSession =>
        obtain ⟨hl, hx'⟩ := hsys
        obtain rfl : x' = x := Prod.ext hx' hw
        exact ⟨by rw [h.holder, hheld], Mutex.keeps_refl _, y, ⟨hka ▸ hl, rfl⟩, hka, hxy⟩
      | modifyKeyagent f =>
        obtain rfl : x' = ({ x.1 with keyagent := f x.1.keyagent }, x.2) := Prod.ext hsys hw
        obtain ⟨hkeeps, hput⟩ := h.put (k := f x.1.keyagent) hheld hxy
        refine ⟨by rw [h.holder]; exact hheld, hkeeps, (f y.1, y.2), rfl, ?_, hput⟩
        show f x.1.keyagent = f y.1
        rw [hka]
      | rwLockWriterLock => exact absurd (hheld.symm.trans hsys.1) nofun
      | rwLockWriterUnlock => exact absurd rfl hc.1
      | _ => exact hguard.elim
    -- any other call leaves the lock and the Keyagent alone
    · obtain ⟨hP, hstep⟩ := h.other (fun _ => hheld) hguard hc.2 hxy
      refine ⟨hP, fun a x' hx' => ?_⟩
      obtain ⟨hkeeps, z, hz, hrelz⟩ := hstep a x' hx'
      refine ⟨?_, hkeeps, (y.1, z), (lockedStep_other (.inl hguard)).mpr ⟨rfl, hz⟩, ?_, hrelz⟩
      · rw [h.holder, threadStep_rwlock hx' hguard, hheld]
      · rw [threadStep_keyagent hx' hguard, hka]
  · obtain ⟨hheld, z, ⟨hka, hz⟩, hQ⟩ := hx'
    refine ⟨by rw [← h.holder]; exact hheld, z.2, hz, ?_⟩
    rw [hka]
    exact hQ

/-- **A function that needs no lock, run without it.** -/
theorem sat_unlocked (h : Sees E obs allow M P i False R pre rel)
    (hrel : ∀ {x x' y}, rel x y → (M.others i).rel x x' → rel x' y)
    (hout : ∀ {c x y a x'}, ¬c.Guarded → pre c y → x.1.rwlock ≠ some i → rel x y →
      threadStep E obs allow i c x a x' → M.outside.rel x x')
    (hp : Sat (freeLogic R pre False) p Q y) (hs : x.1.rwlock ≠ some i) (hx : rel x y) :
    Sat (M.logic i (threadStep E obs allow) P) p
      (fun a x' => x'.1.rwlock ≠ some i ∧ ∃ z, rel x' z ∧ Q a z) x := by
  refine (Mutex.sat_outside @hrel (fun c y x hc hne hxy => ?_) hp (by rw [h.holder]; exact hs)
    hx).mono fun a x' hx' => ?_
  · obtain ⟨hguard, hpre⟩ := hc.resolve_left fun h => h.1
    obtain ⟨hP, hstep⟩ := h.other False.elim hguard hpre hxy
    refine ⟨hP, fun a x' hx' => ?_⟩
    obtain ⟨hkeeps, z, hz, hrelz⟩ := hstep a x' hx'
    rw [h.holder] at hne
    refine ⟨?_, hout hguard hpre hne hxy hx', hkeeps, z, ⟨?_, hz⟩, hrelz⟩
    · rw [h.holder, h.holder, threadStep_rwlock hx' hguard]
    · rintro rfl
      exact hguard trivial
  · rw [h.holder] at hx'
    exact hx'

end Sees

/-- A function that leaves the agent's variables alone may be run with the lock. -/
theorem sat_locked_of_free {k : Keyagent} (hlock : ∀ y, pre .rwLockWriterLock y)
    (hp : Sat (freeLogic R pre True) p Q y) :
    Sat (lockedView R pre hpre).logic p (fun a x => x.1 = k ∧ Q a x.2) (k, y) := by
  have hstable : ∀ y, Stable (lockedView R pre hpre).logic fun x => x = (k, y) :=
    fun _ => stable_seq
  refine (hp.simulate hstable (fun c y hc x hx => ?_) rfl).mono fun a x hx => ?_
  · subst hx
    rcases hc with ⟨-, rfl⟩ | ⟨hguard, hpre⟩
    · exact ⟨⟨nofun, hlock y⟩, fun _ _ hstep => hstep.elim⟩
    · refine ⟨⟨?_, hpre⟩, fun a x hstep => ⟨trivial, ?_⟩⟩
      · rintro rfl
        exact hguard trivial
      · obtain ⟨hk, hR⟩ := (lockedStep_other (.inl hguard)).mp hstep
        refine ⟨x.2, ⟨?_, hR⟩, Prod.ext hk rfl⟩
        rintro rfl
        exact hguard trivial
  · obtain ⟨y, rfl, hy⟩ := hx
    exact ⟨rfl, hy⟩

end Threads

/-! ## `C_OnDemand_KeyLoad` in a thread -/

/-- The api module neither touches the agent's variables nor the lock. -/
theorem SwkCall.not_guarded {c : Call} (hc : SwkCall c) : ¬c.Guarded := by
  intro h
  cases c <;> first | exact hc | exact h

/-- What `C_OnDemand_KeyLoad` reads in a URI. -/
def callData (L : Library) (uri : Bytes) : Option ApimoduleUriData :=
  apimoduleUriToUriData (L.p11KitUriParse (cstr uri)) uri

/-- The threads: each of them runs one call. -/
def loadThreads (L : Library) (fuel : Nat) (uri : Nat → Bytes) {σ : Type} (s : σ) :
    Pool Nat skcSig σ CkRv :=
  ⟨fun i => onDemand L fuel (uri i), s⟩

/--
What is to be shown of the lock for a call of thread `i`, which asks the agent for `uriData`: `J` is
known before it is taken, `Q` of the result.
-/
structure TakesLock (E : Step skcSig W) (obs : Nat → (c : Call) → World W → c.Ans → γ → γ)
    (allow : Nat → (c : Call) → World W × γ → c.Ans → Prop) (M : Mutex Nat (World W × γ))
    (P : Nat → Call → World W × γ → Prop) (i : Nat) (modules : Modules)
    (uriData : ApimoduleUriData) (uri : Bytes) (J : World W × γ → Prop)
    (Q : CkRv → World W × γ → Prop) : Prop where
  holder : ∀ x, M.holder x = x.1.rwlock
  outside : ∀ {x x'}, M.outside.rel x x' → x'.1.keyagent = x.1.keyagent
  known : ∀ {x x'}, J x → M.always.rel x x' → J x'
  result : ∀ {rv x x'}, Q rv x → M.always.rel x x' → Q rv x'
  failure : ∀ {rv x}, rv ≠ ckrOk → Q rv x
  pre : ∀ {c x}, (∀ d, c ≠ .ck d) → P i c x
  acquire : ∀ {x a x'}, J x → threadStep E obs allow i .rwLockWriterLock x a x' →
    M.keeps i x x' ∧ ∀ err, Sat (M.logic i (threadStep E obs allow) P)
      (loadkeyLocked modules (keyUrl uriData uri) (some uriData) err)
      (fun r y => y.1.rwlock = some i ∧ y.1.keyagent.NoRequests ∧ (r.1 = true → Q ckrOk y)) x'
  release : ∀ {x a x'}, x.1.keyagent.NoRequests →
    threadStep E obs allow i .rwLockWriterUnlock x a x' → M.keeps i x x'

namespace TakesLock

variable {E : Step skcSig W} {obs : Nat → (c : Call) → World W → c.Ans → γ → γ}
  {allow : Nat → (c : Call) → World W × γ → c.Ans → Prop} {M : Mutex Nat (World W × γ)} {i : Nat}
  {P : Nat → Call → World W × γ → Prop} {L : Library} {stm : StmOps} {uriData : ApimoduleUriData}
  {uri : Bytes} {J : World W × γ → Prop} {Q : CkRv → World W × γ → Prop} {x : World W × γ}

/-- A pointer that may be `NULL`. -/
theorem sat_deref (h : TakesLock E obs allow M P i (L.modules stm) uriData uri J Q) {α β : Type}
    {p : Option α} {reason : String} {f : α → Skc β} {Q' : β → World W × γ → Prop}
    (hf : ∀ a, p = some a → Sat (M.logic i (threadStep E obs allow) P) (f a) Q' x) :
    Sat (M.logic i (threadStep E obs allow) P) (Skc.deref p reason >>= f) Q' x := by
  cases p with
  | none =>
    rw [Skc.deref_none, Skc.fault_bind]
    exact fun _ _ => ⟨h.pre nofun, fun a => nomatch a⟩
  | some a => exact hf a rfl

/-- **The agent is asked for a key.** -/
theorem sat_onDemandLoadkey (h : TakesLock E obs allow M P i (L.modules stm) uriData uri J Q)
    (hs : x.1.rwlock ≠ some i) (hx : J x) (err : Option GError) :
    Sat (M.logic i (threadStep E obs allow) P) (onDemandLoadkey L stm uriData uri err) Q x := by
  have hbad : ∀ y, Sat (M.logic i (threadStep E obs allow) P)
      (pure ckrArgumentsBad : Skc CkRv) Q y := fun _ => Sat.pure fun _ _ => h.failure (by decide)
  have hret : ∀ (r : Bool × Option GError) y, (r.1 = true → Q ckrOk y) →
      Sat (M.logic i (threadStep E obs allow) P)
        (if r.1 then pure ckrOk else do
          let _ ← Skc.deref r.2 "k_critical_error"
          pure ckrArgumentsBad) Q y := by
    intro r y hr
    split
    · next hret => exact Sat.pure fun _ ht => h.result (hr hret) ht.1.1
    · exact h.sat_deref fun _ _ => hbad y
  unfold onDemandLoadkey keyagentLoadkeyWithModuledata
  rw [bind_assoc]
  refine h.sat_deref fun missing _ => ?_
  split
  · exact hret (false, err) x nofun
  · simp only [bind_assoc, pure_bind]
    refine Mutex.sat_acquire (fun hx hothers => h.known hx hothers.1)
      (fun t ht hne => ⟨h.pre nofun, fun a u hu => ?_⟩) (by rw [h.holder]; exact hs) hx
    -- from here to the unlock nobody else touches the Keyagent
    obtain ⟨hkeeps, hlocked⟩ := h.acquire ht hu
    have hsys : t.1.rwlock = none ∧ u.1 = { t.1 with rwlock := some i } := hu.1.1
    refine ⟨⟨hkeeps, by rw [h.holder]; exact hsys.1, by rw [h.holder, hsys.2]⟩, ?_⟩
    show Sat _ (loadkeyLocked _ _ _ err >>= _) _ u
    refine Sat.bind_iff.mpr ((hlocked err).mono fun r v hv => ?_)
    obtain ⟨hheld, hreq, hr⟩ := hv
    refine Mutex.sat_release (J := fun y => y.1.keyagent.NoRequests ∧ (r.1 = true → Q ckrOk y))
      (fun hy hothers hout => ⟨by rw [h.outside hout]; exact hy.1, fun hret =>
        h.result (hy.2 hret) hothers.1⟩) (fun v hv hheld => ⟨h.pre nofun, fun a w hw => ?_⟩)
      (by rw [h.holder]; exact hheld) ⟨hreq, hr⟩
    have hkeeps := h.release hv.1 hw
    have hsys : w.1 = { v.1 with rwlock := none } := hw.1.1
    exact ⟨⟨hkeeps, by rw [h.holder, hsys]⟩, hret r w fun hret => h.result (hv.2 hret) hkeeps.1⟩

/-- **The whole call**, if nothing is asked of its result. -/
theorem sat_onDemand {cInit : Skc CkRv} (hs : x.1.rwlock ≠ some i) (hx : J x)
    (h : ∀ uriData, callData L uri = some uriData →
      TakesLock E obs allow M P i (L.modules stm) uriData uri J fun _ _ => True)
    (hcall : ∀ {c x}, LookupCall c → x.1.rwlock ≠ some i → J x → P i c x ∧ ∀ a x',
      threadStep E obs allow i c x a x' → M.outside.rel x x' ∧ M.keeps i x x') :
    Sat (M.logic i (threadStep E obs allow) P) (cOnDemandKeyLoad L stm cInit uri)
      (fun _ _ => True) x := by
  unfold cOnDemandKeyLoad
  split
  · exact Sat.pure fun _ _ => trivial
  · next uriData huri =>
    have h := h uriData huri
    -- the search for an object runs without the lock
    have hfree : ∀ {α : Type} {p : Skc α} {y}, p.Issues LookupCall → y.1.rwlock ≠ some i →
        J y → Sat (M.logic i (threadStep E obs allow) P) p
          (fun _ z => z.1.rwlock ≠ some i ∧ J z) y := fun hp hs hy =>
      sat_unlocked_issues h.holder hp (fun c hc => ((hc.apimoduleCall c).swkCall c).not_guarded)
        h.known hcall hs hy
    have hissues : (lookupOrInitToken cInit uriData false none).Issues LookupCall :=
      (lookupOrInitToken_issues cInit uriData none).mono fun _ => .inl
    refine (hfree hissues hs hx).bind ?_
    rintro ⟨atoken, err⟩ y ⟨hs, hy⟩
    cases atoken with
    | none => exact h.sat_onDemandLoadkey hs hy err
    | some atoken =>
      refine (hfree ((readToken_issues atoken).mono fun _ => .inl) hs hy).bind ?_
      rintro token z ⟨hs, hz⟩
      split
      · exact Sat.pure fun _ _ => trivial
      · refine (hfree ((apimoduleFindobject_issues _ _).mono fun _ => .inr) hs hz).bind ?_
        rintro ⟨rv, isPresent⟩ u ⟨hs, hu⟩
        dsimp only
        split
        · exact Sat.pure fun _ _ => trivial
        · exact h.sat_onDemandLoadkey hs hu err

end TakesLock

end SkcLibrary
