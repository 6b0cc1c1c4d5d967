import SkcLibrary.Apimodule.Intf
import SkcLibrary.Keyagent.Rules
import SkcLibrary.Interaction.Pool
import Mathlib.Tactic.CasesM

/-!
# The system

A process: the library's variables, the lock, and what is outside, in a state of its own. What the
outside answers is a parameter, a step relation on that state. Calls on the variables and on the
lock do what they say.
-/

namespace SkcLibrary

open Interaction

/-- The state of the process and of what it talks to. -/
structure World (W : Type) where
  keyagent : Keyagent
  apimodule : Apimodule
  /-- The thread that holds `keyagent::rwlock`. -/
  rwlock : Option Nat
  env : W

variable {W : Type}

/-- Calls on the variables and on the lock. -/
def Call.Internal : Call → Prop
  | .getKeyagent => True
  | .modifyKeyagent _ => True
  | .foreachSession => True
  | .getApimodule => True
  | .writeToken _ _ => True
  | .cacheToken _ => True
  | .atomicIntAdd => True
  | .rwLockWriterLock => True
  | .rwLockWriterUnlock => True
  | _ => False

/-- `preload_keys_flag + 1` -/
def Apimodule.addFlag (m : Apimodule) : Apimodule :=
  { m with preloadKeysFlag := m.preloadKeysFlag + 1 }

/-- What a call of thread `i` does, in surroundings `E`. -/
def sysStep (E : Step skcSig W) (i : Nat) : Step skcSig (World W) := fun c s =>
  match c with
  | .getKeyagent => fun a t => a = s.keyagent ∧ t = s
  | .modifyKeyagent f => fun _ t => t = { s with keyagent := f s.keyagent }
  | .foreachSession => fun a t => a.Perm s.keyagent.sessionHash.values ∧ t = s
  | .getApimodule => fun a t => a = s.apimodule ∧ t = s
  | .writeToken atoken f => fun _ t => t = { s with apimodule := s.apimodule.mapToken atoken f }
  | .cacheToken token => fun a t =>
    a = s.apimodule.tokens.length ∧ t = { s with apimodule := s.apimodule.addToken token }
  | .atomicIntAdd => fun a t =>
    a = s.apimodule.preloadKeysFlag ∧ t = { s with apimodule := s.apimodule.addFlag }
  | .rwLockWriterLock => fun _ t => s.rwlock = none ∧ t = { s with rwlock := some i }
  | .rwLockWriterUnlock => fun _ t => t = { s with rwlock := none }
  -- a security module of its own may do anything to the tokens
  | .stm c => fun a t => ∃ w m, E (.stm c) s.env a w ∧ t = { s with apimodule := m, env := w }
  | c => fun a t => ∃ w, E c s.env a w ∧ t = { s with env := w }

/-- A call that goes outside changes nothing but the outside, unless it is one of an STM. -/
theorem sysStep_external {E : Step skcSig W} {i : Nat} {c : Call} (hc : ¬c.Internal)
    (hstm : ∀ d, c ≠ .stm d) {s t : World W} {a : c.Ans} :
    sysStep E i c s a t ↔ ∃ w, E c s.env a w ∧ t = { s with env := w } := by
  cases c <;> first | exact Iff.rfl | exact absurd trivial hc | exact absurd rfl (hstm _)

/-- Only the agent writes its variables. -/
theorem sysStep_keyagent {E : Step skcSig W} {i : Nat} {c : Call} {s t : World W} {a : c.Ans}
    (hs : sysStep E i c s a t) (hc : ∀ f, c ≠ .modifyKeyagent f) : t.keyagent = s.keyagent := by
  by_cases hi : c.Internal
  · cases c <;> try exact hi.elim
    case modifyKeyagent f => exact absurd rfl (hc f)
    case rwLockWriterUnlock => rw [show t = _ from hs]
    case writeToken => rw [show t = _ from hs]
    all_goals rw [hs.2]
  · cases c <;> try exact absurd trivial hi
    case stm d =>
      obtain ⟨w, m, -, ht⟩ := hs
      rw [ht]
    all_goals
      obtain ⟨w, -, ht⟩ := hs
      rw [ht]

/-- Calls that write the api module's variables. -/
def Call.WritesTokens : Call → Prop
  | .writeToken _ _ => True
  | .cacheToken _ => True
  | .atomicIntAdd => True
  | .stm _ => True
  | _ => False

theorem sysStep_apimodule {E : Step skcSig W} {i : Nat} {c : Call} {s t : World W} {a : c.Ans}
    (hs : sysStep E i c s a t) (hc : ¬c.WritesTokens) : t.apimodule = s.apimodule := by
  by_cases hi : c.Internal
  · cases c <;> try exact hi.elim
    case modifyKeyagent => rw [show t = _ from hs]
    case rwLockWriterUnlock => rw [show t = _ from hs]
    case writeToken => exact absurd trivial hc
    case cacheToken => exact absurd trivial hc
    case atomicIntAdd => exact absurd trivial hc
    all_goals rw [hs.2]
  · cases c <;> try exact absurd trivial hi
    case stm d => exact absurd trivial hc
    all_goals
      obtain ⟨w, -, ht⟩ := hs
      rw [ht]

/-- A single thread, about which nothing more is asked. -/
def seqView (E : Step skcSig W) : AgentView (World W) where
  step := sysStep E 0
  pre _ _ := True
  ka s := s.keyagent
  put s k := { s with keyagent := k }
  ka_put _ _ := rfl
  put_put _ _ _ := rfl
  put_ka _ := rfl
  getKeyagent := Iff.rfl
  modifyKeyagent := Iff.rfl
  foreachSession := Iff.rfl
  ka_step := sysStep_keyagent
  pre_of_agent _ := trivial

/-- What was judged of a single thread holds at the end of its runs. -/
theorem seqView_runs {E : Step skcSig W} {α : Type} {p : Skc α} {Q : α → World W → Prop}
    {s t : World W} {a : α} (h : Sat (seqView E).logic p Q s) (hr : Runs (sysStep E 0) p s a t) :
    Q a t := h.runs hr

/-! ## Runs, call by call -/

section

variable {E : Step skcSig W} {i : Nat} {α β : Type} {s t : World W} {a : α}

theorem runs_keyagent {f : Keyagent → Skc α} (h : Runs (sysStep E i) (f s.keyagent) s a t) :
    Runs (sysStep E i) (Skc.keyagent >>= f) s a t := .step ⟨rfl, rfl⟩ h

theorem runs_modifyKeyagent {g : Keyagent → Keyagent} {f : Unit → Skc α}
    (h : Runs (sysStep E i) (f ()) { s with keyagent := g s.keyagent } a t) :
    Runs (sysStep E i) (Skc.modifyKeyagent g >>= f) s a t :=
  .step (show sysStep E i (.modifyKeyagent g) s () _ from rfl) h

theorem runs_deref {p : Option β} {b : β} {reason : String} {f : β → Skc α} (hp : p = some b)
    (h : Runs (sysStep E i) (f b) s a t) :
    Runs (sysStep E i) (Skc.deref p reason >>= f) s a t := by
  rw [hp]
  exact h

/-- Nothing stops a function that only reads and writes the agent's variables. -/
theorem exists_runs_own {R : Keyagent → Keyagent → Prop} (hrefl : ∀ k, R k k)
    (htrans : ∀ {k k' k''}, R k k' → R k' k'' → R k k'') {p : Skc α}
    (hp : p.Issues (AgentView.OwnCall R)) (s : World W) :
    ∃ a t, Runs (sysStep E i) p s a t ∧ R s.keyagent t.keyagent := by
  induction p generalizing s with
  | ret a => exact ⟨a, s, .pure a s, hrefl _⟩
  | call c k ih =>
    obtain ⟨hc, hk⟩ := hp
    cases c with
    | getKeyagent =>
      obtain ⟨a, t, ht, hR⟩ := ih s.keyagent (hk _) s
      exact ⟨a, t, .step ⟨rfl, rfl⟩ ht, hR⟩
    | modifyKeyagent f =>
      obtain ⟨a, t, ht, hR⟩ := ih () (hk _) { s with keyagent := f s.keyagent }
      exact ⟨a, t, .step (show sysStep E i (.modifyKeyagent f) s () _ from rfl) ht,
        htrans (hc _) hR⟩
    | _ => exact hc.elim

end

/--
A single thread with an observation of its run. What is done to the agent's variables is not
observed.
-/
def observedView (E : Step skcSig W) {τ : Type} (obs : (c : Call) → World W → c.Ans → τ → τ)
    (pre : Call → World W × τ → Prop)
    (hget : ∀ s a w, obs .getKeyagent s a w = w)
    (hmodify : ∀ f s a w, obs (.modifyKeyagent f) s a w = w)
    (hforeach : ∀ s a w, obs .foreachSession s a w = w)
    (hpre : ∀ {c x}, c.Agent → pre c x) : AgentView (World W × τ) where
  step := (sysStep E 0).observed obs
  pre := pre
  ka x := x.1.keyagent
  put x k := ({ x.1 with keyagent := k }, x.2)
  ka_put _ _ := rfl
  put_put _ _ _ := rfl
  put_ka _ := rfl
  getKeyagent {x a y} := by
    rw [Step.observed_iff, hget, Prod.ext_iff]
    exact and_assoc
  modifyKeyagent {f x y} := by
    rw [Step.observed_iff, hmodify, Prod.ext_iff]
    exact Iff.rfl
  foreachSession {x l y} := by
    rw [Step.observed_iff, hforeach, Prod.ext_iff]
    exact and_assoc
  ka_step hs hc := sysStep_keyagent hs.1 hc
  pre_of_agent := hpre

/-- The cache is not observed if its `INSERT`s are not. -/
theorem observedView_quiet {E : Step skcSig W} {τ : Type}
    {obs : (c : Call) → World W → c.Ans → τ → τ} {pre : Call → World W × τ → Prop}
    {hget : ∀ s a w, obs .getKeyagent s a w = w}
    {hmodify : ∀ f s a w, obs (.modifyKeyagent f) s a w = w}
    {hforeach : ∀ s a w, obs .foreachSession s a w = w}
    {hpre : ∀ {c x}, c.Agent → pre c x} {R : Keyagent → Keyagent → Prop}
    {x y : World W × τ} (hrow : ∀ table s a w, obs (.insertRow table) s a w = w)
    (h : (observedView E obs pre hget hmodify hforeach hpre).Quiet R x y) : y.2 = x.2 := by
  refine h.induction (J := fun z => z.2 = x.2) (fun hz hst => ?_) (fun hz _ => hz) rfl
  rw [hst.2, hrow, hz]

/-- Executable surroundings, as a handler of all calls. -/
def sysHandler (h : (c : Call) → W → Option (c.Ans × W)) (i : Nat) :
    (c : Call) → World W → Option (c.Ans × World W) := fun c s =>
  match c with
  | .getKeyagent => some (s.keyagent, s)
  | .modifyKeyagent f => some ((), { s with keyagent := f s.keyagent })
  | .foreachSession => some (s.keyagent.sessionHash.values, s)
  | .getApimodule => some (s.apimodule, s)
  | .writeToken atoken f => some ((), { s with apimodule := s.apimodule.mapToken atoken f })
  | .cacheToken token =>
    some (s.apimodule.tokens.length, { s with apimodule := s.apimodule.addToken token })
  | .atomicIntAdd =>
    some (s.apimodule.preloadKeysFlag, { s with apimodule := s.apimodule.addFlag })
  | .rwLockWriterLock =>
    match s.rwlock with
    | none => some ((), { s with rwlock := some i })
    | some _ => none
  | .rwLockWriterUnlock => some ((), { s with rwlock := none })
  | c =>
    match h c s.env with
    | none => none
    | some (a, w) => some (a, { s with env := w })

/-- An array that happens to hold zeros. -/
def zeroBytes (n : Nat) : Uninitialised n := ⟨List.replicate n 0, List.length_replicate⟩

/-- The handler does what the system allows. -/
theorem sysHandler_step {h : (c : Call) → W → Option (c.Ans × W)} {E : Step skcSig W}
    (hE : ∀ c w a w', h c w = some (a, w') → E c w a w') {i : Nat} {c : Call} {s t : World W}
    {a : c.Ans} (hc : sysHandler h i c s = some (a, t)) : sysStep E i c s a t := by
  by_cases hi : c.Internal
  · cases c <;> try exact hi.elim
    case foreachSession =>
      simp only [sysHandler, Option.some.injEq, Prod.mk.injEq] at hc
      exact ⟨hc.1 ▸ List.Perm.refl _, hc.2.symm⟩
    case rwLockWriterLock =>
      simp only [sysHandler] at hc
      split at hc
      · next hl =>
        simp only [Option.some.injEq, Prod.mk.injEq] at hc
        exact ⟨hl, hc.2.symm⟩
      · simp at hc
    all_goals
      simp only [sysHandler, Option.some.injEq, Prod.mk.injEq] at hc
      first | exact hc.2.symm | exact ⟨hc.1.symm, hc.2.symm⟩
  · cases c <;> try exact absurd trivial hi
    all_goals
      simp only [sysHandler] at hc
      split at hc
      · simp at hc
      · next b w hb =>
        simp only [Option.some.injEq, Prod.mk.injEq] at hc
        obtain ⟨rfl, rfl⟩ := hc
        first | exact ⟨w, hE _ _ _ _ hb, rfl⟩ | exact ⟨w, s.apimodule, hE _ _ _ _ hb, rfl⟩

/-- A handler answers as the environment that it defines. -/
theorem sysHandler_answers {h : (c : Call) → W → Option (c.Ans × W)} {i : Nat} (c : Call)
    (s : World W) (a : c.Ans) (t : World W) (hc : sysHandler h i c s = some (a, t)) :
    sysStep (fun c w a w' => h c w = some (a, w')) i c s a t :=
  sysHandler_step (fun _ _ _ _ hw => hw) hc

end SkcLibrary
