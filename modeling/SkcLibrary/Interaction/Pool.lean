import SkcLibrary.Interaction.Sat
import Mathlib.Logic.Function.Basic
import Mathlib.Logic.Relation

/-!
# Threads that share a state

A pool runs one program per index; a step lets one of them issue its next operation. What a
thread is judged to do alone, with the others held to its rely, it does in the pool as soon as
every thread's guarantee is within every other thread's rely.
-/

namespace Interaction

variable {ι : Type} {S : Sig} {σ α : Type}

/-- Programs that share a state. -/
structure Pool (ι : Type) (S : Sig) (σ α : Type) where
  threads : ι → Prog S α
  state : σ

namespace Pool

/-- The result of a thread that has returned. -/
def result (p : Pool ι S σ α) (i : ι) : Option α :=
  match p.threads i with
  | .ret a => some a
  | .call _ _ => none

section

variable {K : Logic S σ} {Q : α → σ → Prop} {q : Pool ι S σ α} {j : ι}

/-- Every operation of a thread is issued in a state that satisfies its precondition. -/
theorem pre_of_sat {c : S.Op} {k : S.Ans c → Prog S α} (h : Sat K (q.threads j) Q q.state)
    (hc : q.threads j = .call c k) : K.pre c q.state := by
  rw [hc] at h
  exact (h q.state (K.rely.refl _)).1

/-- Every result of a thread satisfies the postcondition. -/
theorem result_of_sat {a : α} (h : Sat K (q.threads j) Q q.state) (hc : q.result j = some a) :
    Q a q.state := by
  unfold result at hc
  split at hc
  · next b hb =>
    rw [hb] at h
    rw [Option.some.injEq] at hc
    rw [← hc]
    exact h q.state (K.rely.refl _)
  · simp at hc

end

variable [DecidableEq ι]

/-- Thread `i` goes on as `q`, leaving the state `s`. -/
def set (p : Pool ι S σ α) (i : ι) (q : Prog S α) (s : σ) : Pool ι S σ α :=
  ⟨Function.update p.threads i q, s⟩

@[simp] theorem set_state (p : Pool ι S σ α) (i : ι) (q : Prog S α) (s : σ) :
    (p.set i q s).state = s := rfl

@[simp] theorem set_threads_self (p : Pool ι S σ α) (i : ι) (q : Prog S α) (s : σ) :
    (p.set i q s).threads i = q := by
  simp only [set, Function.update_self]

theorem set_threads_ne (p : Pool ι S σ α) {i j : ι} (q : Prog S α) (s : σ) (h : j ≠ i) :
    (p.set i q s).threads j = p.threads j := by
  simp only [set, Function.update_of_ne h]

/-- One thread issues its next operation. `R i` is what the operations of thread `i` do. -/
inductive Next (R : ι → Step S σ) (p : Pool ι S σ α) : Pool ι S σ α → Prop where
  | call {i : ι} {c : S.Op} {k : S.Ans c → Prog S α} {a : S.Ans c} {s : σ} :
      p.threads i = .call c k → R i c p.state a s → Next R p (p.set i (k a) s)

/-- The pools that an interleaving leads to. -/
abbrev Reach (R : ι → Step S σ) : Pool ι S σ α → Pool ι S σ α → Prop :=
  Relation.ReflTransGen (Next R)

/-! ## Parallel composition -/

section Parallel

variable {R : ι → Step S σ} {K : ι → Logic S σ} {Q : ι → α → σ → Prop} {p q : Pool ι S σ α}

/-- **The rule of parallel composition.** -/
theorem sat_reach (hstep : ∀ i c s a t, R i c s a t → (K i).step c s a t)
    (hrely : ∀ i j, i ≠ j → ∀ s t, (K i).guar s t → (K j).rely.rel s t)
    (hp : ∀ i, Sat (K i) (p.threads i) (Q i) p.state) (hr : Reach R p q) (j : ι) :
    Sat (K j) (q.threads j) (Q j) q.state := by
  induction hr generalizing j with
  | refl => exact hp j
  | @tail r _ _ hn ih =>
    obtain @⟨i, c, k, a, t, hc, hs⟩ := hn
    have hi := ih i
    rw [hc] at hi
    have hi' := ((hi r.state ((K i).rely.refl _)).2 a t (hstep _ _ _ _ _ hs))
    by_cases hij : j = i
    · subst hij
      rw [set_threads_self]
      exact hi'.2
    · rw [set_threads_ne r _ _ hij]
      exact (ih j).stable (hrely i j (Ne.symm hij) _ _ hi'.1)

/-- What every guarantee keeps holds in every state that an interleaving leads to. -/
theorem inv_reach {Inv : σ → Prop} (hstep : ∀ i c s a t, R i c s a t → (K i).step c s a t)
    (hrely : ∀ i j, i ≠ j → ∀ s t, (K i).guar s t → (K j).rely.rel s t)
    (hinv : ∀ i s t, (K i).guar s t → Inv s → Inv t)
    (hp : ∀ i, Sat (K i) (p.threads i) (Q i) p.state) (h : Inv p.state) (hr : Reach R p q) :
    Inv q.state := by
  induction hr with
  | refl => exact h
  | @tail r _ hr hn ih =>
    obtain @⟨i, c, k, a, t, hc, hs⟩ := hn
    have hi := sat_reach hstep hrely hp hr i
    rw [hc] at hi
    exact hinv i _ _ ((hi r.state ((K i).rely.refl _)).2 a t (hstep _ _ _ _ _ hs)).1 ih

end Parallel

/-! ## Waiting for ever -/

/--
Threads that do what keeps `I` until they come to an operation that is never answered where `I` holds: they
stop there, all of them, for ever.
-/
theorem stopped_reach {R : ι → Step S σ} {stop P : S.Op → Prop} {I : σ → Prop} {p q : Pool ι S σ α}
    (hstop : ∀ {i c s a t}, stop c → I s → ¬R i c s a t)
    (hstep : ∀ {i c s a t}, P c → I s → R i c s a t → I t)
    (hp : ∀ i, (p.threads i).IssuesUntil stop P) (hI : I p.state) (hr : Reach R p q) :
    I q.state ∧ (∀ i, (q.threads i).IssuesUntil stop P) ∧
      ∀ i c k, p.threads i = .call c k → stop c → q.threads i = .call c k := by
  induction hr with
  | refl => exact ⟨hI, hp, fun _ _ _ h _ => h⟩
  | @tail r _ _ hn ih =>
    obtain @⟨i, c, k, a, t, hc, hs⟩ := hn
    obtain ⟨hI, hr, hwait⟩ := ih
    have hi := hr i
    rw [hc] at hi
    obtain ⟨hP, hk⟩ := hi.resolve_left fun h => hstop h hI hs
    refine ⟨hstep hP hI hs, fun j => ?_, fun j d l hj hd => ?_⟩
    · by_cases hij : j = i
      · subst hij
        rw [set_threads_self]
        exact hk a
      · rw [set_threads_ne r _ _ hij]
        exact hr j
    · have hne : j ≠ i := by
        rintro rfl
        obtain ⟨rfl, -⟩ := Prog.call.inj (hc.symm.trans (hwait j d l hj hd))
        exact hstop hd hI hs
      rw [set_threads_ne r _ _ hne]
      exact hwait j d l hj hd

/-! ## What a scheduler can bring about -/

/-- A thread is at an operation at which it stops for good. -/
def Halted (halts : S.Op → σ → Prop) (p : Pool ι S σ α) (i : ι) : Prop :=
  ∃ c k, p.threads i = .call c k ∧ halts c p.state

/-- By choosing who runs one gets to a pool with `P`, whatever the answers are. -/
inductive Forces (R : ι → Step S σ) (P : Pool ι S σ α → Prop) : Pool ι S σ α → Prop where
  | done {p : Pool ι S σ α} : P p → Forces R P p
  | step {p : Pool ι S σ α} {i : ι} {c : S.Op} {k : S.Ans c → Prog S α} :
      p.threads i = .call c k → (∃ a t, R i c p.state a t) →
      (∀ a t, R i c p.state a t → Forces R P (p.set i (k a) t)) → Forces R P p

section Forces

variable {R : ι → Step S σ} {P P' : Pool ι S σ α → Prop} {p : Pool ι S σ α}

theorem Forces.bind (h : Forces R P p) (hP : ∀ q, P q → Forces R P' q) : Forces R P' p := by
  induction h with
  | done hp => exact hP _ hp
  | step hc hs _ ih => exact .step hc hs ih

theorem Forces.mono (h : Forces R P p) (hP : ∀ q, P q → P' q) : Forces R P' p :=
  h.bind fun q hq => .done (hP q hq)

end Forces

/-! ## Executable interleavings -/

/-- Thread `i` issues up to `n` operations. -/
def advance (h : ι → (c : S.Op) → σ → Option (S.Ans c × σ)) (i : ι) :
    Nat → Pool ι S σ α → Option (Pool ι S σ α)
  | 0, p => some p
  | n + 1, p =>
    match p.threads i with
    | .ret _ => some p
    | .call c k =>
      match h i c p.state with
      | none => none
      | some (a, s) => advance h i n (p.set i (k a) s)

/-- Follow a schedule: which thread runs, and how many operations it issues. -/
def schedule (h : ι → (c : S.Op) → σ → Option (S.Ans c × σ)) :
    List (ι × Nat) → Pool ι S σ α → Option (Pool ι S σ α)
  | [], p => some p
  | (i, n) :: rest, p =>
    match advance h i n p with
    | none => none
    | some p => schedule h rest p

variable {R : ι → Step S σ} {h : ι → (c : S.Op) → σ → Option (S.Ans c × σ)}

theorem advance_reach (hR : ∀ i c s a t, h i c s = some (a, t) → R i c s a t) {i : ι} {n : Nat}
    {p q : Pool ι S σ α} (hq : advance h i n p = some q) : Reach R p q := by
  induction n generalizing p with
  | zero =>
    simp only [advance, Option.some.injEq] at hq
    rw [hq]
  | succ n ih =>
    simp only [advance] at hq
    split at hq
    · rw [Option.some.injEq] at hq
      rw [hq]
    · next c k hc =>
      split at hq
      · simp at hq
      · next a s hs => exact (ih hq).head (.call hc (hR _ _ _ _ _ hs))

/-- A schedule is an interleaving. -/
theorem schedule_reach (hR : ∀ i c s a t, h i c s = some (a, t) → R i c s a t)
    {l : List (ι × Nat)} {p q : Pool ι S σ α} (hq : schedule h l p = some q) : Reach R p q := by
  induction l generalizing p with
  | nil =>
    simp only [schedule, Option.some.injEq] at hq
    rw [hq]
  | cons e l ih =>
    simp only [schedule] at hq
    split at hq
    · simp at hq
    · next p' hp' => exact (advance_reach hR hp').trans (ih hq)

end Pool

end Interaction
