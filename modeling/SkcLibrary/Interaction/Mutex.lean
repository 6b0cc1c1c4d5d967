import SkcLibrary.Interaction.Pool

/-!
# A lock that threads share

The thread that holds the lock may change what the lock protects; the others leave it alone until
the lock is free again. What is a thread's own they always leave alone. `Mutex.logic` is the setting
of one thread among others that keep to this.

* `sat_outside` — a part of a program that does without the lock
* `sat_acquire`, `sat_release` — the operations on the lock
* `sat_inside` — what runs between them is judged as if it ran alone, over what is protected
* `sat_reach`, `always_reach` — all threads together
* `Waits.drain` — no deadlock
-/

namespace Interaction

variable {ι : Type} {S : Sig} {σ τ α : Type}

/-- A lock, as far as it is seen in the state. -/
structure Mutex (ι σ : Type) where
  /-- The thread that holds the lock. -/
  holder : σ → Option ι
  /-- What a thread may do without the lock. -/
  outside : Rely σ
  /-- What every step does. -/
  always : Rely σ
  /-- What the steps of others do to what is a thread's own. -/
  own : ι → Rely σ := fun _ => .any

namespace Mutex

variable (M : Mutex ι σ) (i : ι)

/-- What the others do, whoever holds the lock. -/
def others : Rely σ where
  rel s t := M.always.rel s t ∧ (M.own i).rel s t
  refl s := ⟨M.always.refl s, (M.own i).refl s⟩
  trans h h' := ⟨M.always.trans h.1 h'.1, (M.own i).trans h.2 h'.2⟩

/-- What the others do. -/
def rely : Rely σ where
  rel s t := (M.others i).rel s t ∧
    (M.holder s = some i → M.holder t = some i ∧ M.outside.rel s t) ∧
    (M.holder s ≠ some i → M.holder t ≠ some i)
  refl s := ⟨(M.others i).refl s, fun h => ⟨h, M.outside.refl s⟩, id⟩
  trans h h' := by
    refine ⟨(M.others i).trans h.1 h'.1, fun hs => ?_, fun hs => h'.2.2 (h.2.2 hs)⟩
    obtain ⟨ht, hout⟩ := h.2.1 hs
    obtain ⟨hu, hout'⟩ := h'.2.1 ht
    exact ⟨hu, M.outside.trans hout hout'⟩

/-- What a step of the thread does to the lock. -/
inductive Turn (s t : σ) : Prop where
  | inside : M.holder s = some i → M.holder t = some i → Turn s t
  | release : M.holder s = some i → M.holder t = none → Turn s t
  | outside : M.holder s ≠ some i → M.holder t = M.holder s → M.outside.rel s t → Turn s t
  | acquire : M.holder s = none → M.holder t = some i → Turn s t

/-- What a step of the thread does, whoever holds the lock. -/
def keeps (s t : σ) : Prop := M.always.rel s t ∧ ∀ j, i ≠ j → (M.own j).rel s t

/-- What a step of the thread does. -/
def guar (s t : σ) : Prop := M.keeps i s t ∧ M.Turn i s t

/-- The setting of one thread. -/
@[simps] def logic (R : ι → Step S σ) (pre : ι → S.Op → σ → Prop) : Logic S σ where
  step := R i
  rely := M.rely i
  guar := M.guar i
  pre := pre i

variable {M i} {j : ι} {s t : σ}

theorem keeps_refl (s : σ) : M.keeps i s s := ⟨M.always.refl s, fun j _ => (M.own j).refl s⟩

/-- What a thread does is what the others expect. -/
theorem rely_of_guar (hij : i ≠ j) (h : M.guar i s t) : (M.rely j).rel s t := by
  have hne : some i ≠ some j := fun he => hij (Option.some.inj he)
  refine ⟨⟨h.1.1, h.1.2 j hij⟩, fun hs => ?_, fun hs => ?_⟩
  · cases h.2 with
    | inside hi _ => exact absurd (hi.symm.trans hs) hne
    | release hi _ => exact absurd (hi.symm.trans hs) hne
    | outside _ ht hout => exact ⟨ht.trans hs, hout⟩
    | acquire hi _ => exact absurd (hi.symm.trans hs) nofun
  · cases h.2 with
    | inside _ ht => rw [ht]; exact hne
    | release _ ht => rw [ht]; exact nofun
    | outside _ ht _ => rw [ht]; exact hs
    | acquire _ ht => rw [ht]; exact hne

/-! ## One thread -/

section Thread

variable {R : ι → Step S σ} {pre : ι → S.Op → σ → Prop} {p : Prog S α} {Q : α → σ → Prop}
  {J : σ → Prop}

/-- An assertion that the others keep, together with not holding the lock. -/
theorem stable_outside (hJ : ∀ {s t}, J s → (M.others i).rel s t → J t) :
    Stable (M.logic i R pre) fun s => M.holder s ≠ some i ∧ J s :=
  fun _ _ h hr => ⟨hr.2.2 h.1, hJ h.2 hr.1⟩

/-- An assertion that the others keep while the thread holds the lock. -/
theorem stable_inside
    (hJ : ∀ {s t}, J s → (M.others i).rel s t → M.outside.rel s t → J t) :
    Stable (M.logic i R pre) fun s => M.holder s = some i ∧ J s :=
  fun _ _ h hr => ⟨(hr.2.1 h.1).1, hJ h.2 hr.1 (hr.2.1 h.1).2⟩

/-- The lock is taken. -/
theorem sat_acquire {c : S.Op} {k : S.Ans c → Prog S α}
    (hJ : ∀ {s t}, J s → (M.others i).rel s t → J t)
    (h : ∀ t, J t → M.holder t ≠ some i → pre i c t ∧ ∀ a u, R i c t a u →
      (M.keeps i t u ∧ M.holder t = none ∧ M.holder u = some i) ∧
        Sat (M.logic i R pre) (k a) Q u)
    (hs : M.holder s ≠ some i) (hJs : J s) : Sat (M.logic i R pre) (.call c k) Q s := by
  intro t ht
  have hstable : Stable (M.logic i R pre) fun s => M.holder s ≠ some i ∧ J s := stable_outside hJ
  obtain ⟨hne, hJt⟩ := hstable s t ⟨hs, hJs⟩ ht
  obtain ⟨hpre, hstep⟩ := h t hJt hne
  refine ⟨hpre, fun a u hu => ?_⟩
  obtain ⟨⟨hkeeps, hfree, hheld⟩, hk⟩ := hstep a u hu
  exact ⟨⟨hkeeps, .acquire hfree hheld⟩, hk⟩

/-- The lock is given back. -/
theorem sat_release {c : S.Op} {k : S.Ans c → Prog S α}
    (hJ : ∀ {s t}, J s → (M.others i).rel s t → M.outside.rel s t → J t)
    (h : ∀ t, J t → M.holder t = some i → pre i c t ∧ ∀ a u, R i c t a u →
      (M.keeps i t u ∧ M.holder u = none) ∧ Sat (M.logic i R pre) (k a) Q u)
    (hs : M.holder s = some i) (hJs : J s) : Sat (M.logic i R pre) (.call c k) Q s := by
  intro t ht
  have hstable : Stable (M.logic i R pre) fun s => M.holder s = some i ∧ J s := stable_inside hJ
  obtain ⟨hheld, hJt⟩ := hstable s t ⟨hs, hJs⟩ ht
  obtain ⟨hpre, hstep⟩ := h t hJt hheld
  refine ⟨hpre, fun a u hu => ?_⟩
  obtain ⟨⟨hkeeps, hfree⟩, hk⟩ := hstep a u hu
  exact ⟨⟨hkeeps, .release hheld hfree⟩, hk⟩

variable {L : Logic S τ} {rel : σ → τ → Prop} {P : α → τ → Prop} {x : τ}

/-- **With the lock.** The program is judged over an abstract state, which the others keep. -/
theorem sat_inside
    (hrel : ∀ {s t y}, rel s y → (M.others i).rel s t → M.outside.rel s t → rel t y)
    (hstep : ∀ c y s, L.pre c y → M.holder s = some i → rel s y → pre i c s ∧ ∀ a t, R i c s a t →
      M.holder t = some i ∧ M.keeps i s t ∧ ∃ z, L.step c y a z ∧ rel t z)
    (hp : Sat L p P x) (hs : M.holder s = some i) (hx : rel s x) :
    Sat (M.logic i R pre) p (fun a t => M.holder t = some i ∧ ∃ y, rel t y ∧ P a y) s := by
  have hstable : ∀ y, Stable (M.logic i R pre) fun s => M.holder s = some i ∧ rel s y :=
    fun _ => stable_inside hrel
  refine (hp.simulate hstable (fun c y hpre s hs => ?_) ⟨hs, hx⟩).mono fun a t ht => ?_
  · obtain ⟨hpre, hstep⟩ := hstep c y s hpre hs.1 hs.2
    refine ⟨hpre, fun a t ht => ?_⟩
    obtain ⟨hheld, hkeeps, z, hz, hrelz⟩ := hstep a t ht
    exact ⟨⟨hkeeps, .inside hs.1 hheld⟩, z, hz, hheld, hrelz⟩
  · obtain ⟨y, ⟨hheld, hy⟩, hPy⟩ := ht
    exact ⟨hheld, y, hy, hPy⟩

/-- **Without the lock.** Only what every step keeps is known, and what is the thread's own. -/
theorem sat_outside (hrel : ∀ {s t y}, rel s y → (M.others i).rel s t → rel t y)
    (hstep : ∀ c y s, L.pre c y → M.holder s ≠ some i → rel s y → pre i c s ∧ ∀ a t, R i c s a t →
      M.holder t = M.holder s ∧ M.outside.rel s t ∧ M.keeps i s t ∧ ∃ z, L.step c y a z ∧ rel t z)
    (hp : Sat L p P x) (hs : M.holder s ≠ some i) (hx : rel s x) :
    Sat (M.logic i R pre) p (fun a t => M.holder t ≠ some i ∧ ∃ y, rel t y ∧ P a y) s := by
  have hstable : ∀ y, Stable (M.logic i R pre) fun s => M.holder s ≠ some i ∧ rel s y :=
    fun _ => stable_outside hrel
  refine (hp.simulate hstable (fun c y hpre s hs => ?_) ⟨hs, hx⟩).mono fun a t ht => ?_
  · obtain ⟨hpre, hstep⟩ := hstep c y s hpre hs.1 hs.2
    refine ⟨hpre, fun a t ht => ?_⟩
    obtain ⟨hsame, hout, hkeeps, z, hz, hrelz⟩ := hstep a t ht
    refine ⟨⟨hkeeps, .outside hs.1 hsame hout⟩, z, hz, ?_, hrelz⟩
    rw [hsame]
    exact hs.1
  · obtain ⟨y, ⟨hne, hy⟩, hPy⟩ := ht
    exact ⟨hne, y, hy, hPy⟩

end Thread

/-! ## All threads -/

section Threads

variable [DecidableEq ι] {R : ι → Step S σ} {pre : ι → S.Op → σ → Prop} {Q : ι → α → σ → Prop}
  {p q : Pool ι S σ α}

/-- What each thread was judged to do among the others, it does. -/
theorem sat_reach (hp : ∀ i, Sat (M.logic i R pre) (p.threads i) (Q i) p.state)
    (hr : Pool.Reach R p q) (j : ι) : Sat (M.logic j R pre) (q.threads j) (Q j) q.state :=
  Pool.sat_reach (K := fun i => M.logic i R pre) (fun _ _ _ _ _ h => h)
    (fun _ _ hij _ _ => rely_of_guar hij) hp hr j

/-- What every step does, a run does. -/
theorem always_reach (hp : ∀ i, Sat (M.logic i R pre) (p.threads i) (Q i) p.state)
    (hr : Pool.Reach R p q) : M.always.rel p.state q.state :=
  Pool.inv_reach (K := fun i => M.logic i R pre) (fun _ _ _ _ _ h => h)
    (fun _ _ hij _ _ => rely_of_guar hij) (fun _ _ _ h hs => M.always.trans hs h.1.1) hp
    (M.always.refl _) hr

end Threads

/-! ## No deadlock -/

/-- What makes a lock one that threads wait for, and nothing else. -/
structure Waits (M : Mutex ι σ) (R : ι → Step S σ) (pre : ι → S.Op → σ → Prop)
    (acquires : S.Op → Prop) (halts : S.Op → σ → Prop) : Prop where
  /-- A thread does not ask for the lock that it holds. -/
  acquire : ∀ {i c s}, pre i c s → acquires c → M.holder s ≠ some i
  /-- Whatever else a thread asks for, it gets. -/
  step : ∀ {i c s}, pre i c s → ¬halts c s → (acquires c → M.holder s = none) → ∃ a t, R i c s a t

/-- A step of the thread that may hold the lock leaves it to that thread, or free. -/
theorem Turn.held {M : Mutex ι σ} {i : ι} {s t : σ} (h : M.Turn i s t)
    (hs : ∀ j, M.holder s = some j → j = i) : ∀ j, M.holder t = some j → j = i := by
  intro j hj
  cases h with
  | inside _ ht => exact Option.some.inj (hj.symm.trans ht)
  | release _ ht => exact absurd (hj.symm.trans ht) nofun
  | outside _ ht _ => exact hs j (ht ▸ hj)
  | acquire _ ht => exact Option.some.inj (hj.symm.trans ht)

section Drain

variable [DecidableEq ι] {M : Mutex ι σ} {R : ι → Step S σ} {pre : ι → S.Op → σ → Prop}
  {p : Pool ι S σ α} {i : ι} {acquires : S.Op → Prop} {halts : S.Op → σ → Prop}

/-- The threads give the lock back before they return. -/
def Returning (M : Mutex ι σ) (R : ι → Step S σ) (pre : ι → S.Op → σ → Prop)
    (p : Pool ι S σ α) : Prop :=
  ∀ i, Sat (M.logic i R pre) (p.threads i) (fun _ s => M.holder s ≠ some i) p.state

theorem Returning.next {c : S.Op} {k : S.Ans c → Prog S α} {a : S.Ans c} {t : σ}
    (h : Returning M R pre p) (hp : p.threads i = .call c k) (hstep : R i c p.state a t) :
    M.guar i p.state t ∧ Returning M R pre (p.set i (k a) t) := by
  have hi := h i
  rw [hp] at hi
  exact ⟨((hi p.state ((M.logic i R pre).rely.refl _)).2 a t hstep).1,
    sat_reach h (.single (.call hp hstep))⟩

/-- A thread that need not wait for another runs to its end. -/
theorem Waits.forces (hw : Waits M R pre acquires halts) (h : Returning M R pre p)
    (hfree : ∀ j, M.holder p.state = some j → j = i) :
    Pool.Forces R (fun q => Returning M R pre q ∧
      ((q.result i).isSome ∧ M.holder q.state = none ∨ q.Halted halts i)) p := by
  -- induction on what the thread has still to do
  generalize hp : p.threads i = prog
  induction prog generalizing p with
  | ret a =>
    refine .done ⟨h, .inl ⟨?_, ?_⟩⟩
    · rw [Pool.result, hp]
      rfl
    · have hi := h i
      rw [hp] at hi
      refine Option.eq_none_iff_forall_ne_some.mpr fun j hj => ?_
      obtain rfl := hfree j hj
      exact hi p.state ((M.logic j R pre).rely.refl _) hj
  | call c k ih =>
    have hpre : pre i c p.state := Pool.pre_of_sat (h i) hp
    by_cases hhalt : halts c p.state
    · exact .done ⟨h, .inr ⟨c, k, hp, hhalt⟩⟩
    · have hlock : acquires c → M.holder p.state = none := by
        intro hc
        refine Option.eq_none_iff_forall_ne_some.mpr fun j hj => ?_
        obtain rfl := hfree j hj
        exact hw.acquire hpre hc hj
      refine .step hp (hw.step hpre hhalt hlock) fun a t hstep => ?_
      obtain ⟨hguar, hnext⟩ := h.next hp hstep
      exact ih a hnext (hguar.2.held hfree) (Pool.set_threads_self _ _ _ _)

/-- **No deadlock.** Every thread can be run to its end, the one that holds the lock first. -/
theorem Waits.drain (hw : Waits M R pre acquires halts) (h : Returning M R pre p) (i : ι) :
    Pool.Forces R (fun q => (q.result i).isSome ∨ ∃ j, q.Halted halts j) p := by
  have hlast : ∀ {q : Pool ι S σ α}, Returning M R pre q → M.holder q.state = none →
      Pool.Forces R (fun q => (q.result i).isSome ∨ ∃ j, q.Halted halts j) q := by
    intro q hq hfree
    refine (hw.forces hq (i := i) fun j hj => absurd (hfree.symm.trans hj) nofun).mono ?_
    exact fun r hr => hr.2.imp And.left fun hhalt => ⟨i, hhalt⟩
  cases hheld : M.holder p.state with
  | none => exact hlast h hheld
  | some j =>
    refine (hw.forces h (i := j) fun j' hj' => Option.some.inj (hj'.symm.trans hheld)).bind ?_
    rintro q ⟨hq, ⟨-, hfree⟩ | hhalt⟩
    · exact hlast hq hfree
    · exact .done (.inr ⟨j, hhalt⟩)

end Drain

end Mutex

end Interaction
