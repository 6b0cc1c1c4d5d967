import SkcLibrary.Interaction.Prog

/-!
# Running a program, and what holds along the way

A step relation says which answers an operation can get in a state and which state follows.
Over it this module has

* `Exec` — the runs of a program, complete or cut off anywhere;
* `Sat` — a program logic: every operation is issued in a state that satisfies its
  precondition, the step keeps a guarantee, and the result satisfies a postcondition, while
  others may change the state between two operations as a *rely* allows;
* `Step.observed` — the same steps with an observation of the run kept beside the state, and
  `Step.restrict` — the steps that meet a condition;
* `Prog.run` — an executable run against a deterministic handler.

With `Rely.none` nobody else runs and `Sat` is a weakest precondition. Threads that share a
state are in `Interaction.Pool`.
-/

namespace Interaction

variable {S : Sig} {σ α β : Type}

/-- `R c s a s'`: issued in state `s`, the operation `c` can be answered `a`, leaving `s'`. -/
abbrev Step (S : Sig) (σ : Type) := (c : S.Op) → σ → S.Ans c → σ → Prop

/-! ## Runs -/

/-- From `p` in state `s` some number of operations leads to the rest `q` in state `t`. -/
inductive Exec (R : Step S σ) : Prog S α → σ → Prog S α → σ → Prop where
  | refl (p : Prog S α) (s : σ) : Exec R p s p s
  | step {c : S.Op} {k : S.Ans c → Prog S α} {a : S.Ans c} {s s' t : σ} {q : Prog S α} :
      R c s a s' → Exec R (k a) s' q t → Exec R (.call c k) s q t

/-- A complete run: `p` returns `a` in state `t`. -/
abbrev Runs (R : Step S σ) (p : Prog S α) (s : σ) (a : α) (t : σ) : Prop :=
  Exec R p s (pure a) t

namespace Exec

variable {R R' : Step S σ} {p q r : Prog S α} {s t u : σ}

theorem trans (h : Exec R p s q t) (h' : Exec R q t r u) : Exec R p s r u := by
  induction h with
  | refl => exact h'
  | step hs _ ih => exact .step hs (ih h')

theorem mono (hR : ∀ c s a s', R c s a s' → R' c s a s') (h : Exec R p s q t) :
    Exec R' p s q t := by
  induction h with
  | refl => exact .refl _ _
  | step hs _ ih => exact .step (hR _ _ _ _ hs) ih

theorem bind (f : α → Prog S β) (h : Exec R p s q t) : Exec R (p >>= f) s (q >>= f) t := by
  induction h with
  | refl => exact .refl _ _
  | step hs _ ih => exact .step hs ih

end Exec

/-- What a program has at its operations, it has at those of a run. -/
theorem Prog.AtCalls.exec {R : Step S σ} {P : (c : S.Op) → (S.Ans c → Prog S α) → Prop}
    {p : Prog S α} {s t : σ} {c : S.Op} {k : S.Ans c → Prog S α} (hp : p.AtCalls P)
    (h : Exec R p s (.call c k) t) : P c k := by
  generalize hq : Prog.call c k = q at h
  induction h with
  | refl =>
    rw [← hq] at hp
    exact hp.1
  | step _ _ ih => exact ih (hp.2 _) hq

/-- One operation of a run, from `a` to `b`. -/
def Prog.Next (R : Step S σ) (b a : Prog S α × σ) : Prop :=
  ∃ c k ans, a.1 = .call c k ∧ R c a.2 ans b.2 ∧ b.1 = k ans

/-- No run goes on for ever. -/
theorem Prog.acc_next (R : Step S σ) (p : Prog S α) (s : σ) : Acc (Prog.Next R) (p, s) := by
  induction p generalizing s with
  | ret a =>
    refine .intro _ fun b hb => ?_
    obtain ⟨c, k, ans, hp, -, -⟩ := hb
    cases hp
  | call c k ih =>
    refine .intro _ fun b hb => ?_
    obtain ⟨c', k', ans, hp, -, hq⟩ := hb
    cases hp
    obtain ⟨q, t⟩ := b
    obtain rfl : q = k ans := hq
    exact ih ans t

theorem Runs.pure {R : Step S σ} (a : α) (s : σ) : Runs R (Pure.pure a) s a s := .refl _ _

theorem Runs.bind {R : Step S σ} {p : Prog S α} {f : α → Prog S β} {s t u : σ} {a : α} {b : β}
    (h : Runs R p s a t) (h' : Runs R (f a) t b u) : Runs R (p >>= f) s b u :=
  (Exec.bind f h).trans h'

/-! ## The program logic -/

/-- What others may do to the state between two operations of a program. -/
structure Rely (σ : Type) where
  rel : σ → σ → Prop
  refl : ∀ s, rel s s
  trans : ∀ {a b c}, rel a b → rel b c → rel a c

/-- Nobody else runs. -/
def Rely.none : Rely σ := ⟨Eq, fun _ => rfl, Eq.trans⟩

@[simp] theorem Rely.none_rel {s t : σ} : (Rely.none : Rely σ).rel s t ↔ s = t := Iff.rfl

/-- Others may do anything. -/
def Rely.any : Rely σ := ⟨fun _ _ => True, fun _ => trivial, fun _ _ => trivial⟩

/-- The setting a program is judged in. -/
structure Logic (S : Sig) (σ : Type) where
  /-- What an operation does. -/
  step : Step S σ
  /-- What others may do between two operations. -/
  rely : Rely σ
  /-- What every step of the program must keep. -/
  guar : σ → σ → Prop
  /-- What must hold whenever an operation is issued. -/
  pre : S.Op → σ → Prop

/-- The setting in which the program runs alone. -/
@[simps] def Logic.seq (R : Step S σ) (pre : S.Op → σ → Prop) : Logic S σ where
  step := R
  rely := .none
  guar := fun _ _ => True
  pre := pre

/-- Started in the given state, the program meets its setting and ends with the postcondition. -/
def Sat (K : Logic S σ) : Prog S α → (α → σ → Prop) → σ → Prop
  | .ret a, Q, s => ∀ s', K.rely.rel s s' → Q a s'
  | .call c k, Q, s => ∀ s₁, K.rely.rel s s₁ →
      K.pre c s₁ ∧ ∀ a s₂, K.step c s₁ a s₂ → K.guar s₁ s₂ ∧ Sat K (k a) Q s₂

/-- An assertion that others cannot break. -/
def Stable (K : Logic S σ) (J : σ → Prop) : Prop := ∀ s s', J s → K.rely.rel s s' → J s'

/-- In a state that satisfies `P` the operation may be issued, keeps the guarantee, and leads to
`Q`. -/
def Logic.Triple (K : Logic S σ) (P : σ → Prop) (c : S.Op) (Q : S.Ans c → σ → Prop) : Prop :=
  ∀ s, P s → K.pre c s ∧ ∀ a t, K.step c s a t → K.guar s t ∧ Q a t

theorem Logic.Triple.conseq {K : Logic S σ} {P P' : σ → Prop} {c : S.Op}
    {Q Q' : S.Ans c → σ → Prop} (h : K.Triple P c Q) (hP : ∀ s, P' s → P s)
    (hQ : ∀ a t, Q a t → Q' a t) : K.Triple P' c Q' := fun s hs =>
  ⟨(h s (hP s hs)).1, fun a t ht =>
    ⟨((h s (hP s hs)).2 a t ht).1, hQ a t ((h s (hP s hs)).2 a t ht).2⟩⟩

namespace Sat

variable {K K' : Logic S σ} {p : Prog S α} {f : α → Prog S β} {Q Q' : α → σ → Prop}
  {s s' : σ}

/-- Judgements survive what others may do. -/
theorem stable (h : Sat K p Q s) (hr : K.rely.rel s s') : Sat K p Q s' := by
  cases p with
  | ret a => exact fun t ht => h t (K.rely.trans hr ht)
  | call c k => exact fun t ht => h t (K.rely.trans hr ht)

theorem mono (h : Sat K p Q s) (hQ : ∀ a t, Q a t → Q' a t) : Sat K p Q' s := by
  induction p generalizing s with
  | ret a => exact fun t ht => hQ a t (h t ht)
  | call c k ih =>
    intro t ht
    refine ⟨(h t ht).1, fun a u hu => ?_⟩
    exact ⟨((h t ht).2 a u hu).1, ih a ((h t ht).2 a u hu).2⟩

theorem bind_iff {Q' : β → σ → Prop} :
    Sat K (p >>= f) Q' s ↔ Sat K p (fun a t => Sat K (f a) Q' t) s := by
  induction p generalizing s with
  | ret a => exact ⟨fun h _ ht => h.stable ht, fun h => h s (K.rely.refl s)⟩
  | call c k ih =>
    constructor
    · intro h t ht
      refine ⟨(h t ht).1, fun a u hu => ?_⟩
      exact ⟨((h t ht).2 a u hu).1, (ih a).mp ((h t ht).2 a u hu).2⟩
    · intro h t ht
      refine ⟨(h t ht).1, fun a u hu => ?_⟩
      exact ⟨((h t ht).2 a u hu).1, (ih a).mpr ((h t ht).2 a u hu).2⟩

theorem bind {P : α → σ → Prop} {Q' : β → σ → Prop} (hp : Sat K p P s)
    (hf : ∀ a t, P a t → Sat K (f a) Q' t) : Sat K (p >>= f) Q' s :=
  bind_iff.mpr (hp.mono hf)

/-- One operation. -/
theorem call {P : σ → Prop} {c : S.Op} {k : S.Ans c → Prog S α} {R : S.Ans c → σ → Prop}
    (hP : Stable K P) (hc : K.Triple P c R) (hk : ∀ a t, R a t → Sat K (k a) Q t) (hs : P s) :
    Sat K (.call c k) Q s := by
  intro t ht
  obtain ⟨hpre, hstep⟩ := hc t (hP s t hs ht)
  exact ⟨hpre, fun a u hu => ⟨(hstep a u hu).1, hk a u (hstep a u hu).2⟩⟩

theorem pure {a : α} (h : ∀ t, K.rely.rel s t → Q a t) : Sat K (Pure.pure a) Q s := h

/-- Both postconditions hold at the end. -/
theorem and (h : Sat K p Q s) (h' : Sat K p Q' s) : Sat K p (fun a t => Q a t ∧ Q' a t) s := by
  induction p generalizing s with
  | ret a => exact fun t ht => ⟨h t ht, h' t ht⟩
  | call c k ih =>
    intro t ht
    refine ⟨(h t ht).1, fun a u hu => ?_⟩
    exact ⟨((h t ht).2 a u hu).1, ih a ((h t ht).2 a u hu).2 ((h' t ht).2 a u hu).2⟩

/-- What the text of a program says about its result. -/
theorem returns {R : α → Prop} (h : Sat K p Q s) (hp : p.Returns R) :
    Sat K p (fun a t => Q a t ∧ R a) s := by
  induction p generalizing s with
  | ret a => exact fun t ht => ⟨h t ht, hp⟩
  | call c k ih =>
    intro t ht
    refine ⟨(h t ht).1, fun a u hu => ?_⟩
    exact ⟨((h t ht).2 a u hu).1, ih a ((h t ht).2 a u hu).2 (hp a)⟩

/-- An assertion that every operation in `P` keeps holds throughout a program that issues only
those. -/
theorem of_issues {P : S.Op → Prop} {J : σ → Prop} (hp : p.Issues P) (hJ : Stable K J)
    (hstep : ∀ c, P c → K.Triple J c fun _ => J) (hs : J s) : Sat K p (fun _ t => J t) s := by
  induction p generalizing s with
  | ret a => exact fun t ht => hJ s t hs ht
  | call c k ih => exact call hJ (hstep c hp.1) (fun a t ht => ih a (hp.2 a) ht) hs

/-- The same of a program that issues others as well, if these are never answered. -/
theorem of_issuesUntil {stop P : S.Op → Prop} {J : σ → Prop} (hp : p.IssuesUntil stop P)
    (hJ : Stable K J) (hstop : ∀ c, stop c → K.Triple J c fun _ _ => False)
    (hstep : ∀ c, P c → K.Triple J c fun _ => J) (hs : J s) : Sat K p (fun _ t => J t) s := by
  induction p generalizing s with
  | ret a => exact fun t ht => hJ s t hs ht
  | call c k ih =>
    rcases hp with hc | ⟨hc, hk⟩
    · exact call hJ (hstop c hc) (fun _ _ h => h.elim) hs
    · exact call hJ (hstep c hc) (fun a t ht => ih a (hk a) ht) hs

/-- **Simulation.** What is judged over an abstract state holds over a concrete one, if the
concrete operations do what the abstract ones may do. -/
theorem simulate {τ : Type} {L : Logic S τ} {rel : σ → τ → Prop} {Q : α → τ → Prop} {x : τ}
    (hrely : ∀ y, Stable K (rel · y))
    (hstep : ∀ c y, L.pre c y → K.Triple (rel · y) c fun a t => ∃ z, L.step c y a z ∧ rel t z)
    (hp : Sat L p Q x) (hs : rel s x) : Sat K p (fun a t => ∃ y, rel t y ∧ Q a y) s := by
  induction p generalizing s x with
  | ret a => exact fun t ht => ⟨x, hrely x s t hs ht, hp x (L.rely.refl x)⟩
  | call c k ih =>
    have hx := hp x (L.rely.refl x)
    refine call (hrely x) (hstep c x hx.1) (fun a t ht => ?_) hs
    obtain ⟨y, hy, hrel⟩ := ht
    exact ih a (hx.2 a y hy).2 hrel

end Sat

/-- From every state with `I` the program meets its setting, and it ends in one with `I`. -/
def Maintains (K : Logic S σ) (I : σ → Prop) (p : Prog S α) : Prop :=
  ∀ s, I s → Sat K p (fun _ t => I t) s

namespace Maintains

variable {K : Logic S σ} {I : σ → Prop} {p : Prog S α} {f : α → Prog S β}

theorem pure (hI : Stable K I) (a : α) : Maintains K I (Pure.pure a : Prog S α) :=
  fun s hs t ht => hI s t hs ht

theorem bind (hp : Maintains K I p) (hf : ∀ a, Maintains K I (f a)) : Maintains K I (p >>= f) :=
  fun s hs => (hp s hs).bind fun a t ht => hf a t ht

theorem bindClosed (hI : Stable K I) : Prog.BindClosed fun _ (p : Prog S _) => Maintains K I p :=
  ⟨pure hI, bind⟩

theorem of_issues {P : S.Op → Prop} (hI : Stable K I) (hstep : ∀ c, P c → K.Triple I c fun _ => I)
    (hp : p.Issues P) : Maintains K I p := fun _ hs => Sat.of_issues hp hI hstep hs

/-- A program whose operations are replaced by programs that keep `I`. -/
theorem interp {T : Sig} {K : Logic T σ} {h : (c : S.Op) → Prog T (S.Ans c)} (hI : Stable K I)
    (hh : ∀ c, Maintains K I (h c)) (p : Prog S α) : Maintains K I (p.interp h) := by
  induction p with
  | ret a => exact .pure hI a
  | call c k ih => exact (hh c).bind ih

end Maintains

/-! ## Alone -/

section Seq

variable {R : Step S σ} {pre : S.Op → σ → Prop} {Q : α → σ → Prop} {s t : σ}

theorem stable_seq {J : σ → Prop} : Stable (.seq R pre) J := fun _ _ h hr => hr ▸ h

@[simp] theorem sat_seq_pure {a : α} :
    Sat (.seq R pre) (pure a : Prog S α) Q s ↔ Q a s :=
  ⟨fun h => h s rfl, fun h _ ht => ht ▸ h⟩

@[simp] theorem sat_seq_call {c : S.Op} {k : S.Ans c → Prog S α} :
    Sat (.seq R pre) (.call c k) Q s ↔
      pre c s ∧ ∀ a t, R c s a t → Sat (.seq R pre) (k a) Q t := by
  constructor
  · exact fun h => ⟨(h s rfl).1, fun a t ht => ((h s rfl).2 a t ht).2⟩
  · rintro h t rfl
    exact ⟨h.1, fun a u hu => ⟨trivial, h.2 a u hu⟩⟩

/-- What was judged at the start holds at every point of a run. -/
theorem Sat.exec {p q : Prog S α} (h : Sat (.seq R pre) p Q s) (he : Exec R p s q t) :
    Sat (.seq R pre) q Q t := by
  induction he with
  | refl => exact h
  | step hs _ ih => exact ih ((sat_seq_call.mp h).2 _ _ hs)

theorem Sat.runs {p : Prog S α} {a : α} (h : Sat (.seq R pre) p Q s) (he : Runs R p s a t) :
    Q a t := sat_seq_pure.mp (h.exec he)

/-- Every operation of a run is issued in a state that satisfies its precondition. -/
theorem Sat.issued {p : Prog S α} {c : S.Op} {k : S.Ans c → Prog S α}
    (h : Sat (.seq R pre) p Q s) (he : Exec R p s (.call c k) t) : pre c t :=
  (sat_seq_call.mp (h.exec he)).1

/-- Completeness: what every run satisfies can be judged at the start. -/
theorem sat_of_exec {p : Prog S α} (hpre : ∀ c k t, Exec R p s (.call c k) t → pre c t)
    (hQ : ∀ a t, Runs R p s a t → Q a t) : Sat (.seq R pre) p Q s := by
  induction p generalizing s with
  | ret a => exact sat_seq_pure.mpr (hQ a s (.refl _ _))
  | call c k ih =>
    refine sat_seq_call.mpr ⟨hpre c k s (.refl _ _), fun a u hu => ?_⟩
    exact ih a (fun c' k' t ht => hpre c' k' t (.step hu ht))
      (fun b t ht => hQ b t (.step hu ht))

/-- A run through two programs stops in between. -/
theorem Runs.bind_inv {p : Prog S α} {f : α → Prog S β} {b : β}
    (h : Runs R (p >>= f) s b t) : ∃ a u, Runs R p s a u ∧ Runs R (f a) u b t := by
  have hs : Sat (.seq R fun _ _ => True) (p >>= f)
      (fun b t => ∃ a u, Runs R p s a u ∧ Runs R (f a) u b t) s := by
    refine Sat.bind_iff.mpr (sat_of_exec (fun _ _ _ _ => trivial) fun a u hu => ?_)
    exact sat_of_exec (fun _ _ _ _ => trivial) fun b t ht => ⟨a, u, hu, ht⟩
  exact hs.runs h

end Seq

/-- What a program does whose operations are replaced by programs, the program itself may do. -/
theorem Sat.interp_runs {T : Sig} {τ : Type} {K : Logic T σ} {h : (c : S.Op) → Prog T (S.Ans c)}
    {R : Step S τ} {P : S.Op → Prop} {rel : σ → τ → Prop} (hstable : ∀ y, Stable K (rel · y))
    (hh : ∀ c x y, P c → rel x y → Sat K (h c) (fun a x' => ∃ y', R c y a y' ∧ rel x' y') x)
    {p : Prog S α} (hp : p.Issues P) {x : σ} {y : τ} (hx : rel x y) :
    Sat K (p.interp h) (fun a x' => ∃ y', Runs R p y a y' ∧ rel x' y') x := by
  induction p generalizing x y with
  | ret a => exact Sat.pure fun t ht => ⟨y, .pure a y, hstable y x t hx ht⟩
  | call c k ih =>
    refine (hh c x y hp.1 hx).bind ?_
    rintro a x' ⟨y', hstep, hx'⟩
    refine (ih a (hp.2 a) hx').mono ?_
    rintro b x'' ⟨y'', hruns, hx''⟩
    exact ⟨y'', .step hstep hruns, hx''⟩

/-! ## One after the other -/

/-- The states between programs that run one after the other, each of them started in a state
that `allow` admits for it. -/
inductive Serial {ι : Type} (R : Step S σ) (prog : ι → Prog S α) (allow : ι → σ → Prop) (s : σ) :
    σ → Prop where
  | refl : Serial R prog allow s s
  | run {i : ι} {a : α} {t u : σ} : Serial R prog allow s t → allow i t →
      Runs R (prog i) t a u → Serial R prog allow s u

/-- What each program keeps holds between them. -/
theorem Serial.invariant {ι : Type} {R : Step S σ} {prog : ι → Prog S α} {allow : ι → σ → Prop}
    {Inv : σ → Prop} {s t : σ} (h : Serial R prog allow s t)
    (hrun : ∀ {i a u v}, Inv u → allow i u → Runs R (prog i) u a v → Inv v) (hs : Inv s) :
    Inv t := by
  induction h with
  | refl => exact hs
  | run _ ha hr ih => exact hrun ih ha hr

/-! ## Observations and conditions -/

/-- The same steps, with an observation of the run kept beside the state. -/
def Step.observed {τ : Type} (R : Step S σ) (obs : (c : S.Op) → σ → S.Ans c → τ → τ) :
    Step S (σ × τ) :=
  fun c x a y => R c x.1 a y.1 ∧ y.2 = obs c x.1 a x.2

/-- Every run can be observed. -/
theorem Exec.observed {τ : Type} {R : Step S σ} {p q : Prog S α} {s t : σ} (h : Exec R p s q t)
    (obs : (c : S.Op) → σ → S.Ans c → τ → τ) (w : τ) :
    ∃ w', Exec (R.observed obs) p (s, w) q (t, w') := by
  induction h generalizing w with
  | refl p s => exact ⟨w, .refl _ _⟩
  | @step c k a s s' t q hs _ ih =>
    obtain ⟨w', hw'⟩ := ih (obs c s a w)
    exact ⟨w', .step ⟨hs, rfl⟩ hw'⟩

/-- The steps that meet a condition. -/
def Step.restrict (R : Step S σ) (allow : (c : S.Op) → σ → S.Ans c → Prop) : Step S σ :=
  fun c s a t => R c s a t ∧ allow c s a

@[simp] theorem Step.observed_iff {τ : Type} {R : Step S σ}
    {obs : (c : S.Op) → σ → S.Ans c → τ → τ} {c : S.Op} {a : S.Ans c} {x y : σ × τ} :
    R.observed obs c x a y ↔ R c x.1 a y.1 ∧ y.2 = obs c x.1 a x.2 := Iff.rfl

@[simp] theorem Step.restrict_iff {R : Step S σ} {allow : (c : S.Op) → σ → S.Ans c → Prop}
    {c : S.Op} {a : S.Ans c} {s t : σ} :
    R.restrict allow c s a t ↔ R c s a t ∧ allow c s a := Iff.rfl

/-- One operation of a run: the state it was issued in and the answer it got. -/
structure Occ (S : Sig) (σ : Type) where
  state : σ
  op : S.Op
  ans : S.Ans op

/-- The observation that keeps the whole history. -/
def Occ.log (c : S.Op) (s : σ) (a : S.Ans c) (h : List (Occ S σ)) : List (Occ S σ) :=
  h ++ [⟨s, c, a⟩]

/-! ## Executable runs -/

/-- Run against a handler that answers each operation, or is stuck. -/
def Prog.run (h : (c : S.Op) → σ → Option (S.Ans c × σ)) : Prog S α → σ → Option (α × σ)
  | .ret a, s => some (a, s)
  | .call c k, s =>
    match h c s with
    | none => none
    | some (a, s') => (k a).run h s'

/-- A handler that only does what the step relation allows yields runs. -/
theorem Prog.run_runs {R : Step S σ} {h : (c : S.Op) → σ → Option (S.Ans c × σ)}
    (hR : ∀ c s a s', h c s = some (a, s') → R c s a s') {p : Prog S α} {s t : σ} {a : α}
    (hp : p.run h s = some (a, t)) : Runs R p s a t := by
  induction p generalizing s with
  | ret b =>
    simp only [run, Option.some.injEq, Prod.mk.injEq] at hp
    rw [← hp.1, ← hp.2]
    exact .refl _ _
  | call c k ih =>
    simp only [run] at hp
    split at hp
    · simp at hp
    · next b s' hb => exact .step (hR _ _ _ _ hb) (ih b hp)

/-- Run programs one after the other, as long as each may be started. -/
def Prog.runSerial {ι : Type} (h : (c : S.Op) → σ → Option (S.Ans c × σ)) (prog : ι → Prog S α)
    (allow : ι → σ → Prop) [∀ i s, Decidable (allow i s)] : List ι → σ → Option σ
  | [], s => some s
  | i :: rest, s =>
    if allow i s then ((prog i).run h s).bind fun r => runSerial h prog allow rest r.2 else none

theorem Prog.runSerial_serial {ι : Type} {R : Step S σ}
    {h : (c : S.Op) → σ → Option (S.Ans c × σ)} {prog : ι → Prog S α} {allow : ι → σ → Prop}
    [∀ i s, Decidable (allow i s)] (hR : ∀ c s a s', h c s = some (a, s') → R c s a s')
    {is : List ι} {s t u : σ} (hs : Serial R prog allow s t)
    (hu : runSerial h prog allow is t = some u) : Serial R prog allow s u := by
  induction is generalizing t with
  | nil => exact Option.some.inj hu ▸ hs
  | cons i rest ih =>
    rw [runSerial] at hu
    split at hu
    · next hi =>
      obtain ⟨r, hrun, hrest⟩ := Option.bind_eq_some_iff.mp hu
      exact ih (hs.run hi (Prog.run_runs hR hrun)) hrest
    · cases hu

/-- Issue `n` operations: what is left of the program, and the state. -/
def Prog.steps (h : (c : S.Op) → σ → Option (S.Ans c × σ)) :
    Nat → Prog S α → σ → Option (Prog S α × σ)
  | 0, p, s => some (p, s)
  | _ + 1, .ret a, s => some (.ret a, s)
  | n + 1, .call c k, s =>
    match h c s with
    | none => none
    | some (a, s') => (k a).steps h n s'

theorem Prog.steps_exec {R : Step S σ} {h : (c : S.Op) → σ → Option (S.Ans c × σ)}
    (hR : ∀ c s a s', h c s = some (a, s') → R c s a s') {n : Nat} {p : Prog S α} {s : σ}
    {r : Prog S α × σ} (hp : p.steps h n s = some r) : Exec R p s r.1 r.2 := by
  induction n generalizing p s with
  | zero =>
    obtain rfl := Option.some.inj hp
    exact .refl _ _
  | succ n ih =>
    cases p with
    | ret a =>
      obtain rfl := Option.some.inj hp
      exact .refl _ _
    | call c k =>
      simp only [steps] at hp
      split at hp
      · simp at hp
      · next a s' ha => exact .step (hR _ _ _ _ ha) (ih hp)

/-- A handler, with an observation of the run. -/
def observing {τ : Type} (h : (c : S.Op) → σ → Option (S.Ans c × σ))
    (obs : (c : S.Op) → σ → S.Ans c → τ → τ) (c : S.Op) (x : σ × τ) :
    Option (S.Ans c × σ × τ) :=
  (h c x.1).map fun r => (r.1, r.2, obs c x.1 r.1 x.2)

theorem observing_step {τ : Type} {R : Step S σ} {h : (c : S.Op) → σ → Option (S.Ans c × σ)}
    {obs : (c : S.Op) → σ → S.Ans c → τ → τ}
    (hR : ∀ c s a s', h c s = some (a, s') → R c s a s') (c : S.Op) (x : σ × τ) (a : S.Ans c)
    (y : σ × τ) (hc : observing h obs c x = some (a, y)) : R.observed obs c x a y := by
  obtain ⟨⟨b, t⟩, hb, he⟩ := Option.map_eq_some_iff.mp hc
  obtain ⟨rfl, rfl⟩ := Prod.mk.inj he
  exact ⟨hR c x.1 b t hb, rfl⟩

/-- A handler that is stuck where a step does not meet a condition. -/
def restricting (h : (c : S.Op) → σ → Option (S.Ans c × σ)) (allow : (c : S.Op) → σ → S.Ans c → Prop)
    [∀ c s a, Decidable (allow c s a)] (c : S.Op) (s : σ) : Option (S.Ans c × σ) :=
  (h c s).filter fun r => allow c s r.1

theorem restricting_step {R : Step S σ} {h : (c : S.Op) → σ → Option (S.Ans c × σ)}
    {allow : (c : S.Op) → σ → S.Ans c → Prop} [∀ c s a, Decidable (allow c s a)]
    (hR : ∀ c s a s', h c s = some (a, s') → R c s a s') (c : S.Op) (s : σ) (a : S.Ans c) (t : σ)
    (hc : restricting h allow c s = some (a, t)) : R.restrict allow c s a t := by
  obtain ⟨hc, hallow⟩ := Option.filter_eq_some_iff.mp hc
  exact ⟨hR c s a t hc, of_decide_eq_true hallow⟩

end Interaction
