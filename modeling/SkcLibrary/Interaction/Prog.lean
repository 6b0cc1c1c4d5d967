import Mathlib.Control.Monad.Basic

/-!
# Interaction programs

A program that talks to its surroundings through *calls*: an operation is issued, an answer
comes back, and the rest of the program depends on the answer. What an operation does is not
part of the program; it is given later, by a step relation (`Interaction.Sat`) or by another
program (`Prog.interp`).

Programs are finite trees, so every run against answering surroundings ends.
-/

namespace Interaction

/-- The operations a program can issue and the type of the answer to each. -/
structure Sig where
  Op : Type
  Ans : Op → Type

variable {S T : Sig} {α β γ : Type}

/-- A program over `S` that returns an `α`. -/
inductive Prog (S : Sig) (α : Type) : Type where
  | ret (a : α)
  | call (c : S.Op) (k : S.Ans c → Prog S α)

namespace Prog

/-- Run the first program, then the one its result selects. -/
def bind : Prog S α → (α → Prog S β) → Prog S β
  | .ret a, f => f a
  | .call c k, f => .call c fun a => (k a).bind f

instance : Monad (Prog S) where
  pure := .ret
  bind := bind

@[simp] theorem ret_eq_pure (a : α) : (ret a : Prog S α) = pure a := rfl

@[simp] theorem call_bind (c : S.Op) (k : S.Ans c → Prog S α) (f : α → Prog S β) :
    call c k >>= f = call c fun a => k a >>= f := rfl

theorem bind_pure_right (p : Prog S α) : p >>= pure = p := by
  induction p with
  | ret a => rfl
  | call c k ih => exact congrArg (call c) (funext ih)

theorem bind_assoc_right (p : Prog S α) (f : α → Prog S β) (g : β → Prog S γ) :
    p >>= f >>= g = p >>= fun a => f a >>= g := by
  induction p with
  | ret a => rfl
  | call c k ih => exact congrArg (call c) (funext ih)

instance : LawfulMonad (Prog S) :=
  LawfulMonad.mk' (Prog S) bind_pure_right (fun _ _ => rfl) bind_assoc_right

/-- Issue one operation and return its answer. -/
def lift (c : S.Op) : Prog S (S.Ans c) := .call c .ret

@[simp] theorem lift_bind (c : S.Op) (f : S.Ans c → Prog S β) :
    lift c >>= f = call c f := rfl

/-! ## Replacing operations by programs -/

/-- Every operation of the program is replaced by a program over another signature. -/
def interp (h : (c : S.Op) → Prog T (S.Ans c)) : Prog S α → Prog T α
  | .ret a => .ret a
  | .call c k => h c >>= fun a => (k a).interp h

@[simp] theorem interp_pure (h : (c : S.Op) → Prog T (S.Ans c)) (a : α) :
    (pure a : Prog S α).interp h = pure a := rfl

@[simp] theorem interp_bind (h : (c : S.Op) → Prog T (S.Ans c)) (p : Prog S α)
    (f : α → Prog S β) : (p >>= f).interp h = p.interp h >>= fun a => (f a).interp h := by
  induction p with
  | ret a => rfl
  | call c k ih =>
    calc (call c k >>= f).interp h = h c >>= fun a => (k a >>= f).interp h := rfl
      _ = h c >>= fun a => (k a).interp h >>= fun b => (f b).interp h := by simp only [ih]
      _ = (h c >>= fun a => (k a).interp h) >>= fun b => (f b).interp h :=
        (bind_assoc_right _ _ _).symm

@[simp] theorem interp_lift (h : (c : S.Op) → Prog T (S.Ans c)) (c : S.Op) :
    (lift c).interp h = h c := bind_pure_right (h c)

/-! ## Which operations a program issues

`Issues P` looks at the program text only: whatever the answers are, only operations in `P`
are issued.
-/

/-- Whatever the answers are, every operation the program issues is in `P`. -/
def Issues (P : S.Op → Prop) : Prog S α → Prop
  | .ret _ => True
  | .call c k => P c ∧ ∀ a, (k a).Issues P

variable {P P' : S.Op → Prop}

@[simp] theorem issues_pure (a : α) : (pure a : Prog S α).Issues P := trivial

@[simp] theorem issues_call {c : S.Op} {k : S.Ans c → Prog S α} :
    (call c k).Issues P ↔ P c ∧ ∀ a, (k a).Issues P := Iff.rfl

@[simp] theorem issues_lift {c : S.Op} : (lift c).Issues P ↔ P c :=
  ⟨fun h => h.1, fun h => ⟨h, fun _ => trivial⟩⟩

theorem Issues.bind {p : Prog S α} {f : α → Prog S β} (hp : p.Issues P)
    (hf : ∀ a, (f a).Issues P) : (p >>= f).Issues P := by
  induction p with
  | ret a => exact hf a
  | call c k ih => exact ⟨hp.1, fun a => ih a (hp.2 a)⟩

theorem Issues.mono {p : Prog S α} (h : ∀ c, P c → P' c) (hp : p.Issues P) : p.Issues P' := by
  induction p with
  | ret a => trivial
  | call c k ih => exact ⟨h c hp.1, fun a => ih a (hp.2 a)⟩

theorem issues_true (p : Prog S α) : p.Issues fun _ => True := by
  induction p with
  | ret a => trivial
  | call c k ih => exact ⟨trivial, ih⟩

/-- Whatever the answers are, `P` holds of every operation the program issues and of what follows it. -/
def AtCalls (P : (c : S.Op) → (S.Ans c → Prog S α) → Prop) : Prog S α → Prop
  | .ret _ => True
  | .call c k => P c k ∧ ∀ a, (k a).AtCalls P

theorem Issues.atCalls {p : Prog S α} (hp : p.Issues P) : p.AtCalls fun c _ => P c := by
  induction p with
  | ret a => trivial
  | call c k ih => exact ⟨hp.1, fun a => ih a (hp.2 a)⟩

/-- Like `Issues`, but nothing is asked of what follows an operation in `stop`. -/
def IssuesUntil (stop P : S.Op → Prop) : Prog S α → Prop
  | .ret _ => True
  | .call c k => stop c ∨ P c ∧ ∀ a, (k a).IssuesUntil stop P

variable {stop : S.Op → Prop}

@[simp] theorem issuesUntil_pure (a : α) : (pure a : Prog S α).IssuesUntil stop P := trivial

@[simp] theorem issuesUntil_call {c : S.Op} {k : S.Ans c → Prog S α} :
    (call c k).IssuesUntil stop P ↔ stop c ∨ P c ∧ ∀ a, (k a).IssuesUntil stop P := Iff.rfl

theorem Issues.until {p : Prog S α} (hp : p.Issues P) : p.IssuesUntil stop P := by
  induction p with
  | ret a => trivial
  | call c k ih => exact .inr ⟨hp.1, fun a => ih a (hp.2 a)⟩

theorem IssuesUntil.mono {p : Prog S α} (h : ∀ c, P c → P' c) (hp : p.IssuesUntil stop P) :
    p.IssuesUntil stop P' := by
  induction p with
  | ret a => trivial
  | call c k ih =>
    rcases hp with hc | ⟨hc, hk⟩
    · exact .inl hc
    · exact .inr ⟨h c hc, fun a => ih a (hk a)⟩

theorem IssuesUntil.bind {p : Prog S α} {f : α → Prog S β} (hp : p.IssuesUntil stop P)
    (hf : ∀ a, (f a).IssuesUntil stop P) : (p >>= f).IssuesUntil stop P := by
  induction p with
  | ret a => exact hf a
  | call c k ih =>
    rcases hp with hc | ⟨hc, hk⟩
    · exact .inl hc
    · exact .inr ⟨hc, fun a => ih a (hk a)⟩

/-! ## Sequences -/

/-- What the parts of a sequence have, the sequence has. -/
structure BindClosed (C : (α : Type) → Prog S α → Prop) : Prop where
  pure : ∀ {α : Type} (a : α), C α (Pure.pure a)
  bind : ∀ {α β : Type} {p : Prog S α} {f : α → Prog S β},
    C α p → (∀ a, C β (f a)) → C β (p >>= f)

theorem issues_bindClosed : BindClosed fun _ (p : Prog S _) => p.Issues P :=
  ⟨fun _ => trivial, Issues.bind⟩

theorem issuesUntil_bindClosed : BindClosed fun _ (p : Prog S _) => p.IssuesUntil stop P :=
  ⟨fun _ => trivial, IssuesUntil.bind⟩

/-! ## Which results a program can have -/

/-- Whatever the answers are, the result satisfies `R`. -/
def Returns (R : α → Prop) : Prog S α → Prop
  | .ret a => R a
  | .call _ k => ∀ a, (k a).Returns R

variable {R : α → Prop} {R' : β → Prop}

@[simp] theorem returns_pure {a : α} : (pure a : Prog S α).Returns R ↔ R a := Iff.rfl

@[simp] theorem returns_call {c : S.Op} {k : S.Ans c → Prog S α} :
    (call c k).Returns R ↔ ∀ a, (k a).Returns R := Iff.rfl

/-- Only the last part of a program decides on the result. -/
theorem returns_bind {p : Prog S α} {f : α → Prog S β} (hf : ∀ a, (f a).Returns R') :
    (p >>= f).Returns R' := by
  induction p with
  | ret a => exact hf a
  | call c k ih => exact fun a => ih a

end Prog

end Interaction
