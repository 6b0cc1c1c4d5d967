import SkcLibrary.Interaction.Sat

/-!
# Programs that come to an end

`Sat` over a step relation says what holds if a program returns. It may as well never return, because
one of its operations has no answer. Here nothing gets stuck: `Logic.live` asks of every operation
that it can be answered, and `Terminates` says the same of the runs. Since programs are finite trees,
this is total correctness.
-/

namespace Interaction

variable {S : Sig} {σ α β : Type} {R : Step S σ} {p : Prog S α} {Q : α → σ → Prop} {s t : σ}

/-- From every point of every run there is a way to an end, and it meets the postcondition. -/
def Terminates (R : Step S σ) (p : Prog S α) (Q : α → σ → Prop) (s : σ) : Prop :=
  ∀ q t, Exec R p s q t → ∃ a u, Runs R q t a u ∧ Q a u

/-- The operation can be answered in this state. -/
def Answered (R : Step S σ) (c : S.Op) (s : σ) : Prop := ∃ a t, R c s a t

/-- The setting in which every operation can be answered. -/
abbrev Logic.live (R : Step S σ) : Logic S σ := .seq R (Answered R)

namespace Sat

/-- There is a way to the end. -/
theorem live_exists (h : Sat (.live R) p Q s) : ∃ a t, Runs R p s a t ∧ Q a t := by
  induction p generalizing s with
  | ret a => exact ⟨a, s, .refl _ _, sat_seq_pure.mp h⟩
  | call c k ih =>
    obtain ⟨⟨a, t, ht⟩, hstep⟩ := sat_seq_call.mp h
    obtain ⟨b, u, hu, hQ⟩ := ih a (hstep a t ht)
    exact ⟨b, u, .step ht hu, hQ⟩

/-- What is judged of the runs holds if the operations of the program can always be answered. -/
theorem live_of_issues {pre : S.Op → σ → Prop} {P : S.Op → Prop} (h : Sat (.seq R pre) p Q s)
    (hp : p.Issues P) (hP : ∀ c, P c → ∀ t, Answered R c t) : Sat (.live R) p Q s := by
  induction p generalizing s with
  | ret a => exact sat_seq_pure.mpr (sat_seq_pure.mp h)
  | call c k ih =>
    obtain ⟨hc, hk⟩ := hp
    refine sat_seq_call.mpr ⟨hP c hc s, fun a t ht => ?_⟩
    exact ih a ((sat_seq_call.mp h).2 a t ht) (hk a)

/-- **Total correctness.** What is judged where every operation can be answered terminates. -/
theorem terminates (h : Sat (.live R) p Q s) : Terminates R p Q s :=
  fun _ _ hr => (h.exec hr).live_exists

end Sat

end Interaction
