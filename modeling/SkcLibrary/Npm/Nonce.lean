import SkcLibrary.Npm.Kms

/-!
# The nonce of a challenge

`start_session` copies the decoded challenge without its dashes into an array of 32 bytes, and hands
the array to the STM. How many bytes it copies is up to KBS.

* `nonce_exact` — the challenges that fill the nonce
-/

namespace SkcLibrary.Kms

open Interaction

/-- The challenge without its dashes. -/
def dashless (challenge : Bytes) : Bytes := challenge.filter (· ≠ 45)

@[simp] theorem dashless_nil : dashless [] = [] := rfl

@[simp] theorem dashless_cons_dash (l : Bytes) : dashless (45 :: l) = dashless l := rfl

theorem dashless_cons {b : UInt8} (h : b ≠ 45) (l : Bytes) :
    dashless (b :: l) = b :: dashless l := by
  simp [dashless, h]

/-- The loop writes as many bytes as the challenge has besides its dashes. -/
theorem stripDashes_some {l nonce : Bytes} {j : Nat}
    (h : j + (dashless l).length ≤ nonce.length) :
    stripDashes l j nonce
      = some (nonce.take j ++ dashless l ++ nonce.drop (j + (dashless l).length)) := by
  induction l generalizing j nonce with
  | nil => simp [stripDashes]
  | cons b l ih =>
    by_cases hb : b = 45
    · subst hb
      rw [dashless_cons_dash] at h ⊢
      rw [stripDashes, if_neg (by simp)]
      exact ih h
    · rw [dashless_cons hb, List.length_cons] at h ⊢
      have hj : j < nonce.length := by omega
      rw [stripDashes, if_pos hb, if_pos hj, ih (by rw [List.length_set]; omega)]
      have htake : (nonce.set j b).take (j + 1) = nonce.take j ++ [b] := by
        rw [List.take_add_one, List.take_set_of_le (Nat.le_refl j), List.getElem?_set_self hj]
        rfl
      have hdrop : (nonce.set j b).drop (j + 1 + (dashless l).length)
          = nonce.drop (j + ((dashless l).length + 1)) := by
        rw [List.drop_set_of_lt (by omega)]
        congr 1
        omega
      rw [htake, hdrop]
      simp

/-- Beyond the end of the nonce it goes on writing. -/
theorem stripDashes_none {l nonce : Bytes} {j : Nat} (hj : j ≤ nonce.length)
    (h : nonce.length < j + (dashless l).length) : stripDashes l j nonce = none := by
  induction l generalizing j nonce with
  | nil =>
    rw [dashless_nil, List.length_nil] at h
    omega
  | cons b l ih =>
    by_cases hb : b = 45
    · subst hb
      rw [stripDashes, if_neg (by simp)]
      exact ih hj h
    · rw [dashless_cons hb, List.length_cons] at h
      rw [stripDashes, if_pos hb]
      split
      · next hlt => exact ih (by rw [List.length_set]; omega) (by rw [List.length_set]; omega)
      · rfl

/-! ## The session -/

/-- Nothing is known about what answers an NPM. -/
def anyAnswer : Step npmSig Unit := fun _ _ _ _ => True

/-- The write behind the nonce. -/
def outsideNonce : String := "write outside of the nonce"

/-- A call that keeps to the nonce; the STM gets the challenge without its dashes, and no byte more. -/
def KeepsNonce (challenge : Bytes) : NpmCall → Prop
  | .fault reason => reason ≠ outsideNonce
  | .stmGetChallenge _ nonce _ _ => nonce.length = nonceLength ∧ nonce = dashless challenge
  | _ => True

/-- A call that is not one of the STM. -/
def SparesStm : NpmCall → Prop
  | .stmGetChallenge _ _ _ _ => False
  | _ => True

/-- A challenge is handled: it becomes the nonce, or is rejected with an error before the STM is
called. -/
def HandlesChallenge (details : KeyagentKeyloadDetails) (transferData : Json)
    (error : Option GError) (challenge : Bytes) : Prop :=
  Sat (.seq anyAnswer fun c _ => KeepsNonce challenge c) (startSession details transferData error)
    (fun _ _ => True) () ∧
  ((dashless challenge).length ≠ nonceLength →
    Sat (.seq anyAnswer fun c _ => SparesStm c) (startSession details transferData error)
      (fun r _ => r.1 = false ∧ r.2 ≠ none) ())

section

variable {details : KeyagentKeyloadDetails} {transferData : Json} {error : Option GError}
  {req : ChallengeRequest} {challenge : Bytes}

/-- What the session does depends on the bytes besides the dashes alone. -/
theorem sat_startSession_iff (hreq : parseChallenge transferData = .ok req)
    (hpost : req.sessionMethod = lit "post") :
    Sat (.seq anyAnswer fun c _ => KeepsNonce (gBase64Decode req.sessionId) c)
      (startSession details transferData error) (fun _ _ => True) () ↔
      (dashless (gBase64Decode req.sessionId)).length = nonceLength := by
  have hstart : startSession details transferData error =
      (Npm.op (.uninitialised nonceLength) >>= fun nonce =>
        Npm.deref (stripDashes (gBase64Decode req.sessionId) 0 nonce.1) outsideNonce >>= fun nonce =>
        Npm.op (.stmGetChallenge details.requestId nonce req.challengeType error) >>= fun r =>
        if r.1 = false then pure (false, r.2.2)
        else Npm.deref r.2.1 "k_buffer_data" >>= fun challenge =>
          postChallenge details req challenge r.2.2) := by
    simp only [startSession, hreq, hpost, ne_eq, not_true_eq_false, if_false]
    rfl
  rw [hstart, Npm.op_bind, sat_seq_call]
  constructor
  · intro h
    obtain ⟨zeros, hlen⟩ : { l : Bytes // l.length = nonceLength } :=
      ⟨List.replicate nonceLength 0, List.length_replicate⟩
    have hzero := h.2 ⟨zeros, hlen⟩ () trivial
    dsimp only at hzero
    by_contra hne
    rcases Nat.lt_or_gt_of_ne hne with hlt | hgt
    · -- too few bytes: the tail of the nonce is what was there before
      rw [stripDashes_some (by omega), Npm.deref_some, pure_bind, Npm.op_bind] at hzero
      obtain ⟨hlen', heq⟩ := (sat_seq_call.mp hzero).1
      rw [heq] at hlen'
      exact hne hlen'
    · -- too many bytes
      rw [stripDashes_none (by omega) (by omega), Npm.deref_none, Npm.fault_bind] at hzero
      exact (sat_seq_call.mp hzero).1 rfl
  · intro hlen
    refine ⟨trivial, fun nonce _ _ => ?_⟩
    have hstrip : stripDashes (gBase64Decode req.sessionId) 0 nonce.1
        = some (dashless (gBase64Decode req.sessionId)) := by
      rw [stripDashes_some (by rw [nonce.2]; omega), List.take_zero, List.nil_append,
        List.drop_of_length_le (by rw [nonce.2]; omega), List.append_nil]
    rw [hstrip, Npm.deref_some, pure_bind, Npm.op_bind]
    refine sat_seq_call.mpr ⟨⟨hlen, rfl⟩, fun a _ _ => ?_⟩
    obtain ⟨ret, quote, e⟩ := a
    dsimp only
    split
    · exact sat_seq_pure.mpr trivial
    · cases quote with
      | none =>
        have hne : "k_buffer_data" ≠ outsideNonce := by decide
        exact sat_seq_call.mpr ⟨hne, fun a => nomatch a⟩
      | some quote =>
        -- once the STM has answered, the nonce is done with
        exact (Sat.of_issues (J := fun _ => True)
          (postChallenge_issues (P := KeepsNonce _) (fun _ _ => trivial) trivial) stable_seq
          (fun c hc _ _ => ⟨hc, fun _ _ _ => ⟨trivial, trivial⟩⟩) trivial).mono fun _ _ _ => trivial

/-- Any other method ends the session before the loop. -/
theorem startSession_of_method (hreq : parseChallenge transferData = .ok req)
    (hpost : req.sessionMethod ≠ lit "post") :
    startSession details transferData error = pure (false, error) := by
  simp only [startSession, hreq, ne_eq, hpost, not_false_eq_true, if_true]

/--
**The nonce.** A challenge is handled if and only if it has exactly 32 bytes besides its dashes; where
KBS asks for another method than `post`, the error is the one that was there before.
-/
theorem nonce_exact (hreq : parseChallenge transferData = .ok req) :
    HandlesChallenge details transferData error (gBase64Decode req.sessionId) ↔
      (dashless (gBase64Decode req.sessionId)).length = nonceLength ∨
        (req.sessionMethod ≠ lit "post" ∧ error ≠ none) := by
  by_cases hpost : req.sessionMethod = lit "post"
  · constructor
    · exact fun h => .inl ((sat_startSession_iff hreq hpost).mp h.1)
    · rintro (h | ⟨hne, -⟩)
      · exact ⟨(sat_startSession_iff hreq hpost).mpr h, fun hne => absurd h hne⟩
      · exact absurd hpost hne
  · rw [HandlesChallenge, startSession_of_method hreq hpost]
    simp only [sat_seq_pure, true_and]
    constructor
    · intro h
      by_cases hlen : (dashless (gBase64Decode req.sessionId)).length = nonceLength
      · exact .inl hlen
      · exact .inr ⟨hpost, h hlen⟩
    · rintro (h | ⟨-, he⟩) hne
      · exact absurd h hne
      · exact he

end

/-! ### A challenge of 32 bytes and an empty one -/

/-- What KBS sends with a challenge. -/
def challengeOf (challenge : Bytes) : Json :=
  .object [(lit "link", .object [(lit "challenge-replyto",
      .object [(lit "href", .string (lit "/session")), (lit "method", .string (lit "post"))])]),
    (lit "challenge_type", .string (lit "SGX")), (lit "challenge", .string challenge)]

/-- A load of the key `a`. -/
def loadDetails : KeyagentKeyloadDetails :=
  ⟨lit "request", lit "KMS:a", lit "SGX", ⟨[], [], [], [], [], true⟩⟩

theorem nonce_exact_full : HandlesChallenge loadDetails
    (challengeOf (gBase64Encode (List.replicate 32 1))) none
    (gBase64Decode (gBase64Encode (List.replicate 32 1))) := by
  have hreq : parseChallenge (challengeOf (gBase64Encode (List.replicate 32 1))) =
      .ok ⟨lit "/session", lit "post", lit "SGX", gBase64Encode (List.replicate 32 1)⟩ := rfl
  exact (nonce_exact hreq).mpr (.inl (by decide))

/-- A challenge that is empty leaves the nonce as it was in memory. -/
theorem not_nonce_exact : ¬∀ (details : KeyagentKeyloadDetails) (transferData : Json)
    (error : Option GError) (req : ChallengeRequest), parseChallenge transferData = .ok req →
    HandlesChallenge details transferData error (gBase64Decode req.sessionId) := by
  intro h
  have hempty : parseChallenge (challengeOf [])
      = .ok ⟨lit "/session", lit "post", lit "SGX", []⟩ := by rfl
  have hlen := (sat_startSession_iff hempty rfl).mp (h loadDetails _ none _ hempty).1
  exact absurd hlen (by decide)

end SkcLibrary.Kms
