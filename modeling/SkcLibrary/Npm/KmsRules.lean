import SkcLibrary.Keyagent.Rules
import SkcLibrary.Npm.Kms

/-!
# Rules of the key transfer

What a function of the KMS module does over the agent, from what is known of the operations that it
issues. There is one rule for each function.

* `sat_runNpm_startSession` — the challenge, up to the answer that is posted
* `sat_runNpm_npmLoadkey` — the recursion of `__npm_loadkey`
-/

namespace SkcLibrary.AgentView

open Interaction Kms

variable {σ : Type} {V : AgentView σ} {s : σ} {stm : StmOps} {details : KeyagentKeyloadDetails}
  {err : Option GError} {Q : Bool × Option GError → σ → Prop}

theorem sat_runNpm_createSession {req : ChallengeRequest} {data : Json} (hfail : ∀ e, Q (false, some e) s)
    (hcreate : ∀ swk swkType, parseSession data = .ok (swk, swkType) →
      Sat V.logic (npmOps stm (.sessionCreate details.requestId req.challengeType
          (cstr (gBase64Decode req.sessionId)) swk swkType err))
        (fun r t => (r.1 = true → Q r t) ∧ (r.1 = false → ∀ e, Q (false, some e) t)) s) :
    Sat V.logic (runNpm stm (createSession details req data err)) Q s := by
  unfold createSession
  split
  · exact sat_runNpm_pure.mpr (hfail _)
  · next swk swkType hparse =>
    refine sat_runNpm_op.mpr ((hcreate swk swkType hparse).mono ?_)
    rintro ⟨retStatus, error⟩ t ⟨htrue, hfalse⟩
    cases retStatus with
    | true => exact sat_runNpm_pure.mpr (htrue rfl)
    | false =>
      cases error with
      | none => exact sat_runNpm_pure.mpr (hfalse rfl _)
      | some e => exact sat_runNpm_pure.mpr (hfalse rfl e)

theorem sat_runNpm_postChallenge {req : ChallengeRequest} {challenge : Bytes}
    (hpost : ∀ request : HttpRequest, request.postdata = some (sessionData req challenge) →
      Sat V.logic (npmOps stm (.httpsSend request)) (fun res t => (∀ e, Q (false, some e) t) ∧
        Sat V.logic (runNpm stm (createSession details req res.body err)) Q t) s) :
    Sat V.logic (runNpm stm (postChallenge details req challenge err)) Q s := by
  refine sat_runNpm_op.mpr ((hpost _ rfl).mono ?_)
  rintro res t ⟨hfail, hcreate⟩
  split
  · exact sat_runNpm_pure.mpr (hfail _)
  · split
    · exact sat_runNpm_pure.mpr (hfail _)
    · exact hcreate

/-- A challenge that asks for another method fails without an error. -/
theorem sat_runNpm_startSession {data : Json}
    (hparse : (∀ req, parseChallenge data ≠ .ok req) → ∀ e, Q (false, some e) s)
    (hmethod : ∀ req, parseChallenge data = .ok req → req.sessionMethod ≠ lit "post" →
      Q (false, err) s)
    (hchallenge : ∀ req, parseChallenge data = .ok req → req.sessionMethod = lit "post" →
      Sat V.logic (npmOps stm (.uninitialised nonceLength)) (fun _ t => ∀ nonce,
        Sat V.logic (npmOps stm (.stmGetChallenge details.requestId nonce req.challengeType err))
          (fun r u => (r.1 = false → Q (false, r.2.2) u) ∧
            (r.1 = true → ∀ challenge, r.2.1 = some challenge →
              Sat V.logic (runNpm stm (postChallenge details req challenge r.2.2)) Q u)) t) s) :
    Sat V.logic (runNpm stm (startSession details data err)) Q s := by
  unfold startSession
  split
  · next what hwhat =>
    refine sat_runNpm_pure.mpr (hparse (fun req hreq => ?_) _)
    exact absurd (hwhat.symm.trans hreq) nofun
  · next req hreq =>
    split
    · next hne => exact sat_runNpm_pure.mpr (hmethod req hreq hne)
    · next heq =>
      refine sat_runNpm_op.mpr ((hchallenge req hreq (not_not.mp heq)).mono ?_)
      intro nonce t ht
      refine sat_runNpm_deref.mpr fun nonce _ => ?_
      refine sat_runNpm_op.mpr ((ht nonce).mono ?_)
      rintro ⟨ret, challenge, err⟩ u ⟨hfalse, htrue⟩
      cases ret with
      | false => exact sat_runNpm_pure.mpr (hfalse rfl)
      | true => exact sat_runNpm_deref.mpr fun b hb => htrue rfl b hb

theorem sat_runNpm_createKey {res : HttpResponse} (hfail : ∀ e, Q (false, some e) s)
    (hcreate : ∀ transfer tokens sessionId, parseKeyTransfer res.body = .ok transfer →
      sessionIdTokens res.headers = some tokens → gStrv tokens 2 = some (some sessionId) →
      Sat V.logic (npmOps stm (.keyCreate details.requestId details.url transfer.keytype
          (some transfer.attrs) (some (gStrstrip sessionId)) err))
        (fun r t => Q (r.1.isSome, r.2) t) s) :
    Sat V.logic (runNpm stm (Kms.createKey details res err)) Q s := by
  unfold Kms.createKey
  split
  · exact sat_runNpm_pure.mpr (hfail _)
  · next transfer hparse =>
    split
    · exact sat_runNpm_pure.mpr (hfail _)
    · next tokens htokens =>
      refine sat_runNpm_deref.mpr fun sessionId hid => ?_
      split
      · exact sat_runNpm_pure.mpr (hfail _)
      · next sessionId =>
        refine sat_runNpm_op.mpr ((hcreate transfer tokens sessionId hparse htokens
          hid).mono fun r t ht => ?_)
        exact sat_runNpm_pure.mpr ht

/--
`P` holds before every try and `A` once it is answered. Only a fault that is not for a session fails
without an error.
-/
theorem sat_runNpm_npmLoadkey {P : Option GError → σ → Prop}
    {A : HttpResponse → Option GError → σ → Prop} {serverUrl : Bytes}
    (hend : ∀ err t, P err t → ∀ e, Q (false, some e) t)
    (hask : ∀ err t, P err t → Sat V.logic (npmOps stm .sessionGetIds) (fun _ u =>
      ∀ request : HttpRequest, request.postdata = none →
        Sat V.logic (npmOps stm (.httpsSend request)) (fun res v => A res err v) u) t)
    (hreport : ∀ res err t, A res err t →
      (res.status = 401 → ∀ fault, parseFault res.body ≠ .ok fault) → ∀ e, Q (false, some e) t)
    (hrefuse : ∀ res err t fault, A res err t → res.status = 401 →
      parseFault res.body = .ok fault → fault ≠ (lit "failure", lit "not-authorized") →
      Q (false, err) t)
    (hstart : ∀ res err t, A res err t → res.status = 401 →
      parseFault res.body = .ok (lit "failure", lit "not-authorized") →
      Sat V.logic (runNpm stm (startSession details res.body err))
        (fun r u => (r.1 = true → P r.2 u) ∧ (r.1 = false → Q (false, r.2) u)) t)
    (hcreate : ∀ res err t, A res err t → res.status = 200 →
      Sat V.logic (runNpm stm (Kms.createKey details res err)) Q t) {tries : Nat} (hs : P err s) :
    Sat V.logic (runNpm stm (npmLoadkey serverUrl details tries err)) Q s := by
  -- induction on the tries; a session that starts uses one up
  induction tries generalizing s err with
  | zero => exact sat_runNpm_pure.mpr (hend err s hs _)
  | succ tries ih =>
    unfold npmLoadkey
    dsimp only
    split
    · exact sat_runNpm_pure.mpr (hend err s hs _)
    · refine sat_runNpm_op.mpr ((hask err s hs).mono fun ids t ht => ?_)
      refine sat_runNpm_op.mpr ((ht _ rfl).mono fun res u hu => ?_)
      split
      · next hstatus =>
        refine sat_runNpm_pure.mpr (hreport res err u hu (fun h => ?_) _)
        omega
      · split
        · next hstatus =>
          split
          · next what hwhat =>
            refine sat_runNpm_pure.mpr (hreport res err u hu (fun _ fault hf => ?_) _)
            exact absurd (hwhat.symm.trans hf) nofun
          · next status type hfault =>
            split
            · next hsession =>
              rw [hsession.1, hsession.2] at hfault
              rw [runNpm, Prog.interp_bind]
              refine (hstart res err u hu hstatus hfault).bind ?_
              rintro ⟨started, err⟩ v ⟨htrue, hfalse⟩
              cases started with
              | true => exact ih (htrue rfl)
              | false => exact sat_runNpm_pure.mpr (hfalse rfl)
            · next hsession =>
              refine sat_runNpm_pure.mpr (hrefuse res err u _ hu hstatus hfault ?_)
              exact fun he => hsession (Prod.mk.inj he)
        · next hstatus =>
          split
          · next hok => exact hcreate res err u hu hok
          · exact sat_runNpm_pure.mpr (hreport res err u hu (fun h => absurd h hstatus) _)

end SkcLibrary.AgentView
