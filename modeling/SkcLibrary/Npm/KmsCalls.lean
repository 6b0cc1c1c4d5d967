import SkcLibrary.Npm.Kms

/-!
# What the KMS module asks for

The operations of a load carry what the load came with: its request id, its url and its TLS options. Keys are
asked for at the server of the configuration; only the answer to a challenge goes where the server says.

* `npmLoadkey_asksFor` — this of `__npm_loadkey`
-/

namespace SkcLibrary.Kms

open Interaction

/-- The operations on behalf of a load. -/
def AsksFor (serverUrl : Bytes) (details : KeyagentKeyloadDetails) : NpmCall → Prop
  | .stmGetChallenge requestId _ _ _ => requestId = details.requestId
  | .sessionCreate requestId _ _ _ _ _ => requestId = details.requestId
  | .keyCreate requestId url _ _ _ _ => requestId = details.requestId ∧ url = details.url
  | .httpsSend request => request.sslOpts = details.sslOpts ∧
      (request.postdata = none → (serverUrl ++ lit "/v1/keys/").isPrefixOf request.url)
  | _ => True

variable {serverUrl : Bytes} {details : KeyagentKeyloadDetails}

theorem createSession_asksFor (req : ChallengeRequest) (data : Json) (err : Option GError) :
    (createSession details req data err).Issues (AsksFor serverUrl details) := by
  unfold createSession
  split
  · trivial
  · refine Npm.issues_op_bind.mpr ⟨rfl, fun a => ?_⟩
    dsimp only
    split <;> trivial

theorem startSession_asksFor (data : Json) (err : Option GError) :
    (startSession details data err).Issues (AsksFor serverUrl details) := by
  unfold startSession
  split
  · trivial
  · split
    · trivial
    · refine Npm.issues_op_bind.mpr ⟨trivial, fun nonce => ?_⟩
      refine (Npm.issues_deref trivial).bind fun nonce => ?_
      refine Npm.issues_op_bind.mpr ⟨rfl, fun a => ?_⟩
      dsimp only
      split
      · trivial
      · refine (Npm.issues_deref trivial).bind fun challenge => ?_
        refine Npm.issues_op_bind.mpr ⟨⟨rfl, nofun⟩, fun res => ?_⟩
        split
        · trivial
        · split
          · trivial
          · exact createSession_asksFor _ _ _

theorem createKey_asksFor (res : HttpResponse) (err : Option GError) :
    (createKey details res err).Issues (AsksFor serverUrl details) := by
  unfold createKey
  split
  · trivial
  · split
    · trivial
    · refine (Npm.issues_deref trivial).bind fun sessionId => ?_
      split
      · trivial
      · exact Npm.issues_op_bind.mpr ⟨⟨rfl, rfl⟩, fun _ => trivial⟩

theorem transferRequest_asksFor (keyId : Bytes) (sessionIds : Option Bytes) :
    AsksFor serverUrl details (.httpsSend (transferRequest serverUrl details keyId sessionIds)) := by
  refine ⟨rfl, fun _ => List.isPrefixOf_iff_prefix.mpr ?_⟩
  show serverUrl ++ lit "/v1/keys/" <+: serverUrl ++ lit "/v1/keys/" ++ keyId ++ lit "/dhsm2-transfer"
  rw [List.append_assoc _ keyId]
  exact List.prefix_append _ _

theorem npmLoadkey_asksFor (serverUrl : Bytes) (details : KeyagentKeyloadDetails) (tries : Nat)
    (err : Option GError) :
    (npmLoadkey serverUrl details tries err).Issues (AsksFor serverUrl details) := by
  induction tries generalizing err with
  | zero => trivial
  | succ tries ih =>
    unfold npmLoadkey
    dsimp only
    split
    · trivial
    · refine Npm.issues_op_bind.mpr ⟨trivial, fun ids => ?_⟩
      refine Npm.issues_op_bind.mpr ⟨transferRequest_asksFor _ _, fun res => ?_⟩
      split
      · trivial
      · split
        · split
          · trivial
          · split
            · refine (startSession_asksFor _ err).bind fun r => ?_
              split
              · exact ih _
              · trivial
            · trivial
        · split
          · exact createKey_asksFor res err
          · trivial

end SkcLibrary.Kms
