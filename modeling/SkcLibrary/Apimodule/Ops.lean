import SkcLibrary.Apimodule.Sgx

/-!
# The callbacks of the api module, and the SGX security module that calls them

`apimodule_get_challenge`, `apimodule_set_wrapping_key` and `apimodule_load_key` of
`api-module/pkcs11/src/pkcs11-apimodule.cpp`, and `stm/sgx/src/application_intf.cpp`. The
callbacks know the operations of "SGX" only.
-/

namespace SkcLibrary

open Interaction

/-- `G_LOG_DOMAIN` of `pkcs11-apimodule.cpp` names the module `pkcs11-apimodule`. -/
def apimoduleLogDomain : String := "pkcs11-apimodule"

/-- Whether `apimodule_api_hash` has operations for a label. -/
def apimoduleApiKnown (label : Bytes) : Bool := label = lit "SGX"

/-- The error for arguments the callbacks refuse. -/
def apimoduleInvalidInput (err : Option GError) : Option GError :=
  kSetError err apimoduleLogDomain (-1) (lit "Input parameters are invalid!")

/-- `apimodule_get_challenge` -/
def apimoduleGetChallenge (params : CkRsaPublicKeyParams) (cInitialize : Skc CkRv)
    (details : KeyagentApimoduleGetChallengeDetails) (request : KeyagentSgxChallengeRequest)
    (err : Option GError) : Skc (Bool × Option Bytes × Option GError) := do
  match details.moduleData with
  | none => pure (false, none, apimoduleInvalidInput err)
  | some data =>
    let (atoken, err) ← lookupOrInitToken cInitialize data true err
    match atoken, apimoduleApiKnown details.label with
    | some atoken, true =>
      let (ret, err) ← sgxGetChallenge params details request err
      if ret then
        let token ← readToken atoken
        let challenge ← Skc.deref token.challenge "k_buffer_ref"
        pure (true, some challenge, err)
      else
        pure (false, none, err)
    | _, _ =>
      pure (false, none, kSetError err apimoduleLogDomain (-1) (lit "Token Object not found"))

/-- `apimodule_set_wrapping_key` -/
def apimoduleSetWrappingKey (details : KeyagentApimoduleSessionDetails) (err : Option GError) :
    Skc (Bool × Option GError) := do
  match details.moduleData with
  | none => pure (false, apimoduleInvalidInput err)
  | some data =>
    match ← lookupApimoduleToken data.tokenLabel, apimoduleApiKnown details.label with
    | some _, true => sgxSetWrappingKey details err
    | _, _ =>
      pure (false, kSetError err apimoduleLogDomain (-1) (lit "Token object not found"))

/-- `(details->type == KEYAGENT_AESKEY ? CKO_SECRET_KEY : CKO_PRIVATE_KEY)` -/
def keytypeClass (type : KeyagentKeytype) : Nat :=
  if type = .aeskey then ckoSecretKey else ckoPrivateKey

/-- `apimodule_load_key` -/
def apimoduleLoadKey (details : KeyagentApimoduleLoadkeyDetails) (err : Option GError) :
    Skc (Bool × Option GError) := do
  match details.moduleData with
  | none => pure (false, apimoduleInvalidInput err)
  | some data =>
    match ← lookupApimoduleToken data.tokenLabel, apimoduleApiKnown details.label with
    | some _, true =>
      let type := keytypeClass details.type
      if (if data.type = ckoData then type else data.type) ≠ type then
        pure (false, kSetError err apimoduleLogDomain (-1)
          (lit "Incompatible type in uri for key-id:" ++ cstr data.keyId))
      else
        sgxLoadKey details err
    | _, _ =>
      pure (false, kSetError err apimoduleLogDomain (-1) (lit "token onj info not found"))

/-! ## The SGX security module -/

/-- `keyagent::apimodule_ops`, the callbacks a security module is given; `NULL` until registered. -/
structure KeyagentApimoduleOps where
  loadKey : Option (KeyagentApimoduleLoadkeyDetails → Option GError → Skc (Bool × Option GError))
  getChallenge : Option (KeyagentApimoduleGetChallengeDetails → KeyagentSgxChallengeRequest →
    Option GError → Skc (Bool × Option Bytes × Option GError))
  setWrappingKey : Option (KeyagentApimoduleSessionDetails → Option GError →
    Skc (Bool × Option GError))

/-- The callbacks `apimodule_init` registers. -/
def apimoduleOps (params : CkRsaPublicKeyParams) (cInitialize : Skc CkRv) : KeyagentApimoduleOps where
  loadKey := some apimoduleLoadKey
  getChallenge := some (apimoduleGetChallenge params cInitialize)
  setWrappingKey := some apimoduleSetWrappingKey

/-- `sgx_application_sgx_stm`; without attestation by "ECDSA" there is no policy. -/
structure SgxStmConfig where
  attestationType : Bytes
  qlPolicy : Option Bytes

namespace SgxStm

/-- `G_LOG_DOMAIN` -/
def logDomain : String := "stm-sgx"

/-- The error of an operation whose callback is not set. -/
def invalidApimodule (err : Option GError) : Option GError :=
  kSetError err logDomain stmErrorApiModuleLoadkey (lit "invalid apimodule")

/-- `SGX_QL_PERSISTENT`, `SGX_QL_EPHEMERAL` -/
def launchPolicy (qlPolicy : Bytes) : Option Int :=
  if qlPolicy = lit "PERSISTENT" then some 0
  else if qlPolicy = lit "EPHEMERAL" then some 1
  else none

/-- `stm_create_challenge` -/
def stmCreateChallenge (config : SgxStmConfig) (ops : KeyagentApimoduleOps)
    (details : KeyagentStmCreateChallengeDetails) (err : Option GError) :
    Skc (Bool × Option Bytes × Option GError) := do
  match ops.getChallenge with
  | none => pure (false, none, invalidApimodule err)
  | some getChallenge =>
    let qlPolicy ← Skc.deref config.qlPolicy "strcmp"
    match launchPolicy qlPolicy with
    | none =>
      pure (false, none,
        kSetError err logDomain stmErrorApiModuleLoadkey (lit "invalid launch policy"))
    | some policy =>
      let (ret, challenge, err) ← getChallenge
        { label := details.label, nonce := details.nonce, moduleData := details.moduleData }
        { launchPolicy := policy, nonce := details.nonce,
          attestationType := config.attestationType } err
      if challenge = none ∧ err = none then
        pure (false, challenge, kSetError err logDomain stmErrorApiModuleLoadkey
          (lit "no challenge returned from api-module"))
      else
        pure (ret, challenge, err)

/-- `stm_set_session` -/
def stmSetSession (ops : KeyagentApimoduleOps) (details : KeyagentStmSessionDetails)
    (err : Option GError) : Skc (Bool × Option GError) :=
  match ops.setWrappingKey with
  | none => pure (false, invalidApimodule err)
  | some setWrappingKey =>
    setWrappingKey
      { label := details.label, moduleData := details.moduleData, swkType := details.swkType,
        session := details.session } err

/-- `stm_load_key` -/
def stmLoadKey (ops : KeyagentApimoduleOps) (details : KeyagentStmLoadkeyDetails)
    (err : Option GError) : Skc (Bool × Option GError) :=
  match ops.loadKey with
  | none => pure (false, invalidApimodule err)
  | some loadKey =>
    loadKey
      { label := details.label, url := details.url, type := details.type, key := details.key,
        iv := details.iv, tagSize := details.tagSize, moduleData := details.moduleData } err

/-- The module as `__initialize_stm` registers it. -/
def stmOps (config : SgxStmConfig) (ops : KeyagentApimoduleOps) : StmOps where
  createChallenge _ := stmCreateChallenge config ops
  setSession _ := stmSetSession ops
  loadKey _ := stmLoadKey ops

end SgxStm

end SkcLibrary
