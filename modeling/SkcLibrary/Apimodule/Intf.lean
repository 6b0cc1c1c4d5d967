import SkcLibrary.Apimodule.Ops

/-!
# Loading keys on demand (`api-module/pkcs11/src/pkcs11-apimodule.cpp`)

`C_OnDemand_KeyLoad`, the wrapped `C_Initialize` and `C_Finalize`, and the fork handler.

`C_Initialize` loads keys when it is called for the first time, loading a key may create a token,
and that initialises the module anew. `cInitialize` follows this nesting as deep as its first
argument says.
-/

namespace SkcLibrary

open Interaction

/-- What is fixed once the library is set up. -/
structure Library where
  config : KeyagentConfig
  npmHash : List KeyagentNpmReal
  sgxStm : SgxStmConfig
  /-- `CK_RSA_PUBLIC_KEY_PARAMS` of the wrapped PKCS#11 module. -/
  rsaPublicKeyParams : CkRsaPublicKeyParams
  /-- `p11_kit_uri_parse` -/
  p11KitUriParse : Bytes → Option P11KitUri
  /-- `pre_load_keyfile` -/
  preLoadKeyfile : Bytes

/-- The agent of a library, over the given security modules. -/
def Library.modules (L : Library) (stm : StmOps) : Modules where
  config := L.config
  npmHash := L.npmHash
  stm := stm

/-- The URL a key is asked for under. -/
def keyUrl (uriData : ApimoduleUriData) (uri : Bytes) : Bytes :=
  gStrjoin 58 [cstr uriData.tokenLabel, cstr uriData.keyId, cstr uriData.keyLabel, cstr uri]

/-- The part of `C_OnDemand_KeyLoad` that asks the agent. A failure has to come with an error. -/
def onDemandLoadkey (L : Library) (stm : StmOps) (uriData : ApimoduleUriData) (uri : Bytes)
    (err : Option GError) : Skc CkRv := do
  let (ret, err) ←
    keyagentLoadkeyWithModuledata (L.modules stm) (keyUrl uriData uri) (some uriData) err
  if ret then pure ckrOk
  else
    let _ ← Skc.deref err "k_critical_error"
    pure ckrArgumentsBad

/-- `C_OnDemand_KeyLoad`; `stm` are the security modules of the agent. -/
def cOnDemandKeyLoad (L : Library) (stm : StmOps) (cInitialize : Skc CkRv) (uri : Bytes) :
    Skc CkRv := do
  match apimoduleUriToUriData (L.p11KitUriParse (cstr uri)) uri with
  | none => pure ckrArgumentsBad
  | some uriData =>
    let (atoken, err) ← lookupOrInitToken cInitialize uriData false none
    match atoken with
    | none => onDemandLoadkey L stm uriData uri err
    | some atoken =>
      let token ← readToken atoken
      if token.pin ≠ cstr uriData.pin then pure ckrGeneralError
      else
        let (rv, isPresent) ← apimoduleFindobject token.session uriData
        if rv ≠ ckrOk ∨ isPresent then pure rv
        else onDemandLoadkey L stm uriData uri err

/-! ## Initialisation -/

/-- The loop of `apimodule_preload_keys`: the last verdict and the error. -/
def preloadLines (load : Bytes → Skc CkRv) : List Bytes → Bool → Skc (Bool × Option GError)
  | [], ret => pure (ret, none)
  | uri :: rest, _ => do
    let rv ← load uri
    if rv ≠ ckrOk then
      pure (false, gSetError none apimoduleErrorDomain apimoduleErrorInvalidConfValue
        (lit "Error while pre-loading key:" ++ cstr uri))
    else preloadLines load rest true

/-- `apimodule_preload_keys` -/
def apimodulePreloadKeys (preLoadKeyfile : Bytes) (load : Bytes → Skc CkRv) :
    Skc (Bool × Option GError) := do
  if preLoadKeyfile = lit "NIL" then pure (false, none)
  else
    match ← Prog.lift (S := skcSig) (.readLines preLoadKeyfile) with
    | none =>
      pure (false, gSetError none apimoduleErrorDomain apimoduleErrorInvalidConfValue
        (lit "Invalid File :apimodule_preload_keys"))
    | some lines => preloadLines load lines false

/-- The wrapped `C_Initialize`, around an implementation of `C_OnDemand_KeyLoad`. -/
def cInitializeWith (preLoadKeyfile : Bytes) (load : Bytes → Skc CkRv) : Skc CkRv := do
  let ret ← Skc.ck .cInitialize
  if ret = ckrOk ∨ ret = ckrCryptokiAlreadyInitialized then
    let flag ← Prog.lift (S := skcSig) .atomicIntAdd
    if flag = 0 then
      let (loaded, error) ← apimodulePreloadKeys preLoadKeyfile load
      if loaded then pure ret
      else
        let _ ← Skc.deref error "k_critical_error"
        pure ret
    else pure ret
  else pure ret

/-- The security module of a library, over the given `C_Initialize`. -/
def Library.stmOps (L : Library) (cInitialize : Skc CkRv) : StmOps :=
  SgxStm.stmOps L.sgxStm (apimoduleOps L.rsaPublicKeyParams cInitialize)

/-- `C_Initialize`, followed through `fuel` nested calls. -/
def cInitialize (L : Library) : Nat → Skc CkRv
  | 0 => Skc.outOfFuel
  | fuel + 1 =>
    cInitializeWith L.preLoadKeyfile
      (cOnDemandKeyLoad L (L.stmOps (cInitialize L fuel)) (cInitialize L fuel))

/-- `C_OnDemand_KeyLoad` of the whole library. -/
def onDemand (L : Library) (fuel : Nat) (uri : Bytes) : Skc CkRv :=
  cOnDemandKeyLoad L (L.stmOps (cInitialize L fuel)) (cInitialize L fuel) uri

/-- `C_Finalize` -/
def cFinalize : Skc CkRv := Skc.ck .cFinalize

/-- The part of `apimodule_prepare_child` that logs the child in. -/
def prepareChildLogin (uriData : ApimoduleUriData) : Skc Unit := do
  let (rv, slot) ← apimoduleFindtoken uriData
  if rv ≠ ckrOk then pure ()
  else
    match slot with
    | none => pure ()
    | some slot =>
      let (rv, session) ← Skc.ck (.cOpenSession slot)
      if rv ≠ ckrOk then pure ()
      else
        let _ ← Skc.ck (.cLogin session .user uriData.pin)
        pure ()

/-- `apimodule_prepare_child`, the handler that runs in a forked child. -/
def apimodulePrepareChild (L : Library) (fuel : Nat) : Skc Unit := do
  let _ ← cFinalize
  let _ ← cInitialize L fuel
  match ← Prog.lift (S := skcSig) (.readLines L.preLoadKeyfile) with
  | none => pure ()
  | some [] => pure ()
  | some (uri :: _) =>
    match apimoduleUriToUriData (L.p11KitUriParse (cstr uri)) uri with
    | none => pure ()
    | some uriData => prepareChildLogin uriData

/-- `apimodule_load_uri` -/
def apimoduleLoadUri (L : Library) (fuel : Nat) (uri : Bytes) : Skc Bool := do
  if cstr uri = [] then pure false
  else
    let rv ← onDemand L fuel uri
    pure (rv = ckrOk)

end SkcLibrary
