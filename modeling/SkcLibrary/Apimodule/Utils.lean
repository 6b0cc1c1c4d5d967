import SkcLibrary.Keyagent.Intf
import SkcLibrary.Npm.Kms

/-!
# Tokens and URIs of the api module (`api-module/pkcs11/src/utils.c`)

A URI is parsed by p11-kit, which is a parameter. `apimoduleFindtoken` and `apimoduleFindobject`
return their `is_present` together with the return code.
-/

namespace SkcLibrary

open Interaction

/-- `G_LOG_DOMAIN` of `utils.c`. -/
def utilsLogDomain : String := "pkcs11-util"

def minPinLen : Nat := 4
def maxPinLen : Nat := 255
def minKeyidLen : Nat := 36

/-! ## URIs -/

/-- `apimodule_utf8_to_char`: without the trailing blanks, `NULL` if nothing is left. -/
def apimoduleUtf8ToChar (utf8buf : Bytes) : Option Bytes :=
  let buf := (utf8buf.reverse.dropWhile (· = 32)).reverse
  if buf = [] then none else some buf

/-- `apimodule_uri_to_uri_data`; `parsed` is what p11-kit finds in the URI. -/
def apimoduleUriToUriData (parsed : Option P11KitUri) (uri : Bytes) : Option ApimoduleUriData := do
  let keyUri ← parsed
  if keyUri.tokenLabel.headD 0 = 0 then none
  else
    let label ← keyUri.label
    let id ← keyUri.id
    if id.length < minKeyidLen then none
    else if gStrContains (cstr uri) (lit "type=") = false then none
    else
      let type ← keyUri.objectClass
      if type ≠ ckoSecretKey ∧ type ≠ ckoPrivateKey then none
      else
        let upin ← cstr <$> keyUri.pinValue
        if upin.length < minPinLen ∨ maxPinLen < upin.length then none
        else
          let tokenLabel ← apimoduleUtf8ToChar keyUri.tokenLabel
          if cstr tokenLabel ≠ Kms.kmsPrefixToken then none
          else
            some { tokenLabel := tokenLabel, keyLabel := label, keyId := id, pin := upin,
                   type := type }

/-! ## Slots -/

/-- The loop of `apimodule_findtoken`, from the slots that are left and the last return code. -/
def findtokenLoop (tokenLabel : Bytes) : List Nat → CkRv → Skc (CkRv × Option Nat)
  | [], rv => pure (rv, none)
  | slot :: rest, _ => do
    let (rv, info) ← Skc.ck (.cGetTokenInfo slot)
    if rv ≠ ckrOk then findtokenLoop tokenLabel rest rv
    else
      match apimoduleUtf8ToChar info with
      | none => findtokenLoop tokenLabel rest rv
      | some label =>
        if label.take tokenLabel.length = tokenLabel then pure (rv, some slot)
        else findtokenLoop tokenLabel rest rv

/-- `apimodule_findtoken`: the return code, and the slot of the token if it is present. -/
def apimoduleFindtoken (data : ApimoduleUriData) : Skc (CkRv × Option Nat) := do
  let (rv, nslots) ← Skc.ck .cGetSlotListCount
  if rv ≠ ckrOk ∨ nslots = 0 then pure (rv, none)
  else if ← Prog.lift (S := skcSig) (.calloc nslots) then
    let (rv, slots) ← Skc.ck (.cGetSlotList nslots)
    if rv ≠ ckrOk ∨ slots = [] then pure (rv, none)
    else findtokenLoop data.tokenLabel slots rv
  else pure (rv, none)

/-- A second login of the same user is as good as the first. -/
def loginRv (rv : CkRv) : CkRv := if rv = ckrUserAlreadyLoggedIn then ckrOk else rv

/-- The last part of `apimodule_createtoken`: the user's pin is set by the security officer. -/
def createtokenLogin (uriData : ApimoduleUriData) (session : Nat) : Skc CkRv := do
  let rv ← Skc.ck (.cLogin session .so uriData.pin)
  if loginRv rv ≠ ckrOk then pure (loginRv rv)
  else
    let rv ← Skc.ck (.cInitPin session uriData.pin)
    if rv ≠ ckrOk then pure rv
    else
      let _ ← Skc.ck (.cLogout session)
      let rv ← Skc.ck (.cLogin session .user uriData.pin)
      pure (loginRv rv)

/-- The label of a new token, padded with blanks. -/
def paddedLabel (tokenLabel : Bytes) : Bytes := (cstr tokenLabel ++ List.replicate 31 32).take 32

/-- `apimodule_createtoken`, in the last slot: the return code and the session. -/
def apimoduleCreatetoken (uriData : ApimoduleUriData) : Skc (CkRv × Nat) := do
  let (rv, nslots) ← Skc.ck .cGetSlotListCount
  if rv ≠ ckrOk ∨ nslots = 0 then pure (rv, 0)
  else
    let rv ← Skc.ck (.cInitToken (nslots - 1) uriData.pin (paddedLabel uriData.tokenLabel))
    if rv ≠ ckrOk then pure (rv, 0)
    else
      let (rv, session) ← Skc.ck (.cOpenSession (nslots - 1))
      if rv ≠ ckrOk then pure (rv, session)
      else
        let rv ← createtokenLogin uriData session
        pure (rv, session)

/-! ## Objects -/

/-- `apimodule_findobject`: the return code and whether there is such an object. -/
def apimoduleFindobject (session : Nat) (data : ApimoduleUriData) : Skc (CkRv × Bool) := do
  let rv ← Skc.ck (.cFindObjectsInit session data.keyLabel data.keyId)
  if rv ≠ ckrOk then pure (rv, false)
  else
    let (rv, objects) ← Skc.ck (.cFindObjects session)
    if rv ≠ ckrOk then pure (rv, false)
    else
      let rv ← Skc.ck (.cFindObjectsFinal session)
      if rv ≠ ckrOk then pure (rv, false)
      else
        match objects with
        | [] => pure (rv, false)
        | object :: _ =>
          let rv ← Skc.ck (.cGetAttributeValue session object)
          pure (rv, true)

/-! ## Cached tokens -/

/-- `alloc_apimodule_token`; until it is cached, the object is known to its creator only. -/
def allocApimoduleToken (label pin : Bytes) : ApimoduleToken where
  tokenLabel := cstr label
  pin := cstr pin
  challenge := none
  session := ckInvalidHandle
  publickeyChallengeHandle := ckInvalidHandle
  privatekeyChallengeHandle := ckInvalidHandle
  wrappingkeyHandle := ckInvalidHandle

/-- `lookup_apimodule_token` -/
def lookupApimoduleToken (label : Bytes) : Skc (Option TokenRef) := do
  let m ← Skc.apimodule
  pure (m.apimoduleTokenHash.lookup (cstr label))

/-- `*atoken` -/
def readToken (atoken : TokenRef) : Skc ApimoduleToken := do
  let m ← Skc.apimodule
  Skc.deref m.tokens[atoken]? "apimodule_token"

/-- A write through `atoken`. -/
def writeToken (atoken : TokenRef) (f : ApimoduleToken → ApimoduleToken) : Skc Unit :=
  Prog.lift (S := skcSig) (.writeToken atoken f)

/-- `cache_apimodule_token`: the address of the object, which others can see from now on. -/
def cacheApimoduleToken (atoken : ApimoduleToken) : Skc TokenRef :=
  Prog.lift (S := skcSig) (.cacheToken atoken)

/-! ## `init_apimodule_token` -/

/--
The first part: the token is there, or is created and the module initialised anew. The return code
is not `CKR_OK` where the C code leaves its block.
-/
def ensureToken (cInitialize : Skc CkRv) (uriData : ApimoduleUriData) (create : Bool)
    (err : Option GError) : Skc (CkRv × Option GError) := do
  let (rv, slot) ← apimoduleFindtoken uriData
  if rv ≠ ckrOk then
    pure (rv, kSetError err utilsLogDomain (-1) (lit "Error query token"))
  else
    match slot with
    | some _ => pure (ckrOk, err)
    | none =>
      if create = false then pure (ckrGeneralError, err)
      else
        let (rv, session) ← apimoduleCreatetoken uriData
        if rv ≠ ckrOk then
          pure (rv, kSetError err utilsLogDomain (-1) (lit "failed to create token"))
        else
          let _ ← Skc.ck (.cLogout session)
          let _ ← Skc.ck (.cCloseSession session)
          let _ ← Skc.ck .cFinalize
          let _ ← cInitialize
          pure (ckrOk, err)

/--
The second part: a session on the token, with the user logged in. A token that is missing from a
search without errors leaves the return code at `CKR_OK`, and the token without a session.
-/
def openToken (uriData : ApimoduleUriData) (atoken : ApimoduleToken) (err : Option GError) :
    Skc (CkRv × ApimoduleToken × Option GError) := do
  let (rv, slot) ← apimoduleFindtoken uriData
  if rv ≠ ckrOk then
    pure (rv, atoken, kSetError err utilsLogDomain (-1) (lit "Error query token"))
  else
    match slot with
    | none => pure (rv, atoken, kSetError err utilsLogDomain (-1) (lit "Error query token"))
    | some slot =>
      let (rv, session) ← Skc.ck (.cOpenSession slot)
      if rv ≠ ckrOk then
        pure (rv, atoken,
          kSetError err utilsLogDomain (-1) (lit "failed to open session on  token"))
      else
        let _ ← Skc.ck (.cLogout session)
        let rv ← Skc.ck (.cLogin session .user uriData.pin)
        if loginRv rv ≠ ckrOk then
          pure (loginRv rv, atoken,
            kSetError err utilsLogDomain (-1) (lit "failed to login on token"))
        else
          pure (ckrOk, { atoken with session := session }, err)

/-- `init_apimodule_token`; `cInitialize` is `func_list->C_Initialize`. -/
def initApimoduleToken (cInitialize : Skc CkRv) (uriData : ApimoduleUriData) (create : Bool)
    (err : Option GError) : Skc (Option TokenRef × Option GError) := do
  let (rv, err) ← ensureToken cInitialize uriData create err
  if rv ≠ ckrOk then pure (none, err)
  else
    let (rv, atoken, err) ←
      openToken uriData (allocApimoduleToken uriData.tokenLabel uriData.pin) err
    if rv ≠ ckrOk then pure (none, err)
    else
      let atoken ← cacheApimoduleToken atoken
      pure (some atoken, err)

/-- The token of a URI: the cached one, or one that is initialised now. -/
def lookupOrInitToken (cInitialize : Skc CkRv) (uriData : ApimoduleUriData) (create : Bool)
    (err : Option GError) : Skc (Option TokenRef × Option GError) := do
  match ← lookupApimoduleToken uriData.tokenLabel with
  | some atoken => pure (some atoken, err)
  | none => initApimoduleToken cInitialize uriData create err

end SkcLibrary
