import SkcLibrary.Apimodule.Utils

/-!
# The SGX operations of the api module (`api-module/pkcs11/src/apimodule-sgx.cpp`)

The callers' checks for `NULL` arguments are repeated by every function of the source. Here the
arguments that are never `NULL` are plain values, and the checks of the others are kept.
-/

namespace SkcLibrary

open Interaction

/-- `G_LOG_DOMAIN` of `apimodule-sgx.cpp`. -/
def sgxLogDomain : String := "apimodule-sgx"

/-- The error for arguments the SGX functions refuse. -/
def sgxInvalidInput (err : Option GError) : Option GError :=
  kSetError err sgxLogDomain (-1) (lit "Input parameters are invalid!")

/-- `keyagent_sgx_challenge_request` -/
structure KeyagentSgxChallengeRequest where
  launchPolicy : Int
  nonce : Bytes
  attestationType : Bytes

/-- `keyagent_apimodule_get_challenge_details`, without the challenge that is returned. -/
structure KeyagentApimoduleGetChallengeDetails where
  label : Bytes
  nonce : Bytes
  moduleData : Option ApimoduleUriData

/-- `keyagent_apimodule_session_details` -/
structure KeyagentApimoduleSessionDetails where
  label : Bytes
  moduleData : Option ApimoduleUriData
  swkType : Option GQuark
  session : Bytes

/-- `keyagent_apimodule_loadkey_details` -/
structure KeyagentApimoduleLoadkeyDetails where
  label : Bytes
  url : Bytes
  type : KeyagentKeytype
  key : Bytes
  iv : Option Bytes
  tagSize : Nat
  moduleData : Option ApimoduleUriData

/-! ## Loading a key -/

/-- The template for a key of the given class; only an RSA key is stored in the token. -/
def unwrapTemplate (objectClass : Nat) (token : Bool) (uriData : ApimoduleUriData) : CkTemplate where
  objectClass := objectClass
  label := uriData.keyLabel
  id := uriData.keyId
  token := token

/-- What `sgx_unwrap_rsa_key` and `sgx_unwrap_symmeric_key` share. -/
def sgxUnwrapKey (template : CkTemplate) (details : KeyagentApimoduleLoadkeyDetails)
    (atoken : TokenRef) : Skc CkRv := do
  let iv ← Skc.deref details.iv "k_buffer_data"
  let token ← readToken atoken
  let (rv, _) ← Skc.ck (.cUnwrapKey token.session (.aesGcm iv details.tagSize)
    token.wrappingkeyHandle details.key template)
  pure rv

/-- `sgx_unwrap_rsa_key` -/
def sgxUnwrapRsaKey (details : KeyagentApimoduleLoadkeyDetails) (uriData : ApimoduleUriData)
    (atoken : TokenRef) : Skc CkRv :=
  sgxUnwrapKey (unwrapTemplate ckoPrivateKey true uriData) details atoken

/-- `sgx_unwrap_symmeric_key` -/
def sgxUnwrapSymmericKey (details : KeyagentApimoduleLoadkeyDetails) (uriData : ApimoduleUriData)
    (atoken : TokenRef) : Skc CkRv :=
  sgxUnwrapKey (unwrapTemplate ckoSecretKey false uriData) details atoken

/-- The `switch` of `sgx_load_key`. -/
def sgxUnwrap (details : KeyagentApimoduleLoadkeyDetails) (uriData : ApimoduleUriData)
    (atoken : TokenRef) : Skc CkRv :=
  match details.type with
  | .aeskey => sgxUnwrapSymmericKey details uriData atoken
  | .rsakey => sgxUnwrapRsaKey details uriData atoken
  | .invalidkey => pure ckrArgumentsBad

/-- `sgx_load_key` -/
def sgxLoadKey (details : KeyagentApimoduleLoadkeyDetails) (err : Option GError) :
    Skc (Bool × Option GError) := do
  match details.moduleData with
  | none => pure (false, sgxInvalidInput err)
  | some data =>
    match ← lookupApimoduleToken data.tokenLabel with
    | none => pure (false, sgxInvalidInput err)
    | some atoken =>
      let rv ← sgxUnwrap details data atoken
      if rv = ckrOk then pure (true, err)
      else pure (false, kSetError err sgxLogDomain (-1) (lit "cannot load key"))

/-! ## Challenges -/

/-- `generate_rsa_keypair` -/
def generateRsaKeypair (atoken : TokenRef) (label id : Bytes) : Skc CkRv := do
  writeToken atoken fun t =>
    { t with
      publickeyChallengeHandle := ckInvalidHandle
      privatekeyChallengeHandle := ckInvalidHandle }
  let token ← readToken atoken
  let (rv, publicKey, privateKey) ← Skc.ck (.cGenerateKeyPair token.session label id)
  if rv = ckrOk then
    writeToken atoken fun t =>
      { t with
        publickeyChallengeHandle := publicKey
        privatekeyChallengeHandle := privateKey }
    pure rv
  else
    pure rv

/--
`CK_RSA_PUBLIC_KEY_PARAMS` as `QuoteGeneration.h` lays it out, which comes with the PKCS#11 module. The two
lengths are read at a pointer to the structure, and nothing behind it counts.
-/
structure CkRsaPublicKeyParams where
  /-- `sizeof (CK_RSA_PUBLIC_KEY_PARAMS)` -/
  size : Nat
  ulExponentLen : Bytes → Nat
  ulModulusLen : Bytes → Nat
  size_lt : size < 2 ^ 32
  exponentLen_inside : ∀ bytes, ulExponentLen (bytes.take size) = ulExponentLen bytes
  modulusLen_inside : ∀ bytes, ulModulusLen (bytes.take size) = ulModulusLen bytes

namespace CkRsaPublicKeyParams

variable (params : CkRsaPublicKeyParams)

/-- `quote_len - sizeof (CK_RSA_PUBLIC_KEY_PARAMS)`, a `CK_ULONG`, as the number of bytes that
`k_buffer_append` copies. -/
def restLen (quoteLen : Nat) : Nat := (quoteLen + 2 ^ 64 - params.size) % 2 ^ 64 % 2 ^ 32

/-- A difference below zero wraps around, and the copy ends behind every buffer. -/
theorem restLen_inside_iff {quoteLen n : Nat} (hquote : quoteLen ≤ n) (hn : n < 2 ^ 32) :
    params.size + params.restLen quoteLen ≤ n ↔ params.size ≤ quoteLen := by
  have hsize := params.size_lt
  unfold restLen
  omega

theorem restLen_eq {quoteLen : Nat} (hquote : quoteLen < 2 ^ 32) (h : params.size ≤ quoteLen) :
    params.restLen quoteLen = quoteLen - params.size := by
  unfold restLen
  omega

end CkRsaPublicKeyParams

/-- One layout, for the runs that are executed: two `CK_ULONG`s of 64 bits, the lower byte first. -/
def ckRsaPublicKeyParams : CkRsaPublicKeyParams where
  size := 16
  ulExponentLen bytes := leNat (bytes.take 8)
  ulModulusLen bytes := leNat ((bytes.drop 8).take 8)
  size_lt := by decide
  exponentLen_inside bytes := by rw [List.take_take]; rfl
  modulusLen_inside bytes := by rw [List.drop_take, List.take_take]; rfl

/--
The challenge made of a quote: a `keyagent_sgx_quote_info` and what follows the key's parameters.
The buffer was made as long as the module said first; `none` is an access outside of it.
-/
def quoteChallenge (params : CkRsaPublicKeyParams) (bufferLen : Nat) (quote : Bytes) : Option Bytes :=
  if quote.length ≤ bufferLen % 2 ^ 32 ∧
      params.size + params.restLen quote.length ≤ bufferLen % 2 ^ 32 then
    some (le32 (params.ulExponentLen quote) ++ le32 (params.ulModulusLen quote)
      ++ le32 quote.length ++ (quote.drop params.size).take (params.restLen quote.length))
  else none

/-- A quote that holds the key's parameters is copied to its end. -/
theorem quoteChallenge_eq (params : CkRsaPublicKeyParams) (bufferLen : Nat) (quote : Bytes) :
    quoteChallenge params bufferLen quote =
      if params.size ≤ quote.length ∧ quote.length ≤ bufferLen % 2 ^ 32 then
        some (le32 (params.ulExponentLen quote) ++ le32 (params.ulModulusLen quote)
          ++ le32 quote.length ++ quote.drop params.size)
      else none := by
  have hlt : bufferLen % 2 ^ 32 < 2 ^ 32 := Nat.mod_lt _ (by decide)
  unfold quoteChallenge
  by_cases hbuffer : quote.length ≤ bufferLen % 2 ^ 32
  · by_cases hsize : params.size ≤ quote.length
    · have hrest : params.restLen quote.length = (quote.drop params.size).length := by
        rw [params.restLen_eq (by omega) hsize, List.length_drop]
      rw [if_pos ⟨hbuffer, (params.restLen_inside_iff hbuffer hlt).mpr hsize⟩,
        if_pos ⟨hsize, hbuffer⟩, hrest, List.take_length]
    · rw [if_neg fun h => hsize ((params.restLen_inside_iff hbuffer hlt).mp h.2),
        if_neg fun h => hsize h.1]
  · rw [if_neg fun h => hbuffer h.1, if_neg fun h => hbuffer h.2]

/-- The part of `sgx_get_challenge` after the key pair: the quote of its public key. -/
def exportQuote (params : CkRsaPublicKeyParams) (atoken : TokenRef) (policy : Int) (nonce : Bytes)
    (err : Option GError) : Skc (Bool × Option GError) := do
  let token ← readToken atoken
  let (rv, quoteLen) ← Skc.ck
    (.cWrapKeySize token.session policy nonce token.publickeyChallengeHandle)
  if rv ≠ ckrOk then
    pure (false, kSetError err sgxLogDomain (-1) (lit "failed to get quote size"))
  else
    let token ← readToken atoken
    let (rv, quote) ← Skc.ck
      (.cWrapKey token.session policy nonce token.publickeyChallengeHandle quoteLen)
    if rv ≠ ckrOk then
      pure (false, kSetError err sgxLogDomain (-1) (lit "failed to get quote"))
    else
      let challenge ← Skc.deref (quoteChallenge params quoteLen quote) "access outside of the quote"
      writeToken atoken fun t => { t with challenge := some challenge }
      pure (true, err)

/-- `sgx_get_challenge`; the challenge is left in the token. -/
def sgxGetChallenge (params : CkRsaPublicKeyParams) (details : KeyagentApimoduleGetChallengeDetails)
    (request : KeyagentSgxChallengeRequest) (err : Option GError) :
    Skc (Bool × Option GError) := do
  if request.attestationType ≠ lit "ECDSA" then pure (false, sgxInvalidInput err)
  else
    match details.moduleData with
    | none => pure (false, sgxInvalidInput err)
    | some data =>
      match ← lookupApimoduleToken data.tokenLabel with
      | none => pure (false, sgxInvalidInput err)
      | some atoken =>
        let rv ← generateRsaKeypair atoken (lit "quoting-key") (lit "80000001")
        if rv ≠ ckrOk then
          pure (false, kSetError err sgxLogDomain (-1) (lit "failed to login on token"))
        else
          exportQuote params atoken request.launchPolicy details.nonce err

/-! ## Sessions -/

/-- The template of a session wrapping key. -/
def swkTemplate : CkTemplate where
  objectClass := ckoSecretKey
  label := lit "SWK"
  id := lit "80000002"
  token := false

/-- `sgx_set_wrapping_key` -/
def sgxSetWrappingKey (details : KeyagentApimoduleSessionDetails) (err : Option GError) :
    Skc (Bool × Option GError) := do
  match details.moduleData with
  | none => pure (false, sgxInvalidInput err)
  | some data =>
    match ← lookupApimoduleToken data.tokenLabel with
    | none => pure (false, sgxInvalidInput err)
    | some atoken =>
      let token ← readToken atoken
      let (rv, key) ← Skc.ck (.cUnwrapKey token.session .rsaPkcsOaep
        token.privatekeyChallengeHandle details.session swkTemplate)
      if rv ≠ ckrOk then
        pure (false, kSetError err sgxLogDomain (-1) (lit "cannot add wrapping key"))
      else
        writeToken atoken fun t => { t with wrappingkeyHandle := key }
        pure (true, err)

end SkcLibrary
