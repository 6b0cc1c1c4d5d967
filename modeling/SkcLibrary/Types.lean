import SkcLibrary.GLib

/-!
# Data types

The structures of `key-agent/types.h`, `key-agent/src/internal.h` and
`api-module/pkcs11/src/internal.h`, and the values of third parties that the code looks into
(JSON documents, parsed PKCS#11 URIs, return codes).

Strings that the code never leaves `NULL` are plain `Bytes`; the others are `Option Bytes`.
-/

namespace SkcLibrary

/-! ## PKCS#11 constants -/

/-- `CK_RV` -/
abbrev CkRv := Nat

def ckrOk : CkRv := 0
def ckrGeneralError : CkRv := 0x5
def ckrArgumentsBad : CkRv := 0x7
def ckrUserAlreadyLoggedIn : CkRv := 0x100
def ckrCryptokiAlreadyInitialized : CkRv := 0x191

/-- `CK_INVALID_HANDLE` -/
def ckInvalidHandle : Nat := 0

/-- `CKO_DATA` -/
def ckoData : Nat := 0

/-- `CKO_PRIVATE_KEY` -/
def ckoPrivateKey : Nat := 3

/-- `CKO_SECRET_KEY` -/
def ckoSecretKey : Nat := 4

/-- `CKU_SO`, `CKU_USER` -/
inductive CkUser where
  | so
  | user
  deriving DecidableEq

/-! ## Error codes of `key-agent/types.h` -/

/-- `KEYAGENT_ERROR`, used as an error domain. -/
def keyagentErrorDomain : String := "KEYAGENT_ERROR"

/-- `APIMODULE_ERROR`, used as an error domain. -/
def apimoduleErrorDomain : String := "APIMODULE_ERROR"

def keyagentErrorKeyinit : Int := 2
def keyagentErrorKeyCreateParams : Int := 4
def keyagentErrorNpmUrlUnsupported : Int := 5
def keyagentErrorKeyCreateInvalidSessionId : Int := 6
def keyagentErrorSessionCreateInvalidLabel : Int := 7
def keyagentErrorSessionCreateInvalidSwkType : Int := 8
def keyagentErrorInvalidKeyformat : Int := 9
def keyagentErrorInvalidConfValue : Int := 10
def apimoduleErrorInvalidConfValue : Int := 13

def stmErrorApiModuleLoadkey : Int := 2
def stmErrorInvalidChallengeData : Int := 3
def stmErrorInvalidLoadkeyData : Int := 4
def stmErrorInvalidSessionData : Int := 5

def npmErrorRegister : Int := 2
def npmErrorKeyserverError : Int := 3
def npmErrorLoadKey : Int := 4
def npmErrorJsonParse : Int := 5
def npmErrorInvalidStatus : Int := 6
def npmErrorInvalidSessionData : Int := 7

/-! ## Keys, sessions and security modules of the agent -/

/-- `NONCE_LENGTH` -/
def nonceLength : Nat := 32

/-- `keyagent_keytype` -/
inductive KeyagentKeytype where
  | rsakey
  | aeskey
  | invalidkey
  deriving DecidableEq

/-- The numbers of the `enum`, as they go into the cache. -/
def KeyagentKeytype.toInt : KeyagentKeytype → Int
  | .rsakey => 1
  | .aeskey => 2
  | .invalidkey => 3

/-- `k_attributes`: byte arrays by the name of the attribute. -/
abbrev KAttributes := GHashTable GQuark Bytes

/-- `KEYAGENT_ATTR_KEYDATA` -/
def keyagentAttrKeydata : GQuark := ⟨lit "KEYAGENT_ATTR_KEYDATA"⟩

/-- A pointer to a `keyagent_session_real`. -/
abbrev SessionRef := Nat

/-- `keyagent_session_real` -/
structure KeyagentSessionReal where
  swk : Bytes
  name : Bytes
  sessionId : Bytes
  swkType : Bytes
  cacheId : Int

/-- `keyagent_stm_real`, the parts that change or are read. -/
structure KeyagentStmReal where
  label : Bytes
  initialized : Bool
  apimodule : Bool
  session : Option SessionRef

/-- `keyagent_key_real` -/
structure KeyagentKeyReal where
  url : Bytes
  type : KeyagentKeytype
  session : Option SessionRef
  attributes : KAttributes
  cacheId : Int

/-- `apimodule_uri_data`; its `slot_id` is what the last `apimodule_findtoken` returned. -/
structure ApimoduleUriData where
  tokenLabel : Bytes
  keyLabel : Bytes
  keyId : Bytes
  pin : Bytes
  type : Nat

/-- `keyagent_request` -/
structure KeyagentRequest where
  moduleData : Option ApimoduleUriData
  npmName : Bytes
  stmName : Option Bytes

/-- `keyagent_ssl_opts`, the options the agent sets. -/
structure KeyagentSslOpts where
  certfile : Bytes
  caCertfile : Bytes
  certtype : Bytes
  keyname : Bytes
  keytype : Bytes
  sslVerify : Bool

/-- `keyagent_keyload_details`; the callbacks are the signature of an NPM's program. -/
structure KeyagentKeyloadDetails where
  requestId : Bytes
  url : Bytes
  stmNames : Bytes
  sslOpts : KeyagentSslOpts

/-! ## What an STM is given -/

/-- `keyagent_stm_create_challenge_details` -/
structure KeyagentStmCreateChallengeDetails where
  requestId : Bytes
  label : Bytes
  nonce : Bytes
  moduleData : Option ApimoduleUriData

/-- `keyagent_stm_session_details` -/
structure KeyagentStmSessionDetails where
  requestId : Bytes
  label : Bytes
  moduleData : Option ApimoduleUriData
  swkType : Option GQuark
  session : Bytes

/-- `keyagent_stm_loadkey_details` -/
structure KeyagentStmLoadkeyDetails where
  requestId : Bytes
  swkQuark : Option GQuark
  label : Bytes
  url : Bytes
  type : KeyagentKeytype
  key : Bytes
  iv : Option Bytes
  tagSize : Nat
  moduleData : Option ApimoduleUriData

/-! ## Tokens of the api module -/

/-- A pointer to an `apimodule_token`. -/
abbrev TokenRef := Nat

/-- `apimodule_token` -/
structure ApimoduleToken where
  tokenLabel : Bytes
  pin : Bytes
  challenge : Option Bytes
  session : Nat
  publickeyChallengeHandle : Nat
  privatekeyChallengeHandle : Nat
  wrappingkeyHandle : Nat

/-! ## JSON documents -/

/-- A document as jsoncpp reports it; a real number carries its text. -/
inductive Json where
  | null
  | int (n : Int)
  | real (text : Bytes)
  | string (s : Bytes)
  | boolean (b : Bool)
  | array (l : List Json)
  | object (members : List (Bytes × Json))

namespace Json

/-- `value[key]`: a missing member reads as `null`, and only an object or `null` has members. -/
def member (j : Json) (key : Bytes) : Option Json :=
  match j with
  | .null => some .null
  | .object ms => some ((ms.lookup key).getD .null)
  | _ => none

/-- `value[0u]` -/
def elem0 (j : Json) : Option Json :=
  match j with
  | .null => some .null
  | .array l => some (l.headD .null)
  | _ => none

/-- `value.isMember (key)` -/
def isMember (j : Json) (key : Bytes) : Option Bool :=
  match j with
  | .null => some false
  | .object ms => some (ms.lookup key).isSome
  | _ => none

/-- `value.asString ()` -/
def asString : Json → Option Bytes
  | .null => some []
  | .int n => some (fmtInt n)
  | .real text => some text
  | .string s => some s
  | .boolean b => some (lit (if b then "true" else "false"))
  | .array _ => none
  | .object _ => none

end Json

/-! ## HTTP and PKCS#11 URIs -/

/-- A request as `skc_https_send` gets it. Posted data is a JSON document. -/
structure HttpRequest where
  url : Bytes
  headers : List Bytes
  postdata : Option Json
  sslOpts : KeyagentSslOpts

/-- What `skc_https_send` brings back: the status, the header lines and the parsed body. -/
structure HttpResponse where
  status : Int
  headers : List Bytes
  body : Json

/-- What p11-kit finds in a URI. -/
structure P11KitUri where
  tokenLabel : Bytes
  label : Option Bytes
  id : Option Bytes
  objectClass : Option Nat
  pinValue : Option Bytes

end SkcLibrary
