import SkcLibrary.Npm.Interface

/-!
# The KMS module (`npm/kms/src/intf.cpp`)

A key transfer is a `GET`. KBS answers it with the key (200), or asks for a session (401); then
`startSession` has the STM answer KBS's challenge, posts the answer, hands the session to the
agent, and the transfer is tried once more.

jsoncpp reports a document that does not have the expected shape by an exception; `Except`
carries its text.
-/

namespace SkcLibrary.Kms

open Interaction

/-- `G_LOG_DOMAIN` -/
def logDomain : String := "npm-kms"

/-- `KMS_PREFIX_TOKEN` -/
def kmsPrefixToken : Bytes := lit "KMS"

/-! ## JSON -/

/-- `value[key]` -/
def jsonMember (value : Json) (key : String) : Except Bytes Json :=
  match value.member (lit key) with
  | some v => .ok v
  | none => .error (lit "in Json::Value::resolveReference(key): requires objectValue")

/-- `value[0]` -/
def jsonElem0 (value : Json) : Except Bytes Json :=
  match value.elem0 with
  | some v => .ok v
  | none => .error (lit "in Json::Value::operator[](ArrayIndex): requires arrayValue")

/-- `get_json_value` -/
def getJsonValue (value : Json) (key : String) : Except Bytes Bytes :=
  match value.isMember (lit key) with
  | none =>
    .error (lit "in Json::Value::find(begin, end): requires objectValue or nullValue")
  | some false => .error (lit "Error in parsing json key:" ++ lit key)
  | some true =>
    match jsonMember value key with
    | .error e => .error e
    | .ok v =>
      match v.asString with
      | some s => .ok s
      | none => .error (lit "Type is not convertible to string")

/-- `decode64_json_attr`: a value that cannot be read is an empty buffer. -/
def decode64JsonAttr (value : Json) (name : String) : Bytes :=
  match getJsonValue value name with
  | .ok v => gBase64Decode (cstr v)
  | .error _ => []

/-! ## Sessions -/

/-- What KBS asks for. -/
structure ChallengeRequest where
  sessionUrl : Bytes
  sessionMethod : Bytes
  challengeType : Bytes
  sessionId : Bytes

/-- The first `try` block of `start_session`. -/
def parseChallenge (transferData : Json) : Except Bytes ChallengeRequest := do
  let link ← jsonMember transferData "link"
  let replyto ← jsonMember link "challenge-replyto"
  let sessionUrl ← getJsonValue replyto "href"
  let sessionMethod ← getJsonValue replyto "method"
  let challengeType ← getJsonValue transferData "challenge_type"
  let sessionId ← getJsonValue transferData "challenge"
  pure ⟨cstr sessionUrl, cstr sessionMethod, cstr challengeType, cstr sessionId⟩

/-- The second `try` block of `start_session`: the protected swk and its type. -/
def parseSession (sessionReturnData : Json) : Except Bytes (Bytes × Bytes) := do
  let _ ← getJsonValue sessionReturnData "status"
  let data ← jsonMember sessionReturnData "data"
  let swktype ← getJsonValue data "type"
  pure (decode64JsonAttr data "swk", cstr swktype)

/--
The loop that copies the challenge without its dashes, from index `j` of the nonce on. `none` is
a write outside of the nonce.
-/
def stripDashes : Bytes → Nat → Bytes → Option Bytes
  | [], _, nonce => some nonce
  | b :: rest, j, nonce =>
    if b ≠ 45 then
      if j < nonce.length then stripDashes rest (j + 1) (nonce.set j b) else none
    else stripDashes rest j nonce

/-- The document that answers the challenge. -/
def sessionData (req : ChallengeRequest) (challenge : Bytes) : Json :=
  .object [(lit "challenge", .string req.sessionId),
    (lit "challenge_type", .string req.challengeType),
    (lit "quote", .string (gBase64Encode challenge))]

def jsonHeaders : List Bytes :=
  [lit "Accept: application/json", lit "Content-Type: application/json"]

/-- `start_session`, once KBS has accepted the challenge response. -/
def createSession (details : KeyagentKeyloadDetails) (req : ChallengeRequest)
    (sessionReturnData : Json) (error : Option GError) : Npm (Bool × Option GError) := do
  match parseSession sessionReturnData with
  | .error what =>
    pure (false, kSetError error logDomain npmErrorJsonParse
      (lit "Error while parsing session response received from KBS, JSON Parse error: " ++ what))
  | .ok (protectedSwk, swktype) =>
    let (retStatus, error) ← Npm.op (.sessionCreate details.requestId req.challengeType
      (cstr (gBase64Decode req.sessionId)) protectedSwk swktype error)
    if retStatus = false ∧ error = none then
      pure (false, kSetError error logDomain npmErrorInvalidStatus (lit "Session creation failed"))
    else
      pure (retStatus, error)

/-- `start_session`, once the STM has answered the challenge. -/
def postChallenge (details : KeyagentKeyloadDetails) (req : ChallengeRequest)
    (challenge : Bytes) (error : Option GError) : Npm (Bool × Option GError) := do
  let res ← Npm.op (.httpsSend
    { url := req.sessionUrl, headers := jsonHeaders, postdata := some (sessionData req challenge),
      sslOpts := details.sslOpts })
  if res.status = -1 ∨ res.status = 0 then
    pure (false, kSetError error logDomain npmErrorKeyserverError
      (lit "Error in connecting KBS, url:" ++ req.sessionUrl ++ lit ", Invalid http status:"
        ++ fmtInt res.status ++ lit "\n"))
  else if res.status ≠ 201 then
    pure (false, kSetError error logDomain npmErrorInvalidStatus
      (lit "Could not send Challenge Response to KBS, received HTTP Status:"
        ++ fmtInt res.status ++ lit "\n"))
  else
    createSession details req res.body error

/-- `start_session` -/
def startSession (details : KeyagentKeyloadDetails) (transferData : Json)
    (error : Option GError) : Npm (Bool × Option GError) := do
  match parseChallenge transferData with
  | .error what =>
    pure (false, kSetError error logDomain npmErrorJsonParse
      (lit "Error while parsing challenge request received from KBS :" ++ what))
  | .ok req =>
    if req.sessionMethod ≠ lit "post" then
      pure (false, error)
    else
      let nonce ← Npm.op (.uninitialised nonceLength)
      let nonce ← Npm.deref (stripDashes (gBase64Decode req.sessionId) 0 nonce.1)
        "write outside of the nonce"
      let (ret, challenge, error) ←
        Npm.op (.stmGetChallenge details.requestId nonce req.challengeType error)
      if ret = false then
        pure (false, error)
      else
        let challenge ← Npm.deref challenge "k_buffer_data"
        postChallenge details req challenge error

/-- What is posted, and the session that follows. -/
theorem postChallenge_issues {P : NpmCall → Prop} {details : KeyagentKeyloadDetails}
    {req : ChallengeRequest} {challenge : Bytes} {error : Option GError}
    (hsend : ∀ request : HttpRequest, request.postdata ≠ none → P (.httpsSend request))
    (hcreate : ∀ {requestId name sessionId swk swkType error},
      P (.sessionCreate requestId name sessionId swk swkType error)) :
    (postChallenge details req challenge error).Issues P := by
  refine Npm.issues_op_bind.mpr ⟨hsend _ nofun, fun res => ?_⟩
  split
  · trivial
  · split
    · trivial
    · unfold createSession
      split
      · trivial
      · refine Npm.issues_op_bind.mpr ⟨hcreate, fun a => ?_⟩
        obtain ⟨retStatus, error⟩ := a
        dsimp only
        split <;> trivial

/-! ## Key transfer -/

/-- `get_session_id_from_header`, for one header. -/
def isSessionIdHeader (header : Bytes) : Bool :=
  (lit "Session-Id:").isPrefixOf header || (lit "session-id:").isPrefixOf header

/-- `g_ptr_array_foreach (res_headers, get_session_id_from_header, ...)`: the last one counts. -/
def sessionIdTokens (headers : List Bytes) : Option (List Bytes) :=
  (headers.filter isSessionIdHeader).getLast?.map (gStrsplit · 58)

/-- What a key transfer brings. -/
structure KeyTransfer where
  keytype : KeyagentKeytype
  attrs : KAttributes

/-- The `try` block for an answer with status 200. -/
def parseKeyTransfer (transferData : Json) : Except Bytes KeyTransfer := do
  let data ← jsonMember transferData "data"
  let _ ← getJsonValue data "id"
  let keytypeStr ← getJsonValue data "algorithm"
  pure
    { keytype :=
        if cstr keytypeStr = lit "RSA" then .rsakey
        else if cstr keytypeStr = lit "AES" then .aeskey
        else .invalidkey
      attrs := AList.insert keyagentAttrKeydata (decode64JsonAttr data "payload") ∅ }

/-- The `try` block for an answer with status 401: the status and the type of the first fault. -/
def parseFault (transferData : Json) : Except Bytes (Bytes × Bytes) := do
  let status ← getJsonValue transferData "status"
  let faults ← jsonMember transferData "faults"
  let fault ← jsonElem0 faults
  let type ← getJsonValue fault "type"
  pure (status, type)

/-- Status 200: the key goes to the agent. -/
def createKey (details : KeyagentKeyloadDetails) (res : HttpResponse) (err : Option GError) :
    Npm (Bool × Option GError) := do
  match parseKeyTransfer res.body with
  | .error what =>
    pure (false, kSetError err logDomain npmErrorJsonParse
      (lit "JSON Parse error: " ++ what ++ lit " while parsing key transfer response"))
  | .ok transfer =>
    match sessionIdTokens res.headers with
    | none =>
      pure (false, kSetError err logDomain npmErrorInvalidSessionData
        (lit "Invalid session data received from KBS"))
    | some tokens =>
      match ← Npm.deref (gStrv tokens 2) "read behind the tokens" with
      | none =>
        pure (false, kSetError err logDomain npmErrorInvalidSessionData
          (lit "Session data not found for stm label:" ++ tokens.getD 1 [] ++ lit "\n"))
      | some sessionId =>
        let (quark, err) ← Npm.op (.keyCreate details.requestId details.url transfer.keytype
          (some transfer.attrs) (some (gStrstrip sessionId)) err)
        pure (quark.isSome, err)

/-- The request for a key. -/
def transferRequest (serverUrl : Bytes) (details : KeyagentKeyloadDetails) (keyId : Bytes)
    (sessionIds : Option Bytes) : HttpRequest :=
  { url := serverUrl ++ lit "/v1/keys/" ++ keyId ++ lit "/dhsm2-transfer"
    headers := jsonHeaders ++ [lit "Accept-Challenge: " ++ details.stmNames] ++
      match sessionIds with
      | some ids => if ids = [] then [] else [lit "Session-Id: " ++ ids]
      | none => []
    postdata := none
    sslOpts := details.sslOpts }

/--
`__npm_loadkey`. `info->tries` counts from 0 to 2; here the tries that are left are counted
down, so that `0` is `info->tries > 1`.
-/
def npmLoadkey (serverUrl : Bytes) (details : KeyagentKeyloadDetails) :
    Nat → Option GError → Npm (Bool × Option GError)
  | 0, err =>
    pure (false, kSetError err logDomain npmErrorLoadKey (lit "Load Key tried more than once\n"))
  | tries + 1, err => do
    let urlTokens := gStrsplit details.url 58
    if urlTokens[0]? ≠ some kmsPrefixToken then
      pure (false, kSetError err logDomain npmErrorLoadKey
        (lit "Error invalid key url token, url:" ++ urlTokens.headD (lit "(null)")))
    else
      let sessionIds ← Npm.op .sessionGetIds
      let res ← Npm.op (.httpsSend
        (transferRequest serverUrl details (urlTokens.getD 1 []) sessionIds))
      if res.status = -1 ∨ res.status = 0 then
        pure (false, kSetError err logDomain npmErrorKeyserverError
          (lit "Cannot connect to KBS, HTTP Error code received: " ++ fmtInt res.status
            ++ lit "\n"))
      else if res.status = 401 then
        match parseFault res.body with
        | .error what =>
          pure (false, kSetError err logDomain npmErrorJsonParse
            (lit "Error while parsing challenge request received from KBS, JSON Parse error: "
              ++ what))
        | .ok (status, type) =>
          if status = lit "failure" ∧ type = lit "not-authorized" then
            let (started, err) ← startSession details res.body err
            if started then npmLoadkey serverUrl details tries err else pure (false, err)
          else
            pure (false, err)
      else if res.status = 200 then
        createKey details res err
      else
        pure (false, kSetError err logDomain npmErrorInvalidStatus
          (lit "Invalid HTTP response received from KBS during key transfer, " ++
            lit "expected status code 200/401 but received:" ++ fmtInt res.status))

/-! ## The module -/

/-- `npm_register` -/
def npmRegister (url : Bytes) : Bool × Option GError :=
  let urlTokens := gStrsplit url 58
  if urlTokens[0]? ≠ some kmsPrefixToken ∨ urlTokens[1]? = none ∨ urlTokens[1]? = some [] then
    (false, some ⟨logDomain, npmErrorRegister,
      lit "NPM_URL_UNSUPPORTED:Expected token:KMS token missing in url:" ++ url ++ lit "\n"⟩)
  else (true, none)

/-- `npm_key_load` -/
def npmKeyLoad (serverUrl : Bytes) (details : KeyagentKeyloadDetails) (err : Option GError) :
    Npm (Bool × Option GError) :=
  npmLoadkey serverUrl details 2 err

/-- The module as `__initialize_npm` registers it; the server comes from its configuration. -/
def npm (serverUrl : Bytes) : KeyagentNpmReal where
  label := kmsPrefixToken
  initialized := true
  register := npmRegister
  keyLoad := npmKeyLoad serverUrl

end SkcLibrary.Kms
