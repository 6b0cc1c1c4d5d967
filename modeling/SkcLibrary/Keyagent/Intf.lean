import SkcLibrary.Keyagent.Session
import SkcLibrary.Npm.Interface

/-!
# Loading a key (`key-agent/src/intf.cpp`)

`keyagentLoadkeyWithModuledata` holds the agent's lock while it looks for an NPM that takes the
URL, has it load the key, and has the STM put the key into the token.

`GError` objects are values here; who frees them is not modelled.
-/

namespace SkcLibrary

open Interaction

/-- The settings of `__do_keyagent_init` that a key load uses. -/
structure KeyagentConfig where
  cert : Bytes
  certkey : Bytes
  cacert : Bytes
  sslVerify : Bool
  /-- `keyformat == KEYAGENT_KEY_FORMAT_PEM` -/
  keyformatPem : Bool

/-- The modules of the agent. -/
structure Modules where
  config : KeyagentConfig
  /-- `npm_hash`, in the order of iteration. -/
  npmHash : List KeyagentNpmReal
  stm : StmOps

/-- `details.ssl_opts` -/
def KeyagentConfig.sslOpts (config : KeyagentConfig) : KeyagentSslOpts where
  certfile := config.cert
  caCertfile := config.cacert
  certtype := lit "PEM"
  keyname := config.certkey
  keytype := if config.keyformatPem then lit "PEM" else lit "ENG"
  sslVerify := config.sslVerify

/-- `LOOKUP_KEYAGENT_INTERNAL_NPM_OPS`: the agent's side of an NPM's operations. -/
def npmOps (stm : StmOps) : (c : NpmCall) → Skc c.Ans
  | .sessionGetIds => keyagentSessionGetIds
  | .stmGetChallenge requestId nonce name error =>
    keyagentStmGetChallenge stm requestId nonce name error
  | .sessionCreate requestId name sessionId swk swkType error =>
    keyagentSessionCreateUncached stm requestId name sessionId swk swkType error
  | .keyCreate _ url type attrs sessionId error => keyagentKeyCreate url type attrs sessionId error
  | .httpsSend request => Prog.lift (S := skcSig) (.httpsSend request)
  | .uninitialised n => Prog.lift (S := skcSig) (.uninitialised n)
  | .fault reason => Skc.fault reason

/-- An NPM's program, run by the agent. -/
def runNpm {α : Type} (stm : StmOps) (p : Npm α) : Skc α := p.interp (npmOps stm)

/-- `g_hash_table_insert (keyagent::apimodule_loadkey_hash, request_id, &request)` -/
def requestInsert (requestId : Bytes) (request : KeyagentRequest) : Skc Unit :=
  Skc.modifyKeyagent fun k =>
    { k with apimoduleLoadkeyHash := k.apimoduleLoadkeyHash.insert requestId request }

/-- `g_hash_table_remove (keyagent::apimodule_loadkey_hash, request_id)` -/
def requestRemove (requestId : Bytes) : Skc Unit :=
  Skc.modifyKeyagent fun k =>
    { k with apimoduleLoadkeyHash := k.apimoduleLoadkeyHash.erase requestId }

/-- The STM's part of `_loadkey`, skipped if `register` left an error or there is no key. -/
def loadkeyStm (stm : StmOps) (requestId url : Bytes) (tmpError : Option GError) :
    Skc (Bool × Option GError) := do
  match tmpError with
  | some e => pure (true, some e)
  | none =>
    match ← keyagentKeyLookup url with
    | some key => keyagentStmLoadKey stm requestId key none
    | none => pure (true, none)

/--
`_loadkey`, the predicate of `g_hash_table_find`. `true` ends the search, whether or not the NPM
brought a key.
-/
def loadkey (M : Modules) (npm : KeyagentNpmReal) (url : Bytes)
    (moduleData : Option ApimoduleUriData) (err : Option GError) :
    Skc (Bool × Option GError) := do
  if npm.initialized = false then
    pure (false, err)
  else
    match npm.register url with
    | (false, _) => pure (false, err)
    | (true, tmpError) =>
      let requestId ← Prog.lift (S := skcSig) .generateUuid
      requestInsert requestId { moduleData := moduleData, npmName := npm.label, stmName := none }
      let k ← Skc.keyagent
      let details : KeyagentKeyloadDetails :=
        { requestId := requestId, url := url
          stmNames := stmNames k.stmHash.values k.apimoduleEnabled
          sslOpts := M.config.sslOpts }
      let (_, err) ← runNpm M.stm (npm.keyLoad details err)
      let (ret, tmpError) ← loadkeyStm M.stm requestId url tmpError
      requestRemove requestId
      pure (ret, gPropagateError err tmpError)

/-- `g_hash_table_find (keyagent::npm_hash, _loadkey, &loadkey) != NULL` -/
def npmHashFind (M : Modules) (url : Bytes) (moduleData : Option ApimoduleUriData) :
    List KeyagentNpmReal → Option GError → Skc (Bool × Option GError)
  | [], err => pure (false, err)
  | npm :: rest, err => do
    let (ret, err) ← loadkey M npm url moduleData err
    if ret then pure (true, err) else npmHashFind M url moduleData rest err

/-- The part of `keyagent_loadkey_with_moduledata` between lock and unlock. -/
def loadkeyLocked (M : Modules) (url : Bytes) (moduleData : Option ApimoduleUriData)
    (err : Option GError) : Skc (Bool × Option GError) := do
  match ← keyagentKeyLookup url with
  | some _ => pure (true, err)
  | none =>
    let (found, err) ← npmHashFind M url moduleData M.npmHash err
    if found = false then
      pure (false, kSetError err "keyagent-init" keyagentErrorNpmUrlUnsupported
        (lit "Warning: Error in NPM Register. URL is not supported\n"))
    else
      let key ← keyagentKeyLookup url
      pure (key.isSome, err)

/-- The check of the first two tokens; `none` is a read behind them. -/
def urlTokenMissing (url : Bytes) : Option Bool := do
  let urlTokens := gStrsplit url 58
  let first ← gStrv urlTokens 0
  if first = some [] then
    pure true
  else
    let second ← gStrv urlTokens 1
    pure (second = some [])

/-- `keyagent_loadkey_with_moduledata` -/
def keyagentLoadkeyWithModuledata (M : Modules) (url : Bytes)
    (moduleData : Option ApimoduleUriData) (err : Option GError) :
    Skc (Bool × Option GError) := do
  let missing ← Skc.deref (urlTokenMissing url) "read behind the url tokens"
  if missing then
    pure (false, err)
  else
    Prog.lift (S := skcSig) .rwLockWriterLock
    let result ← loadkeyLocked M url moduleData err
    Prog.lift (S := skcSig) .rwLockWriterUnlock
    pure result

end SkcLibrary
