import SkcLibrary.Keyagent.Key

/-!
# Security modules (`key-agent/stm/stm_init.cpp`)

`StmOps` are the function pointers of a module; `StmOps.unknown` stands for a module about which
nothing is known but that it leaves the agent's variables alone.
-/

namespace SkcLibrary

open Interaction

/-- `stm_ops`; the first argument is the label of the module they belong to. -/
structure StmOps where
  createChallenge : Bytes → KeyagentStmCreateChallengeDetails → Option GError →
    Skc (Bool × Option Bytes × Option GError)
  setSession : Bytes → KeyagentStmSessionDetails → Option GError → Skc (Bool × Option GError)
  loadKey : Bytes → KeyagentStmLoadkeyDetails → Option GError → Skc (Bool × Option GError)

/-- Modules that are not modelled. -/
def StmOps.unknown : StmOps where
  createChallenge label d err := Prog.lift (S := skcSig) (.stm (.createChallenge label d err))
  setSession label d err := Prog.lift (S := skcSig) (.stm (.setSession label d err))
  loadKey label d err := Prog.lift (S := skcSig) (.stm (.loadKey label d err))

/-- `G_LOG_DOMAIN` of `stm_init.cpp`. -/
def stmLogDomain : String := "keyagent-stm"

/-! ## Labels -/

/-- `__keyagent_stm_get_by_name` -/
def keyagentStmGetByName (name : Bytes) : Skc (Option KeyagentStmReal) := do
  let k ← Skc.keyagent
  pure (k.stmHash.lookup (gQuarkFromString name))

/-- `__keyagent_stm_get_names` and `__keyagent_stm_get_apimodule_enabled_names`. -/
def stmNames (stms : List KeyagentStmReal) (apimoduleCheck : Bool) : Bytes :=
  stms.foldl (fun names stm =>
    if apimoduleCheck && !stm.apimodule then names
    else names ++ (if names = [] then [] else lit ",") ++ stm.label) []

/-- `__keyagent_stm_apimodule_enable` -/
def keyagentStmApimoduleEnable (name : Bytes) : Skc Bool := do
  match ← keyagentStmGetByName name with
  | none => pure false
  | some _ =>
    Skc.modifyKeyagent fun k =>
      { k with
        stmHash := k.stmHash.update (gQuarkFromString name) fun stm =>
          { stm with apimodule := true }
        apimoduleEnabled := true }
    pure true

/-! ## Swk types (`session.cpp`) -/

def supportedSwkTypes : List Bytes :=
  [lit "AES128-GCM", lit "AES192-GCM", lit "AES256-GCM",
    lit "AES128-WRAP", lit "AES192-WRAP", lit "AES256-WRAP"]

/-- `__keyagent_session_make_swktype` -/
def keyagentSessionMakeSwktype (type : Bytes) : GQuark :=
  ⟨lit "KEYAGENT_SWKTYPE_" ++ gStrjoin 95 (gStrsplit type 45)⟩

/-- `__keyagent_session_lookup_swktype`, over the table `__keyagent_session_init` fills. -/
def keyagentSessionLookupSwktype (type : Bytes) : Option GQuark :=
  let q := keyagentSessionMakeSwktype type
  if q ∈ supportedSwkTypes.map keyagentSessionMakeSwktype then some q else none

/-! ## Operations -/

/-- `request->stm_name = name` -/
def requestSetStmName (requestId name : Bytes) : Skc Unit :=
  Skc.modifyKeyagent fun k =>
    { k with
      apimoduleLoadkeyHash := k.apimoduleLoadkeyHash.update requestId fun r =>
        { r with stmName := some name } }

/-- `g_hash_table_lookup (keyagent::apimodule_loadkey_hash, request_id)` -/
def requestLookup (requestId : Bytes) : Skc (Option KeyagentRequest) := do
  let k ← Skc.keyagent
  pure (k.apimoduleLoadkeyHash.lookup requestId)

/-- `lstm->session = session` -/
def stmSetCurrentSession (name : Bytes) (session : SessionRef) : Skc Unit :=
  Skc.modifyKeyagent fun k =>
    { k with
      stmHash := k.stmHash.update (gQuarkFromString name) fun stm =>
        { stm with session := some session } }

/-- `__keyagent_stm_set_session` -/
def keyagentStmSetSession (stm : StmOps) (requestId : Bytes) (session : SessionRef)
    (error : Option GError) : Skc (Bool × Option GError) := do
  let k ← Skc.keyagent
  let data ← Skc.deref k.sessions[session]? "session"
  match ← keyagentStmGetByName data.name, ← requestLookup requestId with
  | some lstm, some request =>
    stmSetCurrentSession data.name session
    requestSetStmName requestId lstm.label
    stm.setSession lstm.label
      { requestId := requestId, label := data.name, moduleData := request.moduleData,
        swkType := keyagentSessionLookupSwktype data.swkType, session := data.swk } error
  | _, _ =>
    pure (false, kSetError error stmLogDomain stmErrorInvalidSessionData
      (lit "__keyagent_stm_set_session: Invalid session data"))

/-- `__keyagent_stm_get_challenge` -/
def keyagentStmGetChallenge (stm : StmOps) (requestId nonce name : Bytes)
    (error : Option GError) : Skc (Bool × Option Bytes × Option GError) := do
  match ← keyagentStmGetByName name, ← requestLookup requestId with
  | some lstm, some request =>
    requestSetStmName requestId lstm.label
    stm.createChallenge lstm.label
      { requestId := requestId, label := name, nonce := nonce, moduleData := request.moduleData }
      error
  | _, _ =>
    pure (false, none, kSetError error stmLogDomain stmErrorInvalidChallengeData
      (lit "__keyagent_stm_get_challenge: STM not found"))

/-! ## Loading a key -/

/-- `sizeof (keyagent_keytransfer_t)` -/
def keytransferSize : Nat := 12

/-- `k_buffer_alloc (k_buffer_data (buf) + offset, size)`; `none` is a read outside of `buf`. -/
def kBufferSlice (buf : Bytes) (offset size : Nat) : Option Bytes :=
  if offset + size ≤ buf.length then some ((buf.drop offset).take size) else none

/-- The `unsigned int` at an offset; `none` is a read outside of `buf`. -/
def readUint (buf : Bytes) (offset : Nat) : Option Nat := leNat <$> kBufferSlice buf offset 4

/-- What a key transfer is cut into. -/
inductive KeytransferParts where
  /-- The length of the IV is refused. -/
  | invalid
  /-- The IV, if there is one, the wrapped key and the size of the tag. -/
  | parts (iv : Option Bytes) (wrappedKey : Bytes) (tagSize : Nat)
  deriving DecidableEq

/--
Cut the key data as its `keyagent_keytransfer_t` says: `iv_length`, `tag_size` and `wrap_size`,
then the IV, then the wrapped key. `none` is a read outside of the buffer.
-/
def splitKeytransfer (keydata : Bytes) : Option KeytransferParts := do
  let ivLength ← readUint keydata 0
  if 64 < ivLength then
    pure .invalid
  else
    let iv ← if ivLength = 0 then pure none
      else some <$> kBufferSlice keydata keytransferSize ivLength
    let wrapSize ← readUint keydata 8
    let wrappedKey ← kBufferSlice keydata (keytransferSize + ivLength) wrapSize
    let tagSize ← readUint keydata 4
    pure (.parts iv wrappedKey tagSize)

/-- `__keyagent_stm_load_key` -/
def keyagentStmLoadKey (stm : StmOps) (requestId : Bytes) (key : KeyagentKeyReal)
    (error : Option GError) : Skc (Bool × Option GError) := do
  match key.session with
  | none =>
    pure (false, kSetError error stmLogDomain keyagentErrorKeyinit
      (lit "__keyagent_stm_load_key: The key has no active session"))
  | some session =>
    let k ← Skc.keyagent
    let data ← Skc.deref k.sessions[session]? "session"
    let lstm ← keyagentStmGetByName data.name
    let request ← requestLookup requestId
    match lstm, request, lstm.bind (·.session) with
    | some lstm, some request, some current =>
      let keydata ← Skc.deref (key.attributes.lookup keyagentAttrKeydata) "k_buffer_data"
      match ← Skc.deref (splitKeytransfer keydata) "read outside of the key data" with
      | .invalid =>
        pure (false, kSetError error stmLogDomain stmErrorInvalidLoadkeyData
          (lit "invalid iv length"))
      | .parts iv wrappedKey tagSize =>
        let current ← Skc.deref k.sessions[current]? "session"
        stm.loadKey lstm.label
          { requestId := requestId, swkQuark := keyagentSessionLookupSwktype current.swkType,
            label := lstm.label, url := key.url, type := key.type, key := wrappedKey, iv := iv,
            tagSize := tagSize, moduleData := request.moduleData } error
    | _, _, _ =>
      pure (false, kSetError error stmLogDomain stmErrorInvalidLoadkeyData
        (lit "__keyagent_stm_load_key: STM not found"))

end SkcLibrary
