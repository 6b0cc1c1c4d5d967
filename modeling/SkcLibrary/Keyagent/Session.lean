import SkcLibrary.Keyagent.Stm

/-!
# Sessions of the agent (`key-agent/src/session.cpp`)

`session_hash` is indexed by the quark of the session id. A session that leaves it takes its keys
along, through the table's destroy function.
-/

namespace SkcLibrary

open Interaction

/-! ## The list of sessions -/

/-- `__get_session_ids` -/
def getSessionIds (sessions : List KeyagentSessionReal) (ids : Bytes) (session : SessionRef) :
    Bytes :=
  (if ids = [] then ids else ids ++ lit ",") ++
    match sessions[session]? with
    | some s => s.name ++ lit ":" ++ s.sessionId
    | none => []

/-- `__keyagent_session_get_ids` -/
def keyagentSessionGetIds : Skc (Option Bytes) := do
  let refs ← Skc.foreachSession
  let k ← Skc.keyagent
  let ids := refs.foldl (getSessionIds k.sessions) []
  pure (if ids = [] then none else some ids)

/-! ## Creation -/

/-- `__keyagent_session_hash_value_free` -/
def keyagentSessionHashValueFree (session : SessionRef) : Skc Unit :=
  keyagentKeyRemoveBySession session

/-- `g_hash_table_remove (keyagent::session_hash, p)` -/
def sessionHashRemove (p : Gpointer) : Skc Unit := do
  let k ← Skc.keyagent
  match k.sessionHash.lookup p with
  | none => pure ()
  | some session =>
    Skc.modifyKeyagent fun k => { k with sessionHash := k.sessionHash.erase p }
    keyagentSessionHashValueFree session

/-- Drop the STM's current session from the table, unless it has the id of the new one. -/
def sessionReplaceCurrent (current : Option SessionRef) (sessionId : Bytes) : Skc Unit := do
  match current with
  | none => pure ()
  | some cur =>
    let k ← Skc.keyagent
    let data ← Skc.deref k.sessions[cur]? "session"
    if gQuarkFromString data.sessionId ≠ gQuarkFromString sessionId then
      sessionHashRemove (hashKey data.sessionId)
    else
      pure ()

/-- `session->swk = swk` -/
def sessionSetSwk (session : SessionRef) (swk : Bytes) : Skc Unit :=
  Skc.modifyKeyagent fun k =>
    { k with sessions := k.sessions.modify session fun s => { s with swk := swk } }

/--
A new session in the table. The look-up before found none under its id, so no value is
destroyed.
-/
def sessionHashInsert (session : KeyagentSessionReal) : Skc SessionRef := do
  let k ← Skc.keyagent
  let ref := k.sessions.length
  Skc.modifyKeyagent fun k =>
    { k with
      sessions := k.sessions ++ [session]
      sessionHash := k.sessionHash.insert (hashKey session.sessionId) ref }
  pure ref

/-- The session the call is about: the one under the id, with the new swk, or a new one. -/
def sessionUpdateOrInsert (session : Option SessionRef) (label sessionId swk swkType : Bytes)
    (cacheId : Int) : Skc SessionRef := do
  match session with
  | some session =>
    let k ← Skc.keyagent
    let data ← Skc.deref k.sessions[session]? "session"
    if data.swk ≠ swk then
      sessionSetSwk session swk
      pure session
    else
      pure session
  | none =>
    sessionHashInsert
      { swk := swk, name := label, sessionId := sessionId, swkType := swkType, cacheId := cacheId }

/-- `__keyagent_cache_session`, unless the caller brings a cache id; its verdict is ignored. -/
def sessionCreateCache (session : SessionRef) (cacheId : Int) (error : Option GError) :
    Skc (Option GError) :=
  if cacheId = -1 then Prod.snd <$> keyagentCacheSession session error else pure error

/-- `keyagent_session_create` -/
def keyagentSessionCreate (stm : StmOps) (requestId label sessionId swk swkType : Bytes)
    (cacheId : Int) (error : Option GError) : Skc (Bool × Option GError) := do
  let session ← keyagentSessionLookup sessionId
  match keyagentSessionLookupSwktype swkType with
  | none =>
    pure (false, kSetError error "" keyagentErrorSessionCreateInvalidSwkType
      (lit "Unknown swk type " ++ swkType))
  | some _ =>
    match ← keyagentStmGetByName label with
    | none =>
      pure (false, kSetError error "" keyagentErrorSessionCreateInvalidLabel
        (lit "Unknown stm label " ++ label))
    | some lstm =>
      sessionReplaceCurrent lstm.session sessionId
      let session ← sessionUpdateOrInsert session label sessionId swk swkType cacheId
      let error ← sessionCreateCache session cacheId error
      keyagentStmSetSession stm requestId session error

/-- `__keyagent_session_create`, the operation NPMs are given. -/
def keyagentSessionCreateUncached (stm : StmOps) (requestId label sessionId swk swkType : Bytes)
    (error : Option GError) : Skc (Bool × Option GError) :=
  keyagentSessionCreate stm requestId label sessionId swk swkType (-1) error

end SkcLibrary
