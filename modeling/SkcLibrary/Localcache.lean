import SkcLibrary.Globals

/-!
# The local cache

`key-agent/src/cache-init.cpp`, `cache-session.cpp` and `cache-key.cpp`: the writers that
`keyagentSessionCreate` and `keyagentKeyCreateWithCacheid` call, the deletion of a key's rows, and
the loader of the keys. Whether an `INSERT` fails is up to the database; a `SELECT` and a `DELETE`
succeed.

A cache off means a placeholder id and no row.
-/

namespace SkcLibrary

open Interaction

/-! ## The tables

`UNIQUE ... ON CONFLICT REPLACE` drops the row in conflict before the new row goes in, and
`AUTOINCREMENT` never hands out an id again.
-/

namespace CacheDb

/-- `INSERT INTO sessions`; `stm_label` is unique. -/
def insertSession (db : CacheDb) (stmLabel swk sessionId swkType : Bytes) : CacheDb :=
  { db with
    sessions := db.sessions.filter (·.stmLabel ≠ stmLabel)
      ++ [⟨db.nextSessionId, stmLabel, swk, sessionId, swkType⟩]
    nextSessionId := db.nextSessionId + 1 }

/-- `INSERT INTO keys`; `url` is unique. -/
def insertKey (db : CacheDb) (sealedData sessionId : Bytes) (keyType : Int) (url : Bytes) :
    CacheDb :=
  { db with
    keys := db.keys.filter (·.url ≠ url) ++ [⟨db.nextKeyId, sealedData, sessionId, keyType, url⟩]
    nextKeyId := db.nextKeyId + 1 }

/-- `INSERT INTO key_attributes`; the pair of `key_id` and `attr_name` is unique. -/
def insertKeyAttr (db : CacheDb) (keyId : Int) (attrName attrValue : Bytes) : CacheDb :=
  { db with
    keyAttributes := db.keyAttributes.filter (fun r => ¬(r.keyId = keyId ∧ r.attrName = attrName))
      ++ [⟨db.nextKeyattrId, keyId, attrName, attrValue⟩]
    nextKeyattrId := db.nextKeyattrId + 1 }

/-- `__get_session`: the first row with the label. -/
def getSession (db : CacheDb) (label : Bytes) : Option SessionRow :=
  db.sessions.find? (·.stmLabel = label)

/-- `__get_key`: the first row with the url. -/
def getKey (db : CacheDb) (url : Bytes) : Option KeyRow := db.keys.find? (·.url = url)

/-- `SELECT ... FROM key_attributes`: the value of the first row with the name. -/
def loadkeyAttr (db : CacheDb) (keyId : Int) (attrName : Bytes) : Option Bytes :=
  (db.keyAttributes.find? fun r => r.keyId = keyId ∧ r.attrName = attrName).map (·.attrValue)

/-- `__delete_key_and_attrs`; the policy attributes are never written. -/
def deleteKeyAndAttrs (db : CacheDb) (id : Int) : CacheDb :=
  { db with
    keyAttributes := db.keyAttributes.filter (·.keyId ≠ id)
    keys := db.keys.filter (·.id ≠ id) }

end CacheDb

/-! ## Access -/

def Keyagent.mapLocalcache (k : Keyagent) (f : Localcache → Localcache) : Keyagent :=
  { k with localcache := f k.localcache }

/-- A statement on the open connection; on a `NULL` connection nothing happens. -/
def cacheExecute (f : CacheDb → CacheDb) : Skc Unit :=
  Skc.modifyKeyagent (·.mapLocalcache fun l => { l with connection := l.connection.map f })

/-- `__keyagent_cache_generate_fake_id`; the counter is a `gint` that wraps around. -/
def keyagentCacheGenerateFakeId : Skc Int := do
  Skc.modifyKeyagent (·.mapLocalcache fun l => { l with fakeCacheIds := l.fakeCacheIds + 1 })
  let k ← Skc.keyagent
  pure k.localcache.fakeCacheIds.toInt

/-- `__keyagent_session_set_cache_id` -/
def keyagentSessionSetCacheId (session : SessionRef) (cacheId : Int) : Skc Unit :=
  Skc.modifyKeyagent fun k =>
    { k with sessions := k.sessions.modify session fun s => { s with cacheId := cacheId } }

/-- `__keyagent_key_set_cache_id`, for the key stored under the quark of `url`. -/
def keyagentKeySetCacheId (url : Bytes) (cacheId : Int) : Skc Unit :=
  Skc.modifyKeyagent fun k =>
    { k with
      keyHash := k.keyHash.update (.gintToPointer (gQuarkFromString url)) fun key =>
        { key with cacheId := cacheId } }

/-! ## `cache-session.cpp` -/

/-- `__keyagent_cache_session` -/
def keyagentCacheSession (session : SessionRef) (error : Option GError) :
    Skc (Bool × Option GError) := do
  let k ← Skc.keyagent
  if k.localcache.cacheSessions then
    let data ← Skc.deref k.sessions[session]? "session"
    match ← Prog.lift (S := skcSig) (.insertRow .sessions) with
    | some e =>
      keyagentSessionSetCacheId session (-1)
      pure (false, gPropagateError error (some e))
    | none =>
      cacheExecute (·.insertSession data.name data.swk data.sessionId data.swkType)
      let k ← Skc.keyagent
      let row ← Skc.deref (k.localcache.connection.bind (·.getSession data.name))
        "empty data model"
      keyagentSessionSetCacheId session row.id
      pure (true, error)
  else
    let id ← keyagentCacheGenerateFakeId
    keyagentSessionSetCacheId session id
    pure (true, error)

/-! ## `cache-key.cpp` -/

/-- `__cache_key_attr` -/
def cacheKeyAttr (attrName attrValue : Bytes) (keyId : Int) (error : Option GError) :
    Skc (Bool × Option GError) := do
  match ← Prog.lift (S := skcSig) (.insertRow .keyAttributes) with
  | some e => pure (false, gPropagateError error (some e))
  | none =>
    cacheExecute (·.insertKeyAttr keyId attrName attrValue)
    pure (true, error)

/-- `__cache_rsa_key_attrs` -/
def cacheRsaKeyAttrs (key : KeyagentKeyReal) (keyId : Int) (error : Option GError) :
    Skc (Bool × Option GError) := do
  let tmp ← Skc.deref (key.attributes.lookup keyagentAttrKeydata) "k_buffer_data"
  cacheKeyAttr (lit "KEYDATA") tmp keyId error

/-- The attributes a row of the given key type is cached with. -/
def cacheKeyAttrs (key : KeyagentKeyReal) (row : KeyRow) (error : Option GError) :
    Skc (Bool × Option GError) :=
  if row.keyType = KeyagentKeytype.rsakey.toInt then cacheRsaKeyAttrs key row.id error
  else pure (true, error)

/-- `__keyagent_cache_key`, for the key stored under the quark of `url`. -/
def keyagentCacheKey (url : Bytes) (error : Option GError) : Skc (Bool × Option GError) := do
  let k ← Skc.keyagent
  if k.localcache.cacheKeys then
    let key ← Skc.deref (k.keyHash.lookup (.gintToPointer (gQuarkFromString url))) "key"
    let session ← Skc.deref (key.session.bind (k.sessions[·]?)) "session"
    match ← Prog.lift (S := skcSig) (.insertRow .keys) with
    | some e =>
      keyagentKeySetCacheId url (-1)
      pure (false, gPropagateError error (some e))
    | none =>
      cacheExecute (·.insertKey [0, 0] session.sessionId key.type.toInt key.url)
      let k ← Skc.keyagent
      let row ← Skc.deref (k.localcache.connection.bind (·.getKey key.url))
        "empty data model"
      let (ret, error) ← cacheKeyAttrs key row error
      if !ret then
        cacheExecute (·.deleteKeyAndAttrs row.id)
      keyagentKeySetCacheId url row.id
      pure (ret, error)
  else
    let id ← keyagentCacheGenerateFakeId
    keyagentKeySetCacheId url id
    pure (true, error)

/-- `__keyagent_uncache_key`: while the cache is being loaded, deletions are postponed. -/
def keyagentUncacheKey (cacheId : Int) : Skc Unit := do
  let k ← Skc.keyagent
  match k.localcache.globalDeleteList with
  | some l => Skc.modifyKeyagent (·.mapLocalcache fun c =>
      { c with globalDeleteList := some (l ++ [cacheId]) })
  | none => cacheExecute (·.deleteKeyAndAttrs cacheId)

/-! ## Loading the keys -/

/-- `__keyagent_cache_loadkey_attr`; no row is `NULL`. -/
def keyagentCacheLoadkeyAttr (keyId : Int) (attrName : Bytes) : Skc (Option Bytes) := do
  let k ← Skc.keyagent
  pure (k.localcache.connection.bind (·.loadkeyAttr keyId attrName))

/-- `__create_rsa_key`: the attributes are put together and dropped again. -/
def createRsaKey (row : KeyRow) : Skc Bool := do
  let keydata ← keyagentCacheLoadkeyAttr row.id (lit "KEYDATA")
  pure keydata.isSome

/-- `switch (data->key_type)`; `ret` is that of the row before. -/
def createKey (row : KeyRow) (ret : Bool) : Skc Bool :=
  if row.keyType = KeyagentKeytype.rsakey.toInt then createRsaKey row else pure ret

/-- `global_delete_list = g_list_append (global_delete_list, cache_id)`, for a row that failed. -/
def globalDeleteListAppend (cacheId : Int) (ret : Bool) : Skc Unit :=
  if ret then pure ()
  else Skc.modifyKeyagent (·.mapLocalcache fun c =>
    { c with globalDeleteList := c.globalDeleteList.map (· ++ [cacheId]) })

/-- The loop over the rows, in the order of their ids. -/
def loadkeysRows : List KeyRow → Bool → Skc Unit
  | [], _ => pure ()
  | row :: rest, ret => do
    let ret ← createKey row ret
    globalDeleteListAppend row.id ret
    loadkeysRows rest ret

/-- `g_list_foreach (global_delete_list, __delete_key_from_list, NULL)` -/
def deleteKeysFromList : List Int → Skc Unit
  | [] => pure ()
  | cacheId :: rest => do
    cacheExecute (·.deleteKeyAndAttrs cacheId)
    deleteKeysFromList rest

/-- `__keyagent_cache_loadkeys`; `ret` starts as `FALSE`. -/
def keyagentCacheLoadkeys : Skc Bool := do
  let k ← Skc.keyagent
  match k.localcache.connection with
  | none => pure false
  | some db =>
    Skc.modifyKeyagent (·.mapLocalcache fun c => { c with globalDeleteList := some [] })
    loadkeysRows db.keys false
    let k ← Skc.keyagent
    Skc.modifyKeyagent (·.mapLocalcache fun c => { c with globalDeleteList := none })
    deleteKeysFromList (k.localcache.globalDeleteList.getD [])
    pure true

end SkcLibrary
