import SkcLibrary.Localcache

/-!
# Keys of the agent (`key-agent/src/key.cpp`)

`key_hash` is indexed by the quark of the key's URL.
-/

namespace SkcLibrary

open Interaction

/-- The index of a key in `key_hash`, and of a session in `session_hash`. -/
def hashKey (name : Bytes) : Gpointer := .gintToPointer (gQuarkFromString name)

/-- `__keyagent_key_lookup` -/
def keyagentKeyLookup (url : Bytes) : Skc (Option KeyagentKeyReal) := do
  let k ← Skc.keyagent
  pure (k.keyHash.lookup (hashKey url))

/-- `__keyagent_session_lookup` -/
def keyagentSessionLookup (sessionId : Bytes) : Skc (Option SessionRef) := do
  let k ← Skc.keyagent
  pure (k.sessionHash.lookup (hashKey sessionId))

/-! ## Removal -/

/-- `__keyagent_key_hash_value_free` -/
def keyagentKeyHashValueFree (key : KeyagentKeyReal) : Skc Unit := keyagentUncacheKey key.cacheId

/-- `g_hash_table_remove (keyagent::key_hash, p)` -/
def keyHashRemove (p : Gpointer) : Skc Unit := do
  let k ← Skc.keyagent
  match k.keyHash.lookup p with
  | none => pure ()
  | some key =>
    Skc.modifyKeyagent fun k => { k with keyHash := k.keyHash.erase p }
    keyagentKeyHashValueFree key

/-- `__delete_key`: the table is asked for the address of the URL's text. -/
def deleteKey (key : KeyagentKeyReal) : Skc Unit := keyHashRemove (.heap key.url)

/-- `g_list_foreach (list, __delete_key, NULL)` -/
def deleteKeys : List KeyagentKeyReal → Skc Unit
  | [] => pure ()
  | key :: rest => do
    deleteKey key
    deleteKeys rest

/-- `__build_delete_key_list`, over the whole table. -/
def buildDeleteKeyList (keys : List KeyagentKeyReal) (session : SessionRef) :
    List KeyagentKeyReal :=
  keys.filter (·.session = some session)

/-- `__keyagent_key_remove_by_session` -/
def keyagentKeyRemoveBySession (session : SessionRef) : Skc Unit := do
  let k ← Skc.keyagent
  deleteKeys (buildDeleteKeyList k.keyHash.values session)

/-! ## Creation -/

/-- The domain of the errors that name `KEYAGENT_ERROR`. -/
def keyCreateInvalidArguments (error : Option GError) : Option GError :=
  gSetError error keyagentErrorDomain keyagentErrorKeyCreateParams
    (lit "Invalid arguments for __keyagent_key_create_with_cacheid")

/-- `g_hash_table_insert (keyagent::key_hash, ...)` of a new key, with all its fields set. -/
def keyHashInsert (key : KeyagentKeyReal) : Skc Unit :=
  Skc.modifyKeyagent fun k => { k with keyHash := k.keyHash.insert (hashKey key.url) key }

/-- `__keyagent_cache_key`, unless the caller brings a cache id. -/
def keyCreateCache (url : Bytes) (cacheId : Int) (error : Option GError) :
    Skc (Option GError) :=
  if cacheId = -1 then Prod.snd <$> keyagentCacheKey url error else pure error

/--
`__keyagent_key_create_with_cacheid`. The result is the quark of the URL, or 0. A key that exists
already is kept as it is.
-/
def keyagentKeyCreateWithCacheid (url : Bytes) (type : KeyagentKeytype)
    (attrs : Option KAttributes) (sessionId : Option Bytes) (cacheId : Int)
    (error : Option GError) : Skc (Option GQuark × Option GError) := do
  match ← keyagentKeyLookup url with
  | some _ =>
    let error ← keyCreateCache url cacheId error
    pure (some (gQuarkFromString url), error)
  | none =>
    match attrs, sessionId with
    | some attrs, some sessionId =>
      match attrs.lookup keyagentAttrKeydata with
      | none => pure (none, keyCreateInvalidArguments error)
      | some _ =>
        match ← keyagentSessionLookup sessionId with
        | none =>
          pure (none, gSetError error keyagentErrorDomain keyagentErrorKeyCreateInvalidSessionId
            (lit "Invalid session-id for " ++ sessionId))
        | some session =>
          keyHashInsert
            { url := url, type := type, session := some session, attributes := attrs,
              cacheId := cacheId }
          let error ← keyCreateCache url cacheId error
          pure (some (gQuarkFromString url), error)
    | _, _ => pure (none, keyCreateInvalidArguments error)

/-- `__keyagent_key_create` -/
def keyagentKeyCreate (url : Bytes) (type : KeyagentKeytype) (attrs : Option KAttributes)
    (sessionId : Option Bytes) (error : Option GError) : Skc (Option GQuark × Option GError) :=
  keyagentKeyCreateWithCacheid url type attrs sessionId (-1) error

end SkcLibrary
