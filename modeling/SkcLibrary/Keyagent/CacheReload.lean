import SkcLibrary.Keyagent.CacheRows

/-!
# Keys that are cached and loaded again

The writer stores the attributes of RSA keys only, and the loader asks for them for RSA keys only.
A row of another type gets the verdict of the row before it, and has nothing to give back.

* `keys_reloaded` — the lists of keys that come back from the cache
-/

namespace SkcLibrary

open Interaction

/-! ## The tables -/

namespace CacheDb

variable {db : CacheDb}

/-- Ids are handed out once, from the counter on. -/
structure Sequenced (db : CacheDb) : Prop where
  keys : ∀ r ∈ db.keys, r.id < db.nextKeyId
  attributes : ∀ a ∈ db.keyAttributes, a.keyId < db.nextKeyId
  nodup : (db.keys.map (·.id)).Nodup

/-- What `__keyagent_cache_key` makes of the tables, if every `INSERT` succeeds. -/
def cacheKey (db : CacheDb) (key : KeyagentKeyReal) (sessionId keydata : Bytes) : CacheDb :=
  let stored := db.insertKey [0, 0] sessionId key.type.toInt key.url
  if key.type = .rsakey then stored.insertKeyAttr db.nextKeyId (lit "KEYDATA") keydata else stored

/-- The key has a row of its type, and an RSA key its key data as well. -/
def HasKey (db : CacheDb) (key : KeyagentKeyReal) : Prop :=
  ∃ row, db.getKey key.url = some row ∧ row.keyType = key.type.toInt ∧
    (key.type = .rsakey → ∃ keydata, key.attributes.lookup keyagentAttrKeydata = some keydata ∧
      db.loadkeyAttr row.id (lit "KEYDATA") = some keydata) ∧
    (key.type ≠ .rsakey → ∀ a ∈ db.keyAttributes, a.keyId ≠ row.id)

/-- What is asked for is none of the rows that are dropped. -/
theorem find?_of_kept {α : Type} {p q : α → Bool} (l : List α)
    (h : ∀ a, p a = true → q a = true) : (l.filter q).find? p = l.find? p := by
  rw [List.find?_filter]
  congr 1
  funext a
  cases hp : p a with
  | false => simp
  | true => simp [h a hp]

/-- What is asked for are the rows that are dropped. -/
theorem find?_of_dropped {α : Type} {p q : α → Bool} (l : List α)
    (h : ∀ a, p a = true → q a = false) : (l.filter q).find? p = none := by
  refine List.find?_eq_none.mpr fun a ha hp => ?_
  have hq := (List.mem_filter.mp ha).2
  rw [h a hp] at hq
  exact Bool.false_ne_true hq

theorem getKey_insertKey {sealedData sessionId url url' : Bytes} {keyType : Int} :
    (db.insertKey sealedData sessionId keyType url).getKey url' =
      if url' = url then some ⟨db.nextKeyId, sealedData, sessionId, keyType, url⟩
      else db.getKey url' := by
  unfold getKey insertKey
  rw [List.find?_append]
  split
  · next h =>
    rw [find?_of_dropped _ (by simp [h])]
    simp [h]
  · next h =>
    rw [find?_of_kept _ (by simp +contextual [h])]
    simp [Ne.symm h]

theorem loadkeyAttr_insertKeyAttr {keyId keyId' : Int} {attrName attrName' attrValue : Bytes} :
    (db.insertKeyAttr keyId attrName attrValue).loadkeyAttr keyId' attrName' =
      if keyId' = keyId ∧ attrName' = attrName then some attrValue
      else db.loadkeyAttr keyId' attrName' := by
  unfold loadkeyAttr insertKeyAttr
  rw [List.find?_append]
  split
  · next h =>
    rw [find?_of_dropped _ (by simp [h.1, h.2])]
    simp [h.1, h.2]
  · next h =>
    rw [find?_of_kept _ (by simp +contextual [h])]
    have hne : ¬(keyId = keyId' ∧ attrName = attrName') := fun he => h ⟨he.1.symm, he.2.symm⟩
    simp [hne]

/-- Nothing is lost of a row that is not deleted. -/
theorem loadkeyAttr_deleteKeyAndAttrs {keyId id : Int} {attrName : Bytes} (h : keyId ≠ id) :
    (db.deleteKeyAndAttrs id).loadkeyAttr keyId attrName = db.loadkeyAttr keyId attrName := by
  unfold loadkeyAttr deleteKeyAndAttrs
  rw [find?_of_kept _ (by simp +contextual [h])]

/-! ### What the writer keeps -/

theorem mem_insertKeyAttr {keyId : Int} {attrName attrValue : Bytes} {a : KeyAttrRow}
    (h : a ∈ (db.insertKeyAttr keyId attrName attrValue).keyAttributes) :
    a ∈ db.keyAttributes ∨ a.keyId = keyId := by
  simp only [insertKeyAttr, List.mem_append, List.mem_filter, List.mem_singleton] at h
  rcases h with ⟨h, -⟩ | rfl
  · exact .inl h
  · exact .inr rfl

theorem Sequenced.insertKey (h : db.Sequenced) {sealedData sessionId url : Bytes} {keyType : Int} :
    (db.insertKey sealedData sessionId keyType url).Sequenced where
  keys r hr := by
    show r.id < db.nextKeyId + 1
    rcases mem_insertKey.mp hr with ⟨hr, -⟩ | rfl
    · have hlt := h.keys r hr
      omega
    · dsimp only
      omega
  attributes a ha := by
    show a.keyId < db.nextKeyId + 1
    have hlt := h.attributes a ha
    omega
  nodup := by
    have hold : ((db.keys.filter (·.url ≠ url)).map (·.id)).Nodup :=
      h.nodup.sublist (List.filter_sublist.map _)
    unfold CacheDb.insertKey
    rw [List.map_append, List.map_singleton, List.nodup_append]
    refine ⟨hold, List.nodup_singleton _, fun i hi j hj hij => ?_⟩
    obtain ⟨r, hr, rfl⟩ := List.mem_map.mp hi
    have hlt := h.keys r (List.mem_filter.mp hr).1
    rw [hij, List.mem_singleton.mp hj] at hlt
    exact Int.lt_irrefl _ hlt

theorem Sequenced.insertKeyAttr (h : db.Sequenced) {keyId : Int} {attrName attrValue : Bytes}
    (hid : keyId < db.nextKeyId) : (db.insertKeyAttr keyId attrName attrValue).Sequenced where
  keys := h.keys
  attributes a ha := by
    rcases mem_insertKeyAttr ha with ha | ha
    · exact h.attributes a ha
    · exact ha ▸ hid
  nodup := h.nodup

section

variable {key : KeyagentKeyReal} {sessionId keydata : Bytes}

theorem cacheKey_of_rsa (htype : key.type = .rsakey) :
    db.cacheKey key sessionId keydata =
      (db.insertKey [0, 0] sessionId key.type.toInt key.url).insertKeyAttr db.nextKeyId
        (lit "KEYDATA") keydata := if_pos htype

theorem cacheKey_of_not_rsa (htype : key.type ≠ .rsakey) :
    db.cacheKey key sessionId keydata = db.insertKey [0, 0] sessionId key.type.toInt key.url :=
  if_neg htype

theorem getKey_cacheKey {url : Bytes} :
    (db.cacheKey key sessionId keydata).getKey url =
      if url = key.url then some ⟨db.nextKeyId, [0, 0], sessionId, key.type.toInt, key.url⟩
      else db.getKey url := by
  by_cases htype : key.type = .rsakey
  · rw [cacheKey_of_rsa htype]
    exact getKey_insertKey
  · rw [cacheKey_of_not_rsa htype]
    exact getKey_insertKey

theorem Sequenced.cacheKey (h : db.Sequenced) : (db.cacheKey key sessionId keydata).Sequenced := by
  by_cases htype : key.type = .rsakey
  · rw [cacheKey_of_rsa htype]
    exact h.insertKey.insertKeyAttr (by show db.nextKeyId < db.nextKeyId + 1; omega)
  · rw [cacheKey_of_not_rsa htype]
    exact h.insertKey

/-- The key that is cached. -/
theorem hasKey_cacheKey (h : db.Sequenced)
    (hkeydata : key.type = .rsakey → key.attributes.lookup keyagentAttrKeydata = some keydata) :
    (db.cacheKey key sessionId keydata).HasKey key := by
  refine ⟨⟨db.nextKeyId, [0, 0], sessionId, key.type.toInt, key.url⟩, ?_, rfl, fun htype => ?_,
    fun htype a ha => ?_⟩
  · rw [getKey_cacheKey, if_pos rfl]
  · refine ⟨keydata, hkeydata htype, ?_⟩
    rw [cacheKey_of_rsa htype, loadkeyAttr_insertKeyAttr, if_pos ⟨rfl, rfl⟩]
  · -- the id is new, so nothing refers to it
    rw [cacheKey_of_not_rsa htype] at ha
    have hlt := h.attributes a ha
    dsimp only
    omega

/-- A key that was cached before, under another URL. -/
theorem HasKey.cacheKey {key' : KeyagentKeyReal} (hk : db.HasKey key') (h : db.Sequenced)
    (hurl : key'.url ≠ key.url) : (db.cacheKey key sessionId keydata).HasKey key' := by
  obtain ⟨row, hrow, htype', hrsa, hother⟩ := hk
  have hlt := h.keys row (List.mem_of_find?_eq_some hrow)
  refine ⟨row, by rw [getKey_cacheKey, if_neg hurl, hrow], htype', fun ht => ?_, fun ht a ha => ?_⟩
  · obtain ⟨keydata', hkeydata, hload⟩ := hrsa ht
    refine ⟨keydata', hkeydata, ?_⟩
    by_cases htype : key.type = .rsakey
    · rw [cacheKey_of_rsa htype, loadkeyAttr_insertKeyAttr, if_neg (by omega)]
      exact hload
    · rw [cacheKey_of_not_rsa htype]
      exact hload
  · by_cases htype : key.type = .rsakey
    · rw [cacheKey_of_rsa htype] at ha
      rcases mem_insertKeyAttr ha with ha | ha
      · exact hother ht a ha
      · omega
    · rw [cacheKey_of_not_rsa htype] at ha
      exact hother ht a ha

end

/-! ### What the loader deletes -/

/-- The verdict of the loader on a row, from that on the row before. -/
def rowLoads (db : CacheDb) (row : KeyRow) (ret : Bool) : Bool :=
  if row.keyType = KeyagentKeytype.rsakey.toInt then
    (db.loadkeyAttr row.id (lit "KEYDATA")).isSome
  else ret

/-- The ids on `global_delete_list` after the loop. -/
def refusedIds (db : CacheDb) : List KeyRow → Bool → List Int
  | [], _ => []
  | row :: rest, ret =>
    (if db.rowLoads row ret then [] else [row.id]) ++ db.refusedIds rest (db.rowLoads row ret)

theorem mem_refusedIds {rows : List KeyRow} {ret : Bool} {id : Int}
    (h : id ∈ db.refusedIds rows ret) :
    ∃ row ∈ rows, row.id = id ∧ ∃ ret, db.rowLoads row ret = false := by
  induction rows generalizing ret with
  | nil => simp [refusedIds] at h
  | cons row rest ih =>
    rcases List.mem_append.mp h with h | h
    · cases hret : db.rowLoads row ret with
      | true => simp [hret] at h
      | false =>
        refine ⟨row, List.mem_cons_self, ?_, ret, hret⟩
        simpa [hret, eq_comm] using h
    · obtain ⟨row', hrow', hid, hret⟩ := ih h
      exact ⟨row', List.mem_cons_of_mem _ hrow', hid, hret⟩

/-- A row that has its key data is not refused, whatever there is around it. -/
theorem not_mem_refusedIds (h : db.Sequenced) {ret : Bool} {row : KeyRow} {keydata : Bytes}
    (hrow : row ∈ db.keys) (htype : row.keyType = KeyagentKeytype.rsakey.toInt)
    (hload : db.loadkeyAttr row.id (lit "KEYDATA") = some keydata) :
    row.id ∉ db.refusedIds db.keys ret := by
  intro hid
  obtain ⟨row', hrow', he, ret', hret⟩ := mem_refusedIds hid
  obtain rfl : row' = row := List.inj_on_of_nodup_map h.nodup hrow' hrow he
  rw [rowLoads, if_pos htype, hload] at hret
  simp at hret

/-- The rows that go when the list is worked off. -/
def deleteAll (db : CacheDb) (ids : List Int) : CacheDb :=
  ids.foldl deleteKeyAndAttrs db

theorem mem_keys_deleteAll {ids : List Int} {row : KeyRow} (hid : row.id ∉ ids)
    (hrow : row ∈ db.keys) : row ∈ (db.deleteAll ids).keys := by
  induction ids generalizing db with
  | nil => exact hrow
  | cons id rest ih =>
    rw [List.mem_cons, not_or] at hid
    exact ih hid.2 (List.mem_filter.mpr ⟨hrow, by simpa using hid.1⟩)

theorem loadkeyAttr_deleteAll {ids : List Int} {keyId : Int} {attrName : Bytes}
    (hid : keyId ∉ ids) : (db.deleteAll ids).loadkeyAttr keyId attrName
      = db.loadkeyAttr keyId attrName := by
  induction ids generalizing db with
  | nil => rfl
  | cons id rest ih =>
    rw [List.mem_cons, not_or] at hid
    exact (ih hid.2).trans (loadkeyAttr_deleteKeyAndAttrs hid.1)

/-- What is not there is not brought back. -/
theorem mem_attributes_of_deleteAll {ids : List Int} {a : KeyAttrRow}
    (ha : a ∈ (db.deleteAll ids).keyAttributes) : a ∈ db.keyAttributes := by
  induction ids generalizing db with
  | nil => exact ha
  | cons id rest ih => exact (List.mem_filter.mp (ih ha)).1

end CacheDb

theorem KeyagentKeytype.toInt_eq_rsakey {type : KeyagentKeytype} :
    type.toInt = KeyagentKeytype.rsakey.toInt ↔ type = .rsakey := by
  cases type <;> decide

/-! ## The writer -/

namespace AgentView

variable {σ : Type} {V : AgentView σ} {s : σ} {key : KeyagentKeyReal} {error : Option GError}
  {db : CacheDb}

/-- The attributes of a row are stored, or its type has none. -/
theorem sat_cacheKeyAttrs_true {row : KeyRow}
    (hdb : (V.ka s).localcache.connection = some db) :
    Sat V.logic (cacheKeyAttrs key row error)
      (fun a t => a.1 = true → (V.ka t).localcache.cacheKeys = (V.ka s).localcache.cacheKeys ∧
        ((row.keyType = KeyagentKeytype.rsakey.toInt ∧ ∃ keydata,
            key.attributes.lookup keyagentAttrKeydata = some keydata ∧
            (V.ka t).localcache.connection
              = some (db.insertKeyAttr row.id (lit "KEYDATA") keydata)) ∨
          (row.keyType ≠ KeyagentKeytype.rsakey.toInt ∧
            (V.ka t).localcache.connection = some db))) s := by
  unfold cacheKeyAttrs
  split
  · next htype =>
    refine sat_deref.mpr fun keydata hkeydata => ?_
    refine sat_lift.mpr ⟨V.pre_of_agent trivial, fun e u hu => ?_⟩
    have hka : V.ka u = V.ka s := V.ka_step hu fun _ => nofun
    cases e with
    | some e => exact sat_seq_pure.mpr nofun
    | none =>
      refine sat_modifyKeyagent.mpr (sat_seq_pure.mpr fun _ => ?_)
      rw [V.ka_put, hka]
      exact ⟨rfl, .inl ⟨htype, keydata, hkeydata, congrArg (Option.map _) hdb⟩⟩
  · next htype => exact sat_seq_pure.mpr fun _ => ⟨rfl, .inr ⟨htype, hdb⟩⟩

/-- **`__keyagent_cache_key`** with the cache on. -/
theorem sat_cacheKey_true {url : Bytes} (hon : (V.ka s).localcache.cacheKeys = true)
    (hkey : (V.ka s).keyHash.lookup (hashKey url) = some key)
    (hdb : (V.ka s).localcache.connection = some db) :
    Sat V.logic (keyagentCacheKey url error)
      (fun a t => a.1 = true → (V.ka t).localcache.cacheKeys = true ∧ ∃ sessionId keydata,
        (key.type = .rsakey → key.attributes.lookup keyagentAttrKeydata = some keydata) ∧
        (V.ka t).localcache.connection = some (db.cacheKey key sessionId keydata)) s := by
  unfold keyagentCacheKey
  rw [sat_keyagent, if_pos hon]
  refine sat_deref.mpr fun key' hkey' => ?_
  obtain rfl : key = key' := Option.some.inj (hkey.symm.trans hkey')
  refine sat_deref.mpr fun data _ => ?_
  refine sat_lift.mpr ⟨V.pre_of_agent trivial, fun e u hu => ?_⟩
  have hka : V.ka u = V.ka s := V.ka_step hu fun _ => nofun
  -- with an error nothing is cached; otherwise the row is read back for its id
  cases e with
  | some e => exact sat_modifyKeyagent.mpr (sat_seq_pure.mpr nofun)
  | none =>
    refine sat_modifyKeyagent.mpr (sat_keyagent.mpr (sat_deref.mpr fun row hrow => ?_))
    have hstored : (V.ka (V.put u ((V.ka u).mapLocalcache fun l =>
        { l with
          connection := l.connection.map
            (·.insertKey [0, 0] data.sessionId key.type.toInt key.url) }))).localcache
        = { (V.ka s).localcache with
          connection := some (db.insertKey [0, 0] data.sessionId key.type.toInt key.url) } := by
      rw [V.ka_put, hka, Keyagent.mapLocalcache, hdb]
      rfl
    rw [hstored, Option.bind_some, CacheDb.getKey_insertKey, if_pos rfl, Option.some.injEq] at hrow
    subst hrow
    refine (sat_cacheKeyAttrs_true (congrArg Localcache.connection hstored)).bind fun r t ht => ?_
    obtain ⟨ret, err⟩ := r
    cases ret with
    | false => exact sat_modifyKeyagent.mpr (sat_modifyKeyagent.mpr (sat_seq_pure.mpr nofun))
    | true =>
      obtain ⟨hflag, hcached⟩ := ht rfl
      refine sat_modifyKeyagent.mpr (sat_seq_pure.mpr fun _ => ?_)
      rw [V.ka_put]
      refine ⟨(hflag.trans (congrArg Localcache.cacheKeys hstored)).trans hon, data.sessionId, ?_⟩
      rcases hcached with ⟨htype, keydata, hkeydata, hconn⟩ | ⟨htype, hconn⟩
      · refine ⟨keydata, fun _ => hkeydata, hconn.trans ?_⟩
        rw [CacheDb.cacheKey_of_rsa (KeyagentKeytype.toInt_eq_rsakey.mp htype)]
      · have hother : key.type ≠ .rsakey := mt KeyagentKeytype.toInt_eq_rsakey.mpr htype
        refine ⟨[], fun ht => absurd ht hother, hconn.trans ?_⟩
        rw [CacheDb.cacheKey_of_not_rsa hother]

/-! ## The loader -/

theorem sat_createKey {α : Type} {row : KeyRow} {ret : Bool} {f : Bool → Skc α} {Q : α → σ → Prop}
    (hdb : (V.ka s).localcache.connection = some db) :
    Sat V.logic (createKey row ret >>= f) Q s ↔ Sat V.logic (f (db.rowLoads row ret)) Q s := by
  unfold createKey CacheDb.rowLoads
  split
  · unfold createRsaKey keyagentCacheLoadkeyAttr
    rw [bind_assoc, bind_assoc, sat_keyagent, hdb]
    exact Iff.rfl
  · rw [pure_bind]

/-- The loop only fills the list. -/
theorem sat_loadkeysRows {rows : List KeyRow} {ret : Bool} {l : List Int}
    (hdb : (V.ka s).localcache.connection = some db)
    (hl : (V.ka s).localcache.globalDeleteList = some l) :
    Sat V.logic (loadkeysRows rows ret)
      (fun _ t => (V.ka t).localcache.connection = some db ∧
        (V.ka t).localcache.globalDeleteList = some (l ++ db.refusedIds rows ret)) s := by
  -- induction on the rows that are left; `l` holds the ids of those that were refused
  induction rows generalizing s ret l with
  | nil =>
    rw [CacheDb.refusedIds, List.append_nil]
    exact sat_seq_pure.mpr ⟨hdb, hl⟩
  | cons row rest ih =>
    rw [loadkeysRows, sat_createKey hdb, CacheDb.refusedIds]
    cases db.rowLoads row ret with
    | true => exact ih hdb hl
    | false =>
      refine sat_modifyKeyagent.mpr ?_
      let t := V.put s ((V.ka s).mapLocalcache fun c =>
        { c with globalDeleteList := c.globalDeleteList.map (· ++ [row.id]) })
      have hdb' : (V.ka t).localcache.connection = some db := by
        rw [V.ka_put]
        exact hdb
      have hl' : (V.ka t).localcache.globalDeleteList = some (l ++ [row.id]) := by
        rw [V.ka_put]
        exact congrArg (Option.map _) hl
      have hnext : Sat V.logic (loadkeysRows rest false) _ t := ih hdb' hl'
      rw [List.append_assoc] at hnext
      exact hnext

theorem sat_deleteKeysFromList {ids : List Int} {α : Type} {f : Unit → Skc α} {Q : α → σ → Prop}
    (hdb : (V.ka s).localcache.connection = some db)
    (h : ∀ t, (V.ka t).localcache.connection = some (db.deleteAll ids) → Sat V.logic (f ()) Q t) :
    Sat V.logic (deleteKeysFromList ids >>= f) Q s := by
  induction ids generalizing s db with
  | nil => exact h s hdb
  | cons id rest ih =>
    rw [deleteKeysFromList, bind_assoc]
    refine sat_modifyKeyagent.mpr ?_
    have hdb' : (V.ka (V.put s ((V.ka s).mapLocalcache fun c =>
        { c with connection := c.connection.map (·.deleteKeyAndAttrs id) }))).localcache.connection =
        some (db.deleteKeyAndAttrs id) := by
      rw [V.ka_put]
      exact congrArg (Option.map _) hdb
    exact ih hdb' h

/-- **`__keyagent_cache_loadkeys`** -/
theorem sat_cacheLoadkeys (hdb : (V.ka s).localcache.connection = some db) :
    Sat V.logic keyagentCacheLoadkeys (fun _ t =>
      (V.ka t).localcache.connection = some (db.deleteAll (db.refusedIds db.keys false))) s := by
  unfold keyagentCacheLoadkeys
  rw [sat_keyagent, hdb]
  refine sat_modifyKeyagent.mpr ?_
  let t := V.put s ((V.ka s).mapLocalcache fun c => { c with globalDeleteList := some [] })
  have hdb' : (V.ka t).localcache.connection = some db := by
    rw [V.ka_put]
    exact hdb
  have hl : (V.ka t).localcache.globalDeleteList = some [] := by
    rw [V.ka_put]
    rfl
  refine (sat_loadkeysRows hdb' hl).bind fun _ u hu => ?_
  obtain ⟨hconn, hlist⟩ := hu
  refine sat_keyagent.mpr (sat_modifyKeyagent.mpr ?_)
  rw [hlist]
  refine sat_deleteKeysFromList ?_ fun v hv => sat_seq_pure.mpr hv
  rw [V.ka_put]
  exact hconn

end AgentView

/-! ## Keys that come back -/

variable {W : Type} {E : Step skcSig W} {s t u : World W}

/-- The keys are cached, one after the other, and each call returns `TRUE`. -/
inductive CachedAll (E : Step skcSig W) : World W → List KeyagentKeyReal → World W → Prop where
  | nil {s : World W} : CachedAll E s [] s
  | cons {s t u : World W} {key : KeyagentKeyReal} {rest : List KeyagentKeyReal}
      {error err : Option GError} : s.keyagent.keyHash.lookup (hashKey key.url) = some key →
      Runs (sysStep E 0) (keyagentCacheKey key.url error) s (true, err) t →
      CachedAll E t rest u → CachedAll E s (key :: rest) u

/-- The key's row survives the loader, and gives back the key data. -/
def ComesBack (E : Step skcSig W) (key : KeyagentKeyReal) (t u : World W) : Prop :=
  ∃ db db' row keydata, t.keyagent.localcache.connection = some db ∧
    u.keyagent.localcache.connection = some db' ∧ db.getKey key.url = some row ∧ row ∈ db'.keys ∧
    key.attributes.lookup keyagentAttrKeydata = some keydata ∧
    Runs (sysStep E 0) (keyagentCacheLoadkeyAttr row.id (lit "KEYDATA")) u (some keydata) u

/-- Every key that was cached has its row. -/
theorem CachedAll.hasKeys {keys : List KeyagentKeyReal} (h : CachedAll E s keys t)
    (hurls : (keys.map (·.url)).Nodup) {db : CacheDb}
    (hon : s.keyagent.localcache.cacheKeys = true)
    (hdb : s.keyagent.localcache.connection = some db) (hseq : db.Sequenced) :
    ∃ db', t.keyagent.localcache.connection = some db' ∧ db'.Sequenced ∧
      (∀ key ∈ keys, db'.HasKey key) ∧
      ∀ key, (∀ key' ∈ keys, key.url ≠ key'.url) → db.HasKey key → db'.HasKey key := by
  induction h generalizing db with
  | nil => exact ⟨db, hdb, hseq, by simp, fun _ _ => id⟩
  | @cons s t u key rest error err hkey hrun _ ih =>
    rw [List.map_cons, List.nodup_cons] at hurls
    obtain ⟨hon', sessionId, keydata, hkeydata, hconn⟩ :=
      seqView_runs (AgentView.sat_cacheKey_true (V := seqView E) hon hkey hdb) hrun rfl
    obtain ⟨db', hdb', hseq', hkeys, hkept⟩ := ih hurls.2 hon' hconn hseq.cacheKey
    have hne : ∀ key' ∈ rest, key.url ≠ key'.url := fun key' hmem he =>
      hurls.1 (he ▸ List.mem_map_of_mem hmem)
    refine ⟨db', hdb', hseq', ?_, fun key' hurl hk => ?_⟩
    · rintro key' hmem
      rcases List.mem_cons.mp hmem with rfl | hmem
      · exact hkept _ hne (CacheDb.hasKey_cacheKey hseq hkeydata)
      · exact hkeys key' hmem
    · exact hkept key' (fun k hmem => hurl k (List.mem_cons_of_mem _ hmem))
        (hk.cacheKey hseq (hurl key List.mem_cons_self))

/-- What is asked of the cache. -/
theorem runs_loadkeyAttr {keyId : Int} {attrName : Bytes} {db : CacheDb} {keydata : Bytes}
    (hu : u.keyagent.localcache.connection = some db) :
    Runs (sysStep E 0) (keyagentCacheLoadkeyAttr keyId attrName) u (some keydata) u ↔
      db.loadkeyAttr keyId attrName = some keydata := by
  have hread : Runs (sysStep E 0) (keyagentCacheLoadkeyAttr keyId attrName) u
      (db.loadkeyAttr keyId attrName) u := by
    refine runs_keyagent ?_
    rw [hu]
    exact .pure _ _
  constructor
  · intro h
    have hs : Sat (seqView E).logic (keyagentCacheLoadkeyAttr keyId attrName)
        (fun a _ => a = db.loadkeyAttr keyId attrName) u := by
      refine AgentView.sat_keyagent.mpr (sat_seq_pure.mpr ?_)
      show u.keyagent.localcache.connection.bind _ = _
      rw [hu]
      rfl
    exact (seqView_runs hs h).symm
  · rintro h
    rw [← h]
    exact hread

/-- What the loader does to a key that has its row. -/
theorem comesBack_iff {key : KeyagentKeyReal} {db : CacheDb}
    (hdb : t.keyagent.localcache.connection = some db) (hseq : db.Sequenced) (hk : db.HasKey key)
    (hu : u.keyagent.localcache.connection = some (db.deleteAll (db.refusedIds db.keys false))) :
    ComesBack E key t u ↔ key.type = .rsakey := by
  obtain ⟨row, hrow, htype, hrsa, hother⟩ := hk
  constructor
  · rintro ⟨db₁, db', row', keydata, hdb₁, -, hrow', -, -, hload⟩
    obtain rfl : db = db₁ := Option.some.inj (hdb.symm.trans hdb₁)
    obtain rfl : row = row' := Option.some.inj (hrow.symm.trans hrow')
    by_contra hne
    -- nothing was stored with the row
    obtain ⟨a, ha, -⟩ := Option.map_eq_some_iff.mp ((runs_loadkeyAttr hu).mp hload)
    have hid := List.find?_some ha
    have hmem := CacheDb.mem_attributes_of_deleteAll (List.mem_of_find?_eq_some ha)
    simp only [decide_eq_true_eq] at hid
    exact hother hne a hmem hid.1
  · intro hr
    obtain ⟨keydata, hkeydata, hload⟩ := hrsa hr
    rw [hr] at htype
    have hmem := List.mem_of_find?_eq_some hrow
    have hid : row.id ∉ db.refusedIds db.keys false :=
      CacheDb.not_mem_refusedIds hseq hmem htype hload
    refine ⟨db, _, row, keydata, hdb, hu, hrow, CacheDb.mem_keys_deleteAll hid hmem, hkeydata, ?_⟩
    rw [runs_loadkeyAttr hu, CacheDb.loadkeyAttr_deleteAll hid]
    exact hload

/--
**What is cached comes back** if and only if all the keys are RSA keys.
-/
theorem keys_reloaded {keys : List KeyagentKeyReal} {db : CacheDb} {ret : Bool}
    (hon : s.keyagent.localcache.cacheKeys = true)
    (hdb : s.keyagent.localcache.connection = some db) (hseq : db.Sequenced)
    (hurls : (keys.map (·.url)).Nodup) (hcached : CachedAll E s keys t)
    (hload : Runs (sysStep E 0) keyagentCacheLoadkeys t ret u) :
    (∀ key ∈ keys, ComesBack E key t u) ↔ ∀ key ∈ keys, key.type = .rsakey := by
  obtain ⟨db', hdb', hseq', hkeys, -⟩ := hcached.hasKeys hurls hon hdb hseq
  have hu := seqView_runs (AgentView.sat_cacheLoadkeys (V := seqView E) hdb') hload
  exact forall₂_congr fun key hkey => comesBack_iff hdb' hseq' (hkeys key hkey) hu

/-! ### RSA keys and an AES key -/

/-- A key with key data. -/
def cachedKey (url : Bytes) (type : KeyagentKeytype) (keydata : Bytes) : KeyagentKeyReal :=
  ⟨url, type, some 0, AList.insert keyagentAttrKeydata keydata ∅, 0⟩

/-- An agent with an empty cache, a session and its keys. -/
def keysWorld (keys : List KeyagentKeyReal) : World Unit :=
  { cachingWorld with
    keyagent := { cachingWorld.keyagent with
      sessions := [⟨[1], lit "SGX", lit "a", lit "AES256-GCM", 0⟩]
      keyHash := keys.foldr (fun key table => table.insert (hashKey key.url) key) ∅ } }

/-- The same with one key. -/
def oneKeyWorld (type : KeyagentKeytype) : World Unit := keysWorld [oneKey type]
where
  /-- The key, with three bytes of key data. -/
  oneKey (type : KeyagentKeytype) : KeyagentKeyReal := cachedKey (lit "KMS:1") type [1, 2, 3]

theorem sequenced_keysWorld : CacheDb.Sequenced ⟨[], [], [], 1, 1, 1⟩ :=
  ⟨by simp, by simp, by simp⟩

instance : DecidableEq KeyagentKeyReal := fun key key' =>
  decidable_of_iff (key.url = key'.url ∧ key.type = key'.type ∧ key.session = key'.session ∧
    key.attributes.entries = key'.attributes.entries ∧ key.cacheId = key'.cacheId)
    (by cases key; cases key'; simp [AList.ext_iff])

/-- The keys are cached, one after the other. -/
def cacheKeys : List KeyagentKeyReal → World Unit → Option (World Unit)
  | [], s => some s
  | key :: rest, s =>
    if s.keyagent.keyHash.lookup (hashKey key.url) = some key then
      ((keyagentCacheKey key.url none).run (sysHandler cachingHandler 0) s).bind fun r =>
        if r.1 = (true, none) then cacheKeys rest r.2 else none
    else none

theorem cacheKeys_cachedAll {keys : List KeyagentKeyReal} {s t : World Unit}
    (h : cacheKeys keys s = some t) : CachedAll cachingStep s keys t := by
  induction keys generalizing s with
  | nil => exact Option.some.inj h ▸ .nil
  | cons key rest ih =>
    rw [cacheKeys] at h
    split at h
    · next hkey =>
      obtain ⟨⟨a, u⟩, hr, h⟩ := Option.bind_eq_some_iff.mp h
      have hrun := Prog.run_runs (R := sysStep cachingStep 0) sysHandler_answers hr
      dsimp only at h
      split at h
      · next htrue =>
        obtain rfl : a = (true, none) := htrue
        exact .cons hkey hrun (ih h)
      · cases h
    · cases h

/-- The keys are cached, and the cache loaded. -/
theorem exists_cachedAll (keys : List KeyagentKeyReal) (h : ((cacheKeys keys (keysWorld keys)).bind
    fun t => (keyagentCacheLoadkeys.run (sysHandler cachingHandler 0) t).map (·.1)) = some true) :
    ∃ t u, CachedAll cachingStep (keysWorld keys) keys t ∧
      Runs (sysStep cachingStep 0) keyagentCacheLoadkeys t true u := by
  obtain ⟨t, ht, h⟩ := Option.bind_eq_some_iff.mp h
  obtain ⟨⟨b, u⟩, hu, rfl⟩ := Option.map_eq_some_iff.mp h
  exact ⟨t, u, cacheKeys_cachedAll ht, Prog.run_runs sysHandler_answers hu⟩

/-- Three keys, each with its own key data. -/
def rsaKeys : List KeyagentKeyReal :=
  [cachedKey (lit "KMS:1") .rsakey [1, 2, 3], cachedKey (lit "KMS:2") .rsakey [4, 5],
    cachedKey (lit "KMS:3") .rsakey []]

theorem keys_reloaded_rsa : ∃ t u : World Unit,
    CachedAll cachingStep (keysWorld rsaKeys) rsaKeys t ∧
    Runs (sysStep cachingStep 0) keyagentCacheLoadkeys t true u ∧
    ∀ key ∈ rsaKeys, ComesBack cachingStep key t u := by
  obtain ⟨t, u, hcached, hload⟩ := exists_cachedAll rsaKeys (by decide +kernel)
  refine ⟨t, u, hcached, hload, (keys_reloaded rfl rfl sequenced_keysWorld (by decide) hcached
    hload).mpr (by decide)⟩

/-- An AES key alone is deleted when the cache is loaded, with one RSA key before it, kept without its
key data. -/
theorem not_keys_reloaded : ¬∀ (W : Type) (E : Step skcSig W) (s t u : World W)
    (keys : List KeyagentKeyReal) (db : CacheDb) (ret : Bool),
    s.keyagent.localcache.cacheKeys = true → s.keyagent.localcache.connection = some db →
    db.Sequenced → (keys.map (·.url)).Nodup → CachedAll E s keys t →
    Runs (sysStep E 0) keyagentCacheLoadkeys t ret u → ∀ key ∈ keys, ComesBack E key t u := by
  intro h
  obtain ⟨t, u, hcached, hload⟩ := exists_cachedAll [oneKeyWorld.oneKey .aeskey] (by decide +kernel)
  have hback := h Unit cachingStep _ t u _ _ true rfl rfl sequenced_keysWorld (by decide) hcached
    hload _ (List.mem_singleton_self _)
  obtain ⟨db', hdb', hseq', hkeys, -⟩ := hcached.hasKeys (by decide) rfl rfl sequenced_keysWorld
  have hu := seqView_runs (AgentView.sat_cacheLoadkeys (V := seqView cachingStep) hdb') hload
  have htype := (comesBack_iff hdb' hseq' (hkeys _ (List.mem_singleton_self _)) hu).mp hback
  exact absurd htype (by decide)

end SkcLibrary
