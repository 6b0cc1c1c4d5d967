import SkcLibrary.Keyagent.CacheUndo

/-!
# The ids of cached keys

`__keyagent_uncache_key` deletes the rows with the id that is noted in a key. The id comes from
`__keyagent_cache_key`: with the cache on it is that of the key's row, or -1, and with the cache off it is
the next number of a counter of 32 bits. Nothing tells the one from the other, and the rows of an earlier
process are still there when the cache is turned off, so the counter can come to the id of another key's row,
and after it has wrapped around to that of any key's.

* `rows_spared` — the runs in which a key never takes rows of another with it
-/

namespace SkcLibrary

open Interaction

variable {W : Type}

/-! ## Operations of the cache -/

/-- What the agent asks of the cache. -/
inductive CacheOp where
  | cacheKey (url : Bytes) (error : Option GError)
  | uncacheKey (cacheId : Int)
  | cacheSession (session : SessionRef) (error : Option GError)
  | loadkeys

/-- The function that does it, without its result. -/
def CacheOp.prog : CacheOp → Skc Unit
  | .cacheKey url error => do
    let _ ← keyagentCacheKey url error
    pure ()
  | .uncacheKey cacheId => keyagentUncacheKey cacheId
  | .cacheSession session error => do
    let _ ← keyagentCacheSession session error
    pure ()
  | .loadkeys => do
    let _ ← keyagentCacheLoadkeys
    pure ()

/-- The keys whose id was last set by `__keyagent_cache_key`, after one more operation. -/
def CacheOp.note (o : CacheOp) (noted : Gpointer → Prop) (p : Gpointer) : Prop :=
  match o with
  | .cacheKey url _ => p = hashKey url ∨ noted p
  | _ => noted p

/-- Whatever happens outside of the cache leaves it alone; of a key that has been changed or replaced it is
no longer known who has set the id. -/
structure LeavesCache (k : Keyagent) (noted : Gpointer → Prop) (k' : Keyagent)
    (noted' : Gpointer → Prop) : Prop where
  localcache : k'.localcache = k.localcache
  keys : ∀ p key', noted' p → k'.keyHash.lookup p = some key' →
    ∃ key, noted p ∧ k.keyHash.lookup p = some key ∧ key'.url = key.url ∧ key'.cacheId = key.cacheId

/-- The states of an agent between operations of the cache, with the keys whose id was last set by
`__keyagent_cache_key`. -/
inductive CacheReach (E : Step skcSig W) (allow : CacheOp → Keyagent → Prop) (s : World W) :
    World W → (Gpointer → Prop) → Prop where
  | start : CacheReach E allow s s fun _ => False
  | op {o : CacheOp} {t u : World W} {noted : Gpointer → Prop} : CacheReach E allow s t noted →
      allow o t.keyagent → Runs (sysStep E 0) o.prog t () u → CacheReach E allow s u (o.note noted)
  | other {t u : World W} {noted noted' : Gpointer → Prop} : CacheReach E allow s t noted →
      LeavesCache t.keyagent noted u.keyagent noted' → CacheReach E allow s u noted'

/-- With the cache off, the id that a key is about to be given is not that of another key's row. -/
def FreeId : CacheOp → Keyagent → Prop
  | .cacheKey url _, k => k.localcache.cacheKeys = false → ∀ db key row,
      k.localcache.connection = some db → k.keyHash.lookup (hashKey url) = some key → row ∈ db.keys →
      row.id = (k.localcache.fakeCacheIds + 1).toInt → row.url = key.url
  | _, _ => True

/-- The rows that are gone are those of the key. -/
structure SparesOthers (db : CacheDb) (key : KeyagentKeyReal) (db' : CacheDb) : Prop where
  sessions : db'.sessions = db.sessions
  keys : ∀ row ∈ db.keys, row ∉ db'.keys → row.id = key.cacheId ∧ row.url = key.url
  attributes : ∀ a ∈ db.keyAttributes, a ∉ db'.keyAttributes → a.keyId = key.cacheId ∧
    ∀ row ∈ db.keys, row.id = a.keyId → row.url = key.url

/-! ## Ids -/

/-- `AUTOINCREMENT` counts from 1. -/
structure CacheDb.Counted (db : CacheDb) : Prop where
  next : 0 < db.nextKeyId
  keys : ∀ row ∈ db.keys, 0 < row.id ∧ row.id < db.nextKeyId

/-- The id is that of no other key's row; and with the cache on, of none that is still to come. -/
structure OwnId (k : Keyagent) (db : CacheDb) (url : Bytes) (id : Int) : Prop where
  own : ∀ row ∈ db.keys, row.id = id → row.url = url
  below : k.localcache.cacheKeys = true → id < db.nextKeyId

/-- What holds between operations, on an open database. -/
structure IdsOwned (k : Keyagent) (db : CacheDb) (noted : Gpointer → Prop) : Prop where
  connection : k.localcache.connection = some db
  counted : db.Counted
  owned : ∀ p key, noted p → k.keyHash.lookup p = some key → OwnId k db key.url key.cacheId

/-- Rows of keys only go. -/
structure RowsGo (k k' : Keyagent) : Prop where
  keyHash : k'.keyHash = k.keyHash
  cacheKeys : k'.localcache.cacheKeys = k.localcache.cacheKeys
  rows : ∀ db, k.localcache.connection = some db → ∃ db', k'.localcache.connection = some db' ∧
    (∀ row ∈ db'.keys, row ∈ db.keys) ∧ db'.nextKeyId = db.nextKeyId

namespace RowsGo

variable {k k' k'' : Keyagent} {db : CacheDb} {noted : Gpointer → Prop}

/-- The database is not concerned. -/
theorem of_connection (hkeys : k'.keyHash = k.keyHash)
    (hon : k'.localcache.cacheKeys = k.localcache.cacheKeys)
    (hdb : k'.localcache.connection = k.localcache.connection) : RowsGo k k' :=
  ⟨hkeys, hon, fun db h => ⟨db, hdb.trans h, fun _ => id, rfl⟩⟩

theorem trans (h : RowsGo k k') (h' : RowsGo k' k'') : RowsGo k k'' where
  keyHash := h'.keyHash.trans h.keyHash
  cacheKeys := h'.cacheKeys.trans h.cacheKeys
  rows db hdb := by
    obtain ⟨db', hdb', hrows, hnext⟩ := h.rows db hdb
    obtain ⟨db'', hdb'', hrows', hnext'⟩ := h'.rows db' hdb'
    exact ⟨db'', hdb'', fun row hrow => hrows row (hrows' row hrow), hnext'.trans hnext⟩

/-- A statement that only deletes. -/
theorem execute {f : CacheDb → CacheDb} (hrows : ∀ db, ∀ row ∈ (f db).keys, row ∈ db.keys)
    (hnext : ∀ db, (f db).nextKeyId = db.nextKeyId) (k : Keyagent) :
    RowsGo k (k.mapLocalcache fun l => { l with connection := l.connection.map f }) :=
  ⟨rfl, rfl, fun db hdb => ⟨f db, congrArg (Option.map f) hdb, hrows db, hnext db⟩⟩

theorem deleteKey (id : Int) (k : Keyagent) : RowsGo k
    (k.mapLocalcache fun l => { l with connection := l.connection.map (·.deleteKeyAndAttrs id) }) := by
  refine execute (f := (·.deleteKeyAndAttrs id)) (fun db row hrow => ?_) (fun _ => rfl) k
  exact (List.mem_filter.mp hrow).1

theorem idsOwned (h : RowsGo k k') (hk : IdsOwned k db noted) : ∃ db', IdsOwned k' db' noted := by
  obtain ⟨db', hdb', hrows, hnext⟩ := h.rows db hk.connection
  refine ⟨db', hdb', ⟨hnext ▸ hk.counted.next, fun row hrow => ?_⟩, fun p key hp hkey => ?_⟩
  · rw [hnext]
    exact hk.counted.keys row (hrows row hrow)
  · rw [h.keyHash] at hkey
    have howned := hk.owned p key hp hkey
    refine ⟨fun row hrow => howned.own row (hrows row hrow), fun hon => ?_⟩
    rw [hnext]
    exact howned.below (h.cacheKeys ▸ hon)

end RowsGo

/-! ## One operation -/

section

variable {E : Step skcSig W} {s t u : World W} {noted : Gpointer → Prop}

open AgentView (CacheCall)

theorem uncacheKey_issues_rowsGo (cacheId : Int) :
    (keyagentUncacheKey cacheId).Issues (CacheCall RowsGo) := by
  unfold keyagentUncacheKey
  refine Skc.issues_keyagent_bind.mpr ⟨trivial, fun k => ?_⟩
  split
  · exact ⟨fun k => .of_connection rfl rfl rfl, fun _ => trivial⟩
  · exact ⟨fun k => .deleteKey cacheId k, fun _ => trivial⟩

theorem setSessionCacheId_issues_rowsGo (session : SessionRef) (cacheId : Int) :
    (keyagentSessionSetCacheId session cacheId).Issues (CacheCall RowsGo) :=
  ⟨fun _ => .of_connection rfl rfl rfl, fun _ => trivial⟩

theorem cacheSession_issues_rowsGo (session : SessionRef) (error : Option GError) :
    (keyagentCacheSession session error).Issues (CacheCall RowsGo) := by
  unfold keyagentCacheSession
  refine Skc.issues_keyagent_bind.mpr ⟨trivial, fun k => ?_⟩
  split
  · refine (Skc.issues_deref trivial).bind fun data => ⟨trivial, fun e => ?_⟩
    cases e with
    | some e => exact (setSessionCacheId_issues_rowsGo _ _).bind fun _ => trivial
    | none =>
      refine Prog.Issues.bind (p := cacheExecute _) ⟨fun k => ?_, fun _ => trivial⟩ fun _ => ?_
      · exact .execute (f := (·.insertSession data.name data.swk data.sessionId data.swkType))
          (fun _ _ hrow => hrow) (fun _ => rfl) k
      · refine Skc.issues_keyagent_bind.mpr ⟨trivial, fun k => ?_⟩
        refine (Skc.issues_deref trivial).bind fun row => ?_
        exact (setSessionCacheId_issues_rowsGo _ _).bind fun _ => trivial
  · refine Prog.Issues.bind (p := keyagentCacheGenerateFakeId) ?_ fun id => ?_
    · exact ⟨fun _ => .of_connection rfl rfl rfl, fun _ =>
        ⟨trivial, fun _ => trivial⟩⟩
    · exact (setSessionCacheId_issues_rowsGo _ _).bind fun _ => trivial

theorem loadkeysRows_issues_rowsGo (rows : List KeyRow) (ret : Bool) :
    (loadkeysRows rows ret).Issues (CacheCall RowsGo) := by
  induction rows generalizing ret with
  | nil => trivial
  | cons row rest ih =>
    refine Prog.Issues.bind (p := createKey row ret) ?_ fun ret' => ?_
    · unfold createKey
      split
      · exact ⟨trivial, fun _ => trivial⟩
      · trivial
    · refine Prog.Issues.bind (p := globalDeleteListAppend row.id ret') ?_ fun _ => ih ret'
      unfold globalDeleteListAppend
      split
      · trivial
      · exact ⟨fun _ => .of_connection rfl rfl rfl, fun _ => trivial⟩

theorem deleteKeysFromList_issues_rowsGo (ids : List Int) :
    (deleteKeysFromList ids).Issues (CacheCall RowsGo) := by
  induction ids with
  | nil => trivial
  | cons id rest ih => exact ⟨fun k => .deleteKey id k, fun _ => ih⟩

theorem cacheLoadkeys_issues_rowsGo : keyagentCacheLoadkeys.Issues (CacheCall RowsGo) := by
  have hlist : ∀ l : Option (List Int), ∀ k : Keyagent,
      RowsGo k (k.mapLocalcache fun c => { c with globalDeleteList := l }) :=
    fun l k => .of_connection rfl rfl rfl
  unfold keyagentCacheLoadkeys
  refine Skc.issues_keyagent_bind.mpr ⟨trivial, fun k => ?_⟩
  split
  · trivial
  · refine ⟨hlist (some []), fun _ => ?_⟩
    refine (loadkeysRows_issues_rowsGo _ _).bind fun _ => ?_
    refine Skc.issues_keyagent_bind.mpr ⟨trivial, fun k => ⟨hlist none, fun _ => ?_⟩⟩
    exact (deleteKeysFromList_issues_rowsGo _).bind fun _ => trivial

/-- What such a function leaves. -/
theorem rowsGo_of_issues {α : Type} {p : Skc α} {a : α} (hp : p.Issues (CacheCall RowsGo))
    (hrun : Runs (sysStep E 0) p t a u) : RowsGo t.keyagent u.keyagent := by
  have hquiet := seqView_runs (AgentView.sat_quiet (V := seqView E) hp) hrun
  have hrow : ∀ {v w table a}, RowsGo t.keyagent ((seqView E).ka v) →
      (seqView E).step (.insertRow table) v a w → RowsGo t.keyagent ((seqView E).ka w) := by
    intro v w table a hv hst
    rw [(seqView E).ka_step hst fun _ => nofun]
    exact hv
  exact hquiet.induction (J := fun v => RowsGo t.keyagent v.keyagent) hrow
    (fun hv hk => hv.trans hk) (.of_connection rfl rfl rfl)

/-- A key that is given an id of its own, while the rows of other keys at most go. -/
theorem IdsOwned.cached {k : Keyagent} {db db' : CacheDb} {url : Bytes} {id : Int} {key : KeyagentKeyReal}
    (hk : IdsOwned k db noted) (hkey : k.keyHash.lookup (hashKey url) = some key)
    (hcounted : db'.Counted) (hid : OwnId k db' key.url id)
    (hrows : ∀ row ∈ db'.keys, row ∈ db.keys ∨ k.localcache.cacheKeys = true ∧ row.id = db.nextKeyId)
    (hnext : db.nextKeyId ≤ db'.nextKeyId) :
    IdsOwned (k.cached url db' id) db' ((CacheOp.cacheKey url none).note noted) where
  connection := rfl
  counted := hcounted
  owned p key' hp hkey' := by
    by_cases hurl : p = hashKey url
    · subst hurl
      rw [Keyagent.cached_lookup hkey] at hkey'
      obtain rfl := Option.some.inj hkey'
      exact ⟨hid.own, hid.below⟩
    · have hold : k.keyHash.lookup p = some key' := by
        have hother : (k.cached url db' id).keyHash.lookup p = k.keyHash.lookup p := by
          show (k.keyHash.update (hashKey url) _).lookup p = _
          rw [GHashTable.lookup_update, if_neg hurl]
        rw [← hother]
        exact hkey'
      have howned := hk.owned p key' (hp.resolve_left hurl) hold
      refine ⟨fun row hrow he => ?_, fun hon => Int.lt_of_lt_of_le (howned.below hon) hnext⟩
      rcases hrows row hrow with hrow | ⟨hon, hid⟩
      · exact howned.own row hrow he
      · -- a new row has an id that no key has yet
        have hlt := howned.below hon
        omega

theorem CacheDb.Counted.insertKey {db : CacheDb} (h : db.Counted) {sealedData sessionId url : Bytes}
    {keyType : Int} : (db.insertKey sealedData sessionId keyType url).Counted := by
  have hnext := h.next
  refine ⟨show 0 < db.nextKeyId + 1 by omega, fun row hrow => ?_⟩
  show 0 < row.id ∧ row.id < db.nextKeyId + 1
  rcases CacheDb.mem_insertKey.mp hrow with ⟨hrow, -⟩ | rfl
  · have hids := h.keys row hrow
    omega
  · dsimp only
    omega

theorem CacheDb.cacheKey_keys (db : CacheDb) (key : KeyagentKeyReal) (sessionId keydata : Bytes) :
    (db.cacheKey key sessionId keydata).keys =
        (db.insertKey [0, 0] sessionId key.type.toInt key.url).keys ∧
      (db.cacheKey key sessionId keydata).nextKeyId = db.nextKeyId + 1 := by
  unfold cacheKey
  dsimp only
  split <;> exact ⟨rfl, rfl⟩

theorem exists_cacheOutcome {url : Bytes} {error : Option GError} {a : Bool × Option GError}
    {db : CacheDb} (hon : s.keyagent.localcache.cacheKeys = true)
    (hdb : s.keyagent.localcache.connection = some db)
    (hrun : Runs (sysStep E 0) (keyagentCacheKey url error) s a t) :
    ∃ key failed, s.keyagent.keyHash.lookup (hashKey url) = some key ∧
      CacheOutcome s.keyagent url db key a.1 failed t.keyagent := by
  obtain ⟨failed, hnoted⟩ := hrun.observed noteAttrs false
  have hsat : Sat (attrsView E).logic (keyagentCacheKey url error) (fun a y => ∃ key,
      s.keyagent.keyHash.lookup (hashKey url) = some key ∧
        CacheOutcome s.keyagent url db key a.1 y.2 y.1.keyagent) (s, false) :=
    sat_cacheKey_outcome rfl hon hdb
  obtain ⟨key, hkey, houtcome⟩ := hsat.runs hnoted
  exact ⟨key, failed, hkey, houtcome⟩

/-- With the cache on. -/
theorem idsOwned_outcome {k k' : Keyagent} {db : CacheDb} {url : Bytes} {key : KeyagentKeyReal}
    {ret failed : Bool} (hk : IdsOwned k db noted) (hon : k.localcache.cacheKeys = true)
    (hkey : k.keyHash.lookup (hashKey url) = some key)
    (h : CacheOutcome k url db key ret failed k') :
    ∃ db', IdsOwned k' db' ((CacheOp.cacheKey url none).note noted) := by
  have hnext := hk.counted.next
  -- one case per outcome: no row was written, a row was written, a row was taken back
  cases h with
  | refused =>
    refine ⟨db, hk.cached hkey hk.counted ⟨fun row hrow he => ?_, fun _ => by omega⟩
      (fun row hrow => Or.inl hrow) (Int.le_refl _)⟩
    have hids := hk.counted.keys row hrow
    omega
  | stored sessionId keydata =>
    obtain ⟨hkeys, hnext'⟩ := CacheDb.cacheKey_keys db key sessionId keydata
    have hcounted : (db.insertKey [0, 0] sessionId key.type.toInt key.url).Counted :=
      hk.counted.insertKey
    refine ⟨_, hk.cached hkey ⟨by omega, ?_⟩ ⟨?_, fun _ => by omega⟩ ?_ (by omega)⟩
    · rw [hkeys, hnext']
      exact hcounted.keys
    · intro row hrow he
      rw [hkeys] at hrow
      rcases CacheDb.mem_insertKey.mp hrow with ⟨hrow, -⟩ | rfl
      · have hids := hk.counted.keys row hrow
        omega
      · rfl
    · intro row hrow
      rw [hkeys] at hrow
      rcases CacheDb.mem_insertKey.mp hrow with ⟨hrow, -⟩ | rfl
      · exact Or.inl hrow
      · exact Or.inr ⟨hon, rfl⟩
  | undone sessionId =>
    have hkeys : ∀ row ∈ ((db.insertKey [0, 0] sessionId key.type.toInt key.url).deleteKeyAndAttrs
        db.nextKeyId).keys, row ∈ db.keys := by
      intro row hrow
      obtain ⟨hrow, hid⟩ := List.mem_filter.mp hrow
      rcases CacheDb.mem_insertKey.mp hrow with ⟨hrow, -⟩ | rfl
      · exact hrow
      · simp at hid
    refine ⟨_, hk.cached hkey ⟨show 0 < db.nextKeyId + 1 by omega, fun row hrow => ?_⟩
      ⟨fun row hrow he => ?_, fun _ => show db.nextKeyId < db.nextKeyId + 1 by omega⟩
      (fun row hrow => Or.inl (hkeys row hrow)) (show db.nextKeyId ≤ db.nextKeyId + 1 by omega)⟩
    · have hids := hk.counted.keys row (hkeys row hrow)
      exact ⟨hids.1, show row.id < db.nextKeyId + 1 by omega⟩
    · have hids := hk.counted.keys row (hkeys row hrow)
      omega

/-- The effect of a call with the cache off. -/
theorem sat_cacheKey_off {url : Bytes} {error : Option GError}
    (hoff : s.keyagent.localcache.cacheKeys = false) :
    Sat (seqView E).logic (keyagentCacheKey url error) (fun _ t =>
      t.keyagent = { s.keyagent with
        localcache := { s.keyagent.localcache with
          fakeCacheIds := s.keyagent.localcache.fakeCacheIds + 1 }
        keyHash := s.keyagent.keyHash.update (hashKey url) fun key =>
          { key with cacheId := (s.keyagent.localcache.fakeCacheIds + 1).toInt } }) s := by
  unfold keyagentCacheKey
  rw [AgentView.sat_keyagent, if_neg (by simp [seqView, hoff])]
  unfold keyagentCacheGenerateFakeId
  refine AgentView.sat_modifyKeyagent.mpr (AgentView.sat_keyagent.mpr ?_)
  exact AgentView.sat_modifyKeyagent.mpr (sat_seq_pure.mpr rfl)

/-- With the cache off. -/
theorem idsOwned_off {k k' : Keyagent} {db : CacheDb} {url : Bytes} {error : Option GError}
    (hk : IdsOwned k db noted) (hoff : k.localcache.cacheKeys = false)
    (hfree : FreeId (.cacheKey url error) k)
    (h : k' = { k with
      localcache := { k.localcache with fakeCacheIds := k.localcache.fakeCacheIds + 1 }
      keyHash := k.keyHash.update (hashKey url) fun key =>
        { key with cacheId := (k.localcache.fakeCacheIds + 1).toInt } }) :
    IdsOwned k' db ((CacheOp.cacheKey url error).note noted) := by
  subst h
  refine ⟨hk.connection, hk.counted, fun p key' hp hkey' => ?_⟩
  have hkey' : (k.keyHash.update (hashKey url) fun key =>
    { key with cacheId := (k.localcache.fakeCacheIds + 1).toInt }).lookup p = some key' := hkey'
  rw [GHashTable.lookup_update] at hkey'
  by_cases hurl : p = hashKey url
  · rw [if_pos hurl] at hkey'
    obtain ⟨key, hkey, rfl⟩ := Option.map_eq_some_iff.mp hkey'
    subst hurl
    refine ⟨fun row hrow he => ?_, fun hon => absurd (hon.symm.trans hoff) (by decide)⟩
    exact hfree hoff db key row hk.connection hkey hrow he
  · rw [if_neg hurl] at hkey'
    have howned := hk.owned p key' (hp.resolve_left hurl) hkey'
    exact ⟨howned.own, howned.below⟩

/-- Every operation keeps the ids apart. -/
theorem idsOwned_op {o : CacheOp} {db : CacheDb} (hk : IdsOwned t.keyagent db noted)
    (hfree : FreeId o t.keyagent) (hrun : Runs (sysStep E 0) o.prog t () u) :
    ∃ db', IdsOwned u.keyagent db' (o.note noted) := by
  cases o with
  | cacheKey url error =>
    obtain ⟨a, v, hrun, hret⟩ := Runs.bind_inv hrun
    cases hret
    cases hon : t.keyagent.localcache.cacheKeys with
    | true =>
      obtain ⟨key, failed, hkey, houtcome⟩ := exists_cacheOutcome hon hk.connection hrun
      exact idsOwned_outcome hk hon hkey houtcome
    | false =>
      exact ⟨db, idsOwned_off hk hon hfree (seqView_runs (sat_cacheKey_off hon) hrun)⟩
  | uncacheKey cacheId => exact (rowsGo_of_issues (uncacheKey_issues_rowsGo _) hrun).idsOwned hk
  | cacheSession session error =>
    have hissues := (cacheSession_issues_rowsGo session error).bind fun _ => Prog.issues_pure ()
    exact (rowsGo_of_issues hissues hrun).idsOwned hk
  | loadkeys =>
    have hissues := cacheLoadkeys_issues_rowsGo.bind fun _ => Prog.issues_pure ()
    exact (rowsGo_of_issues hissues hrun).idsOwned hk

theorem IdsOwned.leavesCache {k k' : Keyagent} {db : CacheDb} {noted' : Gpointer → Prop}
    (hk : IdsOwned k db noted) (h : LeavesCache k noted k' noted') : IdsOwned k' db noted' := by
  refine ⟨h.localcache ▸ hk.connection, hk.counted, fun p key' hp hkey' => ?_⟩
  obtain ⟨key, hp, hkey, hurl, hid⟩ := h.keys p key' hp hkey'
  have howned := hk.owned p key hp hkey
  rw [hurl, hid]
  exact ⟨howned.own, fun hon => howned.below (h.localcache ▸ hon)⟩

theorem CacheReach.idsOwned {db : CacheDb} (hs : s.keyagent.localcache.connection = some db)
    (hcounted : db.Counted) (h : CacheReach E FreeId s t noted) :
    ∃ db', IdsOwned t.keyagent db' noted := by
  induction h with
  | start => exact ⟨db, hs, hcounted, nofun⟩
  | op _ hallow hrun ih =>
    obtain ⟨db', hk⟩ := ih
    exact idsOwned_op hk hallow hrun
  | other _ hleaves ih =>
    obtain ⟨db', hk⟩ := ih
    exact ⟨db', hk.leavesCache hleaves⟩

/-- What is deleted with an id. -/
theorem sat_uncacheKey {cacheId : Int} {db : CacheDb}
    (hdb : s.keyagent.localcache.connection = some db) :
    Sat (seqView E).logic (keyagentUncacheKey cacheId) (fun _ t =>
      t.keyagent.localcache.connection = some db ∨
        t.keyagent.localcache.connection = some (db.deleteKeyAndAttrs cacheId)) s := by
  unfold keyagentUncacheKey
  refine AgentView.sat_keyagent.mpr ?_
  split
  · exact AgentView.sat_modifyKeyagent'.mpr (Or.inl hdb)
  · exact AgentView.sat_modifyKeyagent'.mpr (Or.inr (congrArg (Option.map _) hdb))

theorem SparesOthers.refl (db : CacheDb) (key : KeyagentKeyReal) : SparesOthers db key db :=
  ⟨rfl, fun _ hrow hgone => absurd hrow hgone, fun _ ha hgone => absurd ha hgone⟩

theorem OwnId.sparesOthers {k : Keyagent} {db : CacheDb} {key : KeyagentKeyReal}
    (h : OwnId k db key.url key.cacheId) : SparesOthers db key (db.deleteKeyAndAttrs key.cacheId) := by
  refine ⟨rfl, fun row hrow hgone => ?_, fun a ha hgone => ?_⟩
  · have hid : row.id = key.cacheId := by
      by_contra hne
      exact hgone (List.mem_filter.mpr ⟨hrow, by simpa using hne⟩)
    exact ⟨hid, h.own row hrow hid⟩
  · have hid : a.keyId = key.cacheId := by
      by_contra hne
      exact hgone (List.mem_filter.mpr ⟨ha, by simpa using hne⟩)
    exact ⟨hid, fun row hrow he => h.own row hrow (he.trans hid)⟩

/--
**Uncaching a key.** In every run in which, with the cache off, no key is given the id of another key's row:
a key whose id was last set by `__keyagent_cache_key` takes only its own rows with it.
-/
theorem rows_spared {db : CacheDb} {p : Gpointer} {key : KeyagentKeyReal}
    (hs : s.keyagent.localcache.connection = some db) (hcounted : db.Counted)
    (h : CacheReach E FreeId s t noted) (hp : noted p) (hkey : t.keyagent.keyHash.lookup p = some key)
    (hrun : Runs (sysStep E 0) (keyagentUncacheKey key.cacheId) t () u) :
    ∃ db₁ db₂, t.keyagent.localcache.connection = some db₁ ∧
      u.keyagent.localcache.connection = some db₂ ∧ SparesOthers db₁ key db₂ := by
  obtain ⟨db₁, hk⟩ := h.idsOwned hs hcounted
  rcases seqView_runs (sat_uncacheKey hk.connection) hrun with hu | hu
  · exact ⟨db₁, db₁, hk.connection, hu, .refl _ _⟩
  · exact ⟨db₁, _, hk.connection, hu, (hk.owned p key hp hkey).sparesOthers⟩

end

/-! ## A row of an earlier process -/

/-- The row. -/
def earlierRow : KeyRow := ⟨1, [0, 0], lit "a", 1, lit "KMS:0"⟩

/-- The database with that row. -/
def earlierDb : CacheDb := ⟨[], [earlierRow], [], 1, 2, 1⟩

theorem counted_earlierDb : earlierDb.Counted :=
  ⟨by decide, fun row hrow => by rw [List.mem_singleton.mp hrow]; decide⟩

/-- An agent that caches sessions only, has a key and has given out some placeholder ids. -/
def placeholderWorld (fakeCacheIds : Int32) : World Unit :=
  { oneKeyWorld .rsakey with
    keyagent := { (oneKeyWorld .rsakey).keyagent with
      localcache := ⟨true, false, fakeCacheIds, some earlierDb, none⟩ } }

/-- The key is cached. -/
theorem exists_placeholder (fakeCacheIds : Int32) : ∃ t : World Unit,
    Runs (sysStep cachingStep 0) (CacheOp.cacheKey (lit "KMS:1") none).prog
      (placeholderWorld fakeCacheIds) () t ∧
    t.keyagent.localcache = ⟨true, false, fakeCacheIds + 1, some earlierDb, none⟩ ∧
    t.keyagent.keyHash.lookup (hashKey (lit "KMS:1")) =
      some { oneKeyWorld.oneKey .rsakey with cacheId := (fakeCacheIds + 1).toInt } := by
  have hrun : Runs (sysStep cachingStep 0) (CacheOp.cacheKey (lit "KMS:1") none).prog
      (placeholderWorld fakeCacheIds) () _ :=
    runs_keyagent (runs_modifyKeyagent (runs_keyagent (runs_modifyKeyagent (.pure _ _))))
  exact ⟨_, hrun, rfl, rfl⟩

/-- The key is taken out again. -/
theorem exists_uncached {t : World Unit} {db : CacheDb} (cacheId : Int)
    (hlist : t.keyagent.localcache.globalDeleteList = none)
    (hdb : t.keyagent.localcache.connection = some db) : ∃ u,
    Runs (sysStep cachingStep 0) (keyagentUncacheKey cacheId) t () u ∧
    u.keyagent.localcache.connection = some (db.deleteKeyAndAttrs cacheId) := by
  have hrun : Runs (sysStep cachingStep 0) (keyagentUncacheKey cacheId) t () { t with
      keyagent := t.keyagent.mapLocalcache fun l =>
        { l with connection := l.connection.map (·.deleteKeyAndAttrs cacheId) } } := by
    refine runs_keyagent ?_
    rw [hlist]
    exact runs_modifyKeyagent (.pure _ _)
  exact ⟨_, hrun, congrArg (Option.map fun d : CacheDb => d.deleteKeyAndAttrs cacheId) hdb⟩

/-- Id 1 has been given to a session, and the key gets 2. -/
theorem rows_spared_second : ∃ (t u : World Unit) (db₁ db₂ : CacheDb),
    Runs (sysStep cachingStep 0) (CacheOp.cacheKey (lit "KMS:1") none).prog (placeholderWorld 1) () t ∧
    Runs (sysStep cachingStep 0) (keyagentUncacheKey 2) t () u ∧
    t.keyagent.localcache.connection = some db₁ ∧ u.keyagent.localcache.connection = some db₂ ∧
    SparesOthers db₁ { oneKeyWorld.oneKey .rsakey with cacheId := 2 } db₂ := by
  obtain ⟨t, hcached, hlocal, hkey⟩ := exists_placeholder 1
  obtain ⟨u, huncached, -⟩ := exists_uncached 2 (congrArg Localcache.globalDeleteList hlocal)
    (congrArg Localcache.connection hlocal)
  have hfree : FreeId (.cacheKey (lit "KMS:1") none) (placeholderWorld 1).keyagent := by
    intro _ db key row hdb _ hrow hid
    obtain rfl := Option.some.inj hdb
    rw [List.mem_singleton.mp hrow] at hid
    exact absurd hid (by decide)
  have hdb : (placeholderWorld 1).keyagent.localcache.connection = some earlierDb := rfl
  have hreach : CacheReach cachingStep FreeId (placeholderWorld 1) t _ := .op .start hfree hcached
  obtain ⟨db₁, db₂, hdb₁, hdb₂, hspares⟩ := rows_spared hdb counted_earlierDb hreach (Or.inl rfl) hkey
    huncached
  exact ⟨t, u, db₁, db₂, hcached, huncached, hdb₁, hdb₂, hspares⟩

/-- The first key that is cached takes the row of an earlier process with it. -/
theorem not_rows_spared : ¬∀ (W : Type) (E : Step skcSig W) (s t u : World W)
    (noted : Gpointer → Prop) (db : CacheDb) (p : Gpointer) (key : KeyagentKeyReal),
    s.keyagent.localcache.connection = some db → db.Counted →
    CacheReach E (fun _ _ => True) s t noted → noted p → t.keyagent.keyHash.lookup p = some key →
    Runs (sysStep E 0) (keyagentUncacheKey key.cacheId) t () u →
    ∃ db₁ db₂, t.keyagent.localcache.connection = some db₁ ∧
      u.keyagent.localcache.connection = some db₂ ∧ SparesOthers db₁ key db₂ := by
  intro h
  obtain ⟨t, hcached, hlocal, hkey⟩ := exists_placeholder 0
  have hdb : t.keyagent.localcache.connection = some earlierDb := congrArg Localcache.connection hlocal
  obtain ⟨u, huncached, hgone⟩ := exists_uncached 1 (congrArg Localcache.globalDeleteList hlocal) hdb
  obtain ⟨db₁, db₂, hdb₁, hdb₂, hspares⟩ := h Unit cachingStep (placeholderWorld 0) t u _ earlierDb _ _
    rfl counted_earlierDb (.op .start trivial hcached) (Or.inl rfl) hkey huncached
  obtain rfl := Option.some.inj (hdb.symm.trans hdb₁)
  obtain rfl := Option.some.inj (hgone.symm.trans hdb₂)
  have hurl := (hspares.keys earlierRow List.mem_cons_self (by simp [earlierDb, earlierRow,
    CacheDb.deleteKeyAndAttrs])).2
  exact absurd hurl (by decide)

end SkcLibrary
