import SkcLibrary.Keyagent.CacheReload

/-!
# A key that cannot be cached

`__keyagent_cache_key` writes the row of a key, and for an RSA key the row of its key data. If the second
`INSERT` fails the first is undone by hand. Two things are not: `ON CONFLICT REPLACE` has dropped the row
that the url had before, and the key is given the id of the row that has just been deleted.

* `cache_undone` — the calls that leave nothing behind when they fail
-/

namespace SkcLibrary

open Interaction

variable {W : Type}

/-! ## Outcomes -/

/-- The agent with another content of its database. -/
def Keyagent.withDb (k : Keyagent) (db : CacheDb) : Keyagent :=
  { k with localcache := { k.localcache with connection := some db } }

/-- And with an id for the key of `url`. -/
def Keyagent.cached (k : Keyagent) (url : Bytes) (db : CacheDb) (id : Int) : Keyagent :=
  { k.withDb db with
    keyHash := k.keyHash.update (hashKey url) fun key => { key with cacheId := id } }

theorem Keyagent.withDb_self {k : Keyagent} {db : CacheDb} (h : k.localcache.connection = some db) :
    k.withDb db = k := by
  unfold withDb
  rw [← h]

/-- A statement on the database. -/
theorem Keyagent.execute_eq_withDb {k : Keyagent} {db : CacheDb}
    (h : k.localcache.connection = some db) (f : CacheDb → CacheDb) :
    (k.mapLocalcache fun l => { l with connection := l.connection.map f }) = k.withDb (f db) := by
  simp only [mapLocalcache, withDb, h, Option.map_some]

/-- An id for a key. -/
theorem Keyagent.cached_eq {k : Keyagent} {url : Bytes} {db : CacheDb} {id : Int}
    (h : k.localcache.connection = some db) : k.cached url db id = { k with
      keyHash := k.keyHash.update (hashKey url) fun key => { key with cacheId := id } } := by
  rw [cached, withDb_self h]

theorem CacheDb.cacheKey_eq_toInt {db : CacheDb} {key : KeyagentKeyReal} {sessionId keydata : Bytes} :
    db.cacheKey key sessionId keydata =
      if key.type.toInt = KeyagentKeytype.rsakey.toInt then
        (db.insertKey [0, 0] sessionId key.type.toInt key.url).insertKeyAttr db.nextKeyId
          (lit "KEYDATA") keydata
      else db.insertKey [0, 0] sessionId key.type.toInt key.url := by
  simp only [cacheKey, KeyagentKeytype.toInt_eq_rsakey]

/-- What a call does with the cache on: whether it succeeds, whether it could not store the attributes, and
the agent afterwards. -/
inductive CacheOutcome (k : Keyagent) (url : Bytes) (db : CacheDb) (key : KeyagentKeyReal) :
    Bool → Bool → Keyagent → Prop where
  | refused : CacheOutcome k url db key false false (k.cached url db (-1))
  | stored (sessionId keydata : Bytes) : CacheOutcome k url db key true false
      (k.cached url (db.cacheKey key sessionId keydata) db.nextKeyId)
  | undone (sessionId : Bytes) : CacheOutcome k url db key false true
      (k.cached url ((db.insertKey [0, 0] sessionId key.type.toInt key.url).deleteKeyAndAttrs
        db.nextKeyId) db.nextKeyId)

/-- An `INSERT` into `key_attributes` has failed. -/
def noteAttrs (c : Call) (_ : World W) : c.Ans → Bool → Bool :=
  match c with
  | .insertRow .keyAttributes => fun e failed => failed || e.isSome
  | _ => fun _ failed => failed

/-- A single thread, with that seen. -/
def attrsView (E : Step skcSig W) : AgentView (World W × Bool) :=
  observedView E noteAttrs (fun _ _ => True) (fun _ _ _ => rfl) (fun _ _ _ _ => rfl)
    (fun _ _ _ => rfl) fun _ => trivial

section

variable {E : Step skcSig W} {x y : World W × Bool} {key : KeyagentKeyReal} {error : Option GError}
  {db : CacheDb} {url : Bytes}

/-- The attributes of a row: they are stored, or there are none, or the `INSERT` fails. -/
theorem sat_cacheKeyAttrs_noted {row : KeyRow} (hx : x.2 = false)
    (hdb : ((attrsView E).ka x).localcache.connection = some db) :
    Sat (attrsView E).logic (cacheKeyAttrs key row error)
      (fun a y => (a.1 = false ∧ y.2 = true ∧ (attrsView E).ka y = (attrsView E).ka x) ∨
        (a.1 = true ∧ y.2 = false ∧ ∃ keydata, (attrsView E).ka y = ((attrsView E).ka x).withDb
          (if row.keyType = KeyagentKeytype.rsakey.toInt then
            db.insertKeyAttr row.id (lit "KEYDATA") keydata else db))) x := by
  unfold cacheKeyAttrs
  split
  · refine AgentView.sat_deref.mpr fun keydata _ => ?_
    refine AgentView.sat_lift.mpr ⟨trivial, fun e u hu => ?_⟩
    have hka : (attrsView E).ka u = (attrsView E).ka x := (attrsView E).ka_step hu fun _ => nofun
    have hnote : u.2 = (x.2 || e.isSome) := hu.2
    rw [hx, Bool.false_or] at hnote
    cases e with
    | some e => exact sat_seq_pure.mpr (Or.inl ⟨rfl, hnote, hka⟩)
    | none =>
      refine AgentView.sat_modifyKeyagent.mpr (sat_seq_pure.mpr (Or.inr ⟨rfl, hnote, keydata, ?_⟩))
      rw [(attrsView E).ka_put, hka, Keyagent.execute_eq_withDb hdb]
  · refine sat_seq_pure.mpr (Or.inr ⟨rfl, hx, [], ?_⟩)
    exact (Keyagent.withDb_self hdb).symm

/-- **`__keyagent_cache_key`** with the cache on. -/
theorem sat_cacheKey_outcome (hx : x.2 = false)
    (hon : ((attrsView E).ka x).localcache.cacheKeys = true)
    (hdb : ((attrsView E).ka x).localcache.connection = some db) :
    Sat (attrsView E).logic (keyagentCacheKey url error)
      (fun a y => ∃ key, ((attrsView E).ka x).keyHash.lookup (hashKey url) = some key ∧
        CacheOutcome ((attrsView E).ka x) url db key a.1 y.2 ((attrsView E).ka y)) x := by
  unfold keyagentCacheKey
  rw [AgentView.sat_keyagent, if_pos hon]
  refine AgentView.sat_deref.mpr fun key hkey => ?_
  refine AgentView.sat_deref.mpr fun session _ => ?_
  refine AgentView.sat_lift.mpr ⟨trivial, fun e u hu => ?_⟩
  have hka : (attrsView E).ka u = (attrsView E).ka x := (attrsView E).ka_step hu fun _ => nofun
  have hnote : u.2 = false := hu.2.trans hx
  -- the first insert fails or leaves a row whose attributes come next
  cases e with
  | some e =>
    refine AgentView.sat_modifyKeyagent.mpr (sat_seq_pure.mpr ⟨key, hkey, ?_⟩)
    rw [(attrsView E).ka_put, hka]
    have hrefused : CacheOutcome ((attrsView E).ka x) url db key false false
      (((attrsView E).ka x).cached url db (-1)) := .refused
    rw [Keyagent.cached_eq hdb] at hrefused
    show CacheOutcome _ url db key false u.2 _
    rw [hnote]
    exact hrefused
  | none =>
    refine AgentView.sat_modifyKeyagent.mpr (AgentView.sat_keyagent.mpr ?_)
    rw [hka, Keyagent.execute_eq_withDb hdb, (attrsView E).ka_put]
    refine AgentView.sat_deref.mpr fun row hrow => ?_
    have hrow' : row = ⟨db.nextKeyId, [0, 0], session.sessionId, key.type.toInt, key.url⟩ := by
      have hget := (CacheDb.getKey_insertKey).symm.trans hrow
      rw [if_pos rfl] at hget
      exact (Option.some.inj hget).symm
    generalize ht : (attrsView E).put u (((attrsView E).ka x).withDb
      (db.insertKey [0, 0] session.sessionId key.type.toInt key.url)) = t
    have hkat : (attrsView E).ka t = ((attrsView E).ka x).withDb
        (db.insertKey [0, 0] session.sessionId key.type.toInt key.url) := by
      rw [← ht, (attrsView E).ka_put]
    have hnotet : t.2 = false := by
      rw [← ht]
      exact hnote
    have hconn : ((attrsView E).ka t).localcache.connection =
        some (db.insertKey [0, 0] session.sessionId key.type.toInt key.url) := by
      rw [hkat]
      rfl
    refine (sat_cacheKeyAttrs_noted hnotet hconn).bind fun r y hy => ?_
    obtain ⟨ret, err⟩ := r
    rw [hkat] at hy
    -- the attributes fail and the row is deleted, or they are stored with it
    rcases hy with ⟨hret, hfailed, hkay⟩ | ⟨hret, hfailed, keydata, hkay⟩
    · obtain rfl : ret = false := hret
      refine AgentView.sat_modifyKeyagent.mpr (AgentView.sat_modifyKeyagent.mpr
        (sat_seq_pure.mpr ⟨key, hkey, ?_⟩))
      rw [(attrsView E).put_put, (attrsView E).ka_put, (attrsView E).ka_put, hkay, hrow',
        Keyagent.execute_eq_withDb rfl]
      show CacheOutcome _ url db key false y.2 _
      rw [show y.2 = true from hfailed]
      exact .undone session.sessionId
    · obtain rfl : ret = true := hret
      refine AgentView.sat_modifyKeyagent.mpr (sat_seq_pure.mpr ⟨key, hkey, ?_⟩)
      rw [(attrsView E).ka_put, hkay, hrow']
      show CacheOutcome _ url db key true y.2 _
      rw [show y.2 = false from hfailed]
      have hstored : CacheOutcome ((attrsView E).ka x) url db key true false _ :=
        .stored session.sessionId keydata
      rw [CacheDb.cacheKey_eq_toInt] at hstored
      exact hstored

/-! ## Nothing left behind -/

/-- The tables are as before, and the key has no id. -/
structure LeftAlone (k : Keyagent) (url : Bytes) (k' : Keyagent) : Prop where
  tables : ∃ db db', k.localcache.connection = some db ∧ k'.localcache.connection = some db' ∧
    db'.keys = db.keys ∧ db'.keyAttributes = db.keyAttributes
  cacheId : ∀ key, k'.keyHash.lookup (hashKey url) = some key → key.cacheId = -1

/-- The id that is left in the key. -/
theorem Keyagent.cached_lookup {k : Keyagent} {id : Int}
    (hkey : k.keyHash.lookup (hashKey url) = some key) :
    (k.cached url db id).keyHash.lookup (hashKey url) = some { key with cacheId := id } := by
  show (k.keyHash.update (hashKey url) _).lookup (hashKey url) = _
  rw [GHashTable.lookup_update, if_pos rfl, hkey]
  rfl

/--
**Failing to cache a key.** A call with the cache on leaves nothing behind when it fails, if and only if it
is not the `INSERT` of the attributes that fails.
-/
theorem cache_undone {result : Bool × Option GError} (hx : x.2 = false)
    (hon : x.1.keyagent.localcache.cacheKeys = true)
    (hdb : x.1.keyagent.localcache.connection = some db) (hids : 0 < db.nextKeyId)
    (hrun : Runs ((sysStep E 0).observed noteAttrs) (keyagentCacheKey url error) x result y) :
    (result.1 = false → LeftAlone x.1.keyagent url y.1.keyagent) ↔ y.2 = false := by
  obtain ⟨key, hkey, houtcome⟩ : ∃ key, x.1.keyagent.keyHash.lookup (hashKey url) = some key ∧
      CacheOutcome x.1.keyagent url db key result.1 y.2 y.1.keyagent :=
    (sat_cacheKey_outcome hx hon hdb).runs hrun
  generalize result.1 = ret at houtcome ⊢
  generalize y.2 = failed at houtcome ⊢
  generalize y.1.keyagent = k at houtcome ⊢
  cases houtcome with
  | refused =>
    refine iff_of_true (fun _ => ⟨⟨db, db, hdb, rfl, rfl, rfl⟩, ?_⟩) rfl
    intro key' hkey'
    rw [Keyagent.cached_lookup hkey] at hkey'
    rw [← Option.some.inj hkey']
  | stored sessionId keydata => exact iff_of_true nofun rfl
  | undone sessionId =>
    -- the id of the row that has been deleted
    refine iff_of_false (fun h => ?_) nofun
    have hid : db.nextKeyId = -1 := (h rfl).cacheId _ (Keyagent.cached_lookup hkey)
    omega

end

/-! ### A key that was cached before -/

/-- An agent with one key, whose cache has an older row for its url. -/
def olderRowWorld : World Unit :=
  { oneKeyWorld .rsakey with
    keyagent := { (oneKeyWorld .rsakey).keyagent with
      localcache := ⟨true, true, 0, some ⟨[], [⟨1, [0, 0], lit "a", 1, lit "KMS:1"⟩], [], 1, 2, 1⟩,
        none⟩ } }

/-- A database that refuses the rows of one table. -/
def rowRefusedHandler (refused : CacheTable) (c : Call) (w : Unit) : Option (c.Ans × Unit) :=
  match c with
  | .insertRow table => some (if table = refused then some ⟨"gda", 0, lit "refused"⟩ else none, w)
  | _ => none

/-- The surroundings with that database. -/
def rowRefusedStep (refused : CacheTable) : Step skcSig Unit := fun c w a w' =>
  rowRefusedHandler refused c w = some (a, w')

/-- The key is cached again. -/
def runCacheAgain (refused : CacheTable) :
    Option ((Bool × Option GError) × World Unit × Bool) :=
  (keyagentCacheKey (lit "KMS:1") none).run
    (observing (sysHandler (rowRefusedHandler refused) 0) noteAttrs) (olderRowWorld, false)

theorem runCacheAgain_runs {refused : CacheTable}
    {r : (Bool × Option GError) × World Unit × Bool} (hr : runCacheAgain refused = some r) :
    Runs ((sysStep (rowRefusedStep refused) 0).observed noteAttrs) (keyagentCacheKey (lit "KMS:1") none)
      (olderRowWorld, false) r.1 r.2 :=
  Prog.run_runs (observing_step sysHandler_answers) hr

theorem cache_undone_keys : ∃ (result : Bool × Option GError) (y : World Unit × Bool),
    Runs ((sysStep (rowRefusedStep .keys) 0).observed noteAttrs) (keyagentCacheKey (lit "KMS:1") none)
      (olderRowWorld, false) result y ∧ result.1 = false ∧
    LeftAlone olderRowWorld.keyagent (lit "KMS:1") y.1.keyagent := by
  obtain ⟨r, hr, hv⟩ := Option.map_eq_some_iff.mp (show
    (runCacheAgain .keys).map (fun r => (r.1.1, r.2.2)) = some (false, false) by decide +kernel)
  obtain ⟨hret, hfailed⟩ := Prod.mk.inj hv
  have hrun := runCacheAgain_runs hr
  exact ⟨r.1, r.2, hrun, hret, (cache_undone rfl rfl rfl (by decide) hrun).mpr hfailed hret⟩

/-- The key data cannot be stored; the older row is lost as well. -/
theorem not_cache_undone : ¬∀ (W : Type) (E : Step skcSig W) (x y : World W × Bool) (db : CacheDb)
    (url : Bytes) (error : Option GError) (result : Bool × Option GError), x.2 = false →
    x.1.keyagent.localcache.cacheKeys = true → x.1.keyagent.localcache.connection = some db →
    0 < db.nextKeyId →
    Runs ((sysStep E 0).observed noteAttrs) (keyagentCacheKey url error) x result y →
    result.1 = false → LeftAlone x.1.keyagent url y.1.keyagent := by
  intro h
  obtain ⟨r, hr, hv⟩ := Option.map_eq_some_iff.mp (show
    (runCacheAgain .keyAttributes).map (fun r =>
      (r.1.1, (r.2.1.keyagent.localcache.connection.map (·.keys.length)))) = some (false, some 0)
    by decide +kernel)
  obtain ⟨hret, hlength⟩ := Prod.mk.inj hv
  obtain ⟨db, db', hdb, hdb', hkeys, -⟩ := (h Unit _ _ _ _ _ _ _ rfl rfl rfl (by decide)
    (runCacheAgain_runs hr) hret).tables
  rw [hdb', Option.map_some, Option.some.injEq, hkeys] at hlength
  obtain rfl := Option.some.inj hdb
  exact absurd hlength (by decide)

end SkcLibrary
