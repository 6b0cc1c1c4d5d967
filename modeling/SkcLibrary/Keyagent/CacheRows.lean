import SkcLibrary.Keyagent.KeysBound

/-!
# The rows of the local cache

The tables refer to each other by ids that SQLite does not enforce. A row that is replaced on conflict
takes its id along, and nobody looks for what refers to it: a key cached again under its URL leaves
its attributes behind, a session that replaces another one leaves the keys of the old session.

* `rows_linked` — the runs in which no row refers to one that is gone
-/

namespace SkcLibrary

open Interaction

/-! ## The tables -/

namespace CacheDb

variable {db : CacheDb}

/-- Every row refers to a row that is there. -/
structure Linked (db : CacheDb) : Prop where
  attributes : ∀ a ∈ db.keyAttributes, ∃ r ∈ db.keys, r.id = a.keyId
  sessions : ∀ r ∈ db.keys, ∃ row ∈ db.sessions, row.sessionId = r.sessionId

/-- No key needs the row that a new session with the label replaces. -/
def SparesSession (db : CacheDb) (stmLabel sessionId : Bytes) : Prop :=
  ∀ r ∈ db.keys, r.sessionId = sessionId ∨
    ∃ row ∈ db.sessions, row.sessionId = r.sessionId ∧ row.stmLabel ≠ stmLabel

/-- The session of a new key has a row, and the row that the key replaces has no attributes. -/
def FitsKey (db : CacheDb) (url sessionId : Bytes) : Prop :=
  (∃ row ∈ db.sessions, row.sessionId = sessionId) ∧
    ∀ r ∈ db.keys, r.url = url → ∀ a ∈ db.keyAttributes, a.keyId ≠ r.id

theorem mem_insertSession {stmLabel swk sessionId swkType : Bytes} {row : SessionRow} :
    row ∈ (db.insertSession stmLabel swk sessionId swkType).sessions ↔
      (row ∈ db.sessions ∧ row.stmLabel ≠ stmLabel) ∨
        row = ⟨db.nextSessionId, stmLabel, swk, sessionId, swkType⟩ := by
  simp [insertSession]

theorem mem_insertKey {sealedData sessionId url : Bytes} {keyType : Int} {r : KeyRow} :
    r ∈ (db.insertKey sealedData sessionId keyType url).keys ↔
      (r ∈ db.keys ∧ r.url ≠ url) ∨ r = ⟨db.nextKeyId, sealedData, sessionId, keyType, url⟩ := by
  simp [insertKey]

/-- A row that replaces a session's must not be needed. -/
theorem linked_insertSession_iff (h : db.Linked) {stmLabel swk sessionId swkType : Bytes} :
    (db.insertSession stmLabel swk sessionId swkType).Linked ↔
      db.SparesSession stmLabel sessionId := by
  constructor
  · intro h' r hr
    obtain ⟨row, hrow, he⟩ := h'.sessions r hr
    rcases mem_insertSession.mp hrow with ⟨hrow, hne⟩ | rfl
    · exact .inr ⟨row, hrow, he, hne⟩
    · exact .inl he.symm
  · intro hspare
    refine ⟨h.attributes, fun r hr => ?_⟩
    rcases hspare r hr with he | ⟨row, hrow, he, hne⟩
    · exact ⟨_, mem_insertSession.mpr (.inr rfl), he.symm⟩
    · exact ⟨row, mem_insertSession.mpr (.inl ⟨hrow, hne⟩), he⟩

theorem Linked.insertKey (h : db.Linked) {sealedData sessionId url : Bytes} {keyType : Int}
    (hfits : db.FitsKey url sessionId) :
    (db.insertKey sealedData sessionId keyType url).Linked := by
  refine ⟨fun a ha => ?_, fun r hr => ?_⟩
  · obtain ⟨r, hr, he⟩ := h.attributes a ha
    have hne : r.url ≠ url := fun hurl => hfits.2 r hr hurl a ha he.symm
    exact ⟨r, mem_insertKey.mpr (.inl ⟨hr, hne⟩), he⟩
  · rcases mem_insertKey.mp hr with ⟨hr, -⟩ | rfl
    · exact h.sessions r hr
    · exact hfits.1

theorem Linked.insertKeyAttr (h : db.Linked) {keyId : Int} {attrName attrValue : Bytes}
    (hrow : ∃ r ∈ db.keys, r.id = keyId) : (db.insertKeyAttr keyId attrName attrValue).Linked := by
  refine ⟨fun a ha => ?_, h.sessions⟩
  simp only [CacheDb.insertKeyAttr, List.mem_append, List.mem_filter, List.mem_singleton] at ha
  rcases ha with ⟨ha, -⟩ | rfl
  · exact h.attributes a ha
  · exact hrow

/-- The attributes go with the key. -/
theorem Linked.deleteKeyAndAttrs (h : db.Linked) (id : Int) : (db.deleteKeyAndAttrs id).Linked := by
  refine ⟨fun a ha => ?_, fun r hr => ?_⟩
  · simp only [CacheDb.deleteKeyAndAttrs, List.mem_filter, decide_eq_true_eq] at ha
    obtain ⟨r, hr, he⟩ := h.attributes a ha.1
    refine ⟨r, ?_, he⟩
    simp only [CacheDb.deleteKeyAndAttrs, List.mem_filter, decide_eq_true_eq]
    exact ⟨hr, by rw [he]; exact ha.2⟩
  · exact h.sessions r (List.mem_filter.mp hr).1

theorem SparesSession.deleteKeyAndAttrs {stmLabel sessionId : Bytes}
    (h : db.SparesSession stmLabel sessionId) (id : Int) :
    (db.deleteKeyAndAttrs id).SparesSession stmLabel sessionId :=
  fun r hr => h r (List.mem_filter.mp hr).1

end CacheDb

/-- The agent's cache, if there is one, is linked. -/
def RowsLinked (k : Keyagent) : Prop := ∀ db, k.localcache.connection = some db → db.Linked

/-- There is nothing in the cache that refers to anything. -/
def EmptyRows (k : Keyagent) : Prop :=
  ∀ db, k.localcache.connection = some db → db.keys = [] ∧ db.keyAttributes = []

theorem RowsLinked.of_empty {k : Keyagent} (h : EmptyRows k) : RowsLinked k := by
  intro db hdb
  obtain ⟨hkeys, hattrs⟩ := h db hdb
  exact ⟨by simp [hattrs], by simp [hkeys]⟩

/-! ## Every point of a run -/

variable {W : Type}

/-- `J` holds of the agent's variables whenever something is called. -/
abbrev throughout (E : Step skcSig W) (J : Keyagent → Prop) : Logic skcSig (World W) :=
  .seq (sysStep E 0) fun _ s => J s.keyagent

/-- The calls that change the agent's variables as `R` says. -/
def ChangeCall (R : Keyagent → Keyagent → Prop) : Call → Prop
  | .modifyKeyagent f => ∀ k, R k (f k)
  | _ => True

section Throughout

variable {E : Step skcSig W} {J : Keyagent → Prop} {α β : Type} {Q : α → World W → Prop}
  {s t : World W}

/-- What holds throughout a run holds where it stops. -/
theorem throughout_exec {p q : Skc α} (h : Sat (throughout E J) p (fun _ t => J t.keyagent) s)
    (he : Exec (sysStep E 0) p s q t) : J t.keyagent := by
  have hq := h.exec he
  cases q with
  | ret a => exact sat_seq_pure.mp hq
  | call c k => exact (sat_seq_call.mp hq).1

theorem sat_throughout_read {g : Keyagent → β} {f : β → Skc α} :
    Sat (throughout E J) ((do let k ← Skc.keyagent; pure (g k)) >>= f) Q s ↔
      J s.keyagent ∧ Sat (throughout E J) (f (g s.keyagent)) Q s := by
  rw [bind_assoc, Skc.keyagent_bind, sat_seq_call]
  constructor
  · exact fun h => ⟨h.1, h.2 _ _ ⟨rfl, rfl⟩⟩
  · rintro ⟨hJ, h⟩
    refine ⟨hJ, fun k t ht => ?_⟩
    obtain ⟨rfl, rfl⟩ := ht
    exact h

theorem sat_throughout_keyagent {f : Keyagent → Skc α} :
    Sat (throughout E J) (Skc.keyagent >>= f) Q s ↔
      J s.keyagent ∧ Sat (throughout E J) (f s.keyagent) Q s := sat_throughout_read (g := id)

theorem sat_throughout_modifyKeyagent {g : Keyagent → Keyagent} {f : Unit → Skc α} :
    Sat (throughout E J) (Skc.modifyKeyagent g >>= f) Q s ↔
      J s.keyagent ∧ Sat (throughout E J) (f ()) Q { s with keyagent := g s.keyagent } := by
  rw [Skc.modifyKeyagent_bind, sat_seq_call]
  constructor
  · exact fun h => ⟨h.1, h.2 () _ rfl⟩
  · rintro ⟨hJ, h⟩
    refine ⟨hJ, fun _ t ht => ?_⟩
    rw [show t = _ from ht]
    exact h

theorem sat_throughout_deref {p : Option β} {reason : String} {f : β → Skc α} (hs : J s.keyagent)
    (h : ∀ b, p = some b → Sat (throughout E J) (f b) Q s) :
    Sat (throughout E J) (Skc.deref p reason >>= f) Q s := by
  cases p with
  | none => exact sat_seq_call.mpr ⟨hs, fun a => nomatch a⟩
  | some b => exact h b rfl

theorem sat_throughout_insertRow {table : CacheTable} {f : Option GError → Skc α}
    (hs : J s.keyagent) (h : ∀ a w, Sat (throughout E J) (f a) Q { s with env := w }) :
    Sat (throughout E J) (Prog.lift (S := skcSig) (.insertRow table) >>= f) Q s := by
  refine sat_seq_call.mpr ⟨hs, fun a t ht => ?_⟩
  obtain ⟨w, -, rfl⟩ := ht
  exact h a w

/-- A stronger assertion is kept by all that a program does to the agent's variables. -/
theorem sat_throughout_issues {J' : Keyagent → Prop} {R : Keyagent → Keyagent → Prop} {p : Skc α}
    (hp : p.Issues (ChangeCall R)) (himp : ∀ k, J' k → J k) (hR : ∀ k k', R k k' → J' k → J' k')
    (hs : J' s.keyagent) : Sat (throughout E J) p (fun _ t => J' t.keyagent) s := by
  refine Sat.of_issues (J := fun t : World W => J' t.keyagent) hp stable_seq (fun c hc t ht => ?_) hs
  refine ⟨himp _ ht, fun a u hu => ⟨trivial, ?_⟩⟩
  by_cases hm : ∃ f, c = .modifyKeyagent f
  · obtain ⟨f, rfl⟩ := hm
    rw [show u = _ from hu]
    exact hR _ _ (hc _) ht
  · have hu : u.keyagent = t.keyagent := sysStep_keyagent hu fun f hf => hm ⟨f, hf⟩
    show J' u.keyagent
    rw [hu]
    exact ht

end Throughout

theorem AgentView.CacheCall.change {R : Keyagent → Keyagent → Prop} {c : Call}
    (h : AgentView.CacheCall R c) : ChangeCall R c := by
  cases c <;> first | exact h | trivial

/-! ## The writers -/

/-- The cache of the agent is written to, and what is written keeps the rows linked. -/
theorem RowsLinked.map {k : Keyagent} {f : CacheDb → CacheDb}
    (h : ∀ db, k.localcache.connection = some db → (f db).Linked) :
    RowsLinked (k.mapLocalcache fun l => { l with connection := l.connection.map f }) := by
  intro db' hdb'
  obtain ⟨db, hdb, rfl⟩ := Option.map_eq_some_iff.mp hdb'
  exact h db hdb

section Writers

variable {E : Step skcSig W} {s : World W}

/-- A placeholder for an id touches no row. -/
theorem sat_generateFakeId_linked (hs : RowsLinked s.keyagent) :
    Sat (throughout E RowsLinked) keyagentCacheGenerateFakeId
      (fun _ t => RowsLinked t.keyagent) s :=
  sat_throughout_modifyKeyagent.mpr ⟨hs, sat_throughout_keyagent.mpr ⟨hs, sat_seq_pure.mpr hs⟩⟩

/-- **`__keyagent_cache_session`**. -/
theorem sat_cacheSession_linked {session : SessionRef} {error : Option GError}
    (hs : RowsLinked s.keyagent)
    (hspare : ∀ data db, s.keyagent.sessions[session]? = some data →
      s.keyagent.localcache.connection = some db → db.SparesSession data.name data.sessionId) :
    Sat (throughout E RowsLinked) (keyagentCacheSession session error)
      (fun _ t => RowsLinked t.keyagent) s := by
  unfold keyagentCacheSession
  refine sat_throughout_keyagent.mpr ⟨hs, ?_⟩
  split
  · refine sat_throughout_deref hs fun data hdata => sat_throughout_insertRow hs fun e w => ?_
    cases e with
    | some e => exact sat_throughout_modifyKeyagent.mpr ⟨hs, sat_seq_pure.mpr hs⟩
    | none =>
      refine sat_throughout_modifyKeyagent.mpr ⟨hs, ?_⟩
      have hnew : RowsLinked (s.keyagent.mapLocalcache fun l => { l with
          connection := l.connection.map
            (·.insertSession data.name data.swk data.sessionId data.swkType) }) :=
        .map fun db hdb => (CacheDb.linked_insertSession_iff (hs db hdb)).mpr (hspare data db hdata hdb)
      refine sat_throughout_keyagent.mpr ⟨hnew, sat_throughout_deref hnew fun row _ => ?_⟩
      exact sat_throughout_modifyKeyagent.mpr ⟨hnew, sat_seq_pure.mpr hnew⟩
  · refine (sat_generateFakeId_linked hs).bind fun id t ht => ?_
    exact sat_throughout_modifyKeyagent.mpr ⟨ht, sat_seq_pure.mpr ht⟩

/-- The attributes of a row that is there. -/
theorem sat_cacheKeyAttrs_linked {key : KeyagentKeyReal} {row : KeyRow} {error : Option GError}
    (hs : RowsLinked s.keyagent)
    (hrow : ∀ db, s.keyagent.localcache.connection = some db → row ∈ db.keys) :
    Sat (throughout E RowsLinked) (cacheKeyAttrs key row error)
      (fun _ t => RowsLinked t.keyagent) s := by
  unfold cacheKeyAttrs
  split
  · refine sat_throughout_deref hs fun tmp _ => sat_throughout_insertRow hs fun e w => ?_
    cases e with
    | some e => exact sat_seq_pure.mpr hs
    | none =>
      have hnew : RowsLinked (s.keyagent.mapLocalcache fun l => { l with
          connection := l.connection.map (·.insertKeyAttr row.id (lit "KEYDATA") tmp) }) :=
        .map fun db hdb => (hs db hdb).insertKeyAttr ⟨row, hrow db hdb, rfl⟩
      exact sat_throughout_modifyKeyagent.mpr ⟨hs, sat_seq_pure.mpr hnew⟩
  · exact sat_seq_pure.mpr hs

/-- **`__keyagent_cache_key`**. -/
theorem sat_cacheKey_linked {url : Bytes} {error : Option GError} (hs : RowsLinked s.keyagent)
    (hfits : ∀ key data db, s.keyagent.keyHash.lookup (hashKey url) = some key →
      key.session.bind (s.keyagent.sessions[·]?) = some data →
      s.keyagent.localcache.connection = some db → db.FitsKey key.url data.sessionId) :
    Sat (throughout E RowsLinked) (keyagentCacheKey url error)
      (fun _ t => RowsLinked t.keyagent) s := by
  unfold keyagentCacheKey
  refine sat_throughout_keyagent.mpr ⟨hs, ?_⟩
  split
  · refine sat_throughout_deref hs fun key hkey => sat_throughout_deref hs fun data hdata => ?_
    refine sat_throughout_insertRow hs fun e w => ?_
    cases e with
    | some e => exact sat_throughout_modifyKeyagent.mpr ⟨hs, sat_seq_pure.mpr hs⟩
    | none =>
      refine sat_throughout_modifyKeyagent.mpr ⟨hs, ?_⟩
      have hnew : RowsLinked (s.keyagent.mapLocalcache fun l => { l with
          connection := l.connection.map
            (·.insertKey [0, 0] data.sessionId key.type.toInt key.url) }) :=
        .map fun db hdb => (hs db hdb).insertKey (hfits key data db hkey hdata hdb)
      refine sat_throughout_keyagent.mpr ⟨hnew, sat_throughout_deref hnew fun row hrow => ?_⟩
      refine Sat.bind (sat_cacheKeyAttrs_linked hnew fun db hdb => ?_) fun r t ht => ?_
      · -- the row is the one the URL was found under
        obtain ⟨db', hdb', hrow⟩ := Option.bind_eq_some_iff.mp hrow
        rw [show _ = some db from hdb] at hdb'
        obtain rfl := Option.some.inj hdb'
        exact List.mem_of_find?_eq_some hrow
      · dsimp only
        split
        · refine sat_throughout_modifyKeyagent.mpr ⟨ht, ?_⟩
          have hdel : RowsLinked (t.keyagent.mapLocalcache fun l => { l with
              connection := l.connection.map (·.deleteKeyAndAttrs row.id) }) :=
            .map fun db hdb => (ht db hdb).deleteKeyAndAttrs _
          exact sat_throughout_modifyKeyagent.mpr ⟨hdel, sat_seq_pure.mpr hdel⟩
        · exact sat_throughout_modifyKeyagent.mpr ⟨ht, sat_seq_pure.mpr ht⟩
  · refine (sat_generateFakeId_linked hs).bind fun id t ht => ?_
    exact sat_throughout_modifyKeyagent.mpr ⟨ht, sat_seq_pure.mpr ht⟩

end Writers

/-! ## The operations -/

/-- Rows are gone from the cache, and nothing of the sessions. -/
structure RowsRemoved (k k' : Keyagent) : Prop where
  sessions : k'.sessions = k.sessions
  linked : RowsLinked k → RowsLinked k'
  spares : ∀ {stmLabel sessionId : Bytes},
    (∀ db, k.localcache.connection = some db → db.SparesSession stmLabel sessionId) →
    ∀ db, k'.localcache.connection = some db → db.SparesSession stmLabel sessionId

theorem RowsRemoved.of_connection {k k' : Keyagent} (hs : k'.sessions = k.sessions)
    (hc : k'.localcache.connection = k.localcache.connection) : RowsRemoved k k' where
  sessions := hs
  linked h db hdb := h db (hc ▸ hdb)
  spares h db hdb := h db (hc ▸ hdb)

theorem RowsRemoved.trans {k k' k'' : Keyagent} (h : RowsRemoved k k') (h' : RowsRemoved k' k'') :
    RowsRemoved k k'' where
  sessions := h'.sessions.trans h.sessions
  linked hk := h'.linked (h.linked hk)
  spares hk := h'.spares (h.spares hk)

theorem RowsRemoved.removes : Removes RowsRemoved where
  postpone k l := .of_connection rfl rfl
  delete k id := by
    refine ⟨rfl, fun h => .map fun db hdb => (h db hdb).deleteKeyAndAttrs id, ?_⟩
    intro stmLabel sessionId h db' hdb'
    obtain ⟨db, hdb, rfl⟩ := Option.map_eq_some_iff.mp hdb'
    exact (h db hdb).deleteKeyAndAttrs id
  eraseKey k p := .of_connection rfl rfl

/-- The name and the id of the session of a call: the one that was found, or a new one. -/
def Keyagent.sessionOf (k : Keyagent) (found : Option SessionRef) (label sessionId : Bytes) :
    Option (Bytes × Bytes) :=
  match found with
  | some session => k.sessions[session]?.map fun data => (data.name, data.sessionId)
  | none => some (label, sessionId)

/-- The session that a call caches, if it is not refused: its name and its id. -/
def Keyagent.sessionToCache (k : Keyagent) (label sessionId swkType : Bytes) :
    Option (Bytes × Bytes) :=
  match keyagentSessionLookupSwktype swkType, k.stmHash.lookup (gQuarkFromString label) with
  | some _, some _ => k.sessionOf (k.sessionHash.lookup (hashKey sessionId)) label sessionId
  | _, _ => none

/-- The key that a call caches, if it is not refused: its URL and the id of its session. -/
def Keyagent.keyToCache (k : Keyagent) (url : Bytes) (attrs : Option KAttributes)
    (sessionId : Option Bytes) : Option (Bytes × Bytes) :=
  match k.keyHash.lookup (hashKey url) with
  | some key => (key.session.bind (k.sessions[·]?)).map fun data => (key.url, data.sessionId)
  | none =>
    if (attrs.bind (·.lookup keyagentAttrKeydata)).isSome then
      ((sessionId.bind fun id => k.sessionHash.lookup (hashKey id)).bind (k.sessions[·]?)).map
        fun data => (url, data.sessionId)
    else none

/--
A session is cached if no key needs the row that it replaces. A key is cached if its session has a
row and the row that it replaces has no attributes.
-/
def KeepsRowsLinked : TableOp → Keyagent → Prop
  | .sessionCreate _ label sessionId _ swkType cacheId _, k => cacheId = -1 →
    ∀ name id db, k.sessionToCache label sessionId swkType = some (name, id) →
      k.localcache.connection = some db → db.SparesSession name id
  | .keyCreate url _ attrs sessionId cacheId _, k => cacheId = -1 →
    ∀ keyUrl id db, k.keyToCache url attrs sessionId = some (keyUrl, id) →
      k.localcache.connection = some db → db.FitsKey keyUrl id
  | _, _ => True

/-- The cache is all that matters. -/
theorem RowsLinked.of_localcache {k k' : Keyagent} (h : k'.localcache = k.localcache)
    (hk : RowsLinked k) : RowsLinked k' := fun db hdb => hk db (h ▸ hdb)

theorem setSession_keeps_localcache (requestId : Bytes) (session : SessionRef)
    (error : Option GError) : (keyagentStmSetSession .unknown requestId session error).Issues
      (ChangeCall fun k k' => k'.localcache = k.localcache) := by
  refine Skc.issues_keyagent_bind.mpr ⟨trivial, fun k => ?_⟩
  refine (Skc.issues_deref trivial).bind fun data => ?_
  refine Skc.issues_keyagent_bind.mpr ⟨trivial, fun k => ?_⟩
  refine Prog.Issues.bind ⟨trivial, fun _ => trivial⟩ fun request => ?_
  split
  · exact ⟨fun _ => rfl, fun _ => ⟨fun _ => rfl, fun _ => ⟨trivial, fun _ => trivial⟩⟩⟩
  · trivial

theorem Keyagent.sessionOf_congr {k k' : Keyagent} (h : k'.sessions = k.sessions)
    {found : Option SessionRef} {label sessionId : Bytes} :
    k'.sessionOf found label sessionId = k.sessionOf found label sessionId := by
  unfold Keyagent.sessionOf
  rw [h]

/-- What the condition says of a session that is not refused. -/
theorem KeepsRowsLinked.session {k : Keyagent} {requestId label sessionId swk swkType : Bytes}
    {cacheId : Int} {error : Option GError} {type : GQuark} {lstm : KeyagentStmReal}
    (h : KeepsRowsLinked (.sessionCreate requestId label sessionId swk swkType cacheId error) k)
    (htype : keyagentSessionLookupSwktype swkType = some type)
    (hl : k.stmHash.lookup (gQuarkFromString label) = some lstm) (hid : cacheId = -1)
    {name id : Bytes} {db : CacheDb}
    (hof : k.sessionOf (k.sessionHash.lookup (hashKey sessionId)) label sessionId = some (name, id))
    (hdb : k.localcache.connection = some db) : db.SparesSession name id := by
  refine h hid name id db ?_ hdb
  unfold Keyagent.sessionToCache
  rw [htype, hl]
  exact hof

section Ops

variable {E : Step skcSig W} {s : World W}

/-- The keys of the session that is replaced go, if any are found. -/
theorem sat_sessionReplaceCurrent_linked {current : Option SessionRef} {sessionId : Bytes}
    (hs : RowsLinked s.keyagent) :
    Sat (throughout E RowsLinked) (sessionReplaceCurrent current sessionId)
      (fun _ t => RowsRemoved s.keyagent t.keyagent) s :=
  sat_throughout_issues
    ((AgentView.sessionReplaceCurrent_issues RowsRemoved.removes
      (fun _ _ => .of_connection rfl rfl) _ _).mono fun _ => AgentView.CacheCall.change)
    (fun _ hk => hk.linked hs) (fun _ _ h hk => hk.trans h) (.of_connection rfl rfl)

/-- The session of the call is the one it found, or a new one. -/
theorem sat_sessionUpdateOrInsert_cached {J : Keyagent → Prop} {found : Option SessionRef}
    {label sessionId swk swkType : Bytes} {cacheId : Int}
    (hJ : ∀ k, k.localcache = s.keyagent.localcache → J k) :
    Sat (throughout E J) (sessionUpdateOrInsert found label sessionId swk swkType cacheId)
      (fun session t => t.keyagent.localcache = s.keyagent.localcache ∧
        ∀ data, t.keyagent.sessions[session]? = some data →
          s.keyagent.sessionOf found label sessionId = some (data.name, data.sessionId)) s := by
  unfold sessionUpdateOrInsert
  -- an old session keeps its name and id, a new one gets those of the call
  cases found with
  | some session =>
    refine sat_throughout_keyagent.mpr ⟨hJ _ rfl, sat_throughout_deref (hJ _ rfl) fun data hd => ?_⟩
    split
    · refine sat_throughout_modifyKeyagent.mpr ⟨hJ _ rfl, sat_seq_pure.mpr ⟨rfl, fun d hd' => ?_⟩⟩
      simp only [List.getElem?_modify_eq, hd, Option.map_eq_map, Option.map_some,
        Option.some.injEq] at hd'
      rw [Keyagent.sessionOf, hd, ← hd']
      rfl
    · refine sat_seq_pure.mpr ⟨rfl, fun d hd' => ?_⟩
      rw [Keyagent.sessionOf, hd']
      rfl
  | none =>
    refine sat_throughout_keyagent.mpr ⟨hJ _ rfl, ?_⟩
    refine sat_throughout_modifyKeyagent.mpr ⟨hJ _ rfl, sat_seq_pure.mpr ⟨rfl, fun d hd' => ?_⟩⟩
    rw [List.getElem?_append_right le_rfl] at hd'
    simp only [Nat.sub_self, List.getElem?_cons_zero, Option.some.injEq] at hd'
    rw [← hd']
    rfl

theorem sat_sessionCreateCache_linked {session : SessionRef} {cacheId : Int} {error : Option GError}
    (hs : RowsLinked s.keyagent)
    (hspare : cacheId = -1 → ∀ data db, s.keyagent.sessions[session]? = some data →
      s.keyagent.localcache.connection = some db → db.SparesSession data.name data.sessionId) :
    Sat (throughout E RowsLinked) (sessionCreateCache session cacheId error)
      (fun _ t => RowsLinked t.keyagent) s := by
  unfold sessionCreateCache
  split
  · next hid =>
    rw [map_eq_pure_bind]
    exact (sat_cacheSession_linked hs (hspare hid)).bind fun r v hv => sat_seq_pure.mpr hv
  · exact sat_seq_pure.mpr hs

/-- **`keyagent_session_create`** -/
theorem sat_sessionCreate_linked {requestId label sessionId swk swkType : Bytes} {cacheId : Int}
    {error : Option GError} (hs : RowsLinked s.keyagent)
    (hkeeps : KeepsRowsLinked
      (.sessionCreate requestId label sessionId swk swkType cacheId error) s.keyagent) :
    Sat (throughout E RowsLinked)
      (keyagentSessionCreate .unknown requestId label sessionId swk swkType cacheId error)
      (fun _ t => RowsLinked t.keyagent) s := by
  unfold keyagentSessionCreate
  refine sat_throughout_read.mpr ⟨hs, ?_⟩
  split
  · exact sat_seq_pure.mpr hs
  · next type htype =>
    refine sat_throughout_read.mpr ⟨hs, ?_⟩
    split
    · exact sat_seq_pure.mpr hs
    · next lstm hl =>
      refine (sat_sessionReplaceCurrent_linked hs).bind fun _ t ht => ?_
      have htl : RowsLinked t.keyagent := ht.linked hs
      refine (sat_sessionUpdateOrInsert_cached fun k hk => RowsLinked.of_localcache hk htl).bind ?_
      rintro session u ⟨hu, hdata⟩
      have hul : RowsLinked u.keyagent := RowsLinked.of_localcache hu htl
      refine (sat_sessionCreateCache_linked hul fun hid data db hd hdb => ?_).bind fun err v hv =>
        sat_throughout_issues (setSession_keeps_localcache _ _ _) (fun _ => id)
          (fun _ _ h hk => RowsLinked.of_localcache h hk) hv
      -- the session that is cached is the one `KeepsRowsLinked` speaks of
      have hold := (Keyagent.sessionOf_congr ht.sessions).symm.trans (hdata data hd)
      exact ht.spares (fun db => hkeeps.session htype hl hid hold) db (hu ▸ hdb)

theorem sat_keyCreateCache_linked {url : Bytes} {cacheId : Int} {error : Option GError}
    (hs : RowsLinked s.keyagent)
    (hfits : cacheId = -1 → ∀ key data db, s.keyagent.keyHash.lookup (hashKey url) = some key →
      key.session.bind (s.keyagent.sessions[·]?) = some data →
      s.keyagent.localcache.connection = some db → db.FitsKey key.url data.sessionId) :
    Sat (throughout E RowsLinked) (keyCreateCache url cacheId error)
      (fun _ t => RowsLinked t.keyagent) s := by
  unfold keyCreateCache
  split
  · next hid =>
    rw [map_eq_pure_bind]
    exact (sat_cacheKey_linked hs (hfits hid)).bind fun r v hv => sat_seq_pure.mpr hv
  · exact sat_seq_pure.mpr hs

/-- **`__keyagent_key_create_with_cacheid`** -/
theorem sat_keyCreate_linked {url : Bytes} {type : KeyagentKeytype} {attrs : Option KAttributes}
    {sessionId : Option Bytes} {cacheId : Int} {error : Option GError} (hs : RowsLinked s.keyagent)
    (hkeeps : KeepsRowsLinked (.keyCreate url type attrs sessionId cacheId error) s.keyagent) :
    Sat (throughout E RowsLinked)
      (keyagentKeyCreateWithCacheid url type attrs sessionId cacheId error)
      (fun _ t => RowsLinked t.keyagent) s := by
  unfold keyagentKeyCreateWithCacheid
  refine sat_throughout_read.mpr ⟨hs, ?_⟩
  split
  · next key hkey =>
    refine (sat_keyCreateCache_linked hs fun hid key' data db hkey' hdata hdb => ?_).bind
      fun err v hv => sat_seq_pure.mpr hv
    refine hkeeps hid _ _ db ?_ hdb
    unfold Keyagent.keyToCache
    rw [hkey']
    simp only [hdata, Option.map_some]
  · next hkey =>
    split
    · next attrs sessionId =>
      cases hattr : attrs.lookup keyagentAttrKeydata with
      | none => exact sat_seq_pure.mpr hs
      | some keydata =>
        refine sat_throughout_read.mpr ⟨hs, ?_⟩
        split
        · exact sat_seq_pure.mpr hs
        · next session hsession =>
          refine sat_throughout_modifyKeyagent.mpr ⟨hs, ?_⟩
          refine Sat.bind (P := fun _ v => RowsLinked v.keyagent)
            (sat_keyCreateCache_linked ?_ ?_) fun err v hv => sat_seq_pure.mpr hv
          · exact hs
          intro hid key data db hnew hdata hdb
          -- the key is the new one
          rw [GHashTable.lookup_insert_eq, if_pos rfl] at hnew
          obtain rfl := Option.some.inj hnew
          refine hkeeps hid _ _ db ?_ hdb
          unfold Keyagent.keyToCache
          rw [hkey]
          have hdata : s.keyagent.sessions[session]? = some data := hdata
          simp [hattr, hsession, hdata]
    · exact sat_seq_pure.mpr hs

/-- Every operation keeps the rows linked, at every point of its run. -/
theorem sat_op_linked {o : TableOp} (hs : RowsLinked s.keyagent)
    (hkeeps : KeepsRowsLinked o s.keyagent) :
    Sat (throughout E RowsLinked) o.prog (fun _ t => RowsLinked t.keyagent) s := by
  cases o with
  | sessionCreate requestId label sessionId swk swkType cacheId error =>
    rw [TableOp.prog, map_eq_pure_bind]
    exact (sat_sessionCreate_linked hs hkeeps).bind fun _ v hv => sat_seq_pure.mpr hv
  | keyCreate url type attrs sessionId cacheId error =>
    rw [TableOp.prog, map_eq_pure_bind]
    exact (sat_keyCreate_linked hs hkeeps).bind fun _ v hv => sat_seq_pure.mpr hv
  | requestInsert requestId request =>
    exact sat_throughout_modifyKeyagent.mpr ⟨hs, sat_seq_pure.mpr hs⟩
  | requestRemove requestId =>
    exact sat_throughout_modifyKeyagent.mpr ⟨hs, sat_seq_pure.mpr hs⟩

theorem TableReach.rowsLinked {t : World W} (hs : RowsLinked s.keyagent)
    (h : TableReach E KeepsRowsLinked s t) : RowsLinked t.keyagent := by
  induction h with
  | refl => exact hs
  | op _ hkeeps hr ih => exact (sat_op_linked ih hkeeps).runs hr

/--
**No row of the cache is left behind** in the runs that replace no row which another one refers to:
not after any of their operations, and not within the last one.
-/
theorem rows_linked {t : World W} (hs : EmptyRows s.keyagent)
    (h : TableReach E KeepsRowsLinked s t) :
    RowsLinked t.keyagent ∧ ∀ o q u, KeepsRowsLinked o t.keyagent →
      Exec (sysStep E 0) o.prog t q u → RowsLinked u.keyagent := by
  have ht := h.rowsLinked (.of_empty hs)
  exact ⟨ht, fun o q u hkeeps he => throughout_exec (sat_op_linked ht hkeeps) he⟩

end Ops

/-! ### A key that is cached once, and twice -/

/-- A process whose cache is empty. -/
def cachingWorld : World Unit :=
  { sgxWorld with
    keyagent := { sgxAgent with localcache := ⟨true, true, 0, some ⟨[], [], [], 1, 1, 1⟩, none⟩ } }

/-- The STM accepts every session, and the database every row. -/
def cachingHandler : (c : Call) → Unit → Option (c.Ans × Unit)
  | .insertRow _, _ => some (none, ())
  | .stm (.setSession _ _ err), _ => some ((true, err), ())
  | _, _ => none

/-- The surroundings of that process. -/
def cachingStep : Step skcSig Unit := fun c w a w' => cachingHandler c w = some (a, w')

theorem TableReach.runCaching {allow : TableOp → Keyagent → Prop} {o : TableOp} {s t : World Unit}
    {r : Unit × World Unit} (h : TableReach cachingStep allow s t) (ho : allow o t.keyagent)
    (hr : o.prog.run (sysHandler cachingHandler 0) t = some r) :
    TableReach cachingStep allow s r.2 :=
  h.op ho (Prog.run_runs sysHandler_answers hr)

theorem emptyRows_cachingWorld : EmptyRows cachingWorld.keyagent := by
  rintro db hdb
  obtain rfl := Option.some.inj hdb
  exact ⟨rfl, rfl⟩

/-- The rows of the cache: the ids of the sessions, the keys and what the attributes refer to. -/
def cachedRows (k : Keyagent) : Option (List Bytes × List (Int × Bytes) × List Int) :=
  k.localcache.connection.map fun db => (db.sessions.map (·.sessionId),
    db.keys.map fun r => (r.id, r.sessionId), db.keyAttributes.map (·.keyId))

/-- The agent after a session, with a key of it. -/
def runCached : Option (World Unit × World Unit) := do
  let r₁ ← (createSgxSession (lit "a")).prog.run (sysHandler cachingHandler 0) cachingWorld
  let r₂ ← (createKeyOf (lit "a")).prog.run (sysHandler cachingHandler 0) r₁.2
  pure (r₁.2, r₂.2)

theorem rows_linked_once : ∃ t : World Unit, TableReach cachingStep KeepsRowsLinked cachingWorld t ∧
    cachedRows t.keyagent = some ([lit "a"], [(1, lit "a")], [1]) ∧ RowsLinked t.keyagent := by
  have hrows : runCached.bind (fun r => cachedRows r.1.keyagent) = some ([lit "a"], [], []) := by
    decide +kernel
  have hkey : runCached.bind (fun r => r.1.keyagent.keyToCache (lit "KMS:1")
      (some (AList.insert keyagentAttrKeydata [] ∅)) (some (lit "a")))
      = some (lit "KMS:1", lit "a") := by decide +kernel
  have hlast : runCached.bind (fun r => cachedRows r.2.keyagent)
      = some ([lit "a"], [(1, lit "a")], [1]) := by decide +kernel
  obtain ⟨⟨t, u⟩, hr, hrows⟩ := Option.bind_eq_some_iff.mp hrows
  rw [hr, Option.bind_some] at hkey hlast
  simp only [runCached, Option.bind_eq_bind, Option.bind_eq_some_iff] at hr
  obtain ⟨r₁, h₁, r₂, h₂, hpair⟩ := hr
  obtain ⟨rfl, rfl⟩ := Prod.mk.inj (Option.some.inj hpair)
  -- there is no key when the session comes, and one session when the key comes
  have hfirst : KeepsRowsLinked (createSgxSession (lit "a")) cachingWorld.keyagent := by
    intro _ name id db _ hdb r hr
    rw [(emptyRows_cachingWorld db hdb).1] at hr
    exact absurd hr List.not_mem_nil
  have hsecond : KeepsRowsLinked (createKeyOf (lit "a")) r₁.2.keyagent := by
    intro _ keyUrl id db hcache hdb
    obtain ⟨rfl, rfl⟩ := Prod.mk.inj (Option.some.inj (hkey.symm.trans hcache))
    rw [cachedRows, hdb, Option.map_some, Option.some.injEq, Prod.mk.injEq, Prod.mk.injEq,
      List.map_eq_nil_iff] at hrows
    obtain ⟨hsessions, hkeys, -⟩ := hrows
    refine ⟨List.mem_map.mp (hsessions ▸ List.mem_singleton_self _), fun r hr => ?_⟩
    rw [hkeys] at hr
    exact absurd hr List.not_mem_nil
  have hreach := (TableReach.refl.runCaching hfirst h₁).runCaching hsecond h₂
  exact ⟨r₂.2, hreach, hlast, (rows_linked emptyRows_cachingWorld hreach).1⟩

/-- The agent after the same key has been created again. -/
def runCachedAgain : Option (World Unit) := do
  let r ← runCached
  let r ← (createKeyOf (lit "a")).prog.run (sysHandler cachingHandler 0) r.2
  pure r.2

/-- The attributes of the row that was replaced are still there. -/
theorem not_rows_linked : ¬∀ (W : Type) (E : Step skcSig W) (s t : World W),
    EmptyRows s.keyagent → TableReach E (fun _ _ => True) s t → RowsLinked t.keyagent := by
  intro h
  obtain ⟨t, hr, hrows⟩ := Option.bind_eq_some_iff.mp (show runCachedAgain.bind
    (fun t => cachedRows t.keyagent) = some ([lit "a"], [(2, lit "a")], [1, 2]) by decide +kernel)
  have hreach : TableReach cachingStep (fun _ _ => True) cachingWorld t := by
    simp only [runCachedAgain, runCached, Option.bind_eq_bind, Option.bind_eq_some_iff] at hr
    obtain ⟨q, ⟨r₁, h₁, r₂, h₂, hq⟩, r₃, h₃, ht⟩ := hr
    obtain rfl := Option.some.inj hq
    obtain rfl := Option.some.inj ht
    exact ((TableReach.refl.runCaching trivial h₁).runCaching trivial h₂).runCaching trivial h₃
  obtain ⟨db, hdb, hdbrows⟩ := Option.map_eq_some_iff.mp hrows
  rw [Prod.mk.injEq, Prod.mk.injEq] at hdbrows
  obtain ⟨-, hkeys, hattrs⟩ := hdbrows
  have hlinked := h Unit cachingStep cachingWorld t emptyRows_cachingWorld hreach db hdb
  -- the first attribute refers to the row 1
  obtain ⟨a, ha, hid⟩ := List.mem_map.mp (show (1 : Int) ∈ db.keyAttributes.map (·.keyId) by
    rw [hattrs]
    exact List.mem_cons_self)
  obtain ⟨r, hr, he⟩ := hlinked.attributes a ha
  have hmem : (r.id, r.sessionId) ∈ [((2 : Int), lit "a")] := hkeys ▸ List.mem_map_of_mem hr
  rw [he, hid] at hmem
  simp at hmem

end SkcLibrary
