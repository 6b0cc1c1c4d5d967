import SkcLibrary.Keyagent.View
import SkcLibrary.Keyagent.Intf

/-!
# Rules for the agent's functions

One rule for each function, in terms of what it does to the agent's variables:
`Keyagent.createSession`, `Keyagent.setCurrent` and `Keyagent.insertKey`. A function that hands
over to a security module is left at that point.

No key is ever stored under the address of a string (`Keyagent.NoHeapKeys`), so the removal of a
session's keys finds none.
-/

namespace SkcLibrary

open Interaction

namespace Keyagent

/-- Every key is stored under a quark. -/
def NoHeapKeys (k : Keyagent) : Prop := ∀ x, k.keyHash.lookup (.heap x) = none

/-- A session leaves `session_hash`. -/
def eraseSession (k : Keyagent) (p : Gpointer) : Keyagent :=
  match k.sessionHash.lookup p with
  | none => k
  | some _ => { k with sessionHash := k.sessionHash.erase p }

/-- The current session of an STM makes room for the one with the given id. -/
def replaceCurrent (k : Keyagent) (current : Option SessionRef) (sessionId : Bytes) : Keyagent :=
  match current.bind (k.sessions[·]?) with
  | none => k
  | some data =>
    if gQuarkFromString data.sessionId ≠ gQuarkFromString sessionId then
      k.eraseSession (hashKey data.sessionId)
    else k

/-- `session->swk = swk` -/
def setSwk (k : Keyagent) (session : SessionRef) (swk : Bytes) : Keyagent :=
  { k with sessions := k.sessions.modify session fun s => { s with swk := swk } }

/-- A new session, at a fresh address. -/
def addSession (k : Keyagent) (session : KeyagentSessionReal) : Keyagent :=
  { k with
    sessions := k.sessions ++ [session]
    sessionHash := k.sessionHash.insert (hashKey session.sessionId) k.sessions.length }

/-- The session of a call: the one that was found, or a new one. -/
def createRef (k : Keyagent) (found : Option SessionRef) : SessionRef :=
  found.getD k.sessions.length

/-- The session of a call gets the swk. -/
def updateOrInsert (k : Keyagent) (found : Option SessionRef) (session : KeyagentSessionReal) :
    Keyagent :=
  match found with
  | some r => k.setSwk r session.swk
  | none => k.addSession session

/-- What `keyagent_session_create` does for a registered label and a supported type. -/
def createSession (k : Keyagent) (current : Option SessionRef) (session : KeyagentSessionReal) :
    Keyagent :=
  (k.replaceCurrent current session.sessionId).updateOrInsert
    (k.sessionHash.lookup (hashKey session.sessionId)) session

/-- `lstm->session = session; request->stm_name = lstm->stm.label` -/
def setCurrent (k : Keyagent) (name requestId label : Bytes) (session : SessionRef) : Keyagent :=
  { k with
    stmHash := k.stmHash.update (gQuarkFromString name) fun stm =>
      { stm with session := some session }
    apimoduleLoadkeyHash := k.apimoduleLoadkeyHash.update requestId fun r =>
      { r with stmName := some label } }

/-- `request->stm_name = lstm->stm.label` -/
def setStmName (k : Keyagent) (requestId label : Bytes) : Keyagent :=
  { k with
    apimoduleLoadkeyHash := k.apimoduleLoadkeyHash.update requestId fun r =>
      { r with stmName := some label } }

/-- A new key in `key_hash`. -/
def insertKey (k : Keyagent) (key : KeyagentKeyReal) : Keyagent :=
  { k with keyHash := k.keyHash.insert (hashKey key.url) key }

@[simp] theorem replaceCurrent_sessions (k : Keyagent) (current : Option SessionRef)
    (sessionId : Bytes) : (k.replaceCurrent current sessionId).sessions = k.sessions := by
  unfold replaceCurrent
  split
  · rfl
  · split
    · unfold eraseSession
      split <;> rfl
    · rfl

/-- Nothing is written when the swk is there already. -/
theorem setSwk_same {k : Keyagent} {r : SessionRef} {d : KeyagentSessionReal}
    (hd : k.sessions[r]? = some d) : k.setSwk r d.swk = k := by
  have h : k.sessions.modify r (fun s => { s with swk := d.swk }) = k.sessions := by
    refine List.ext_getElem? fun i => ?_
    rw [List.getElem?_modify]
    split
    · next hri => rw [← hri, hd]; rfl
    · simp
  unfold setSwk
  rw [h]

/-- The session of a call has its swk. -/
theorem updateOrInsert_swk {k : Keyagent} {found : Option SessionRef}
    {session d : KeyagentSessionReal}
    (hd : (k.updateOrInsert found session).sessions[k.createRef found]? = some d) :
    d.swk = session.swk := by
  cases found with
  | none =>
    simp only [updateOrInsert, addSession, createRef, Option.getD_none,
      List.getElem?_append_right (Nat.le_refl _), Nat.sub_self, List.getElem?_cons_zero,
      Option.some.injEq] at hd
    rw [← hd]
  | some r =>
    simp only [updateOrInsert, setSwk, createRef, Option.getD_some, List.getElem?_modify_eq] at hd
    obtain ⟨d', -, rfl⟩ := Option.map_eq_some_iff.mp hd
    rfl

end Keyagent

/-- Every key was there before, with at most another cache id; the requests are the same. -/
structure KeysFrom (k k' : Keyagent) : Prop where
  keys : ∀ p key', k'.keyHash.lookup p = some key' →
    ∃ key, k.keyHash.lookup p = some key ∧ key.uncached = key'.uncached
  requests : k'.apimoduleLoadkeyHash = k.apimoduleLoadkeyHash

namespace KeysFrom

variable {k k' k'' : Keyagent}

theorem of_keyHash (h : k'.keyHash = k.keyHash)
    (hr : k'.apimoduleLoadkeyHash = k.apimoduleLoadkeyHash) : KeysFrom k k' where
  keys _ key hp := ⟨key, h ▸ hp, rfl⟩
  requests := hr

theorem of_cacheEq (h : CacheEq k k') : KeysFrom k k' where
  keys _ _ := h.key
  requests := h.requests

theorem mapLocalcache (k : Keyagent) (f : Localcache → Localcache) :
    KeysFrom k (k.mapLocalcache f) := .of_keyHash rfl rfl

theorem trans (h : KeysFrom k k') (h' : KeysFrom k' k'') : KeysFrom k k'' where
  keys := by
    intro p key'' hp
    obtain ⟨key', hp', he'⟩ := h'.keys p key'' hp
    obtain ⟨key, hp, he⟩ := h.keys p key' hp'
    exact ⟨key, hp, he.trans he'⟩
  requests := h'.requests.trans h.requests

/-- A URL without a key stays without one. -/
theorem none (h : KeysFrom k k') {p : Gpointer} (hp : k.keyHash.lookup p = none) :
    k'.keyHash.lookup p = none := by
  cases hp' : k'.keyHash.lookup p with
  | none => rfl
  | some key' =>
    obtain ⟨key, hkey, -⟩ := h.keys p key' hp'
    simp [hp] at hkey

end KeysFrom

/-- Keys may be gone, and nothing else. -/
structure KeysRemoved (k k' : Keyagent) : Prop extends KeysFrom k k' where
  sessionHash : k'.sessionHash = k.sessionHash
  sessions : k'.sessions = k.sessions
  stmHash : k'.stmHash = k.stmHash

namespace KeysRemoved

variable {k k' k'' : Keyagent}

theorem refl (k : Keyagent) : KeysRemoved k k := ⟨.of_keyHash rfl rfl, rfl, rfl, rfl⟩

theorem trans (h : KeysRemoved k k') (h' : KeysRemoved k' k'') : KeysRemoved k k'' :=
  ⟨h.toKeysFrom.trans h'.toKeysFrom, h'.sessionHash.trans h.sessionHash,
    h'.sessions.trans h.sessions, h'.stmHash.trans h.stmHash⟩

theorem mapLocalcache (k : Keyagent) (f : Localcache → Localcache) :
    KeysRemoved k (k.mapLocalcache f) := ⟨.mapLocalcache k f, rfl, rfl, rfl⟩

theorem eraseKey (k : Keyagent) (p : Gpointer) :
    KeysRemoved k { k with keyHash := k.keyHash.erase p } := by
  refine ⟨⟨fun q key' hq => ?_, rfl⟩, rfl, rfl, rfl⟩
  rw [GHashTable.lookup_erase_eq] at hq
  split at hq
  · simp at hq
  · exact ⟨key', hq, rfl⟩

end KeysRemoved

/-- A key is gone, and what is noted of it in the cache, or it is noted that it is to go. -/
structure Removes (R : Keyagent → Keyagent → Prop) : Prop where
  postpone : ∀ k l, R k (k.mapLocalcache fun c => { c with globalDeleteList := some l })
  delete : ∀ k id, R k (k.mapLocalcache fun l =>
    { l with connection := l.connection.map (·.deleteKeyAndAttrs id) })
  eraseKey : ∀ k p, R k { k with keyHash := k.keyHash.erase p }

theorem KeysRemoved.removes : Removes KeysRemoved :=
  ⟨fun k _ => .mapLocalcache k _, fun k _ => .mapLocalcache k _, .eraseKey⟩

theorem KeysFrom.removes : Removes KeysFrom :=
  ⟨fun k _ => .mapLocalcache k _, fun k _ => .mapLocalcache k _,
    fun k p => (KeysRemoved.eraseKey k p).toKeysFrom⟩

theorem gSetError_eq_some (err : Option GError) (domain : String) (code : Int) (message : Bytes) :
    ∃ e, gSetError err domain code message = some e := Option.isSome_iff_exists.mp (by simp)

namespace AgentView

variable {σ α : Type} {V : AgentView σ} {Q : α → σ → Prop} {s t : σ}

/-! ## Look-ups -/

@[simp] theorem sat_keyLookup {url : Bytes} {f : Option KeyagentKeyReal → Skc α} :
    Sat V.logic (keyagentKeyLookup url >>= f) Q s ↔
      Sat V.logic (f ((V.ka s).keyHash.lookup (hashKey url))) Q s := by
  simp [keyagentKeyLookup]

@[simp] theorem sat_sessionLookup {sessionId : Bytes} {f : Option SessionRef → Skc α} :
    Sat V.logic (keyagentSessionLookup sessionId >>= f) Q s ↔
      Sat V.logic (f ((V.ka s).sessionHash.lookup (hashKey sessionId))) Q s := by
  simp [keyagentSessionLookup]

@[simp] theorem sat_stmGetByName {name : Bytes} {f : Option KeyagentStmReal → Skc α} :
    Sat V.logic (keyagentStmGetByName name >>= f) Q s ↔
      Sat V.logic (f ((V.ka s).stmHash.lookup (gQuarkFromString name))) Q s := by
  simp [keyagentStmGetByName]

@[simp] theorem sat_requestLookup {requestId : Bytes} {f : Option KeyagentRequest → Skc α} :
    Sat V.logic (requestLookup requestId >>= f) Q s ↔
      Sat V.logic (f ((V.ka s).apimoduleLoadkeyHash.lookup requestId)) Q s := by
  simp [requestLookup]

/-- The sessions are listed in some order. -/
theorem sat_sessionGetIds {Q : Option Bytes → σ → Prop}
    (h : ∀ l : List SessionRef, l.Perm (V.ka s).sessionHash.values →
      let ids := l.foldl (getSessionIds (V.ka s).sessions) []
      Q (if ids = [] then none else some ids) s) :
    Sat V.logic keyagentSessionGetIds Q s := by
  simp only [keyagentSessionGetIds, sat_foreachSession, sat_keyagent, sat_seq_pure]
  exact h

/-! ## Sessions -/

/-- The keys of a session are looked for in the wrong place. -/
theorem sat_deleteKeys (hheap : (V.ka s).NoHeapKeys) (l : List KeyagentKeyReal)
    {f : Unit → Skc α} : Sat V.logic (deleteKeys l >>= f) Q s ↔ Sat V.logic (f ()) Q s := by
  induction l with
  | nil => simp [deleteKeys]
  | cons key rest ih =>
    simp only [deleteKeys, deleteKey, keyHashRemove, bind_assoc, sat_keyagent]
    rw [hheap key.url]
    simpa using ih

theorem sat_sessionHashRemove (hheap : (V.ka s).NoHeapKeys) {p : Gpointer} {f : Unit → Skc α} :
    Sat V.logic (sessionHashRemove p >>= f) Q s ↔
      Sat V.logic (f ()) Q (V.put s ((V.ka s).eraseSession p)) := by
  simp only [sessionHashRemove, bind_assoc, sat_keyagent]
  unfold Keyagent.eraseSession
  cases (V.ka s).sessionHash.lookup p with
  | none => simp
  | some session =>
    have hheap' : (V.ka (V.put s { (V.ka s) with
        sessionHash := (V.ka s).sessionHash.erase p })).NoHeapKeys := by
      rw [V.ka_put]; exact hheap
    simp only [bind_assoc, sat_modifyKeyagent, keyagentSessionHashValueFree,
      keyagentKeyRemoveBySession, sat_keyagent]
    exact sat_deleteKeys hheap' _

theorem sat_sessionReplaceCurrent (hheap : (V.ka s).NoHeapKeys) {current : Option SessionRef}
    {sessionId : Bytes} {f : Unit → Skc α}
    (h : Sat V.logic (f ()) Q (V.put s ((V.ka s).replaceCurrent current sessionId))) :
    Sat V.logic (sessionReplaceCurrent current sessionId >>= f) Q s := by
  unfold sessionReplaceCurrent
  unfold Keyagent.replaceCurrent at h
  cases current with
  | none => simpa using h
  | some cur =>
    simp only [bind_assoc, sat_keyagent, sat_deref]
    intro data hdata
    simp only [Option.bind_some, hdata] at h
    split
    · next hne =>
      rw [if_pos hne] at h
      exact (sat_sessionHashRemove hheap).mpr h
    · next hne =>
      rw [if_neg hne] at h
      simpa using h

theorem sat_sessionUpdateOrInsert {found : Option SessionRef}
    {label sessionId swk swkType : Bytes} {cacheId : Int} {f : SessionRef → Skc α}
    (h : Sat V.logic (f ((V.ka s).createRef found)) Q
      (V.put s ((V.ka s).updateOrInsert found ⟨swk, label, sessionId, swkType, cacheId⟩))) :
    Sat V.logic (sessionUpdateOrInsert found label sessionId swk swkType cacheId >>= f) Q s := by
  unfold sessionUpdateOrInsert
  cases found with
  | none => simpa [sessionHashInsert, Keyagent.updateOrInsert, Keyagent.addSession,
      Keyagent.createRef] using h
  | some session =>
    simp only [bind_assoc, sat_keyagent, sat_deref]
    intro data hdata
    simp only [Keyagent.updateOrInsert, Keyagent.createRef, Option.getD_some] at h
    split
    · simpa [sessionSetSwk, Keyagent.setSwk] using h
    · next hswk =>
      -- the same swk: the code writes nothing
      rw [ne_eq, not_not] at hswk
      rw [← hswk, Keyagent.setSwk_same hdata, V.put_ka] at h
      simpa using h

theorem sat_sessionCreateCache {session : SessionRef} {cacheId : Int} {error : Option GError}
    {f : Option GError → Skc α} (h : ∀ err' t, V.Quiet SessionCacheEq s t → Sat V.logic (f err') Q t) :
    Sat V.logic (sessionCreateCache session cacheId error >>= f) Q s := by
  unfold sessionCreateCache
  split
  · rw [map_eq_pure_bind, bind_assoc]
    refine Sat.bind (sat_quiet (keyagentCacheSession_issues _ _)) fun r t ht => ?_
    simpa using h r.2 t ht
  · simpa using h error s .refl

/-- **`keyagent_session_create`**, up to `__keyagent_stm_set_session`. -/
theorem sat_keyagentSessionCreate {Q : Bool × Option GError → σ → Prop} {stm : StmOps}
    {requestId label sessionId swk swkType : Bytes} {cacheId : Int} {error : Option GError}
    (hheap : (V.ka s).NoHeapKeys) (hbad : ∀ e, Q (false, some e) s)
    (hgood : ∀ lstm err' t, keyagentSessionLookupSwktype swkType ≠ none →
      (V.ka s).stmHash.lookup (gQuarkFromString label) = some lstm →
      V.Quiet SessionCacheEq (V.put s ((V.ka s).createSession lstm.session
        ⟨swk, label, sessionId, swkType, cacheId⟩)) t →
      Sat V.logic (keyagentStmSetSession stm requestId
        ((V.ka s).createRef ((V.ka s).sessionHash.lookup (hashKey sessionId))) err') Q t) :
    Sat V.logic (keyagentSessionCreate stm requestId label sessionId swk swkType cacheId error)
      Q s := by
  unfold keyagentSessionCreate
  rw [sat_sessionLookup]
  split
  · exact sat_seq_pure.mpr (hbad _)
  · next q hq =>
    rw [sat_stmGetByName]
    cases hl : (V.ka s).stmHash.lookup (gQuarkFromString label) with
    | none => exact sat_seq_pure.mpr (hbad _)
    | some lstm =>
      refine sat_sessionReplaceCurrent hheap (sat_sessionUpdateOrInsert ?_)
      refine sat_sessionCreateCache fun err' t ht => ?_
      rw [V.ka_put, V.put_put] at ht
      -- what is replaced keeps the list of sessions, so the new reference is the same
      have hlen : ((V.ka s).replaceCurrent lstm.session sessionId).createRef
          ((V.ka s).sessionHash.lookup (hashKey sessionId))
          = (V.ka s).createRef ((V.ka s).sessionHash.lookup (hashKey sessionId)) := by
        unfold Keyagent.createRef
        rw [Keyagent.replaceCurrent_sessions]
      rw [V.ka_put, hlen]
      exact hgood lstm err' t (by rw [hq]; simp) hl ht

/-! ## Sessions, whatever is in the tables

`keyagent_session_create` only removes keys. This holds of any tables, also of such that no run
leads to.
-/

section

variable {R : Keyagent → Keyagent → Prop}

theorem keyagentUncacheKey_issues (h : Removes R) (cacheId : Int) :
    (keyagentUncacheKey cacheId).Issues (OwnCall R) := by
  refine Skc.issues_keyagent_bind.mpr ⟨trivial, fun k => ?_⟩
  split
  · exact ⟨fun k => h.postpone k _, fun _ => trivial⟩
  · exact ⟨fun k => h.delete k _, fun _ => trivial⟩

theorem keyHashRemove_issues (h : Removes R) (p : Gpointer) :
    (keyHashRemove p).Issues (OwnCall R) := by
  refine Skc.issues_keyagent_bind.mpr ⟨trivial, fun k => ?_⟩
  split
  · trivial
  · exact ⟨fun k => h.eraseKey k p, fun _ => keyagentUncacheKey_issues h _⟩

theorem deleteKeys_issues (h : Removes R) (l : List KeyagentKeyReal) :
    (deleteKeys l).Issues (OwnCall R) := by
  induction l with
  | nil => trivial
  | cons key rest ih => exact (keyHashRemove_issues h _).bind fun _ => ih

theorem sessionReplaceCurrent_issues (h : Removes R)
    (hsession : ∀ k p, R k { k with sessionHash := k.sessionHash.erase p })
    (current : Option SessionRef) (sessionId : Bytes) :
    (sessionReplaceCurrent current sessionId).Issues (CacheCall R) := by
  unfold sessionReplaceCurrent
  split
  · trivial
  · refine Skc.issues_keyagent_bind.mpr ⟨trivial, fun k => ?_⟩
    refine (Skc.issues_deref trivial).bind fun data => ?_
    split
    · refine Skc.issues_keyagent_bind.mpr ⟨trivial, fun k => ?_⟩
      split
      · trivial
      · refine ⟨fun k => hsession k _, fun _ => ?_⟩
        refine Skc.issues_keyagent_bind.mpr ⟨trivial, fun k => ?_⟩
        exact (deleteKeys_issues h _).mono fun c => OwnCall.cacheCall fun _ _ => id
    · trivial

end

theorem Quiet.trans {u : σ} {R : Keyagent → Keyagent → Prop} (h : V.Quiet R s t) (h' : V.Quiet R t u) :
    V.Quiet R s u := by
  induction h' with
  | refl => exact h
  | row _ hst ih => exact ih.row hst
  | cache _ hk ih => exact ih.cache hk

theorem Quiet.keysFrom (h : V.Quiet KeysFrom s t) : KeysFrom (V.ka s) (V.ka t) := by
  induction h with
  | refl => exact .of_keyHash rfl rfl
  | row _ hst ih => rw [V.ka_step hst fun _ => nofun]; exact ih
  | cache _ hk ih => rw [V.ka_put]; exact ih.trans hk

theorem Quiet.mono {R R' : Keyagent → Keyagent → Prop} (hR : ∀ {k k'}, R k k' → R' k k')
    (h : V.Quiet R s t) : V.Quiet R' s t := by
  induction h with
  | refl => exact .refl
  | row _ hst ih => exact ih.row hst
  | cache _ hk ih => exact ih.cache (hR hk)

/--
`keyagent_session_create` of any tables, up to `__keyagent_stm_set_session`, which is given a session
with the swk of the call.
-/
theorem sat_sessionCreate_swk {Q : Bool × Option GError → σ → Prop} {stm : StmOps}
    {requestId label sessionId swk swkType : Bytes} {cacheId : Int} {error : Option GError}
    (hbad : ∀ e, Q (false, some e) s)
    (hgood : ∀ session err' t, V.Quiet KeysFrom s t →
      (∀ d, (V.ka t).sessions[session]? = some d → d.swk = swk) →
      Sat V.logic (keyagentStmSetSession stm requestId session err') Q t) :
    Sat V.logic (keyagentSessionCreate stm requestId label sessionId swk swkType cacheId error)
      Q s := by
  unfold keyagentSessionCreate
  rw [sat_sessionLookup]
  split
  · exact sat_seq_pure.mpr (hbad _)
  · rw [sat_stmGetByName]
    split
    · exact sat_seq_pure.mpr (hbad _)
    · refine (sat_quiet (sessionReplaceCurrent_issues KeysFrom.removes
        (fun _ _ => .of_keyHash rfl rfl) _ _)).bind fun _ t ht => ?_
      refine sat_sessionUpdateOrInsert (sat_sessionCreateCache fun err' v hv => ?_)
      refine hgood _ err' v ?_ fun d hd => ?_
      · refine Quiet.trans (ht.cache ?_) (hv.mono fun h => .of_keyHash h.keyHash h.requests)
        cases (V.ka s).sessionHash.lookup (hashKey sessionId) <;> exact .of_keyHash rfl rfl
      · obtain ⟨d', hd', he⟩ := hv.sessionCacheEq.toCacheEq.symm.session hd
        rw [V.ka_put] at hd'
        rw [← (KeyagentSessionReal.uncached_eq he).1]
        exact Keyagent.updateOrInsert_swk hd'

/-- The same, without the swk. -/
theorem sat_sessionCreate_quiet {Q : Bool × Option GError → σ → Prop} {stm : StmOps}
    {requestId label sessionId swk swkType : Bytes} {cacheId : Int} {error : Option GError}
    (hbad : ∀ e, Q (false, some e) s)
    (hgood : ∀ session err' t, V.Quiet KeysFrom s t →
      Sat V.logic (keyagentStmSetSession stm requestId session err') Q t) :
    Sat V.logic (keyagentSessionCreate stm requestId label sessionId swk swkType cacheId error)
      Q s := sat_sessionCreate_swk hbad fun session err' t ht _ => hgood session err' t ht

/-- **`__keyagent_stm_set_session`**, up to the STM's `set_session`. -/
theorem sat_keyagentStmSetSession {Q : Bool × Option GError → σ → Prop} {stm : StmOps}
    {requestId : Bytes} {session : SessionRef} {error : Option GError}
    (hbad : ∀ data e, (V.ka s).sessions[session]? = some data →
      ((V.ka s).stmHash.lookup (gQuarkFromString data.name) = none ∨
        (V.ka s).apimoduleLoadkeyHash.lookup requestId = none) → Q (false, some e) s)
    (hgood : ∀ data lstm request, (V.ka s).sessions[session]? = some data →
      (V.ka s).stmHash.lookup (gQuarkFromString data.name) = some lstm →
      (V.ka s).apimoduleLoadkeyHash.lookup requestId = some request →
      Sat V.logic (stm.setSession lstm.label
        { requestId := requestId, label := data.name, moduleData := request.moduleData,
          swkType := keyagentSessionLookupSwktype data.swkType, session := data.swk } error) Q
        (V.put s ((V.ka s).setCurrent data.name requestId lstm.label session))) :
    Sat V.logic (keyagentStmSetSession stm requestId session error) Q s := by
  simp only [keyagentStmSetSession, sat_keyagent, sat_deref, sat_stmGetByName, sat_requestLookup]
  intro data hdata
  split
  · next lstm request hl hr =>
    simpa [stmSetCurrentSession, requestSetStmName, Keyagent.setCurrent] using hgood data lstm request hdata hl hr
  · next hnone =>
    refine sat_seq_pure.mpr (hbad data _ hdata ?_)
    cases hl : (V.ka s).stmHash.lookup (gQuarkFromString data.name) with
    | none => exact .inl rfl
    | some lstm =>
      cases hr : (V.ka s).apimoduleLoadkeyHash.lookup requestId with
      | none => exact .inr rfl
      | some request => exact absurd hr (hnone lstm request hl)

/-! ## Keys -/

theorem sat_keyCreateCache {url : Bytes} {cacheId : Int} {error : Option GError}
    {f : Option GError → Skc α} (h : ∀ err' t, V.Quiet CacheEq s t → Sat V.logic (f err') Q t) :
    Sat V.logic (keyCreateCache url cacheId error >>= f) Q s := by
  unfold keyCreateCache
  split
  · rw [map_eq_pure_bind, bind_assoc]
    refine Sat.bind (sat_quiet (keyagentCacheKey_issues _ _)) fun r t ht => ?_
    simpa using h r.2 t ht
  · simpa using h error s .refl

/-- **`__keyagent_key_create_with_cacheid`**. -/
theorem sat_keyagentKeyCreateWithCacheid {Q : Option GQuark × Option GError → σ → Prop}
    {url : Bytes} {type : KeyagentKeytype} {attrs : Option KAttributes}
    {sessionId : Option Bytes} {cacheId : Int} {error : Option GError}
    (hbad : ∀ e, (V.ka s).keyHash.lookup (hashKey url) = none → Q (none, some e) s)
    (hold : ∀ key err' t, (V.ka s).keyHash.lookup (hashKey url) = some key → V.Quiet CacheEq s t →
      Q (some (gQuarkFromString url), err') t)
    (hnew : ∀ a id r err' t, (V.ka s).keyHash.lookup (hashKey url) = none → attrs = some a →
      sessionId = some id → (V.ka s).sessionHash.lookup (hashKey id) = some r →
      V.Quiet CacheEq (V.put s ((V.ka s).insertKey ⟨url, type, some r, a, cacheId⟩)) t →
      Q (some (gQuarkFromString url), err') t) :
    Sat V.logic (keyagentKeyCreateWithCacheid url type attrs sessionId cacheId error) Q s := by
  unfold keyagentKeyCreateWithCacheid
  rw [sat_keyLookup]
  cases hk : (V.ka s).keyHash.lookup (hashKey url) with
  | some key => exact sat_keyCreateCache fun err' t ht => sat_seq_pure.mpr (hold key err' t hk ht)
  | none =>
    dsimp only
    obtain ⟨e₀, he₀⟩ := gSetError_eq_some error keyagentErrorDomain keyagentErrorKeyCreateParams
      (lit "Invalid arguments for __keyagent_key_create_with_cacheid")
    split
    · next a id =>
      split
      · rw [keyCreateInvalidArguments, he₀]
        exact sat_seq_pure.mpr (hbad _ hk)
      · rw [sat_sessionLookup]
        cases hr : (V.ka s).sessionHash.lookup (hashKey id) with
        | none =>
          obtain ⟨e, he⟩ := gSetError_eq_some error keyagentErrorDomain
            keyagentErrorKeyCreateInvalidSessionId (lit "Invalid session-id for " ++ id)
          dsimp only
          rw [he]
          exact sat_seq_pure.mpr (hbad e hk)
        | some r =>
          simp only [keyHashInsert, sat_modifyKeyagent]
          refine sat_keyCreateCache fun err' t ht => sat_seq_pure.mpr ?_
          exact hnew a id r err' t hk rfl rfl hr ht
    · rw [keyCreateInvalidArguments, he₀]
      exact sat_seq_pure.mpr (hbad _ hk)

/-! ## Challenges and key loads -/

/-- **`__keyagent_stm_get_challenge`**, up to the STM's `create_challenge`. -/
theorem sat_keyagentStmGetChallenge {Q : Bool × Option Bytes × Option GError → σ → Prop}
    {stm : StmOps} {requestId nonce name : Bytes} {error : Option GError}
    (hbad : ∀ e, Q (false, none, some e) s)
    (hgood : ∀ lstm request, (V.ka s).stmHash.lookup (gQuarkFromString name) = some lstm →
      (V.ka s).apimoduleLoadkeyHash.lookup requestId = some request →
      Sat V.logic (stm.createChallenge lstm.label
        { requestId := requestId, label := name, nonce := nonce,
          moduleData := request.moduleData } error) Q
        (V.put s ((V.ka s).setStmName requestId lstm.label))) :
    Sat V.logic (keyagentStmGetChallenge stm requestId nonce name error) Q s := by
  simp only [keyagentStmGetChallenge, sat_stmGetByName, sat_requestLookup]
  split
  · next lstm request hl hr =>
    simpa [requestSetStmName, Keyagent.setStmName] using hgood lstm request hl hr
  · exact sat_seq_pure.mpr (hbad _)

/-- **`__keyagent_stm_load_key`**, up to the STM's `load_key`. -/
theorem sat_keyagentStmLoadKey {Q : Bool × Option GError → σ → Prop} {stm : StmOps}
    {requestId : Bytes} {key : KeyagentKeyReal} {error : Option GError}
    (hbad : ∀ e, Q (false, some e) s)
    (hgood : ∀ r data lstm request current cdata keydata iv wrappedKey tagSize,
      key.session = some r → (V.ka s).sessions[r]? = some data →
      (V.ka s).stmHash.lookup (gQuarkFromString data.name) = some lstm →
      (V.ka s).apimoduleLoadkeyHash.lookup requestId = some request →
      lstm.session = some current → (V.ka s).sessions[current]? = some cdata →
      key.attributes.lookup keyagentAttrKeydata = some keydata →
      splitKeytransfer keydata = some (.parts iv wrappedKey tagSize) →
      Sat V.logic (stm.loadKey lstm.label
        { requestId := requestId, swkQuark := keyagentSessionLookupSwktype cdata.swkType,
          label := lstm.label, url := key.url, type := key.type, key := wrappedKey, iv := iv,
          tagSize := tagSize, moduleData := request.moduleData } error) Q s) :
    Sat V.logic (keyagentStmLoadKey stm requestId key error) Q s := by
  unfold keyagentStmLoadKey
  split
  · exact sat_seq_pure.mpr (hbad _)
  · next r hr =>
    simp only [sat_keyagent, sat_deref, sat_stmGetByName, sat_requestLookup]
    intro data hdata
    split
    · next lstm request current hl hreq hcur =>
      simp only [sat_deref]
      intro keydata hkey parts hparts
      split
      · exact sat_seq_pure.mpr (hbad _)
      · next iv wrappedKey tagSize =>
        simp only [sat_deref]
        intro cdata hcdata
        rw [hl, Option.bind_some] at hcur
        exact hgood r data lstm request current cdata keydata iv wrappedKey tagSize hr hdata hl
          hreq hcur hcdata hkey hparts
    · exact sat_seq_pure.mpr (hbad _)

/-! ## Network protocol modules -/

/-- One operation of an NPM. -/
theorem sat_runNpm_op {stm : StmOps} {c : NpmCall} {f : c.Ans → Npm α} :
    Sat V.logic (runNpm stm (Npm.op c >>= f)) Q s ↔
      Sat V.logic (npmOps stm c) (fun a t => Sat V.logic (runNpm stm (f a)) Q t) s := by
  rw [runNpm, Npm.op, Prog.interp_bind, Prog.interp_lift]
  exact Sat.bind_iff

@[simp] theorem sat_runNpm_pure {stm : StmOps} {a : α} :
    Sat V.logic (runNpm stm (pure a)) Q s ↔ Q a s := sat_seq_pure

/-- A pointer of an NPM that is `NULL` ends the run. -/
theorem sat_runNpm_deref {β : Type} {stm : StmOps} {p : Option β} {reason : String}
    {f : β → Npm α} : Sat V.logic (runNpm stm (Npm.deref p reason >>= f)) Q s ↔
      ∀ b, p = some b → Sat V.logic (runNpm stm (f b)) Q s := by
  cases p with
  | none =>
    refine ⟨fun _ _ => nofun, fun _ => ?_⟩
    exact Sat.bind_iff.mpr (sat_fault (Q := fun _ _ => _))
  | some b => exact ⟨fun h _ hb => Option.some.inj hb ▸ h, fun h => h b rfl⟩

/-- What every operation of an NPM keeps, the NPM keeps. -/
theorem sat_runNpm {stm : StmOps} {J : σ → Prop} (p : Npm α)
    (hop : ∀ c t, J t → Sat V.logic (npmOps stm c) (fun _ u => J u) t) (hs : J s) :
    Sat V.logic (runNpm stm p) (fun _ t => J t) s := by
  induction p generalizing s with
  | ret a => exact sat_seq_pure.mpr hs
  | call c k ih => exact (hop c s hs).bind fun a t ht => ih a ht

end AgentView

end SkcLibrary
