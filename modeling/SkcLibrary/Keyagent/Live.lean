import SkcLibrary.Interaction.Terminates
import SkcLibrary.Keyagent.CacheReload
import SkcLibrary.Npm.Kbs

/-!
# The agent among peers that cooperate

Where KBS serves keys, the database takes every row and the security module does what it is asked to,
the functions of the agent come to an end: no pointer is `NULL`, and nothing waits for ever.

`Standing` names the state by what the agent and KBS have; each rule says of one function which state
it leaves. `Ready` is what the agent's tables need.
-/

namespace SkcLibrary

open Interaction

variable {W : Type}

/-! ## Peers -/

/--
KBS is `K`, with the sessions that `kbs` reads off the surroundings; the database takes every row. `J`
is what the security module relies on, and the agent's own calls keep it.
-/
structure Cooperates (E : Step skcSig W) (K : Kbs) (kbs : W → KbsState)
    (J : Apimodule → W → Prop) : Prop where
  httpsSend : ∀ request w, Answered E (.httpsSend request) w
  served : ∀ {request w res w'}, E (.httpsSend request) w res w' →
    (res, kbs w') = K.serve request (kbs w)
  generateUuid : ∀ w, Answered E .generateUuid w
  uninitialised : ∀ n w, Answered E (.uninitialised n) w
  insertRow : ∀ table w, Answered E (.insertRow table) w
  inserted : ∀ {table w e w'}, E (.insertRow table) w e w' → e = none
  others : ∀ {c w a w'}, (∀ request, c ≠ .httpsSend request) → E c w a w' → kbs w' = kbs w
  keeps : ∀ {c m w a w'}, c.Agent → E c w a w' → J m w → J m w'

/-- The agent has `k`, KBS has `state`, the security module what it relies on. -/
structure Standing (kbs : W → KbsState) (J : Apimodule → W → Prop) (lock : Option Nat)
    (k : Keyagent) (state : KbsState) (s : World W) : Prop where
  keyagent : s.keyagent = k
  kbs : kbs s.env = state
  module : J s.apimodule s.env
  lock : s.rwlock = lock

section Calls

variable {E : Step skcSig W} {K : Kbs} {kbs : W → KbsState} {J : Apimodule → W → Prop}
  {lock : Option Nat} {k : Keyagent} {state : KbsState} {s : World W} {α : Type}
  {Q : α → World W → Prop}

/-- A call that only reads. -/
theorem live_keyagent (hs : Standing kbs J lock k state s) {f : Keyagent → Skc α}
    (h : Sat (.live (sysStep E 0)) (f k) Q s) :
    Sat (.live (sysStep E 0)) (Skc.keyagent >>= f) Q s := by
  rw [Skc.keyagent_bind, sat_seq_call]
  refine ⟨⟨_, _, rfl, rfl⟩, fun a t ht => ?_⟩
  obtain ⟨rfl, rfl⟩ := ht
  rw [hs.keyagent]
  exact h

theorem live_modifyKeyagent (hs : Standing kbs J lock k state s) {g : Keyagent → Keyagent}
    {f : Unit → Skc α}
    (h : ∀ t, Standing kbs J lock (g k) state t → Sat (.live (sysStep E 0)) (f ()) Q t) :
    Sat (.live (sysStep E 0)) (Skc.modifyKeyagent g >>= f) Q s := by
  rw [Skc.modifyKeyagent_bind, sat_seq_call]
  have hstep : sysStep E 0 (.modifyKeyagent g) s () { s with keyagent := g s.keyagent } := rfl
  refine ⟨⟨(), _, hstep⟩, fun _ t ht => ?_⟩
  obtain rfl : t = { s with keyagent := g s.keyagent } := ht
  exact h _ ⟨congrArg g hs.keyagent, hs.kbs, hs.module, hs.lock⟩

theorem live_foreachSession (hs : Standing kbs J lock k state s) {f : List SessionRef → Skc α}
    (h : ∀ l, l.Perm k.sessionHash.values → Sat (.live (sysStep E 0)) (f l) Q s) :
    Sat (.live (sysStep E 0)) (Skc.foreachSession >>= f) Q s := by
  rw [Skc.foreachSession_bind, sat_seq_call]
  refine ⟨⟨_, _, List.Perm.refl _, rfl⟩, fun l t ht => ?_⟩
  obtain ⟨hl, rfl⟩ := ht
  exact h l (hs.keyagent ▸ hl)

theorem live_deref {β : Type} {p : Option β} {b : β} {reason : String} {f : β → Skc α}
    (hp : p = some b) (h : Sat (.live (sysStep E 0)) (f b) Q s) :
    Sat (.live (sysStep E 0)) (Skc.deref p reason >>= f) Q s := by
  rw [hp]
  exact h

/-- A call of the agent that goes outside. -/
theorem live_external {c : Call} (hc : ¬c.Internal) (hstm : ∀ d, c ≠ .stm d) {f : c.Ans → Skc α}
    (hanswer : Answered E c s.env)
    (h : ∀ a w, E c s.env a w → Sat (.live (sysStep E 0)) (f a) Q { s with env := w }) :
    Sat (.live (sysStep E 0)) (Prog.lift (S := skcSig) c >>= f) Q s := by
  rw [Prog.lift_bind, sat_seq_call]
  obtain ⟨a, w, hw⟩ := hanswer
  refine ⟨⟨a, _, (sysStep_external hc hstm).mpr ⟨w, hw, rfl⟩⟩, fun a t ht => ?_⟩
  obtain ⟨w, hw, rfl⟩ := (sysStep_external hc hstm).mp ht
  exact h a w hw

/-- Only a request can change what KBS has. -/
theorem Standing.external (hE : Cooperates E K kbs J) (hs : Standing kbs J lock k state s) {c : Call}
    (hagent : c.Agent) (hc : ∀ request, c ≠ .httpsSend request) {a : c.Ans} {w : W}
    (hw : E c s.env a w) : Standing kbs J lock k state { s with env := w } :=
  ⟨hs.keyagent, (hE.others hc hw).trans hs.kbs, hE.keeps hagent hw hs.module, hs.lock⟩

theorem live_insertRow (hE : Cooperates E K kbs J) (hs : Standing kbs J lock k state s)
    {table : CacheTable} {f : Option GError → Skc α}
    (h : ∀ t, Standing kbs J lock k state t → Sat (.live (sysStep E 0)) (f none) Q t) :
    Sat (.live (sysStep E 0)) (Prog.lift (S := skcSig) (.insertRow table) >>= f) Q s := by
  refine live_external (c := .insertRow table) id (fun _ => nofun) (hE.insertRow _ _)
    fun e w hw => ?_
  obtain rfl := hE.inserted hw
  exact h _ (hs.external (c := .insertRow table) hE trivial (fun _ => nofun) hw)

theorem live_generateUuid (hE : Cooperates E K kbs J) (hs : Standing kbs J lock k state s)
    {f : Bytes → Skc α}
    (h : ∀ id t, Standing kbs J lock k state t → Sat (.live (sysStep E 0)) (f id) Q t) :
    Sat (.live (sysStep E 0)) (Prog.lift (S := skcSig) .generateUuid >>= f) Q s :=
  live_external (c := .generateUuid) id (fun _ => nofun) (hE.generateUuid _) fun id _ hw =>
    h id _ (hs.external (c := .generateUuid) hE trivial (fun _ => nofun) hw)

theorem live_uninitialised (hE : Cooperates E K kbs J) (hs : Standing kbs J lock k state s) {n : Nat}
    {f : Uninitialised n → Skc α}
    (h : ∀ a t, Standing kbs J lock k state t → Sat (.live (sysStep E 0)) (f a) Q t) :
    Sat (.live (sysStep E 0)) (Prog.lift (S := skcSig) (.uninitialised n) >>= f) Q s :=
  live_external (c := .uninitialised n) id (fun _ => nofun) (hE.uninitialised _ _) fun a _ hw =>
    h a _ (hs.external (c := .uninitialised n) hE trivial (fun _ => nofun) hw)

/-- A request is served. -/
theorem live_httpsSend (hE : Cooperates E K kbs J) (hs : Standing kbs J lock k state s)
    {request : HttpRequest} {f : HttpResponse → Skc α}
    (h : ∀ t, Standing kbs J lock k (K.serve request state).2 t →
      Sat (.live (sysStep E 0)) (f (K.serve request state).1) Q t) :
    Sat (.live (sysStep E 0)) (Prog.lift (S := skcSig) (.httpsSend request) >>= f) Q s := by
  refine live_external (c := .httpsSend request) id (fun _ => nofun) (hE.httpsSend _ _)
    fun res w hw => ?_
  have hserve := hE.served hw
  rw [hs.kbs] at hserve
  rw [(Prod.mk.inj hserve.symm).1.symm]
  refine h _ ⟨hs.keyagent, ?_, hE.keeps (c := .httpsSend request) trivial hw hs.module, hs.lock⟩
  rw [← hserve]

end Calls

/-! ## The cache -/

/-- A cache that is used has its database. -/
def CacheUsable (k : Keyagent) : Prop :=
  k.localcache.cacheSessions = true ∨ k.localcache.cacheKeys = true → k.localcache.connection ≠ none

/-- What the cache may do to an agent. -/
structure Recached (k k' : Keyagent) : Prop extends CacheEq k k' where
  usable : CacheUsable k → CacheUsable k'

namespace Recached

variable {k k' k'' : Keyagent}

theorem refl (k : Keyagent) : Recached k k := ⟨.refl k, id⟩

theorem trans (h : Recached k k') (h' : Recached k' k'') : Recached k k'' :=
  ⟨h.toCacheEq.trans h'.toCacheEq, fun hk => h'.usable (h.usable hk)⟩

/-- A statement on the database. -/
theorem execute (k : Keyagent) (f : CacheDb → CacheDb) :
    Recached k (k.mapLocalcache fun l => { l with connection := l.connection.map f }) := by
  refine ⟨.mapLocalcache k _, fun hk hon => ?_⟩
  have hne := hk hon
  simpa [Keyagent.mapLocalcache] using hne

theorem fakeId (k : Keyagent) :
    Recached k (k.mapLocalcache fun l => { l with fakeCacheIds := l.fakeCacheIds + 1 }) :=
  ⟨.mapLocalcache k _, id⟩

theorem sessionCacheId (k : Keyagent) (session : SessionRef) (cacheId : Int) :
    Recached k { k with
      sessions := k.sessions.modify session fun s => { s with cacheId := cacheId } } := by
  refine ⟨⟨rfl, rfl, rfl, rfl, by simp, fun r => ?_, fun _ => rfl⟩, id⟩
  simp only [List.getElem?_modify]
  split
  · cases k.sessions[r]? <;> rfl
  · simp

theorem keyCacheId (k : Keyagent) (p : Gpointer) (cacheId : Int) :
    Recached k { k with
      keyHash := k.keyHash.update p fun key => { key with cacheId := cacheId } } := by
  refine ⟨⟨rfl, rfl, rfl, rfl, rfl, fun _ => rfl, fun q => ?_⟩, id⟩
  rw [GHashTable.lookup_update]
  split
  · next h =>
    rw [h]
    cases k.keyHash.lookup p <;> rfl
  · rfl

end Recached

/-- The row of a label that was just written. -/
theorem CacheDb.getSession_insertSession (db : CacheDb) (stmLabel swk sessionId swkType : Bytes) :
    (db.insertSession stmLabel swk sessionId swkType).getSession stmLabel
      = some ⟨db.nextSessionId, stmLabel, swk, sessionId, swkType⟩ := by
  rw [getSession, insertSession, List.find?_append, find?_of_dropped _ (by simp)]
  simp

section Cache

variable {E : Step skcSig W} {K : Kbs} {kbs : W → KbsState} {J : Apimodule → W → Prop}
  {lock : Option Nat} {k : Keyagent} {state : KbsState} {s : World W} {α : Type}
  {Q : α → World W → Prop} {error : Option GError}

theorem live_generateFakeId (hs : Standing kbs J lock k state s) {f : Int → Skc α}
    (h : ∀ id k' t, Recached k k' → Standing kbs J lock k' state t →
      Sat (.live (sysStep E 0)) (f id) Q t) :
    Sat (.live (sysStep E 0)) (keyagentCacheGenerateFakeId >>= f) Q s := by
  simp only [keyagentCacheGenerateFakeId, bind_assoc]
  refine live_modifyKeyagent hs fun t ht => live_keyagent ht ?_
  exact h _ _ t (.fakeId k) ht

/-- `__keyagent_cache_session` -/
theorem live_cacheSession (hE : Cooperates E K kbs J) (hs : Standing kbs J lock k state s)
    (hcache : CacheUsable k) {session : SessionRef} {data : KeyagentSessionReal}
    (hd : k.sessions[session]? = some data) {f : Bool × Option GError → Skc α}
    (h : ∀ k' t, Recached k k' → Standing kbs J lock k' state t →
      Sat (.live (sysStep E 0)) (f (true, error)) Q t) :
    Sat (.live (sysStep E 0)) (keyagentCacheSession session error >>= f) Q s := by
  simp only [keyagentCacheSession, bind_assoc]
  refine live_keyagent hs ?_
  split
  · next hon =>
    obtain ⟨db, hdb⟩ := Option.ne_none_iff_exists'.mp (hcache (.inl hon))
    simp only [bind_assoc]
    refine live_deref hd (live_insertRow hE hs fun t ht => ?_)
    simp only [cacheExecute, keyagentSessionSetCacheId, bind_assoc]
    refine live_modifyKeyagent ht fun u hu => live_keyagent hu ?_
    refine live_deref (b := ⟨db.nextSessionId, data.name, data.swk, data.sessionId, data.swkType⟩)
      ?_ ?_
    · simp only [Keyagent.mapLocalcache, hdb, Option.map_some, Option.bind_some]
      exact CacheDb.getSession_insertSession _ _ _ _ _
    · refine live_modifyKeyagent hu fun v hv => ?_
      exact h _ v ((Recached.execute k _).trans (.sessionCacheId _ _ _)) hv
  · simp only [keyagentSessionSetCacheId, bind_assoc]
    refine live_generateFakeId hs fun id k' t hk' ht => ?_
    refine live_modifyKeyagent ht fun u hu => ?_
    exact h _ u (hk'.trans (.sessionCacheId _ _ _)) hu

/-- `__keyagent_cache_key`, of a key that has its data. -/
theorem live_cacheKey (hE : Cooperates E K kbs J) (hs : Standing kbs J lock k state s)
    (hcache : CacheUsable k) {url : Bytes} {key : KeyagentKeyReal} {session : SessionRef}
    {data : KeyagentSessionReal} {keydata : Bytes}
    (hkey : k.keyHash.lookup (hashKey url) = some key) (hsession : key.session = some session)
    (hd : k.sessions[session]? = some data)
    (hkeydata : key.attributes.lookup keyagentAttrKeydata = some keydata)
    {f : Bool × Option GError → Skc α}
    (h : ∀ k' t, Recached k k' → Standing kbs J lock k' state t →
      Sat (.live (sysStep E 0)) (f (true, error)) Q t) :
    Sat (.live (sysStep E 0)) (keyagentCacheKey url error >>= f) Q s := by
  simp only [keyagentCacheKey, bind_assoc]
  refine live_keyagent hs ?_
  split
  · next hon =>
    obtain ⟨db, hdb⟩ := Option.ne_none_iff_exists'.mp (hcache (.inr hon))
    simp only [bind_assoc]
    refine live_deref hkey (live_deref (b := data) ?_ (live_insertRow hE hs fun t ht => ?_))
    · rw [hsession, Option.bind_some, hd]
    simp only [cacheExecute, keyagentKeySetCacheId, bind_assoc]
    refine live_modifyKeyagent ht fun u hu => live_keyagent hu ?_
    refine live_deref (b := ⟨db.nextKeyId, [0, 0], data.sessionId, key.type.toInt, key.url⟩) ?_ ?_
    · simp only [Keyagent.mapLocalcache, hdb, Option.map_some, Option.bind_some]
      exact CacheDb.getKey_insertKey.trans (if_pos rfl)
    have hk₁ := Recached.execute k (·.insertKey [0, 0] data.sessionId key.type.toInt key.url)
    -- only an RSA key has its data cached as well
    unfold cacheKeyAttrs
    split
    · simp only [cacheRsaKeyAttrs, cacheKeyAttr, cacheExecute, bind_assoc]
      refine live_deref hkeydata (live_insertRow hE hu fun v hv => ?_)
      simp only [bind_assoc]
      refine live_modifyKeyagent hv fun x hx => ?_
      simp only [pure_bind]
      refine live_modifyKeyagent hx fun y hy => ?_
      exact h _ y ((hk₁.trans (.execute _ _)).trans (.keyCacheId _ _ _)) hy
    · simp only [pure_bind]
      refine live_modifyKeyagent hu fun v hv => ?_
      exact h _ v (hk₁.trans (.keyCacheId _ _ _)) hv
  · simp only [keyagentKeySetCacheId, bind_assoc]
    refine live_generateFakeId hs fun id k' t hk' ht => ?_
    refine live_modifyKeyagent ht fun u hu => ?_
    exact h _ u (hk'.trans (.keyCacheId _ _ _)) hu

end Cache

end SkcLibrary
