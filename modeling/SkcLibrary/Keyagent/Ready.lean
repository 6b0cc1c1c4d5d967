import SkcLibrary.Keyagent.Live
import SkcLibrary.Keyagent.LoadRules

/-!
# Tables that are ready for a load

`ReadyToLoad` is what a load needs to find in the agent's tables, and leaves in them: one security module,
and what belongs to it. `Works` is what it needs of the module, which answers challenges, unwraps the
swk of a session and then keys. With both, and among peers that cooperate, every operation of an NPM
succeeds.
-/

namespace SkcLibrary

open Interaction

variable {W : Type}

/-! ## The tables -/

/-- The keys are the same, up to the cache. -/
def SameKeys (k k' : Keyagent) : Prop :=
  ∀ p, (k'.keyHash.lookup p).map KeyagentKeyReal.uncached
    = (k.keyHash.lookup p).map KeyagentKeyReal.uncached

/-- There is one security module, it may take part, and the sessions are its own. -/
structure ReadyToLoad (label : Bytes) (k : Keyagent) : Prop extends TablesInv k where
  stms : ∀ {q stm}, k.stmHash.lookup q = some stm → q = gQuarkFromString label ∧ stm.label = label
  enabled : ∃ q stm, k.stmHash.lookup q = some stm ∧
    (k.apimoduleEnabled = true → stm.apimodule = true)
  ids : ∀ id, k.sessionHash.lookup (hashKey id) ≠ none → Kbs.TidyId id
  valid : ∀ {q stm r}, k.stmHash.lookup q = some stm → stm.session = some r →
    ∃ d, k.sessions[r]? = some d
  cache : CacheUsable k

/-- The tables while the load of a request goes on. -/
structure ReadyFor (label : Bytes) (requestId : Bytes) (moduleData : Option ApimoduleUriData)
    (k : Keyagent) : Prop extends ReadyToLoad label k where
  request : ∃ request, k.apimoduleLoadkeyHash.lookup requestId = some request ∧
    request.moduleData = moduleData

section

variable {label : Bytes} {requestId : Bytes} {moduleData : Option ApimoduleUriData}
  {k k' k'' : Keyagent}

theorem SameKeys.trans (h : SameKeys k k') (h' : SameKeys k' k'') : SameKeys k k'' :=
  fun p => (h' p).trans (h p)

theorem SameKeys.of_keyHash (h : k'.keyHash = k.keyHash) : SameKeys k k' := fun p => by rw [h]

theorem SameKeys.none_iff (h : SameKeys k k') {p : Gpointer} :
    k'.keyHash.lookup p = none ↔ k.keyHash.lookup p = none := by
  rw [← Option.map_eq_none_iff (f := KeyagentKeyReal.uncached), h p, Option.map_eq_none_iff]

theorem ReadyToLoad.recached (h : ReadyToLoad label k) (hk : Recached k k') : ReadyToLoad label k' where
  noHeapKeys := h.noHeapKeys.of_cacheEq hk.toCacheEq
  current := h.current.of_cacheEq hk.toCacheEq
  stms hq := h.stms (hk.stmHash ▸ hq)
  enabled := by
    obtain ⟨q, stm, hq, hon⟩ := h.enabled
    exact ⟨q, stm, hk.stmHash ▸ hq, fun he => hon (hk.enabled ▸ he)⟩
  ids id hid := h.ids id (hk.sessionHash ▸ hid)
  valid hq hr := by
    obtain ⟨d, hd⟩ := h.valid (hk.stmHash ▸ hq) hr
    obtain ⟨d', hd', -⟩ := hk.toCacheEq.session hd
    exact ⟨d', hd'⟩
  cache := hk.usable h.cache

/-- The module has one session at most. -/
theorem ReadyToLoad.single (h : ReadyToLoad label k) {id id' : Bytes}
    (hid : k.sessionHash.lookup (hashKey id) ≠ none)
    (hid' : k.sessionHash.lookup (hashKey id') ≠ none) : id = id' := by
  obtain ⟨r, hr⟩ := Option.ne_none_iff_exists'.mp hid
  obtain ⟨r', hr'⟩ := Option.ne_none_iff_exists'.mp hid'
  obtain ⟨d, lstm, hd, hp, hl, -, hcurrent⟩ := h.current _ r hr
  obtain ⟨d', lstm', hd', hp', hl', -, hcurrent'⟩ := h.current _ r' hr'
  have hq : gQuarkFromString d.name = gQuarkFromString d'.name := (h.stms hl).1.trans (h.stms hl').1.symm
  obtain rfl : lstm = lstm' := Option.some.inj (hl.symm.trans (hq ▸ hl'))
  obtain rfl : r = r' := Option.some.inj (hcurrent.symm.trans hcurrent')
  obtain rfl : d = d' := Option.some.inj (hd.symm.trans hd')
  exact (hashKey_injective hp).trans (hashKey_injective hp').symm

theorem ReadyToLoad.withRequests (h : ReadyToLoad label k) (requests : GHashTable Bytes KeyagentRequest) :
    ReadyToLoad label (k.withRequests requests) :=
  ⟨⟨h.noHeapKeys, h.current⟩, h.stms, h.enabled, h.ids, h.valid, h.cache⟩

theorem ReadyFor.recached (h : ReadyFor label requestId moduleData k) (hk : Recached k k') :
    ReadyFor label requestId moduleData k' :=
  ⟨h.toReadyToLoad.recached hk, by rw [hk.requests]; exact h.request⟩

theorem ReadyFor.setStmName (h : ReadyFor label requestId moduleData k) (stmName : Bytes) :
    ReadyFor label requestId moduleData (k.setStmName requestId stmName) := by
  obtain ⟨request, hr, hdata⟩ := h.request
  refine ⟨h.toReadyToLoad.withRequests _, { request with stmName := some stmName }, ?_, hdata⟩
  rw [Keyagent.setStmName, GHashTable.lookup_update, if_pos rfl, hr]
  rfl

/-- A key of a session of the table. -/
theorem ReadyFor.insertKey (h : ReadyFor label requestId moduleData k) (key : KeyagentKeyReal) :
    ReadyFor label requestId moduleData (k.insertKey key) :=
  ⟨⟨⟨h.noHeapKeys.insertKey key, h.current⟩, h.stms, h.enabled, h.ids, h.valid, h.cache⟩, h.request⟩

/-- What `createSession` does not touch. -/
theorem Keyagent.createSession_rest (k : Keyagent) (current : Option SessionRef)
    (session : KeyagentSessionReal) :
    (k.createSession current session).localcache = k.localcache ∧
      (k.createSession current session).apimoduleEnabled = k.apimoduleEnabled := by
  have hr : (k.replaceCurrent current session.sessionId).localcache = k.localcache ∧
      (k.replaceCurrent current session.sessionId).apimoduleEnabled = k.apimoduleEnabled := by
    unfold replaceCurrent
    split
    · exact ⟨rfl, rfl⟩
    · split
      · unfold eraseSession
        split <;> exact ⟨rfl, rfl⟩
      · exact ⟨rfl, rfl⟩
  unfold createSession updateOrInsert
  split <;> exact hr

/-- No session is freed. -/
theorem Keyagent.createSession_valid (current : Option SessionRef) (session : KeyagentSessionReal)
    {d : KeyagentSessionReal} {r : SessionRef} (hd : k.sessions[r]? = some d) :
    ∃ d', (k.createSession current session).sessions[r]? = some d' := by
  rw [Keyagent.createSession_sessions]
  split
  · obtain ⟨d', hd', -⟩ := modify_swk _ session.swk hd
    exact ⟨d', hd'⟩
  · have hlt : r < k.sessions.length := (List.getElem?_eq_some_iff.mp hd).1
    exact ⟨d, by rw [List.getElem?_append_left hlt, hd]⟩

/-- The session of a call is there. -/
theorem Keyagent.createSession_ref (hk : TablesInv k) (current : Option SessionRef)
    (session : KeyagentSessionReal) : ∃ d, (k.createSession current session).sessions[k.createRef
      (k.sessionHash.lookup (hashKey session.sessionId))]? = some d := by
  cases hf : k.sessionHash.lookup (hashKey session.sessionId) with
  | some r =>
    obtain ⟨d, -, hd, -⟩ := hk.current _ r hf
    exact Keyagent.createSession_valid current session hd
  | none =>
    rw [Keyagent.createSession_sessions, hf]
    exact ⟨session, by simp [createRef]⟩

/-- A session that was created and made the current one of its security module. -/
theorem ReadyFor.createSession (h : ReadyFor label requestId moduleData k) {lstm : KeyagentStmReal}
    {session : KeyagentSessionReal} {r : SessionRef}
    (href : k.createRef (k.sessionHash.lookup (hashKey session.sessionId)) = r)
    (hl : k.stmHash.lookup (gQuarkFromString session.name) = some lstm)
    (ht : keyagentSessionLookupSwktype session.swkType ≠ none)
    (hid : Kbs.TidyId session.sessionId)
    (hk : Recached (k.createSession lstm.session session) k') {data : KeyagentSessionReal}
    (hd : k'.sessions[r]? = some data) (stmName : Bytes) :
    ReadyFor label requestId moduleData (k'.setCurrent data.name requestId stmName r) := by
  have hbut : SessionsCurrentBut k' r :=
    href ▸ (h.current.createSession hl ht).of_cacheEq hk.toCacheEq
  obtain ⟨hcache, henabled⟩ := k.createSession_rest lstm.session session
  have hstm : k'.stmHash = k.stmHash := by rw [hk.stmHash, Keyagent.createSession_stmHash]
  -- a module keeps its label, whether or not it is the one of the session
  have hfrom : ∀ {q stm},
      (k'.setCurrent data.name requestId stmName r).stmHash.lookup q = some stm →
      ∃ stm₀, k.stmHash.lookup q = some stm₀ ∧ stm.label = stm₀.label ∧
        (stm.session = stm₀.session ∨ stm.session = some r) := by
    intro q stm hq
    rw [Keyagent.setCurrent, GHashTable.lookup_update, hstm] at hq
    split at hq
    · next he =>
      obtain ⟨stm₀, h₀, rfl⟩ := Option.map_eq_some_iff.mp hq
      exact ⟨stm₀, he ▸ h₀, rfl, .inr rfl⟩
    · exact ⟨stm, hq, rfl, .inl rfl⟩
  refine ⟨⟨⟨?_, hbut.setCurrent hd requestId stmName⟩, fun hq => ?_, ?_, fun id hid' => ?_,
    fun hq hr => ?_, ?_⟩, ?_⟩
  · have hheap : (k.createSession lstm.session session).NoHeapKeys :=
      h.noHeapKeys.of_keyHash (Keyagent.createSession_keyHash _ _ _)
    have hheap' : k'.NoHeapKeys := hheap.of_cacheEq hk.toCacheEq
    exact hheap'
  · obtain ⟨stm₀, h₀, hlabel, -⟩ := hfrom hq
    rw [hlabel]
    exact h.stms h₀
  · obtain ⟨q, stm, hq, hon⟩ := h.enabled
    have hon' : k'.apimoduleEnabled = true → stm.apimodule = true := by
      rw [hk.enabled, henabled]
      exact hon
    by_cases he : q = gQuarkFromString data.name
    · refine ⟨q, { stm with session := some r }, ?_, hon'⟩
      rw [Keyagent.setCurrent, GHashTable.lookup_update, if_pos he, hstm, hq]
      rfl
    · refine ⟨q, stm, ?_, hon'⟩
      rw [Keyagent.setCurrent, GHashTable.lookup_update, if_neg he, hstm, hq]
  · have hlookup : (k.createSession lstm.session session).sessionHash.lookup (hashKey id) ≠ none := by
      rw [← hk.sessionHash]
      exact hid'
    rw [Keyagent.createSession_lookup] at hlookup
    by_cases he : hashKey id = hashKey session.sessionId
    · rw [hashKey_injective he]
      exact hid
    · rw [if_neg he] at hlookup
      split at hlookup
      · exact absurd rfl hlookup
      · exact h.ids id hlookup
  · obtain ⟨stm₀, h₀, -, hsame | hnew⟩ := hfrom hq
    · rw [hsame] at hr
      obtain ⟨d, hd₀⟩ := h.valid h₀ hr
      obtain ⟨d', hd'⟩ := Keyagent.createSession_valid lstm.session session hd₀
      obtain ⟨d'', hd'', -⟩ := hk.toCacheEq.session hd'
      exact ⟨d'', hd''⟩
    · rw [hnew, Option.some.injEq] at hr
      exact ⟨data, hr ▸ hd⟩
  · refine hk.usable fun hon => ?_
    rw [hcache] at hon ⊢
    exact h.cache hon
  · obtain ⟨request, hr, hdata⟩ := h.request
    refine ⟨{ request with stmName := some stmName }, ?_, hdata⟩
    rw [Keyagent.setCurrent, GHashTable.lookup_update, if_pos rfl, hk.requests,
      Keyagent.createSession_requests, hr]
    rfl

end

/-! ## The security module -/

/-- How far the security module is: it runs, it was challenged, it has a swk. -/
structure StmStates (W : Type) where
  up : Apimodule → W → Prop
  challenged : (challenge : Bytes) → Apimodule → W → Prop
  equipped : (swk : Bytes) → Apimodule → W → Prop

/-- The module runs, and has the swk of every session of the table. -/
def StmStates.Covers (T : StmStates W) (K : Kbs) (k : Keyagent) (m : Apimodule) (w : W) : Prop :=
  T.up m w ∧ ∀ id, k.sessionHash.lookup (hashKey id) ≠ none → T.equipped (K.swk id) m w

/--
What the security module does for one request, the key of which is of one type: it answers a challenge,
takes a swk that is protected for its answer, and loads a key that is wrapped with this swk. `done`
holds once a key with that secret is loaded.
-/
structure StmOps.Works (stm : StmOps) (E : Step skcSig W) (K : Kbs) (kbs : W → KbsState)
    (T : StmStates W) (label : Bytes) (moduleData : Option ApimoduleUriData) (type : KeyagentKeytype)
    (done : Bytes → W → Prop) : Prop where
  up : Cooperates E K kbs T.up
  challenged : ∀ challenge, Cooperates E K kbs (T.challenged challenge)
  equipped : ∀ swk, Cooperates E K kbs (T.equipped swk)
  runs : ∀ {swk m w}, T.equipped swk m w → T.up m w
  createChallenge : ∀ {d err lock k state s}, d.label = label → d.moduleData = moduleData →
    Standing kbs T.up lock k state s →
    Sat (.live (sysStep E 0)) (stm.createChallenge label d err)
      (fun r t => ∃ challenge, r = (true, some challenge, err) ∧
        Standing kbs (T.challenged challenge) lock k state t) s
  setSession : ∀ {d err lock k state s challenge swk}, d.label = label → d.moduleData = moduleData →
    d.session = K.protect challenge swk → Standing kbs (T.challenged challenge) lock k state s →
    Sat (.live (sysStep E 0)) (stm.setSession label d err)
      (fun r t => r = (true, err) ∧ Standing kbs (T.equipped swk) lock k state t) s
  loadKey : ∀ {d err lock k state s swk secret}, d.label = label → d.moduleData = moduleData →
    d.type = type → d.iv = some (K.wrap swk secret).iv → d.key = (K.wrap swk secret).wrappedKey →
    d.tagSize = (K.wrap swk secret).tagSize → Standing kbs (T.equipped swk) lock k state s →
    Sat (.live (sysStep E 0)) (stm.loadKey label d err)
      (fun r t => r = (true, err) ∧ Standing kbs (T.equipped swk) lock k state t ∧
        done secret t.env) s

section

variable {E : Step skcSig W} {K : Kbs} {kbs : W → KbsState} {J J' : Apimodule → W → Prop}
  {T : StmStates W} {label : Bytes} {moduleData : Option ApimoduleUriData} {type : KeyagentKeytype}
  {done : Bytes → W → Prop} {stm : StmOps} {lock : Option Nat} {k : Keyagent} {state : KbsState}
  {s : World W}

theorem Standing.mono (hs : Standing kbs J lock k state s)
    (h : J s.apimodule s.env → J' s.apimodule s.env) : Standing kbs J' lock k state s :=
  ⟨hs.keyagent, hs.kbs, h hs.module, hs.lock⟩

theorem StmOps.Works.covers (h : stm.Works E K kbs T label moduleData type done) (k : Keyagent) :
    Cooperates E K kbs (T.Covers K k) :=
  { h.up with
    keeps := fun hc hw hJ =>
      ⟨h.up.keeps hc hw hJ.1, fun id hid => (h.equipped _).keeps hc hw (hJ.2 id hid)⟩ }

/-- There is no other session. -/
theorem StmOps.Works.covered (h : stm.Works E K kbs T label moduleData type done)
    (hk : ReadyToLoad label k) {id : Bytes} (hid : k.sessionHash.lookup (hashKey id) ≠ none) {m : Apimodule}
    {w : W} (hm : T.equipped (K.swk id) m w) : T.Covers K k m w :=
  ⟨h.runs hm, fun _ hid' => hk.single hid hid' ▸ hm⟩

end

/-! ## The operations of an NPM -/

section Ops

variable {E : Step skcSig W} {K : Kbs} {kbs : W → KbsState} {J : Apimodule → W → Prop}
  {T : StmStates W} {label requestId : Bytes} {moduleData : Option ApimoduleUriData}
  {type : KeyagentKeytype} {done : Bytes → W → Prop} {stm : StmOps} {lock : Option Nat} {k : Keyagent}
  {state : KbsState} {s : World W} {error : Option GError}

/-- `__keyagent_stm_get_challenge` -/
theorem live_stmGetChallenge (hstm : stm.Works E K kbs T label moduleData type done)
    (hs : Standing kbs T.up lock k state s) (hk : ReadyFor label requestId moduleData k) {q : GQuark}
    {lstm : KeyagentStmReal} (hl : k.stmHash.lookup q = some lstm) {nonce : Bytes} :
    Sat (.live (sysStep E 0)) (keyagentStmGetChallenge stm requestId nonce label error)
      (fun r t => ∃ challenge, r = (true, some challenge, error) ∧
        Standing kbs (T.challenged challenge) lock (k.setStmName requestId label) state t) s := by
  obtain ⟨request, hr, hdata⟩ := hk.request
  obtain ⟨rfl, hlabel⟩ := hk.stms hl
  simp only [keyagentStmGetChallenge, keyagentStmGetByName, requestLookup, bind_assoc, pure_bind]
  refine live_keyagent hs (live_keyagent hs ?_)
  simp only [hl, hr, requestSetStmName, hlabel]
  exact live_modifyKeyagent hs fun t ht => hstm.createChallenge rfl hdata ht

/-- The keys of a session that goes are looked for in the wrong place. -/
theorem live_deleteKeys (hs : Standing kbs J lock k state s) (hheap : k.NoHeapKeys)
    (l : List KeyagentKeyReal) {α : Type} {Q : α → World W → Prop} {f : Unit → Skc α}
    (h : Sat (.live (sysStep E 0)) (f ()) Q s) :
    Sat (.live (sysStep E 0)) (deleteKeys l >>= f) Q s := by
  induction l with
  | nil => exact h
  | cons key rest ih =>
    simp only [deleteKeys, deleteKey, keyHashRemove, bind_assoc]
    refine live_keyagent hs ?_
    rw [hheap key.url]
    exact ih

/-- The current session makes room. -/
theorem live_sessionReplaceCurrent (hs : Standing kbs J lock k state s) (hheap : k.NoHeapKeys)
    {current : Option SessionRef} (hcurrent : ∀ r, current = some r → ∃ d, k.sessions[r]? = some d)
    {sessionId : Bytes} {α : Type} {Q : α → World W → Prop} {f : Unit → Skc α}
    (h : ∀ t, Standing kbs J lock (k.replaceCurrent current sessionId) state t →
      Sat (.live (sysStep E 0)) (f ()) Q t) :
    Sat (.live (sysStep E 0)) (sessionReplaceCurrent current sessionId >>= f) Q s := by
  unfold sessionReplaceCurrent
  unfold Keyagent.replaceCurrent at h
  cases current with
  | none => exact h s hs
  | some r =>
    obtain ⟨d, hd⟩ := hcurrent r rfl
    simp only [Option.bind_some, hd] at h
    simp only [bind_assoc]
    refine live_keyagent hs (live_deref hd ?_)
    split
    · next hne =>
      rw [if_pos hne] at h
      unfold Keyagent.eraseSession at h
      simp only [sessionHashRemove, bind_assoc]
      refine live_keyagent hs ?_
      cases hp : k.sessionHash.lookup (hashKey d.sessionId) with
      | none =>
        simp only [hp] at h
        exact h s hs
      | some session =>
        simp only [hp] at h
        simp only [bind_assoc, keyagentSessionHashValueFree, keyagentKeyRemoveBySession]
        refine live_modifyKeyagent hs fun t ht => live_keyagent ht ?_
        exact live_deleteKeys ht hheap _ (h t ht)
    · next heq =>
      rw [if_neg heq] at h
      exact h s hs

/-- The session of a call is found or made. -/
theorem live_sessionUpdateOrInsert (hs : Standing kbs J lock k state s) {found : Option SessionRef}
    (hfound : ∀ r, found = some r → ∃ d, k.sessions[r]? = some d)
    {label sessionId swk swkType : Bytes} {cacheId : Int} {α : Type} {Q : α → World W → Prop}
    {f : SessionRef → Skc α}
    (h : ∀ t, Standing kbs J lock
        (k.updateOrInsert found ⟨swk, label, sessionId, swkType, cacheId⟩) state t →
      Sat (.live (sysStep E 0)) (f (k.createRef found)) Q t) :
    Sat (.live (sysStep E 0))
      (sessionUpdateOrInsert found label sessionId swk swkType cacheId >>= f) Q s := by
  unfold sessionUpdateOrInsert
  cases found with
  | none =>
    simp only [sessionHashInsert, bind_assoc]
    exact live_keyagent hs (live_modifyKeyagent hs h)
  | some r =>
    obtain ⟨d, hd⟩ := hfound r rfl
    simp only [bind_assoc]
    refine live_keyagent hs (live_deref hd ?_)
    split
    · simp only [sessionSetSwk, bind_assoc]
      exact live_modifyKeyagent hs h
    · next hswk =>
      refine h s ?_
      rw [ne_eq, not_not] at hswk
      have hsame : k.updateOrInsert (some r) ⟨swk, label, sessionId, swkType, cacheId⟩ = k := by
        rw [Keyagent.updateOrInsert, ← hswk, Keyagent.setSwk_same hd]
      rw [hsame]
      exact hs

/-- `__keyagent_stm_set_session`, with a swk that is protected for the module's answer. -/
theorem live_stmSetSession (hstm : stm.Works E K kbs T label moduleData type done) {challenge : Bytes}
    (hs : Standing kbs (T.challenged challenge) lock k state s) {request : KeyagentRequest}
    (hr : k.apimoduleLoadkeyHash.lookup requestId = some request)
    (hdata : request.moduleData = moduleData) {session : SessionRef} {data : KeyagentSessionReal}
    (hd : k.sessions[session]? = some data) (hname : data.name = label) {swk : Bytes}
    (hswk : data.swk = K.protect challenge swk) {lstm : KeyagentStmReal}
    (hl : k.stmHash.lookup (gQuarkFromString data.name) = some lstm) (hlabel : lstm.label = label) :
    Sat (.live (sysStep E 0)) (keyagentStmSetSession stm requestId session error)
      (fun r t => r = (true, error) ∧
        Standing kbs (T.equipped swk) lock (k.setCurrent data.name requestId label session) state t)
      s := by
  simp only [keyagentStmSetSession, keyagentStmGetByName, requestLookup, bind_assoc, pure_bind]
  refine live_keyagent hs (live_deref hd (live_keyagent hs (live_keyagent hs ?_)))
  simp only [hl, hr, stmSetCurrentSession, requestSetStmName, hlabel]
  refine live_modifyKeyagent hs fun t ht => live_modifyKeyagent ht fun u hu => ?_
  exact hstm.setSession hname hdata hswk hu

/-- `__keyagent_session_create`: afterwards the session is in the table, and the module has its swk. -/
theorem live_sessionCreate (hstm : stm.Works E K kbs T label moduleData type done) {challenge : Bytes}
    (hs : Standing kbs (T.challenged challenge) lock k state s)
    (hk : ReadyFor label requestId moduleData k) {q : GQuark} {lstm : KeyagentStmReal}
    (hl : k.stmHash.lookup q = some lstm) {sessionId swk swkType : Bytes}
    (hid : Kbs.TidyId sessionId) (ht : keyagentSessionLookupSwktype swkType ≠ none) :
    Sat (.live (sysStep E 0))
      (keyagentSessionCreateUncached stm requestId label sessionId (K.protect challenge swk) swkType
        error)
      (fun r t => r = (true, error) ∧ ∃ k', Standing kbs (T.equipped swk) lock k' state t ∧
        ReadyFor label requestId moduleData k' ∧ SameKeys k k' ∧
        k'.sessionHash.lookup (hashKey sessionId) ≠ none) s := by
  obtain ⟨swkQuark, hswkType⟩ := Option.ne_none_iff_exists'.mp ht
  obtain ⟨rfl, hlabel⟩ := hk.stms hl
  obtain ⟨session, hsession⟩ : ∃ session : KeyagentSessionReal,
      session = ⟨K.protect challenge swk, label, sessionId, swkType, -1⟩ := ⟨_, rfl⟩
  simp only [keyagentSessionCreateUncached, keyagentSessionCreate, keyagentSessionLookup,
    keyagentStmGetByName, bind_assoc, pure_bind]
  refine live_keyagent hs ?_
  simp only [hswkType]
  refine live_keyagent hs ?_
  simp only [hl]
  refine live_sessionReplaceCurrent hs hk.noHeapKeys (fun r hr => hk.valid hl hr) fun t ht' => ?_
  refine live_sessionUpdateOrInsert ht' (fun r hr => ?_) fun u hu => ?_
  · rw [Keyagent.replaceCurrent_sessions]
    obtain ⟨d, -, hd, -⟩ := hk.current _ r hr
    exact ⟨d, hd⟩
  -- what is replaced keeps the list of sessions, so the new reference is the same
  have href : (k.replaceCurrent lstm.session sessionId).createRef
      (k.sessionHash.lookup (hashKey sessionId))
      = k.createRef (k.sessionHash.lookup (hashKey sessionId)) := by
    rw [Keyagent.createRef, Keyagent.replaceCurrent_sessions]
    rfl
  have hu' : Standing kbs (T.challenged challenge) lock (k.createSession lstm.session session) state
      u := by
    rw [hsession]
    exact hu
  obtain ⟨d, hd⟩ := Keyagent.createSession_ref hk.toTablesInv lstm.session session
  have hid' : session.sessionId = sessionId := by rw [hsession]
  rw [hid'] at hd
  have hdswk : d.swk = K.protect challenge swk := by
    have hd' := hd
    rw [Keyagent.createSession, hid', ← href] at hd'
    rw [Keyagent.updateOrInsert_swk hd', hsession]
  rw [href]
  obtain ⟨hcache, -⟩ := k.createSession_rest lstm.session session
  simp only [sessionCreateCache, if_pos, map_eq_pure_bind, bind_assoc, pure_bind]
  refine live_cacheSession (hstm.challenged challenge) hu' (fun hon => ?_) hd fun k' v hk' hv => ?_
  · rw [hcache] at hon ⊢
    exact hk.cache hon
  obtain ⟨data, hdata, hsame⟩ := hk'.toCacheEq.session hd
  have hl₀ : k.stmHash.lookup (gQuarkFromString session.name) = some lstm := by
    rw [hsession]
    exact hl
  have ht₀ : keyagentSessionLookupSwktype session.swkType ≠ none := by
    rw [hsession]
    exact ht
  have hbut := (hk.current.createSession hl₀ ht₀).of_cacheEq hk'.toCacheEq
  have hfound : k'.sessionHash.lookup (hashKey sessionId)
      = some (k.createRef (k.sessionHash.lookup (hashKey sessionId))) := by
    rw [hk'.sessionHash, Keyagent.createSession_lookup, hid', if_pos rfl]
  obtain ⟨data', lstm', hdata', -, hl', -⟩ := hbut _ _ hfound
  obtain rfl : data = data' := Option.some.inj (hdata.symm.trans hdata')
  have hl₁ : k.stmHash.lookup (gQuarkFromString data.name) = some lstm' := by
    rw [← hl', hk'.stmHash, Keyagent.createSession_stmHash]
  obtain ⟨hq', hlabel'⟩ := hk.stms hl₁
  obtain ⟨request, hr, hmodule⟩ := hk.request
  have hr' : k'.apimoduleLoadkeyHash.lookup requestId = some request := by
    rw [hk'.requests, Keyagent.createSession_requests, hr]
  have hswk : data.swk = K.protect challenge swk := by
    rw [← hdswk]
    exact (KeyagentSessionReal.uncached_eq hsame).1
  refine (live_stmSetSession hstm hv hr' hmodule hdata (congrArg GQuark.string hq') hswk hl'
    hlabel').mono ?_
  rintro r x ⟨rfl, hx⟩
  refine ⟨rfl, _, hx, hk.createSession (hid' ▸ rfl) hl₀ ht₀ (hid' ▸ hid) hk' hdata _, ?_, ?_⟩
  · have hkeys : SameKeys k (k.createSession lstm.session session) :=
      .of_keyHash (Keyagent.createSession_keyHash _ _ _)
    exact hkeys.trans hk'.keys
  · have hne : k'.sessionHash.lookup (hashKey sessionId) ≠ none := by
      rw [hfound]
      exact Option.some_ne_none _
    exact hne

/-- The URL has a key of a session of the table. -/
def HasKeyOf (url : Bytes) (type : KeyagentKeytype) (sessionId keydata : Bytes) (k : Keyagent) :
    Prop :=
  ∃ key r, k.keyHash.lookup (hashKey url) = some key ∧ key.type = type ∧ key.session = some r ∧
    k.sessionHash.lookup (hashKey sessionId) = some r ∧
    key.attributes.lookup keyagentAttrKeydata = some keydata

/-- `__keyagent_key_create` -/
theorem live_keyCreate (hE : Cooperates E K kbs J) (hs : Standing kbs J lock k state s)
    (hk : ReadyFor label requestId moduleData k) {url sessionId keydata : Bytes}
    (hmiss : k.keyHash.lookup (hashKey url) = none)
    (hsession : k.sessionHash.lookup (hashKey sessionId) ≠ none) :
    Sat (.live (sysStep E 0))
      (keyagentKeyCreate url type (some (AList.insert keyagentAttrKeydata keydata ∅))
        (some sessionId) error)
      (fun r t => r.1.isSome = true ∧ ∃ k', Standing kbs J lock k' state t ∧
        ReadyFor label requestId moduleData k' ∧ HasKeyOf url type sessionId keydata k') s := by
  obtain ⟨session, hr⟩ := Option.ne_none_iff_exists'.mp hsession
  obtain ⟨data, lstm, hd, -⟩ := hk.current _ session hr
  have hkeydata : (AList.insert keyagentAttrKeydata keydata ∅ : KAttributes).lookup
      keyagentAttrKeydata = some keydata := AList.lookup_insert _
  simp only [keyagentKeyCreate, keyagentKeyCreateWithCacheid, keyagentKeyLookup,
    keyagentSessionLookup, bind_assoc, pure_bind]
  refine live_keyagent hs ?_
  simp only [hmiss, hkeydata]
  refine live_keyagent hs ?_
  simp only [hr, keyHashInsert]
  refine live_modifyKeyagent hs fun t ht => ?_
  simp only [keyCreateCache, if_pos, map_eq_pure_bind, bind_assoc, pure_bind]
  have ht' : Standing kbs J lock (k.insertKey
      ⟨url, type, some session, AList.insert keyagentAttrKeydata keydata ∅, -1⟩) state t := ht
  have hlookup : (k.insertKey ⟨url, type, some session, AList.insert keyagentAttrKeydata keydata ∅,
      -1⟩).keyHash.lookup (hashKey url)
      = some ⟨url, type, some session, AList.insert keyagentAttrKeydata keydata ∅, -1⟩ :=
    (Keyagent.insertKey_lookup _ _ _).trans (if_pos rfl)
  refine live_cacheKey hE ht' hk.cache hlookup rfl hd hkeydata fun k' u hk' hu => ?_
  refine sat_seq_pure.mpr ⟨rfl, k', hu, (hk.insertKey _).recached hk', ?_⟩
  -- the cache only changes the key's cache id
  obtain ⟨key, hkey, he⟩ := hk'.toCacheEq.symm.key hlookup
  obtain ⟨-, htype, hsess, hattrs⟩ := KeyagentKeyReal.uncached_eq he
  refine ⟨key, session, hkey, htype, hsess, ?_, by rw [hattrs]; exact hkeydata⟩
  rw [hk'.sessionHash]
  exact hr

/-- The STM's part of `_loadkey`, for a key that is wrapped with the swk of its session. -/
theorem live_loadkeyStm (hstm : stm.Works E K kbs T label moduleData type done) {swk secret : Bytes}
    (hwrap : (K.wrap swk secret).Proper) (hs : Standing kbs (T.equipped swk) lock k state s)
    (hk : ReadyFor label requestId moduleData k) {url sessionId : Bytes}
    (hkey : HasKeyOf url type sessionId (K.wrap swk secret).keytransfer k) :
    Sat (.live (sysStep E 0)) (loadkeyStm stm requestId url none)
      (fun r t => r = (true, none) ∧ Standing kbs (T.equipped swk) lock k state t ∧
        done secret t.env) s := by
  obtain ⟨key, session, hlookup, rfl, hsession, hp, hkeydata⟩ := hkey
  obtain ⟨data, lstm, hd, -, hl, -, hcurrent⟩ := hk.current _ session hp
  obtain ⟨request, hr, hdata⟩ := hk.request
  have hlabel := (hk.stms hl).2
  simp only [loadkeyStm, keyagentKeyLookup, bind_assoc, pure_bind]
  refine live_keyagent hs ?_
  simp only [hlookup, keyagentStmLoadKey, hsession, keyagentStmGetByName, requestLookup, bind_assoc,
    pure_bind]
  refine live_keyagent hs (live_deref hd (live_keyagent hs (live_keyagent hs ?_)))
  simp only [hl, hr, Option.bind_some, hcurrent]
  refine live_deref hkeydata (live_deref hwrap.splitKeytransfer (live_deref hd ?_))
  rw [hlabel]
  exact hstm.loadKey rfl hdata rfl rfl rfl rfl hs

end Ops

end SkcLibrary
