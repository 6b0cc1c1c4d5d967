import SkcLibrary.Keyagent.Tables

/-!
# Keys and their sessions

A session that leaves `session_hash` should take its keys along. `__delete_key` asks `key_hash` for
the address of a string, and no key is stored under one: the keys stay. So every key belongs to a
session of the table exactly as long as no session with keys is replaced.
-/

namespace SkcLibrary

open Interaction

variable {W : Type}

/-- Every key of the table belongs to a session of the table. -/
def KeysBound (k : Keyagent) : Prop :=
  ∀ p key, k.keyHash.lookup p = some key →
    ∃ r q, key.session = some r ∧ k.sessionHash.lookup q = some r

/-- The session that leaves the table when one is created for the given label and id. -/
def Keyagent.replaced (k : Keyagent) (label sessionId swkType : Bytes) : Option SessionRef := do
  let _ ← keyagentSessionLookupSwktype swkType
  let lstm ← k.stmHash.lookup (gQuarkFromString label)
  let data ← k.displaced lstm.session sessionId
  k.sessionHash.lookup (hashKey data.sessionId)

/-- Exactly the keys of the replaced session are gone, the others are as they were. -/
def KeysFollow (k k' : Keyagent) (replaced : Option SessionRef) : Prop :=
  ∀ r, replaced = some r → ∀ p,
    k'.keyHash.lookup p = (k.keyHash.lookup p).filter fun key => key.session ≠ some r

/-- The operation does not replace a session that has keys. -/
def SparesKeys : TableOp → Keyagent → Prop
  | .sessionCreate _ label sessionId _ swkType _ _, k =>
    ∀ r, k.replaced label sessionId swkType = some r →
      ∀ p key, k.keyHash.lookup p = some key → key.session ≠ some r
  | _, _ => True

theorem KeysBound.of_keyHash_sessions {k k' : Keyagent} (h : KeysBound k)
    (hk : k'.keyHash = k.keyHash)
    (hs : ∀ q r, k.sessionHash.lookup q = some r →
      (∃ p key, k.keyHash.lookup p = some key ∧ key.session = some r) →
      k'.sessionHash.lookup q = some r) : KeysBound k' := by
  intro p key hp
  rw [hk] at hp
  obtain ⟨r, q, hr, hq⟩ := h p key hp
  exact ⟨r, q, hr, hs q r hq ⟨p, key, hp, hr⟩⟩

theorem KeysBound.of_cacheEq {k k' : Keyagent} (h : KeysBound k) (hc : CacheEq k k') :
    KeysBound k' := by
  intro p key hp
  obtain ⟨key', hk', he⟩ := hc.key hp
  obtain ⟨r, q, hr, hq⟩ := h p key' hk'
  obtain ⟨-, -, hses, -⟩ := KeyagentKeyReal.uncached_eq he
  exact ⟨r, q, by rw [← hses, hr], by rw [hc.sessionHash, hq]⟩

/-- A session with keys stays where it is. -/
theorem KeysBound.createSession {k : Keyagent} (h : KeysBound k) {lstm : KeyagentStmReal}
    {session : KeyagentSessionReal}
    (hl : k.stmHash.lookup (gQuarkFromString session.name) = some lstm)
    (ht : keyagentSessionLookupSwktype session.swkType ≠ none)
    (hspare : ∀ r, k.replaced session.name session.sessionId session.swkType = some r →
      ∀ p key, k.keyHash.lookup p = some key → key.session ≠ some r) :
    KeysBound (k.createSession lstm.session session) := by
  refine h.of_keyHash_sessions (Keyagent.createSession_keyHash _ _ _) ?_
  rintro q r hq ⟨p, key, hp, hr⟩
  rw [Keyagent.createSession_lookup]
  by_cases hid : q = hashKey session.sessionId
  · rw [if_pos hid, ← hid, hq]
    rfl
  · rw [if_neg hid]
    cases hd : k.displaced lstm.session session.sessionId with
    | none => simpa using hq
    | some data =>
      -- the replaced session has no key, so it is not the one the key belongs to
      have hne : q ≠ hashKey data.sessionId := by
        intro hqd
        rw [hqd] at hq
        refine hspare r ?_ p key hp hr
        obtain ⟨type, htype⟩ := Option.ne_none_iff_exists'.mp ht
        simp [Keyagent.replaced, htype, hl, hd, hq]
      simpa [hne] using hq

section Ops

variable {E : Step skcSig W} {s t u : World W}

theorem sat_sessionCreate_keysBound (hheap : s.keyagent.NoHeapKeys) (hs : KeysBound s.keyagent)
    {requestId label sessionId swk swkType : Bytes} {cacheId : Int} {error : Option GError}
    (ha : SparesKeys (.sessionCreate requestId label sessionId swk swkType cacheId error)
      s.keyagent) :
    Sat (seqView E).logic
      (keyagentSessionCreate .unknown requestId label sessionId swk swkType cacheId error)
      (fun _ v => KeysBound v.keyagent) s := by
  refine AgentView.sat_keyagentSessionCreate hheap (fun _ => hs) fun lstm err' t hty hl ht => ?_
  have hnew : KeysBound (s.keyagent.createSession lstm.session
      ⟨swk, label, sessionId, swkType, cacheId⟩) := hs.createSession hl hty ha
  have hk : KeysBound t.keyagent := hnew.of_cacheEq ht.sessionCacheEq.toCacheEq
  refine AgentView.sat_keyagentStmSetSession (fun _ _ _ _ => hk) fun data lstm request _ _ _ => ?_
  exact sat_unknown_setSession hk

theorem sat_keyCreate_keysBound (hs : KeysBound s.keyagent) {url : Bytes}
    {type : KeyagentKeytype} {attrs : Option KAttributes} {sessionId : Option Bytes}
    {cacheId : Int} {error : Option GError} :
    Sat (seqView E).logic
      (keyagentKeyCreateWithCacheid url type attrs sessionId cacheId error)
      (fun _ v => KeysBound v.keyagent) s := by
  refine AgentView.sat_keyagentKeyCreateWithCacheid (fun _ _ => hs) ?_ ?_
  · exact fun key err' t _ ht => hs.of_cacheEq ht.cacheEq
  · intro a id r err' t _ _ _ hr ht
    have hnew : KeysBound (s.keyagent.insertKey ⟨url, type, some r, a, cacheId⟩) := by
      intro p key hp
      rw [Keyagent.insertKey_lookup] at hp
      split at hp
      · rw [Option.some.injEq] at hp
        exact ⟨r, hashKey id, by rw [← hp], hr⟩
      · exact hs p key hp
    exact hnew.of_cacheEq ht.cacheEq

theorem sat_keyCreate_noHeapKeys (hs : s.keyagent.NoHeapKeys) {url : Bytes}
    {type : KeyagentKeytype} {attrs : Option KAttributes} {sessionId : Option Bytes}
    {cacheId : Int} {error : Option GError} :
    Sat (seqView E).logic
      (keyagentKeyCreateWithCacheid url type attrs sessionId cacheId error)
      (fun _ v => v.keyagent.NoHeapKeys) s := by
  refine AgentView.sat_keyagentKeyCreateWithCacheid (fun _ _ => hs) ?_ ?_
  · exact fun key err' t _ ht => hs.of_cacheEq ht.cacheEq
  · exact fun a id r err' t _ _ _ _ ht => (hs.insertKey _).of_cacheEq ht.cacheEq

/-- Every state of a run has its keys under quarks, and bound if sessions with keys are spared. -/
theorem TableReach.keysBound (hs : EmptyTables s.keyagent) (h : TableReach E SparesKeys s t) :
    t.keyagent.NoHeapKeys ∧ KeysBound t.keyagent := by
  refine h.invariant (J := fun k => k.NoHeapKeys ∧ KeysBound k) (fun o u ho hu => ?_) ?_
  · cases o with
    | sessionCreate requestId label sessionId swk swkType cacheId error =>
      rw [TableOp.prog, map_eq_pure_bind]
      refine ((sat_sessionCreate_keyHash hu.1).and
        (sat_sessionCreate_keysBound hu.1 hu.2 ho)).bind fun _ v hv => sat_seq_pure.mpr ?_
      exact ⟨hu.1.of_keyHash hv.1, hv.2⟩
    | keyCreate url type attrs sessionId cacheId error =>
      rw [TableOp.prog, map_eq_pure_bind]
      refine ((sat_keyCreate_noHeapKeys hu.1).and (sat_keyCreate_keysBound hu.2)).bind ?_
      exact fun _ v hv => sat_seq_pure.mpr hv
    | requestInsert requestId request => exact (AgentView.sat_modifyKeyagent' (V := seqView E)).mpr hu
    | requestRemove requestId => exact (AgentView.sat_modifyKeyagent' (V := seqView E)).mpr hu
  · constructor
    · intro x
      rw [hs.keyHash, AList.lookup_empty]
    · intro p key hp
      rw [hs.keyHash] at hp
      simp at hp

/--
**The keys of a run that spares sessions with keys.** In the other direction, an operation that does
not spare them leaves keys behind that should have gone.
-/
theorem keys_bound (hs : EmptyTables s.keyagent) (h : TableReach E SparesKeys s t) :
    KeysBound t.keyagent ∧
    ∀ requestId label sessionId swk swkType cacheId error u,
      Runs (sysStep E 0) (TableOp.sessionCreate requestId label sessionId swk swkType cacheId
        error).prog t () u →
      (KeysFollow t.keyagent u.keyagent (t.keyagent.replaced label sessionId swkType) ↔
        SparesKeys (.sessionCreate requestId label sessionId swk swkType cacheId error)
          t.keyagent) := by
  obtain ⟨hheap, hbound⟩ := h.keysBound hs
  refine ⟨hbound, fun requestId label sessionId swk swkType cacheId error u hu => ?_⟩
  have hkeys : u.keyagent.keyHash = t.keyagent.keyHash := by
    refine seqView_runs (Q := fun _ v => v.keyagent.keyHash = t.keyagent.keyHash) ?_ hu
    rw [TableOp.prog, map_eq_pure_bind]
    exact (sat_sessionCreate_keyHash hheap).bind fun _ v hv => sat_seq_pure.mpr hv
  unfold KeysFollow SparesKeys
  rw [hkeys]
  constructor
  · intro hf r hr p key hp hses
    have hpf := hf r hr p
    simp [Option.filter, hp, hses] at hpf
  · intro ha r hr p
    cases hp : t.keyagent.keyHash.lookup p with
    | none => rfl
    | some key => simp [Option.filter, ha r hr p key hp]

end Ops

/-! ## A session that leaves its keys behind -/

instance (o : TableOp) (k : Keyagent) : Decidable (SparesKeys o k) :=
  match o with
  | .sessionCreate _ label sessionId _ swkType _ _ =>
    decidable_of_iff (∀ r ∈ k.replaced label sessionId swkType, ∀ e ∈ k.keyHash.entries,
      e.2.session ≠ some r)
      ⟨fun h r hr p key hp => h r hr ⟨p, key⟩ (AList.mem_lookup_iff.mp hp),
        fun h r hr e he => h r hr e.1 e.2 (AList.mem_lookup_iff.mpr he)⟩
  | .keyCreate _ _ _ _ _ _ => isTrue trivial
  | .requestInsert _ _ => isTrue trivial
  | .requestRemove _ => isTrue trivial

/-- The session of one module has a key; the session of the other is replaced, and has none. -/
theorem keys_bound_sgx : ∃ (t u : World Unit) (r : SessionRef) (key : KeyagentKeyReal),
    TableReach acceptingStep SparesKeys twoStmsWorld t ∧
    t.keyagent.replaced (lit "SGX") (lit "b") (lit "AES256-GCM") = some r ∧
    Runs (sysStep acceptingStep 0) (createSgxSession (lit "b")).prog t () u ∧
    KeysFollow t.keyagent u.keyagent (some r) ∧ KeysBound u.keyagent ∧
    u.keyagent.sessionHash.values = [2, 0] ∧
    u.keyagent.keyHash.lookup (hashKey (lit "KMS:1")) = some key ∧ key.session = some 0 := by
  have hops : ((runOps acceptingStm SparesKeys
      [createSessionFor (lit "SW") (lit "s"), createKeyOf (lit "s"), createSgxSession (lit "a")]
      twoStmsWorld).bind fun t => (runOps acceptingStm SparesKeys [createSgxSession (lit "b")] t).map
        fun u => (t.keyagent.replaced (lit "SGX") (lit "b") (lit "AES256-GCM"),
          u.keyagent.sessionHash.values,
          (u.keyagent.keyHash.lookup (hashKey (lit "KMS:1"))).map (·.session)))
      = some (some 1, [2, 0], some (some 0)) := by decide +kernel
  obtain ⟨t, ht, hv⟩ := Option.bind_eq_some_iff.mp hops
  obtain ⟨u, hu, hv⟩ := Option.map_eq_some_iff.mp hv
  obtain ⟨hreplaced, hv⟩ := Prod.mk.inj hv
  obtain ⟨hvalues, hkey⟩ := Prod.mk.inj hv
  obtain ⟨key, hkey, hsession⟩ := Option.map_eq_some_iff.mp hkey
  obtain ⟨hspare, hrun⟩ := runOps_single hu
  have hreach : TableReach acceptingStep SparesKeys twoStmsWorld t := runOps_reach ht
  have hfollow := ((keys_bound ⟨rfl, rfl⟩ hreach).2 _ _ _ _ _ _ _ u hrun).mpr hspare
  rw [hreplaced] at hfollow
  exact ⟨t, u, 1, key, hreach, hreplaced, hrun, hfollow,
    (keys_bound ⟨rfl, rfl⟩ (hreach.op hspare hrun)).1, hvalues, hkey, hsession⟩

theorem not_keys_bound : ¬∀ (W : Type) (E : Step skcSig W) (s t : World W),
    EmptyTables s.keyagent → TableReach E (fun _ _ => True) s t → KeysBound t.keyagent := by
  intro h
  obtain ⟨t, ht, hv⟩ := Option.map_eq_some_iff.mp (show
    (runOps acceptingStm (fun _ _ => True)
      [createSgxSession (lit "a"), createKeyOf (lit "a"), createSgxSession (lit "b")] sgxWorld).map
      (fun t => (t.keyagent.sessionHash.values, (t.keyagent.keyHash.lookup
        (hashKey (lit "KMS:1"))).map (·.session))) = some ([1], some (some 0)) by decide +kernel)
  have hreach : TableReach acceptingStep (fun _ _ => True) sgxWorld t := runOps_reach ht
  rw [Prod.mk.injEq, Option.map_eq_some_iff] at hv
  obtain ⟨hvalues, key, hkey, hsession⟩ := hv
  obtain ⟨r, q, hr, hq⟩ := h Unit acceptingStep sgxWorld t ⟨rfl, rfl⟩ hreach _ key hkey
  have hmem : r ∈ t.keyagent.sessionHash.values := GHashTable.mem_values.mpr ⟨q, hq⟩
  rw [hsession, Option.some.injEq] at hr
  rw [hvalues, ← hr] at hmem
  simp at hmem

end SkcLibrary
