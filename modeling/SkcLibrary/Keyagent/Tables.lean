import SkcLibrary.System
import Mathlib.Data.List.Induction

/-!
# The tables of the agent

`session_hash` and `key_hash` over runs of `keyagent_session_create` and
`__keyagent_key_create_with_cacheid`, while requests come and go, with a security module about
which nothing is known.

* `SessionsCurrent` — every session of `session_hash` is the current one of its STM;
* `KeysBound` — every key of `key_hash` belongs to a session of `session_hash`.

The first always holds. The second fails because a session leaves its keys behind; it holds in
the runs that never replace a session that has keys.
-/

namespace SkcLibrary

open Interaction

/-! ## Runs -/

/-- The operations that fill the tables, and those of `_loadkey` on its request. -/
inductive TableOp where
  | sessionCreate (requestId label sessionId swk swkType : Bytes) (cacheId : Int)
      (error : Option GError)
  | keyCreate (url : Bytes) (type : KeyagentKeytype) (attrs : Option KAttributes)
      (sessionId : Option Bytes) (cacheId : Int) (error : Option GError)
  | requestInsert (requestId : Bytes) (request : KeyagentRequest)
  | requestRemove (requestId : Bytes)

/-- The operation as a program; what it returns does not matter here. -/
def TableOp.prog : TableOp → Skc Unit
  | .sessionCreate requestId label sessionId swk swkType cacheId error =>
    (fun _ => ()) <$>
      keyagentSessionCreate .unknown requestId label sessionId swk swkType cacheId error
  | .keyCreate url type attrs sessionId cacheId error =>
    (fun _ => ()) <$> keyagentKeyCreateWithCacheid url type attrs sessionId cacheId error
  | .requestInsert requestId request => SkcLibrary.requestInsert requestId request
  | .requestRemove requestId => SkcLibrary.requestRemove requestId

variable {W : Type}

/-- The states reached by operations that meet a condition when they are called. -/
inductive TableReach (E : Step skcSig W) (allow : TableOp → Keyagent → Prop) (s : World W) :
    World W → Prop where
  | refl : TableReach E allow s s
  | op {t u : World W} {o : TableOp} : TableReach E allow s t → allow o t.keyagent →
      Runs (sysStep E 0) o.prog t () u → TableReach E allow s u

/-- Both tables are empty. -/
structure EmptyTables (k : Keyagent) : Prop where
  sessionHash : k.sessionHash = ∅
  keyHash : k.keyHash = ∅

/-- What every operation preserves holds in every state that is reached. -/
theorem TableReach.invariant {E : Step skcSig W} {allow : TableOp → Keyagent → Prop}
    {J : Keyagent → Prop} {s t : World W}
    (hop : ∀ o u, allow o u.keyagent → J u.keyagent →
      Sat (seqView E).logic o.prog (fun _ v => J v.keyagent) u)
    (hs : J s.keyagent) (h : TableReach E allow s t) : J t.keyagent := by
  induction h with
  | refl => exact hs
  | op _ ha hr ih => exact (hop _ _ ha ih).runs hr

/-! ## Keys are stored under the quark of their URL -/

theorem Keyagent.NoHeapKeys.of_cacheEq {k k' : Keyagent} (h : k.NoHeapKeys) (hc : CacheEq k k') :
    k'.NoHeapKeys := by
  intro x
  have hx := hc.keys (.heap x)
  rw [h x] at hx
  simpa using hx

theorem Keyagent.insertKey_lookup (k : Keyagent) (key : KeyagentKeyReal) (p : Gpointer) :
    (k.insertKey key).keyHash.lookup p =
      if p = hashKey key.url then some key else k.keyHash.lookup p :=
  GHashTable.lookup_insert_eq _ _ _ _

theorem Keyagent.NoHeapKeys.insertKey {k : Keyagent} (h : k.NoHeapKeys) (key : KeyagentKeyReal) :
    (k.insertKey key).NoHeapKeys := by
  intro x
  rw [Keyagent.insertKey_lookup, if_neg (by simp [hashKey])]
  exact h x

@[simp] theorem Keyagent.eraseSession_keyHash (k : Keyagent) (p : Gpointer) :
    (k.eraseSession p).keyHash = k.keyHash := by
  unfold eraseSession
  split <;> rfl

theorem Keyagent.createSession_keyHash (k : Keyagent) (current : Option SessionRef)
    (session : KeyagentSessionReal) : (k.createSession current session).keyHash = k.keyHash := by
  have hr : (k.replaceCurrent current session.sessionId).keyHash = k.keyHash := by
    unfold replaceCurrent
    split
    · rfl
    · split
      · exact eraseSession_keyHash _ _
      · rfl
  unfold createSession updateOrInsert
  split <;> exact hr

/-! ## `session_hash` after an operation -/

theorem Keyagent.eraseSession_lookup (k : Keyagent) (p q : Gpointer) :
    (k.eraseSession p).sessionHash.lookup q =
      if q = p then none else k.sessionHash.lookup q := by
  unfold eraseSession
  split
  · next h =>
    split
    · next hq => rw [hq, h]
    · rfl
  · exact GHashTable.lookup_erase_eq _ _ _

/-- The current session of the STM if another one is to take its place. -/
def Keyagent.displaced (k : Keyagent) (current : Option SessionRef) (sessionId : Bytes) :
    Option KeyagentSessionReal :=
  (current.bind (k.sessions[·]?)).filter fun data => data.sessionId ≠ sessionId

theorem Keyagent.replaceCurrent_lookup (k : Keyagent) (current : Option SessionRef)
    (sessionId : Bytes) (q : Gpointer) :
    (k.replaceCurrent current sessionId).sessionHash.lookup q =
      if (k.displaced current sessionId).any (fun data => q = hashKey data.sessionId) then none
      else k.sessionHash.lookup q := by
  unfold replaceCurrent displaced
  cases current.bind (k.sessions[·]?) with
  | none => simp
  | some data =>
    by_cases hne : data.sessionId = sessionId
    · simp [gQuarkFromString, hne]
    · simp [gQuarkFromString, hne, eraseSession_lookup]

/-- `session_hash` after a session was created. -/
theorem Keyagent.createSession_lookup (k : Keyagent) (current : Option SessionRef)
    (session : KeyagentSessionReal) (q : Gpointer) :
    (k.createSession current session).sessionHash.lookup q =
      if q = hashKey session.sessionId then
        some (k.createRef (k.sessionHash.lookup (hashKey session.sessionId)))
      else if (k.displaced current session.sessionId).any (fun data => q = hashKey data.sessionId)
        then none
      else k.sessionHash.lookup q := by
  -- the session that goes has another id than the one that comes
  have hother : ∀ data, k.displaced current session.sessionId = some data →
      hashKey session.sessionId ≠ hashKey data.sessionId := by
    intro data hd he
    have hne := (Option.filter_eq_some_iff.mp hd).2
    simp only [hashKey, gQuarkFromString, Gpointer.gintToPointer.injEq, GQuark.mk.injEq] at he
    simp [he] at hne
  unfold createSession updateOrInsert
  cases hf : k.sessionHash.lookup (hashKey session.sessionId) with
  | some r =>
    simp only [setSwk, createRef, Option.getD_some]
    rw [replaceCurrent_lookup]
    by_cases hq : q = hashKey session.sessionId
    · rw [if_pos hq, hq]
      cases hd : k.displaced current session.sessionId with
      | none => simpa using hf
      | some data => simpa [hother data hd] using hf
    · rw [if_neg hq]
  | none =>
    simp only [addSession, createRef, Option.getD_none]
    rw [GHashTable.lookup_insert_eq, replaceCurrent_lookup, replaceCurrent_sessions]

/-- The sessions after one was created: the one of the call has the new swk. -/
theorem Keyagent.createSession_sessions (k : Keyagent) (current : Option SessionRef)
    (session : KeyagentSessionReal) :
    (k.createSession current session).sessions =
      match k.sessionHash.lookup (hashKey session.sessionId) with
      | some r => k.sessions.modify r fun s => { s with swk := session.swk }
      | none => k.sessions ++ [session] := by
  unfold createSession updateOrInsert
  split
  · simp [setSwk, *]
  · simp [addSession, *]

@[simp] theorem Keyagent.createSession_stmHash (k : Keyagent) (current : Option SessionRef)
    (session : KeyagentSessionReal) : (k.createSession current session).stmHash = k.stmHash := by
  have hr : (k.replaceCurrent current session.sessionId).stmHash = k.stmHash := by
    unfold replaceCurrent
    split
    · rfl
    · split
      · unfold eraseSession
        split <;> rfl
      · rfl
  unfold createSession updateOrInsert
  split <;> exact hr

@[simp] theorem Keyagent.createSession_requests (k : Keyagent) (current : Option SessionRef)
    (session : KeyagentSessionReal) :
    (k.createSession current session).apimoduleLoadkeyHash = k.apimoduleLoadkeyHash := by
  have hr : (k.replaceCurrent current session.sessionId).apimoduleLoadkeyHash
      = k.apimoduleLoadkeyHash := by
    unfold replaceCurrent
    split
    · rfl
    · split
      · unfold eraseSession
        split <;> rfl
      · rfl
  unfold createSession updateOrInsert
  split <;> exact hr

theorem hashKey_injective {a b : Bytes} (h : hashKey a = hashKey b) : a = b := by
  simpa [hashKey, gQuarkFromString] using h

/-! ## Every session is the current one of its STM -/

/--
Every session of the table is stored under its own id, names a registered STM, has a supported
type, and, unless it is `r`, is the current session of the STM it names, which `r` does not name.
-/
def SessionsCurrentBut (k : Keyagent) (r : SessionRef) : Prop :=
  ∀ p r', k.sessionHash.lookup p = some r' → ∃ data lstm,
    k.sessions[r']? = some data ∧ p = hashKey data.sessionId ∧
    k.stmHash.lookup (gQuarkFromString data.name) = some lstm ∧
    keyagentSessionLookupSwktype data.swkType ≠ none ∧
    (r' ≠ r → lstm.session = some r' ∧ ∀ d, k.sessions[r]? = some d → d.name ≠ data.name)

/-- The same of every session. -/
def SessionsCurrent (k : Keyagent) : Prop :=
  ∀ p r, k.sessionHash.lookup p = some r → ∃ data lstm,
    k.sessions[r]? = some data ∧ p = hashKey data.sessionId ∧
    k.stmHash.lookup (gQuarkFromString data.name) = some lstm ∧
    keyagentSessionLookupSwktype data.swkType ≠ none ∧ lstm.session = some r

theorem SessionsCurrent.of_empty {k : Keyagent} (h : k.sessionHash = ∅) : SessionsCurrent k := by
  intro p r hr
  rw [h] at hr
  simp at hr

theorem SessionsCurrent.of_cacheEq {k k' : Keyagent} (h : SessionsCurrent k)
    (hc : CacheEq k k') : SessionsCurrent k' := by
  intro p r hr
  rw [hc.sessionHash] at hr
  obtain ⟨data, lstm, hd, hp, hl, ht, hcur⟩ := h p r hr
  obtain ⟨data', hd', he⟩ := hc.session hd
  obtain ⟨-, hn, hi, hty⟩ := KeyagentSessionReal.uncached_eq he
  exact ⟨data', lstm, hd', by rw [hp, hi], by rw [hc.stmHash, hn, hl], by rw [hty]; exact ht, hcur⟩

theorem SessionsCurrentBut.of_cacheEq {k k' : Keyagent} {r : SessionRef}
    (h : SessionsCurrentBut k r) (hc : CacheEq k k') : SessionsCurrentBut k' r := by
  intro p r' hr
  rw [hc.sessionHash] at hr
  obtain ⟨data, lstm, hd, hp, hl, ht, hcur⟩ := h p r' hr
  obtain ⟨data', hd', he⟩ := hc.session hd
  obtain ⟨-, hn, hi, hty⟩ := KeyagentSessionReal.uncached_eq he
  refine ⟨data', lstm, hd', by rw [hp, hi], by rw [hc.stmHash, hn, hl], by rw [hty]; exact ht, ?_⟩
  intro hne
  refine ⟨(hcur hne).1, fun d hd => ?_⟩
  obtain ⟨d', hd', he'⟩ := hc.symm.session hd
  rw [hn, ← (KeyagentSessionReal.uncached_eq he').2.1]
  exact (hcur hne).2 d' hd'

/-- A session with a new swk keeps its name, its id and its type. -/
theorem modify_swk {l : List KeyagentSessionReal} {r' : SessionRef} {d : KeyagentSessionReal}
    (r : SessionRef) (swk : Bytes) (hd : l[r']? = some d) :
    ∃ d', (l.modify r fun s => { s with swk := swk })[r']? = some d' ∧ d'.name = d.name ∧
      d'.sessionId = d.sessionId ∧ d'.swkType = d.swkType := by
  rw [List.getElem?_modify, hd]
  by_cases h : r = r'
  · exact ⟨{ d with swk := swk }, by simp [h], rfl, rfl, rfl⟩
  · exact ⟨d, by simp [h], rfl, rfl, rfl⟩

/-- The crossing that matters: a session that stays behind does not belong to the STM of the call. -/
theorem SessionsCurrent.createSession {k : Keyagent} (h : SessionsCurrent k)
    {lstm : KeyagentStmReal} {session : KeyagentSessionReal}
    (hl : k.stmHash.lookup (gQuarkFromString session.name) = some lstm)
    (ht : keyagentSessionLookupSwktype session.swkType ≠ none) :
    SessionsCurrentBut (k.createSession lstm.session session)
      (k.createRef (k.sessionHash.lookup (hashKey session.sessionId))) := by
  intro q r' hr
  rw [Keyagent.createSession_lookup] at hr
  rw [Keyagent.createSession_sessions, Keyagent.createSession_stmHash]
  cases hf : k.sessionHash.lookup (hashKey session.sessionId) with
  | some r =>
    obtain ⟨dr, lr, hdr, hpr, hlr, htr, hcr⟩ := h _ r hf
    simp only [hf, Keyagent.createRef, Option.getD_some] at hr ⊢
    split at hr
    · next hq =>
      rw [Option.some.injEq] at hr
      subst hr
      obtain ⟨d', hd', hn, hi, hty⟩ := modify_swk r session.swk hdr
      refine ⟨d', lr, hd', ?_, by rw [hn, hlr], by rw [hty]; exact htr, fun hne => absurd rfl hne⟩
      rw [hq, hpr, hi]
    · split at hr
      · simp at hr
      · obtain ⟨data, lstm', hd, hp, hl', ht', hc'⟩ := h q r' hr
        obtain ⟨d', hd', hn, hi, hty⟩ := modify_swk r session.swk hd
        refine ⟨d', lstm', hd', by rw [hp, hi], by rw [hn, hl'], by rw [hty]; exact ht', ?_⟩
        intro hne
        refine ⟨hc', fun d hd₂ he => hne ?_⟩
        obtain ⟨d₂, hd₂', hn₂, -⟩ := modify_swk r session.swk hdr
        rw [hd₂] at hd₂'
        rw [← Option.some.inj hd₂', he, hn] at hn₂
        rw [hn₂, hlr] at hl'
        rw [← Option.some.inj hl', hcr] at hc'
        exact (Option.some.inj hc').symm
  | none =>
    simp only [hf, Keyagent.createRef, Option.getD_none] at hr ⊢
    split at hr
    · next hq =>
      rw [Option.some.injEq] at hr
      subst hr
      exact ⟨session, lstm, by simp, hq, hl, ht, fun hne => absurd rfl hne⟩
    · next hq =>
      split at hr
      · simp at hr
      · next hdisp =>
        obtain ⟨data, lstm', hd, hp, hl', ht', hc'⟩ := h q r' hr
        have hlt : r' < k.sessions.length := (List.getElem?_eq_some_iff.mp hd).1
        refine ⟨data, lstm', by rw [List.getElem?_append_left hlt, hd], hp, hl', ht', ?_⟩
        refine fun _ => ⟨hc', fun d hd₂ he => ?_⟩
        rw [List.getElem?_append_right (Nat.le_refl _), Nat.sub_self] at hd₂
        rw [← Option.some.inj hd₂] at he
        rw [← he, hl] at hl'
        rw [← Option.some.inj hl'] at hc'
        -- the session is the STM's current one, and it was not displaced
        refine hdisp ?_
        have hne : data.sessionId ≠ session.sessionId := fun hid => hq (by rw [hp, hid])
        simp [Keyagent.displaced, hc', hd, hne, hp]

/-- The session that was left out becomes the current one. -/
theorem SessionsCurrentBut.setCurrent {k : Keyagent} {r : SessionRef}
    (h : SessionsCurrentBut k r) {data : KeyagentSessionReal} (hd : k.sessions[r]? = some data)
    (requestId label : Bytes) : SessionsCurrent (k.setCurrent data.name requestId label r) := by
  intro p r' hr
  obtain ⟨d, lstm, hd', hp, hl, ht, hc⟩ := h p r' hr
  simp only [Keyagent.setCurrent, GHashTable.lookup_update]
  by_cases hne : r' = r
  · subst hne
    rw [hd] at hd'
    rw [Option.some.inj hd']
    exact ⟨d, { lstm with session := some r' }, by rw [hd, Option.some.inj hd'], hp,
      by rw [if_pos rfl, hl]; rfl, ht, rfl⟩
  · have hname : gQuarkFromString d.name ≠ gQuarkFromString data.name := by
      simpa [gQuarkFromString] using Ne.symm ((hc hne).2 data hd)
    exact ⟨d, lstm, hd', hp, by rw [if_neg hname, hl], ht, (hc hne).1⟩

/-! ## The operations -/

section Ops

variable {E : Step skcSig W} {s t u : World W}

/-- An unknown STM leaves the agent's variables alone. -/
theorem sat_unknown_setSession {label : Bytes} {d : KeyagentStmSessionDetails}
    {e : Option GError} {J : Keyagent → Prop} (h : J s.keyagent) :
    Sat (seqView E).logic (StmOps.unknown.setSession label d e) (fun _ v => J v.keyagent) s := by
  show Sat (seqView E).logic (.call (S := skcSig) (.stm (.setSession label d e)) pure) _ s
  refine sat_seq_call.mpr ⟨trivial, fun a v hv => sat_seq_pure.mpr ?_⟩
  have hk : v.keyagent = s.keyagent := (seqView E).ka_step hv fun _ => nofun
  rw [hk]
  exact h

theorem Keyagent.NoHeapKeys.of_keyHash {k k' : Keyagent} (h : k.NoHeapKeys) (hk : k'.keyHash = k.keyHash) :
    k'.NoHeapKeys := by
  intro x
  rw [hk]
  exact h x

/-- `keyagent_session_create` never changes `key_hash`. -/
theorem sat_sessionCreate_keyHash (hheap : s.keyagent.NoHeapKeys)
    {requestId label sessionId swk swkType : Bytes} {cacheId : Int} {error : Option GError} :
    Sat (seqView E).logic
      (keyagentSessionCreate .unknown requestId label sessionId swk swkType cacheId error)
      (fun _ v => v.keyagent.keyHash = s.keyagent.keyHash) s := by
  refine AgentView.sat_keyagentSessionCreate hheap (fun e => rfl) fun lstm err' t _ _ ht => ?_
  have hkt : t.keyagent.keyHash = s.keyagent.keyHash :=
    ht.sessionCacheEq.keyHash.trans (Keyagent.createSession_keyHash _ _ _)
  refine AgentView.sat_keyagentStmSetSession (fun _ _ _ _ => hkt) fun data lstm request _ _ _ => ?_
  exact sat_unknown_setSession (J := fun k => k.keyHash = s.keyagent.keyHash) hkt

/-- The request id of the operation is registered. -/
def RequestRegistered : TableOp → Keyagent → Prop
  | .sessionCreate requestId _ _ _ _ _ _, k => k.apimoduleLoadkeyHash.lookup requestId ≠ none
  | _, _ => True

/-- The tables are in order: what the operations need to find. -/
structure TablesInv (k : Keyagent) : Prop where
  noHeapKeys : k.NoHeapKeys
  current : SessionsCurrent k

theorem TablesInv.of_empty {k : Keyagent} (h : EmptyTables k) : TablesInv k where
  noHeapKeys x := by rw [h.keyHash, AList.lookup_empty]
  current := .of_empty h.sessionHash

/-- A session that was just created is known to its STM. -/
theorem SessionsCurrentBut.registered {k : Keyagent} {r : SessionRef} {p : Gpointer}
    (h : SessionsCurrentBut k r) (hp : k.sessionHash.lookup p = some r)
    {data : KeyagentSessionReal} (hd : k.sessions[r]? = some data) :
    k.stmHash.lookup (gQuarkFromString data.name) ≠ none := by
  obtain ⟨d, lstm, hd', -, hl, -⟩ := h p r hp
  rw [hd] at hd'
  rw [Option.some.inj hd', hl]
  simp

/--
`keyagent_session_create` refuses the call, or stops at a request that is not registered, or the
session is in the table and current.
-/
theorem sat_sessionCreate_cases (hs : TablesInv s.keyagent)
    {requestId label sessionId swk swkType : Bytes} {cacheId : Int} {error : Option GError} :
    Sat (seqView E).logic
      (keyagentSessionCreate .unknown requestId label sessionId swk swkType cacheId error)
      (fun r v => (∃ e, r = (false, some e) ∧ (v.keyagent = s.keyagent ∨
          s.keyagent.apimoduleLoadkeyHash.lookup requestId = none)) ∨
        (TablesInv v.keyagent ∧ v.keyagent.sessionHash.lookup (hashKey sessionId) ≠ none)) s := by
  refine AgentView.sat_keyagentSessionCreate hs.noHeapKeys (fun e => .inl ⟨e, rfl, .inl rfl⟩)
    fun lstm err' t hty hl ht => ?_
  have hc : SessionCacheEq (s.keyagent.createSession lstm.session
      ⟨swk, label, sessionId, swkType, cacheId⟩) t.keyagent := ht.sessionCacheEq
  have hnew : SessionsCurrentBut (s.keyagent.createSession lstm.session
      ⟨swk, label, sessionId, swkType, cacheId⟩) _ := hs.current.createSession hl hty
  have hbut := hnew.of_cacheEq hc.toCacheEq
  have hheap : t.keyagent.NoHeapKeys :=
    hs.noHeapKeys.of_keyHash (hc.keyHash.trans (Keyagent.createSession_keyHash _ _ _))
  have hin : t.keyagent.sessionHash.lookup (hashKey sessionId)
      = some (s.keyagent.createRef (s.keyagent.sessionHash.lookup (hashKey sessionId))) := by
    rw [hc.sessionHash]
    exact (Keyagent.createSession_lookup _ _ _ _).trans (if_pos rfl)
  -- between the new session and `setSession` the table is right but for the STM's own session
  refine AgentView.sat_keyagentStmSetSession ?_ ?_
  · rintro data e hd (hnone | hnone)
    · exact absurd hnone (hbut.registered hin hd)
    · have hreq : t.keyagent.apimoduleLoadkeyHash = s.keyagent.apimoduleLoadkeyHash :=
        hc.requests.trans (Keyagent.createSession_requests _ _ _)
      exact .inl ⟨e, rfl, .inr (hreq ▸ hnone)⟩
  · intro data lstm request hd _ _
    refine Sat.mono (sat_unknown_setSession (J := fun k => TablesInv k ∧
      k.sessionHash.lookup (hashKey sessionId) ≠ none) ?_) fun _ _ h => .inr h
    refine ⟨⟨hheap, hbut.setCurrent hd requestId lstm.label⟩, ?_⟩
    show t.keyagent.sessionHash.lookup (hashKey sessionId) ≠ none
    rw [hin]
    simp

theorem sat_sessionCreate_tables (hs : TablesInv s.keyagent)
    {requestId label sessionId swk swkType : Bytes} {cacheId : Int} {error : Option GError}
    (hreq : s.keyagent.apimoduleLoadkeyHash.lookup requestId ≠ none) :
    Sat (seqView E).logic
      (keyagentSessionCreate .unknown requestId label sessionId swk swkType cacheId error)
      (fun _ v => TablesInv v.keyagent) s := by
  refine (sat_sessionCreate_cases hs).mono ?_
  rintro r v (⟨e, -, hk | hnone⟩ | ⟨hv, -⟩)
  · exact hk ▸ hs
  · exact absurd hnone hreq
  · exact hv

theorem sat_keyCreate_tables (hs : TablesInv s.keyagent) {url : Bytes} {type : KeyagentKeytype}
    {attrs : Option KAttributes} {sessionId : Option Bytes} {cacheId : Int}
    {error : Option GError} :
    Sat (seqView E).logic
      (keyagentKeyCreateWithCacheid url type attrs sessionId cacheId error)
      (fun _ v => TablesInv v.keyagent) s := by
  refine AgentView.sat_keyagentKeyCreateWithCacheid (fun _ _ => hs) ?_ ?_
  · intro key err' t _ ht
    exact ⟨hs.noHeapKeys.of_cacheEq ht.cacheEq, hs.current.of_cacheEq ht.cacheEq⟩
  · intro a id r err' t _ _ _ _ ht
    refine ⟨(hs.noHeapKeys.insertKey _).of_cacheEq ht.cacheEq, ?_⟩
    exact SessionsCurrent.of_cacheEq (k := s.keyagent.insertKey _) hs.current ht.cacheEq

/-- **Every state of a run has its tables in order.** -/
theorem TableReach.tablesInv (h : TableReach E RequestRegistered s t)
    (hs : TablesInv s.keyagent) : TablesInv t.keyagent := by
  refine h.invariant (fun o u ho hu => ?_) hs
  cases o with
  | sessionCreate requestId label sessionId swk swkType cacheId error =>
    rw [TableOp.prog, map_eq_pure_bind]
    exact (sat_sessionCreate_tables hu ho).bind fun _ v hv => sat_seq_pure.mpr hv
  | keyCreate url type attrs sessionId cacheId error =>
    rw [TableOp.prog, map_eq_pure_bind]
    exact (sat_keyCreate_tables hu).bind fun _ v hv => sat_seq_pure.mpr hv
  | requestInsert requestId request =>
    exact (AgentView.sat_modifyKeyagent' (V := seqView E)).mpr ⟨hu.noHeapKeys, hu.current⟩
  | requestRemove requestId =>
    exact (AgentView.sat_modifyKeyagent' (V := seqView E)).mpr ⟨hu.noHeapKeys, hu.current⟩

/-! ## What is told to KBS -/

/-- `__keyagent_session_get_ids`, from the sessions it lists. -/
def advertised (l : List KeyagentSessionReal) : Option Bytes :=
  let ids := l.foldl (fun ids s =>
    (if ids = [] then ids else ids ++ lit ",") ++ (s.name ++ lit ":" ++ s.sessionId)) []
  if ids = [] then none else some ids

/-- The sessions of `session_hash`, in the order of the table. -/
def Keyagent.storedSessions (k : Keyagent) : List KeyagentSessionReal :=
  k.sessionHash.values.filterMap (k.sessions[·]?)

/-- A list of valid pointers is a list of sessions. -/
theorem foldl_getSessionIds {sessions : List KeyagentSessionReal} {l : List SessionRef}
    (hl : ∀ r ∈ l, ∃ d, sessions[r]? = some d) (acc : Bytes) :
    l.foldl (getSessionIds sessions) acc =
      (l.filterMap (sessions[·]?)).foldl (fun ids s =>
        (if ids = [] then ids else ids ++ lit ",") ++ (s.name ++ lit ":" ++ s.sessionId)) acc := by
  induction l generalizing acc with
  | nil => rfl
  | cons r rest ih =>
    obtain ⟨d, hd⟩ := hl r List.mem_cons_self
    rw [List.filterMap_cons_some hd, List.foldl_cons, List.foldl_cons,
      ih fun r hr => hl r (List.mem_cons_of_mem _ hr)]
    simp only [getSessionIds, hd]

/-- The entry of a session. -/
def KeyagentSessionReal.entry (s : KeyagentSessionReal) : Bytes := s.name ++ lit ":" ++ s.sessionId

theorem KeyagentSessionReal.entry_ne_nil (s : KeyagentSessionReal) : s.entry ≠ [] := by
  simp [entry, lit]

/-- The list is put together from the left; no entry is empty, so a comma stands between two. -/
theorem foldl_entry (l : List KeyagentSessionReal) :
    l.foldl (fun ids s =>
      (if ids = [] then ids else ids ++ lit ",") ++ (s.name ++ lit ":" ++ s.sessionId)) []
      = gStrjoin 44 (l.map KeyagentSessionReal.entry) := by
  induction l using List.reverseRecOn with
  | nil => rfl
  | append_singleton l s ih =>
    rw [List.foldl_append, ih, List.map_append, List.foldl_cons, List.foldl_nil]
    by_cases hl : l = []
    · simp [hl, gStrjoin, KeyagentSessionReal.entry]
    · have hne : gStrjoin 44 (l.map KeyagentSessionReal.entry) ≠ [] := by
        intro h
        obtain ⟨s', rest, rfl⟩ := List.exists_cons_of_ne_nil hl
        have hlen := length_le_gStrjoin 44
          (List.mem_map_of_mem (f := KeyagentSessionReal.entry) (List.mem_cons_self (a := s') (l := rest)))
        rw [h] at hlen
        exact s'.entry_ne_nil (List.length_eq_zero_iff.mp (Nat.le_zero.mp hlen))
      rw [if_neg hne, List.map_singleton, gStrjoin_snoc 44 _ (by simpa using hl)]
      simp [KeyagentSessionReal.entry, lit]

theorem SessionsCurrent.valid {k : Keyagent} (h : SessionsCurrent k) {r : SessionRef}
    (hr : r ∈ k.sessionHash.values) : ∃ d, k.sessions[r]? = some d := by
  obtain ⟨p, hp⟩ := GHashTable.mem_values.mp hr
  obtain ⟨data, -, hd, -⟩ := h p r hp
  exact ⟨data, hd⟩

/-- Two sessions of the table never name the same STM. -/
theorem SessionsCurrent.names_nodup {k : Keyagent} (h : SessionsCurrent k) :
    (k.storedSessions.map (·.name)).Nodup := by
  have hmem : ∀ e ∈ k.sessionHash.entries, k.sessionHash.lookup e.1 = some e.2 := fun e he =>
    AList.mem_lookup_iff.mpr he
  have hvalues : k.storedSessions.map (·.name)
      = k.sessionHash.entries.map fun e => ((k.sessions[e.2]?).map (·.name)).getD [] := by
    rw [Keyagent.storedSessions, GHashTable.values, List.filterMap_map, List.map_filterMap]
    refine List.filterMap_eq_map_iff_forall_eq_some.mpr fun e he => ?_
    obtain ⟨data, -, hd, -⟩ := h e.1 e.2 (hmem e he)
    simp [hd]
  rw [hvalues]
  refine List.Nodup.map_on (fun e he e' he' hn => ?_) k.sessionHash.nodupKeys.nodup
  obtain ⟨d, lstm, hd, hp, hs, -, hc⟩ := h e.1 e.2 (hmem e he)
  obtain ⟨d', lstm', hd', hp', hs', -, hc'⟩ := h e'.1 e'.2 (hmem e' he')
  simp only [hd, hd', Option.map_some, Option.getD_some] at hn
  rw [hn, hs'] at hs
  rw [← Option.some.inj hs, hc', Option.some.injEq] at hc
  rw [← hc, hd'] at hd
  rw [← Option.some.inj hd, ← hp'] at hp
  obtain ⟨p, r⟩ := e
  obtain ⟨p', r'⟩ := e'
  simp only at hp hc
  rw [hp, hc]

/--
**The sessions of the table are current.** What is told to KBS are these sessions, in some order, each of
another STM; and a key that is new is bound to the current session of its STM.
-/
theorem sessions_current (hs : EmptyTables s.keyagent) (h : TableReach E RequestRegistered s t) :
    SessionsCurrent t.keyagent ∧
    (∀ ids u, Runs (sysStep E 0) keyagentSessionGetIds t ids u →
      ∃ l : List KeyagentSessionReal, l.Perm t.keyagent.storedSessions ∧ (l.map (·.name)).Nodup ∧
        ids = advertised l) ∧
    (∀ url type attrs sessionId cacheId error result u,
      Runs (sysStep E 0) (keyagentKeyCreateWithCacheid url type attrs sessionId cacheId error) t
        result u →
      ∀ p key, t.keyagent.keyHash.lookup p = none → u.keyagent.keyHash.lookup p = some key →
        ∃ r data lstm, key.session = some r ∧ u.keyagent.sessions[r]? = some data ∧
          u.keyagent.stmHash.lookup (gQuarkFromString data.name) = some lstm ∧
          lstm.session = some r) := by
  have ht : TablesInv t.keyagent := h.tablesInv (.of_empty hs)
  refine ⟨ht.current, fun ids u hu => ?_, fun url type attrs sessionId cacheId error result u hu => ?_⟩
  · refine seqView_runs (Q := fun ids _ => ∃ l : List KeyagentSessionReal,
      l.Perm t.keyagent.storedSessions ∧ (l.map (·.name)).Nodup ∧ ids = advertised l) ?_ hu
    refine AgentView.sat_sessionGetIds (V := seqView E) fun l hl => ?_
    have hperm : (l.filterMap (t.keyagent.sessions[·]?)).Perm t.keyagent.storedSessions :=
      hl.filterMap _
    refine ⟨_, hperm, (hperm.map _).nodup_iff.mpr ht.current.names_nodup, ?_⟩
    rw [advertised, ← foldl_getSessionIds fun r hr => ht.current.valid (hl.mem_iff.mp hr)]
    rfl
  · refine seqView_runs (Q := fun _ u => ∀ p key,
      t.keyagent.keyHash.lookup p = none → u.keyagent.keyHash.lookup p = some key →
      ∃ r data lstm, key.session = some r ∧ u.keyagent.sessions[r]? = some data ∧
        u.keyagent.stmHash.lookup (gQuarkFromString data.name) = some lstm ∧
        lstm.session = some r) ?_ hu
    refine AgentView.sat_keyagentKeyCreateWithCacheid (V := seqView E) ?_ ?_ ?_
    · intro e _ p key hp hp'
      rw [hp] at hp'
      simp at hp'
    · intro _ _ v _ hv p key hp hp'
      obtain ⟨key', hk', -⟩ := hv.cacheEq.key hp'
      exact absurd (hp.symm.trans hk') (by simp)
    -- a new key: its session is in the table, so it is the current one of its STM
    · intro a id r err' v _ _ _ hr hv p key hp hp'
      have hc : CacheEq (t.keyagent.insertKey ⟨url, type, some r, a, cacheId⟩) v.keyagent :=
        hv.cacheEq
      obtain ⟨key', hk', he⟩ := hc.key hp'
      rw [Keyagent.insertKey_lookup] at hk'
      split at hk'
      · rw [Option.some.injEq] at hk'
        obtain ⟨-, -, hses, -⟩ := KeyagentKeyReal.uncached_eq he
        obtain ⟨data, lstm, hd, -, hl, -, hcur⟩ := ht.current _ r hr
        obtain ⟨data', hd', he'⟩ := hc.session (r := r) hd
        obtain ⟨-, hn, -, -⟩ := KeyagentSessionReal.uncached_eq he'
        refine ⟨r, data', lstm, ?_, hd', ?_, hcur⟩
        · rw [← hses, ← hk']
        · rw [hc.stmHash, hn]; exact hl
      · exact absurd (hp.symm.trans hk') (by simp)

end Ops

/-! ## A run -/

/-- An agent with the SGX module and one request. -/
def sgxAgent : Keyagent where
  stmHash := AList.insert ⟨lit "SGX"⟩ ⟨lit "SGX", true, true, none⟩ ∅
  keyHash := ∅
  sessionHash := ∅
  apimoduleLoadkeyHash := AList.insert (lit "request") ⟨none, lit "KMS", none⟩ ∅
  apimoduleEnabled := true
  sessions := []
  localcache := ⟨false, false, 0, none, none⟩

/-- The process around it. -/
def sgxWorld : World Unit := ⟨sgxAgent, ⟨∅, [], 1⟩, none, ()⟩

/-- An STM that accepts every session. -/
def acceptingStm : (c : Call) → Unit → Option (c.Ans × Unit)
  | .stm (.setSession _ _ err), _ => some ((true, err), ())
  | _, _ => none

/-- The surroundings with that STM. -/
def acceptingStep : Step skcSig Unit := fun c w a w' => acceptingStm c w = some (a, w')

/-- An agent with another module. -/
def twoStmsWorld : World Unit :=
  ⟨{ sgxAgent with
      stmHash := AList.insert ⟨lit "SW"⟩ ⟨lit "SW", true, true, none⟩ sgxAgent.stmHash },
    ⟨∅, [], 1⟩, none, ()⟩

/-- A session for a module. -/
def createSessionFor (label sessionId : Bytes) : TableOp :=
  .sessionCreate (lit "request") label sessionId [1] (lit "AES256-GCM") (-1) none

/-- A session for the SGX module. -/
def createSgxSession (sessionId : Bytes) : TableOp := createSessionFor (lit "SGX") sessionId

/-- A key of a session. -/
def createKmsKey (sessionId : Bytes) : Skc (Option GQuark × Option GError) :=
  keyagentKeyCreateWithCacheid (lit "KMS:1") .rsakey (some (AList.insert keyagentAttrKeydata [] ∅))
    (some sessionId) (-1) none

/-- The same as an operation. -/
def createKeyOf (sessionId : Bytes) : TableOp :=
  .keyCreate (lit "KMS:1") .rsakey (some (AList.insert keyagentAttrKeydata [] ∅)) (some sessionId)
    (-1) none

theorem TableReach.of_serial {E : Step skcSig W} {allow : TableOp → Keyagent → Prop} {s t : World W}
    (h : Serial (sysStep E 0) TableOp.prog (fun o t => allow o t.keyagent) s t) :
    TableReach E allow s t := by
  induction h with
  | refl => exact .refl
  | run _ ho hrun ih => exact ih.op ho hrun

/-- Operations, one after the other, as long as they meet the condition. -/
def runOps (h : (c : Call) → Unit → Option (c.Ans × Unit)) (allow : TableOp → Keyagent → Prop)
    [∀ o k, Decidable (allow o k)] : List TableOp → World Unit → Option (World Unit) :=
  Prog.runSerial (sysHandler h 0) TableOp.prog fun o s => allow o s.keyagent

theorem runOps_reach {h : (c : Call) → Unit → Option (c.Ans × Unit)}
    {allow : TableOp → Keyagent → Prop} [∀ o k, Decidable (allow o k)] {ops : List TableOp}
    {s t : World Unit} (ht : runOps h allow ops s = some t) :
    TableReach (fun c w a w' => h c w = some (a, w')) allow s t :=
  TableReach.of_serial (Prog.runSerial_serial sysHandler_answers .refl ht)

/-- A single operation. -/
theorem runOps_single {h : (c : Call) → Unit → Option (c.Ans × Unit)}
    {allow : TableOp → Keyagent → Prop} [∀ o k, Decidable (allow o k)] {o : TableOp}
    {t u : World Unit} (hu : runOps h allow [o] t = some u) :
    allow o t.keyagent ∧ Runs (sysStep (fun c w a w' => h c w = some (a, w')) 0) o.prog t () u := by
  rw [runOps, Prog.runSerial] at hu
  split at hu
  · next ho =>
    obtain ⟨r, hrun, hend⟩ := Option.bind_eq_some_iff.mp hu
    obtain rfl := Option.some.inj hend
    exact ⟨ho, Prog.run_runs sysHandler_answers hrun⟩
  · cases hu

instance (o : TableOp) (k : Keyagent) : Decidable (RequestRegistered o k) :=
  match o with
  | .sessionCreate requestId _ _ _ _ _ _ =>
    inferInstanceAs (Decidable (k.apimoduleLoadkeyHash.lookup requestId ≠ none))
  | .keyCreate _ _ _ _ _ _ => isTrue trivial
  | .requestInsert _ _ => isTrue trivial
  | .requestRemove _ => isTrue trivial

/-- Of three sessions one is replaced; then KBS is told of the other two, and a key is created. -/
def threeSessions : List TableOp :=
  [createSgxSession (lit "a"), createSessionFor (lit "SW") (lit "s"), createSgxSession (lit "b")]

theorem sessions_current_sgx : ∃ (t u v : World Unit) (key : KeyagentKeyReal),
    TableReach acceptingStep RequestRegistered twoStmsWorld t ∧ SessionsCurrent t.keyagent ∧
    t.keyagent.sessionHash.values = [2, 1] ∧
    Runs (sysStep acceptingStep 0) keyagentSessionGetIds t (some (lit "SGX:b,SW:s")) u ∧
    (∃ l : List KeyagentSessionReal, l.Perm t.keyagent.storedSessions ∧ (l.map (·.name)).Nodup ∧
      some (lit "SGX:b,SW:s") = advertised l) ∧
    Runs (sysStep acceptingStep 0) (createKmsKey (lit "b")) t
      (some (gQuarkFromString (lit "KMS:1")), none) v ∧
    v.keyagent.keyHash.lookup (hashKey (lit "KMS:1")) = some key ∧
    ∃ r data lstm, key.session = some r ∧ v.keyagent.sessions[r]? = some data ∧
      v.keyagent.stmHash.lookup (gQuarkFromString data.name) = some lstm ∧
      lstm.session = some r := by
  have hops : (runOps acceptingStm RequestRegistered threeSessions twoStmsWorld).map (fun t =>
      (t.keyagent.sessionHash.values, (t.keyagent.keyHash.lookup (hashKey (lit "KMS:1"))).isNone))
      = some ([2, 1], true) := by decide +kernel
  have hids : (runOps acceptingStm RequestRegistered threeSessions twoStmsWorld).bind (fun t =>
      (keyagentSessionGetIds.run (sysHandler acceptingStm 0) t).map (·.1))
      = some (some (lit "SGX:b,SW:s")) := by decide +kernel
  have hkey : (runOps acceptingStm RequestRegistered threeSessions twoStmsWorld).bind (fun t =>
      ((createKmsKey (lit "b")).run (sysHandler acceptingStm 0) t).map fun r =>
        (r.1, (r.2.keyagent.keyHash.lookup (hashKey (lit "KMS:1"))).isSome))
      = some ((some (gQuarkFromString (lit "KMS:1")), none), true) := by decide +kernel
  obtain ⟨t, ht, hv⟩ := Option.map_eq_some_iff.mp hops
  rw [ht, Option.bind_some] at hids hkey
  obtain ⟨hvalues, hmiss⟩ := Prod.mk.inj hv
  obtain ⟨⟨ids, u⟩, hu, rfl⟩ := Option.map_eq_some_iff.mp hids
  obtain ⟨⟨result, v⟩, hv, hsome⟩ := Option.map_eq_some_iff.mp hkey
  obtain ⟨rfl, hsome⟩ := Prod.mk.inj hsome
  obtain ⟨key, hkey⟩ := Option.isSome_iff_exists.mp hsome
  have hreach : TableReach acceptingStep RequestRegistered twoStmsWorld t := runOps_reach ht
  have hgetIds := Prog.run_runs (R := sysStep acceptingStep 0) sysHandler_answers hu
  have hcreate := Prog.run_runs (R := sysStep acceptingStep 0) sysHandler_answers hv
  obtain ⟨hcurrent, hlisted, hbound⟩ := sessions_current ⟨rfl, rfl⟩ hreach
  exact ⟨t, u, v, key, hreach, hcurrent, hvalues, hgetIds, hlisted _ u hgetIds, hcreate, hkey,
    hbound _ _ _ _ _ _ _ v hcreate _ key (Option.isNone_iff_eq_none.mp hmiss) hkey⟩

end SkcLibrary
