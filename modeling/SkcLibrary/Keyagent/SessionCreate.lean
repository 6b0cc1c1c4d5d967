import SkcLibrary.Keyagent.KeysBound

/-!
# What `keyagent_session_create` leaves behind

The session is looked up by its id, the old one is dropped by its label, and the new one is installed
under the name it has. Where these disagree a call that succeeds does not do what its arguments say,
and a call that fails has already changed what it found.

* `session_installed` — the calls that succeed and install the session they were given
* `session_unchanged` — the calls that fail and change nothing
-/

namespace SkcLibrary

open Interaction

variable {W : Type}

/-! ## A call that succeeds -/

/-- The current session of the STM with the given label. -/
def Keyagent.currentOf (k : Keyagent) (label : Bytes) : Option SessionRef :=
  (k.stmHash.lookup (gQuarkFromString label)).bind (·.session)

/-- The session is installed, and besides the label's previous session nothing has changed. -/
structure Installed (k k' : Keyagent) (label sessionId swk swkType : Bytes) : Prop where
  session : ∃ r data, k'.sessionHash.lookup (hashKey sessionId) = some r ∧
    k'.sessions[r]? = some data ∧ data.name = label ∧ data.swkType = swkType ∧ data.swk = swk ∧
    k'.currentOf label = some r
  others : ∀ p, p ≠ hashKey sessionId →
    k'.sessionHash.lookup p = (k.sessionHash.lookup p).filter (k.currentOf label ≠ some ·)
  stms : ∀ name, name ≠ label → k'.currentOf name = k.currentOf name

/--
A session that is there already under the id has the label and the type of the call, and the id of
the label's previous session has not come to be another session's.
-/
structure FitsSession (k : Keyagent) (label sessionId swkType : Bytes) : Prop where
  found : ∀ r data, k.sessionHash.lookup (hashKey sessionId) = some r →
    k.sessions[r]? = some data → data.name = label ∧ data.swkType = swkType
  previous : ∀ r r' data, k.currentOf label = some r → k.sessions[r]? = some data →
    data.sessionId ≠ sessionId → k.sessionHash.lookup (hashKey data.sessionId) = some r' → r' = r

/--
What a call that succeeds has done, from what it found: `d` is the session under the id of the
call, which keeps the name and the type it had if it was there before.
-/
structure Created (k k' : Keyagent) (current : Option SessionRef)
    (session d : KeyagentSessionReal) : Prop where
  lookup : ∀ p, k'.sessionHash.lookup p =
    if p = hashKey session.sessionId then
      some (k.createRef (k.sessionHash.lookup (hashKey session.sessionId)))
    else if (k.displaced current session.sessionId).any (fun d => p = hashKey d.sessionId) then none
    else k.sessionHash.lookup p
  data : k'.sessions[k.createRef (k.sessionHash.lookup (hashKey session.sessionId))]? = some d
  swk : d.swk = session.swk
  found : (∃ r found, k.sessionHash.lookup (hashKey session.sessionId) = some r ∧
      k.sessions[r]? = some found ∧ d.name = found.name ∧ d.swkType = found.swkType) ∨
    (k.sessionHash.lookup (hashKey session.sessionId) = none ∧ d.name = session.name ∧
      d.swkType = session.swkType)
  current : k'.currentOf d.name
    = some (k.createRef (k.sessionHash.lookup (hashKey session.sessionId)))
  stms : ∀ name, name ≠ d.name → k'.currentOf name = k.currentOf name

/-- The session of the call: the swk is new, the rest only if none was found. -/
theorem Keyagent.createSession_session {k : Keyagent} (current : Option SessionRef)
    (session : KeyagentSessionReal)
    (h : ∀ r, k.sessionHash.lookup (hashKey session.sessionId) = some r →
      ∃ d, k.sessions[r]? = some d) :
    ∃ d, (k.createSession current session).sessions[k.createRef
        (k.sessionHash.lookup (hashKey session.sessionId))]? = some d ∧ d.swk = session.swk ∧
      ((∃ r found, k.sessionHash.lookup (hashKey session.sessionId) = some r ∧
          k.sessions[r]? = some found ∧ d.name = found.name ∧ d.swkType = found.swkType) ∨
        (k.sessionHash.lookup (hashKey session.sessionId) = none ∧ d.name = session.name ∧
          d.swkType = session.swkType)) := by
  rw [Keyagent.createSession_sessions]
  cases hf : k.sessionHash.lookup (hashKey session.sessionId) with
  | none => exact ⟨session, by simp [Keyagent.createRef], rfl, .inr ⟨rfl, rfl, rfl⟩⟩
  | some r =>
    obtain ⟨found, hd⟩ := h r hf
    refine ⟨{ found with swk := session.swk }, ?_, rfl, .inl ⟨r, found, rfl, hd, rfl, rfl⟩⟩
    simp [Keyagent.createRef, hd]

/-- The session is created, then the STM it names gets it. -/
theorem Created.of_setCurrent {k k' : Keyagent} (h : SessionsCurrent k)
    {current : Option SessionRef} {session data : KeyagentSessionReal} {requestId stmLabel : Bytes}
    (hc : SessionCacheEq (k.createSession current session) k')
    (hd : k'.sessions[k.createRef (k.sessionHash.lookup (hashKey session.sessionId))]? = some data)
    {lstm : KeyagentStmReal} (hl : k'.stmHash.lookup (gQuarkFromString data.name) = some lstm) :
    Created k (k'.setCurrent data.name requestId stmLabel
      (k.createRef (k.sessionHash.lookup (hashKey session.sessionId)))) current session data := by
  obtain ⟨d, hd', hswk, hfound⟩ := Keyagent.createSession_session current _ fun r hr =>
    h.valid (GHashTable.mem_values.mpr ⟨_, hr⟩)
  obtain ⟨data', hdata', he⟩ := hc.toCacheEq.session hd'
  rw [hd, Option.some.injEq] at hdata'
  subst hdata'
  obtain ⟨hswk', hname', -, htype'⟩ := KeyagentSessionReal.uncached_eq he
  rw [← hname', ← htype'] at hfound
  refine ⟨fun p => ?_, hd, hswk'.trans hswk, hfound, ?_, fun name hne => ?_⟩
  · show k'.sessionHash.lookup p = _
    rw [hc.sessionHash]
    exact Keyagent.createSession_lookup _ _ _ _
  · rw [Keyagent.currentOf, Keyagent.setCurrent, GHashTable.lookup_update, if_pos rfl, hl]
    rfl
  · rw [Keyagent.currentOf, Keyagent.setCurrent, GHashTable.lookup_update,
      if_neg (by simpa [gQuarkFromString] using hne), hc.stmHash, Keyagent.createSession_stmHash]
    rfl

namespace Created

variable {k k' : Keyagent} {session data : KeyagentSessionReal}

/-- The label's previous session leaves the table, and nothing else does. -/
theorem others (hcr : Created k k' (k.currentOf session.name) session data) (h : SessionsCurrent k)
    (hfits : FitsSession k session.name session.sessionId session.swkType) {p : Gpointer}
    (hp : p ≠ hashKey session.sessionId) :
    k'.sessionHash.lookup p
      = (k.sessionHash.lookup p).filter (k.currentOf session.name ≠ some ·) := by
  rw [hcr.lookup, if_neg hp]
  cases hlp : k.sessionHash.lookup p with
  | none => simp
  | some r =>
    obtain ⟨dr, lr, hdr, hpr, -⟩ := h p r hlp
    by_cases hcur : k.currentOf session.name = some r
    · have hne : dr.sessionId ≠ session.sessionId := fun he => hp (by rw [hpr, he])
      simp [Keyagent.displaced, hcur, hdr, hne, hpr, Option.filter]
    · -- the id is not the one of the previous session
      have hstay : (k.displaced (k.currentOf session.name) session.sessionId).any
          (fun d => p = hashKey d.sessionId) = false := by
        cases hdisp : k.displaced (k.currentOf session.name) session.sessionId with
        | none => rfl
        | some d =>
          obtain ⟨hd, hne⟩ := Option.filter_eq_some_iff.mp hdisp
          obtain ⟨cur, hc, hdc⟩ := Option.bind_eq_some_iff.mp hd
          rw [Option.any_some, decide_eq_false_iff_not]
          rintro rfl
          have hr := hfits.previous cur r d hc hdc (of_decide_eq_true hne) hlp
          exact hcur (by rw [hc, hr])
      rw [hstay, if_neg (by simp)]
      simp [Option.filter, hcur]

theorem installed (hcr : Created k k' (k.currentOf session.name) session data)
    (h : SessionsCurrent k)
    (hfits : FitsSession k session.name session.sessionId session.swkType) :
    Installed k k' session.name session.sessionId session.swk session.swkType := by
  have hname : data.name = session.name ∧ data.swkType = session.swkType := by
    rcases hcr.found with ⟨r, d, hr, hd, hn, ht⟩ | ⟨-, hn, ht⟩
    · obtain ⟨hn', ht'⟩ := hfits.found r d hr hd
      exact ⟨hn.trans hn', ht.trans ht'⟩
    · exact ⟨hn, ht⟩
  refine ⟨⟨_, data, ?_, hcr.data, hname.1, hname.2, hcr.swk, ?_⟩, ?_, ?_⟩
  · rw [hcr.lookup, if_pos rfl]
  · rw [← hname.1]
    exact hcr.current
  · exact fun p hp => hcr.others h hfits hp
  · intro name hne
    rw [← hname.1] at hne
    exact hcr.stms name hne

/-- A session found under the id keeps its name and type, and a foreign one under the id of the
previous session is lost. -/
theorem fits (hcr : Created k k' (k.currentOf session.name) session data)
    (hi : Installed k k' session.name session.sessionId session.swk session.swkType) :
    FitsSession k session.name session.sessionId session.swkType := by
  refine ⟨fun r d hr hd => ?_, fun r r' d hr hd hne hr' => ?_⟩
  · obtain ⟨r₁, data', hr₁, hd₁, hname, htype, -⟩ := hi.session
    rw [hcr.lookup, if_pos rfl, Option.some.injEq] at hr₁
    rw [← hr₁, hcr.data, Option.some.injEq] at hd₁
    subst hd₁
    rcases hcr.found with ⟨r₂, d₂, hr₂, hd₂, hn, ht⟩ | ⟨hnone, -⟩
    · rw [hr, Option.some.injEq] at hr₂
      rw [← hr₂, hd, Option.some.injEq] at hd₂
      rw [hd₂]
      exact ⟨hn.symm.trans hname, ht.symm.trans htype⟩
    · exact absurd (hr.symm.trans hnone) nofun
  · by_contra hne'
    have hp : hashKey d.sessionId ≠ hashKey session.sessionId := fun he =>
      hne (hashKey_injective he)
    have hdisp : k.displaced (k.currentOf session.name) session.sessionId = some d := by
      simp [Keyagent.displaced, hr, hd, hne]
    have hgone := hi.others _ hp
    rw [hcr.lookup, if_neg hp, hdisp, hr', hr] at hgone
    simp [Option.filter, Ne.symm hne'] at hgone

end Created

section

variable {E : Step skcSig W} {s t u : World W}
  {requestId label sessionId swk swkType : Bytes} {cacheId : Int} {error : Option GError}

/-- A call that succeeds has created its session. -/
theorem sat_sessionCreate_true (hs : TablesInv s.keyagent) :
    Sat (seqView E).logic
      (keyagentSessionCreate .unknown requestId label sessionId swk swkType cacheId error)
      (fun a v => a.1 = true → ∃ data, Created s.keyagent v.keyagent (s.keyagent.currentOf label)
        ⟨swk, label, sessionId, swkType, cacheId⟩ data) s := by
  refine AgentView.sat_keyagentSessionCreate hs.noHeapKeys (fun _ => nofun)
    fun lstm err' t _ hl ht => ?_
  have hcurrent : s.keyagent.currentOf label = lstm.session := by
    rw [Keyagent.currentOf, show s.keyagent.stmHash.lookup _ = some lstm from hl]
    rfl
  refine AgentView.sat_keyagentStmSetSession (fun _ _ _ _ => nofun) ?_
  intro data lstm' request hd hl' _
  rw [hcurrent]
  refine (sat_unknown_setSession (J := fun k => Created s.keyagent k lstm.session
    ⟨swk, label, sessionId, swkType, cacheId⟩ data) ?_).mono fun a v hv _ => ⟨data, hv⟩
  exact Created.of_setCurrent hs.current ht.sessionCacheEq hd hl'

/--
**A session that is created is installed** if and only if a session found under its id has the same
label and type, and the id of the label's previous session is not in use for another one.
-/
theorem session_installed (hs : EmptyTables s.keyagent) (ht : TableReach E RequestRegistered s t)
    {err : Option GError}
    (hu : Runs (sysStep E 0)
      (keyagentSessionCreate .unknown requestId label sessionId swk swkType cacheId error) t
      (true, err) u) :
    Installed t.keyagent u.keyagent label sessionId swk swkType ↔
      FitsSession t.keyagent label sessionId swkType := by
  have hinv : TablesInv t.keyagent := ht.tablesInv (.of_empty hs)
  obtain ⟨data, hcr⟩ := seqView_runs (sat_sessionCreate_true hinv) hu rfl
  let session : KeyagentSessionReal := ⟨swk, label, sessionId, swkType, cacheId⟩
  change Created t.keyagent u.keyagent (t.keyagent.currentOf session.name) session data at hcr
  constructor
  · intro hi
    exact hcr.fits hi
  · intro hfits
    exact hcr.installed hinv.current hfits

end

/-! ### A session that is created, and one with another type -/

/-- A session for the SGX module. -/
def createNamed (sessionId swkType : Bytes) : Skc (Bool × Option GError) :=
  keyagentSessionCreate .unknown (lit "request") (lit "SGX") sessionId [1] swkType (-1) none

/-- What is stored under an id. -/
def storedAs {α : Type} (k : Keyagent) (sessionId : Bytes) (f : KeyagentSessionReal → α) :
    Option α :=
  (k.sessionHash.lookup (hashKey sessionId)).bind fun r => k.sessions[r]?.map f

theorem storedAs_eq {α : Type} {k : Keyagent} {sessionId : Bytes} {r : SessionRef}
    {data : KeyagentSessionReal} {f : KeyagentSessionReal → α}
    (hr : k.sessionHash.lookup (hashKey sessionId) = some r) (hd : k.sessions[r]? = some data) :
    storedAs k sessionId f = some (f data) := by
  simp [storedAs, hr, hd]

instance (k : Keyagent) (label sessionId swkType : Bytes) :
    Decidable (FitsSession k label sessionId swkType) :=
  decidable_of_iff
    ((∀ r ∈ k.sessionHash.lookup (hashKey sessionId), ∀ data ∈ k.sessions[r]?,
      data.name = label ∧ data.swkType = swkType) ∧
    ∀ r ∈ k.currentOf label, ∀ data ∈ k.sessions[r]?, data.sessionId ≠ sessionId →
      ∀ r' ∈ k.sessionHash.lookup (hashKey data.sessionId), r' = r)
    ⟨fun h => ⟨fun r data hr hd => h.1 r hr data hd,
        fun r r' data hr hd hne hr' => h.2 r hr data hd hne r' hr'⟩,
      fun h => ⟨fun r hr data hd => h.found r data hr hd,
        fun r hr data hd hne r' hr' => h.previous r r' data hr hd hne hr'⟩⟩

/-- The label has a session already, and another STM has one. -/
theorem session_installed_sgx : ∃ t u : World Unit,
    TableReach acceptingStep RequestRegistered twoStmsWorld t ∧
    t.keyagent.currentOf (lit "SGX") = some 0 ∧ t.keyagent.currentOf (lit "SW") = some 1 ∧
    Runs (sysStep acceptingStep 0) (createNamed (lit "b") (lit "AES256-GCM")) t (true, none) u ∧
    Installed t.keyagent u.keyagent (lit "SGX") (lit "b") [1] (lit "AES256-GCM") ∧
    u.keyagent.sessionHash.values = [2, 1] := by
  have hops : (runOps acceptingStm RequestRegistered
      [createSgxSession (lit "a"), createSessionFor (lit "SW") (lit "s")] twoStmsWorld).map (fun t =>
      (t.keyagent.currentOf (lit "SGX"), t.keyagent.currentOf (lit "SW"),
        decide (FitsSession t.keyagent (lit "SGX") (lit "b") (lit "AES256-GCM"))))
      = some (some 0, some 1, true) := by decide +kernel
  have hcreate : (runOps acceptingStm RequestRegistered
      [createSgxSession (lit "a"), createSessionFor (lit "SW") (lit "s")] twoStmsWorld).bind (fun t =>
      ((createNamed (lit "b") (lit "AES256-GCM")).run (sysHandler acceptingStm 0) t).map fun r =>
        (r.1, r.2.keyagent.sessionHash.values))
      = some ((true, none), [2, 1]) := by decide +kernel
  obtain ⟨t, ht, hv⟩ := Option.map_eq_some_iff.mp hops
  rw [ht, Option.bind_some] at hcreate
  obtain ⟨hsgx, hv⟩ := Prod.mk.inj hv
  obtain ⟨hsw, hfits⟩ := Prod.mk.inj hv
  obtain ⟨⟨a, u⟩, hu, hv⟩ := Option.map_eq_some_iff.mp hcreate
  obtain ⟨rfl, hvalues⟩ := Prod.mk.inj hv
  have hreach : TableReach acceptingStep RequestRegistered twoStmsWorld t := runOps_reach ht
  have hruns := Prog.run_runs (R := sysStep acceptingStep 0) sysHandler_answers hu
  exact ⟨t, u, hreach, hsgx, hsw, hruns,
    (session_installed ⟨rfl, rfl⟩ hreach hruns).mpr (of_decide_eq_true hfits), hvalues⟩

/-- The session keeps the type it was created with. -/
theorem not_session_installed : ¬∀ (W : Type) (E : Step skcSig W) (s t u : World W)
    (requestId label sessionId swk swkType : Bytes) (cacheId : Int) (error err : Option GError),
    EmptyTables s.keyagent → TableReach E RequestRegistered s t →
    Runs (sysStep E 0)
      (keyagentSessionCreate .unknown requestId label sessionId swk swkType cacheId error) t
      (true, err) u →
    Installed t.keyagent u.keyagent label sessionId swk swkType := by
  intro h
  obtain ⟨t, ht, hv⟩ := Option.bind_eq_some_iff.mp (show
    ((runOps acceptingStm RequestRegistered [createSgxSession (lit "a")] sgxWorld).bind fun t =>
      ((createNamed (lit "a") (lit "AES128-GCM")).run (sysHandler acceptingStm 0) t).map
        fun r => (r.1, storedAs r.2.keyagent (lit "a") (·.swkType)))
      = some ((true, none), some (lit "AES256-GCM")) by decide +kernel)
  obtain ⟨⟨a, u⟩, hu, hv⟩ := Option.map_eq_some_iff.mp hv
  obtain ⟨rfl, htype⟩ := Prod.mk.inj hv
  have hreach : TableReach acceptingStep RequestRegistered sgxWorld t := runOps_reach ht
  have hruns := Prog.run_runs (R := sysStep acceptingStep 0) sysHandler_answers hu
  have hi := h Unit acceptingStep sgxWorld t u _ _ _ _ _ _ _ _ ⟨rfl, rfl⟩ hreach hruns
  obtain ⟨r, data, hr, hd, -, htype', -⟩ := hi.session
  rw [storedAs_eq hr hd, htype'] at htype
  exact absurd htype (by decide)

/-! ## A call that fails -/

/-- The sessions and the keys are what they were. -/
structure Unchanged (k k' : Keyagent) : Prop where
  sessionHash : k'.sessionHash = k.sessionHash
  keyHash : k'.keyHash = k.keyHash
  sessions : ∀ (r : SessionRef) (d : KeyagentSessionReal), k.sessions[r]? = some d →
    ∃ d', k'.sessions[r]? = some d' ∧ d'.swk = d.swk ∧
    d'.name = d.name ∧ d'.swkType = d.swkType
  stms : ∀ name, k'.currentOf name = k.currentOf name

/--
The call is refused for its type or its label. Or it finds a session with its id and its swk, which
the STM it names has already, if the call gets that far, and there is no other session to replace.
-/
def ChangesNothing (k : Keyagent) (requestId label sessionId swk swkType : Bytes) : Prop :=
  keyagentSessionLookupSwktype swkType = none ∨
  k.stmHash.lookup (gQuarkFromString label) = none ∨
  (k.replaced label sessionId swkType = none ∧
    ∃ r data, k.sessionHash.lookup (hashKey sessionId) = some r ∧ k.sessions[r]? = some data ∧
      data.swk = swk ∧ (k.apimoduleLoadkeyHash.lookup requestId = none ∨
        k.stmHash.lookup (gQuarkFromString data.name) = none ∨ k.currentOf data.name = some r))

/-- The pointers to sessions are pointers to sessions. -/
structure ValidSessions (k : Keyagent) : Prop where
  current : ∀ name r, k.currentOf name = some r → ∃ d, k.sessions[r]? = some d
  table : ∀ p r, k.sessionHash.lookup p = some r → ∃ d, k.sessions[r]? = some d

theorem Unchanged.refl (k : Keyagent) : Unchanged k k :=
  ⟨rfl, rfl, fun _ d hd => ⟨d, hd, rfl, rfl, rfl⟩, fun _ => rfl⟩

theorem Unchanged.of_cacheEq {k k' : Keyagent} (h : SessionCacheEq k k') : Unchanged k k' := by
  refine ⟨h.sessionHash, h.keyHash, fun r d hd => ?_, fun name => ?_⟩
  · obtain ⟨d', hd', he⟩ := h.toCacheEq.session hd
    obtain ⟨hswk, hname, -, htype⟩ := KeyagentSessionReal.uncached_eq he
    exact ⟨d', hd', hswk, hname, htype⟩
  · rw [Keyagent.currentOf, h.stmHash, Keyagent.currentOf]

/-- The STM gets the session it has. -/
theorem Unchanged.setCurrent {k k' : Keyagent} (h : Unchanged k k') {name requestId label : Bytes}
    {r : SessionRef}
    (hr : k.stmHash.lookup (gQuarkFromString name) = none ∨ k.currentOf name = some r)
    (hs : k'.stmHash = k.stmHash) : Unchanged k (k'.setCurrent name requestId label r) := by
  refine ⟨h.sessionHash, h.keyHash, h.sessions, fun name' => ?_⟩
  rw [Keyagent.currentOf, Keyagent.setCurrent, GHashTable.lookup_update, hs]
  split
  · next heq =>
    have hname : name' = name := by simpa [gQuarkFromString] using heq
    subst hname
    rcases hr with hnone | hr
    · rw [Keyagent.currentOf, hnone]
      rfl
    · obtain ⟨lstm, hl, hses⟩ := Option.bind_eq_some_iff.mp hr
      rw [hr, hl]
      rfl
  · rfl

/-- Nothing is dropped when there is nothing to drop. -/
theorem AgentView.sat_sessionReplaceCurrent_nothing {σ α : Type} {V : AgentView σ}
    {Q : α → σ → Prop} {s : σ} {current : Option SessionRef} {sessionId : Bytes} {f : Unit → Skc α}
    (h : ∀ d, (V.ka s).displaced current sessionId = some d →
      (V.ka s).sessionHash.lookup (hashKey d.sessionId) = none)
    (hf : Sat V.logic (f ()) Q s) :
    Sat V.logic (sessionReplaceCurrent current sessionId >>= f) Q s := by
  unfold sessionReplaceCurrent
  cases current with
  | none => simpa using hf
  | some cur =>
    simp only [bind_assoc, sat_keyagent, sat_deref]
    intro d hd
    split
    · next hne =>
      have hdisp : (V.ka s).displaced (some cur) sessionId = some d := by
        simpa [Keyagent.displaced, hd, Option.filter, gQuarkFromString] using hne
      simpa [sessionHashRemove, h d hdisp] using hf
    · simpa using hf

section

variable {E : Step skcSig W} {s t u : World W}
  {requestId label sessionId swk swkType : Bytes} {cacheId : Int} {error : Option GError}

/-- The STM is told of a session it has, or is not told. -/
theorem sat_stmSetSession_unchanged {k : Keyagent} {r : SessionRef} {data : KeyagentSessionReal}
    {err : Option GError} (hc : SessionCacheEq k s.keyagent) (hd : k.sessions[r]? = some data)
    (h : k.apimoduleLoadkeyHash.lookup requestId = none ∨
      k.stmHash.lookup (gQuarkFromString data.name) = none ∨ k.currentOf data.name = some r) :
    Sat (seqView E).logic (keyagentStmSetSession .unknown requestId r err)
      (fun _ v => Unchanged k v.keyagent) s := by
  have hu : Unchanged k s.keyagent := .of_cacheEq hc
  refine AgentView.sat_keyagentStmSetSession (fun _ _ _ _ => hu) ?_
  intro data' lstm request hd' _ hreq
  refine sat_unknown_setSession ?_
  obtain ⟨d, hdr, -, hname, -⟩ := hu.sessions r data hd
  have heq : data' = d := Option.some.inj (hd'.symm.trans hdr)
  show Unchanged k (s.keyagent.setCurrent data'.name requestId lstm.label r)
  rw [heq, hname]
  refine hu.setCurrent ?_ hc.stmHash
  rcases h with hnone | h
  · have hreq' : k.apimoduleLoadkeyHash.lookup requestId = some request := hc.requests ▸ hreq
    exact absurd (hreq'.symm.trans hnone) nofun
  · exact h

theorem Keyagent.updateOrInsert_same {k : Keyagent} {r : SessionRef}
    {data session : KeyagentSessionReal} (hd : k.sessions[r]? = some data)
    (hswk : data.swk = session.swk) : k.updateOrInsert (some r) session = k := by
  rw [Keyagent.updateOrInsert, ← hswk, Keyagent.setSwk_same hd]

theorem sat_sessionCreate_unchanged
    (h : ChangesNothing s.keyagent requestId label sessionId swk swkType) :
    Sat (seqView E).logic
      (keyagentSessionCreate .unknown requestId label sessionId swk swkType cacheId error)
      (fun _ v => Unchanged s.keyagent v.keyagent) s := by
  unfold keyagentSessionCreate
  rw [AgentView.sat_sessionLookup]
  split
  · exact sat_seq_pure.mpr (.refl _)
  · next type htype =>
    rw [AgentView.sat_stmGetByName]
    split
    · exact sat_seq_pure.mpr (.refl _)
    · next lstm hl =>
      have hl' : s.keyagent.stmHash.lookup (gQuarkFromString label) = some lstm := hl
      rcases h with hnone | hnone | ⟨hrep, r, data, hr, hd, hswk, hinst⟩
      · simp [htype] at hnone
      · simp [hl'] at hnone
      · refine AgentView.sat_sessionReplaceCurrent_nothing (fun d hdisp => ?_) ?_
        · -- what would be replaced is not in the table
          have hdisp' : s.keyagent.displaced lstm.session sessionId = some d := hdisp
          have hnone : s.keyagent.sessionHash.lookup (hashKey d.sessionId) = none := by
            simpa [Keyagent.replaced, htype, hl', hdisp'] using hrep
          exact hnone
        · refine AgentView.sat_sessionUpdateOrInsert (AgentView.sat_sessionCreateCache ?_)
          intro err' t ht
          have hk : (seqView E).ka s = s.keyagent := rfl
          rw [hk, hr, Keyagent.updateOrInsert_same hd hswk] at ht
          have hc : SessionCacheEq s.keyagent t.keyagent := ht.sessionCacheEq
          rw [hk, hr]
          exact sat_stmSetSession_unchanged hc hd hinst

/-! ### The run that fails -/

/-- Surroundings that refuse everything. -/
def refusingStep : Step skcSig Unit := fun c _ =>
  match c with
  | .insertRow _ => fun a _ => a ≠ none
  | .stm (.setSession _ _ _) => fun a _ => a.1 = false
  | _ => fun _ _ => False

/-- The old session goes, if its object is there. -/
theorem exists_runs_sessionReplaceCurrent {current : Option SessionRef} (sessionId : Bytes)
    (s : World W) (hcur : ∀ r, current = some r → ∃ d, s.keyagent.sessions[r]? = some d) :
    ∃ t, Runs (sysStep E 0) (sessionReplaceCurrent current sessionId) s () t ∧
      KeysRemoved (s.keyagent.replaceCurrent current sessionId) t.keyagent := by
  unfold sessionReplaceCurrent Keyagent.replaceCurrent
  cases current with
  | none => exact ⟨s, .pure _ _, .refl _⟩
  | some cur =>
    obtain ⟨d, hd⟩ := hcur cur rfl
    simp only [Option.bind_some, hd]
    by_cases hne : gQuarkFromString d.sessionId ≠ gQuarkFromString sessionId
    · have hremove : ∃ t, Runs (sysStep E 0) (sessionHashRemove (hashKey d.sessionId)) s () t ∧
          KeysRemoved (s.keyagent.eraseSession (hashKey d.sessionId)) t.keyagent := by
        unfold Keyagent.eraseSession
        cases hp : s.keyagent.sessionHash.lookup (hashKey d.sessionId) with
        | none =>
          refine ⟨s, runs_keyagent ?_, .refl _⟩
          rw [hp]
          exact .pure _ _
        | some session =>
          obtain ⟨_, t, ht, hgone⟩ := exists_runs_own (E := E) (i := 0) KeysRemoved.refl
            KeysRemoved.trans (AgentView.deleteKeys_issues KeysRemoved.removes
              (buildDeleteKeyList s.keyagent.keyHash.values session))
            { s with keyagent := { s.keyagent with
              sessionHash := s.keyagent.sessionHash.erase (hashKey d.sessionId) } }
          refine ⟨t, runs_keyagent ?_, hgone⟩
          rw [hp]
          exact runs_modifyKeyagent (runs_keyagent ht)
      obtain ⟨t, ht, hgone⟩ := hremove
      rw [if_pos hne]
      refine ⟨t, runs_keyagent (runs_deref hd ?_), hgone⟩
      rw [if_pos hne]
      exact ht
    · rw [if_neg hne]
      refine ⟨s, runs_keyagent (runs_deref hd ?_), .refl _⟩
      rw [if_neg hne]
      exact .pure _ _

theorem exists_runs_sessionUpdateOrInsert (found : Option SessionRef)
    (label sessionId swk swkType : Bytes) (cacheId : Int) (s : World W)
    (hfound : ∀ r, found = some r → ∃ d, s.keyagent.sessions[r]? = some d) :
    ∃ t, Runs (sysStep E 0) (sessionUpdateOrInsert found label sessionId swk swkType cacheId) s
        (s.keyagent.createRef found) t ∧ t.keyagent
      = s.keyagent.updateOrInsert found ⟨swk, label, sessionId, swkType, cacheId⟩ := by
  unfold sessionUpdateOrInsert
  cases found with
  | none => exact ⟨_, runs_keyagent (runs_modifyKeyagent (.pure _ _)), rfl⟩
  | some r =>
    obtain ⟨d, hd⟩ := hfound r rfl
    by_cases hswk : d.swk = swk
    · refine ⟨s, runs_keyagent (runs_deref hd ?_), (Keyagent.updateOrInsert_same hd hswk).symm⟩
      rw [if_neg (not_not.mpr hswk)]
      exact .pure _ _
    · refine ⟨{ s with keyagent := s.keyagent.setSwk r swk },
        runs_keyagent (runs_deref hd ?_), rfl⟩
      rw [if_pos hswk]
      exact runs_modifyKeyagent (.pure _ _)

/-- The cache takes the session, or its `INSERT` fails. -/
theorem exists_runs_sessionCreateCache {r : SessionRef} (cacheId : Int) (error : Option GError)
    (s : World Unit) (hd : ∃ d, s.keyagent.sessions[r]? = some d) :
    ∃ err t, Runs (sysStep refusingStep 0) (sessionCreateCache r cacheId error) s err t ∧
      SessionCacheEq s.keyagent t.keyagent := by
  have hown : ∀ p : Skc (Bool × Option GError), p.Issues (AgentView.OwnCall fun _ _ => True) →
      ∃ a t, Runs (sysStep refusingStep 0) p s a t := by
    intro p hp
    obtain ⟨a, t, ht, -⟩ := exists_runs_own (R := fun _ _ => True) (fun _ => trivial)
      (fun _ _ => trivial) hp s
    exact ⟨a, t, ht⟩
  have hrun : ∃ a t, Runs (sysStep refusingStep 0) (keyagentCacheSession r error) s a t := by
    unfold keyagentCacheSession
    obtain ⟨d, hd⟩ := hd
    -- with a cache the insert is refused, without one the session gets an id of its own
    cases hc : s.keyagent.localcache.cacheSessions with
    | true =>
      obtain ⟨a, t, ht⟩ := hown (keyagentSessionSetCacheId r (-1) >>= fun _ =>
        pure (false, gPropagateError error (some ⟨"", 0, []⟩)))
        ⟨fun _ => trivial, fun _ => trivial⟩
      refine ⟨a, t, runs_keyagent ?_⟩
      rw [if_pos hc]
      have hrow : sysStep refusingStep 0 (.insertRow .sessions) s (some ⟨"", 0, []⟩) s :=
        ⟨(), nofun, rfl⟩
      exact runs_deref hd (.step hrow ht)
    | false =>
      obtain ⟨a, t, ht⟩ := hown (keyagentCacheGenerateFakeId >>= fun id =>
        keyagentSessionSetCacheId r id >>= fun _ => pure (true, error))
        ⟨fun _ => trivial, fun _ => ⟨trivial, fun _ => ⟨fun _ => trivial, fun _ => trivial⟩⟩⟩
      refine ⟨a, t, runs_keyagent ?_⟩
      rw [if_neg (by simp [hc])]
      exact ht
  unfold sessionCreateCache
  split
  · obtain ⟨a, t, ht⟩ := hrun
    have hq := (AgentView.sat_quiet (V := seqView refusingStep)
      (AgentView.keyagentCacheSession_issues r error)).runs ht
    refine ⟨a.2, t, ?_, hq.sessionCacheEq⟩
    rw [map_eq_pure_bind]
    exact ht.bind (.pure _ _)
  · exact ⟨error, s, .pure _ _, ⟨.refl _, rfl⟩⟩

/-- The STM is handed the session, and refuses it. -/
theorem exists_runs_stmSetSession {r : SessionRef} {data : KeyagentSessionReal}
    (requestId : Bytes) (err : Option GError) (s : World Unit)
    (hd : s.keyagent.sessions[r]? = some data) :
    ∃ err' t, Runs (sysStep refusingStep 0) (keyagentStmSetSession .unknown requestId r err) s
        (false, err') t ∧ t.keyagent.sessionHash = s.keyagent.sessionHash ∧
      t.keyagent.sessions = s.keyagent.sessions ∧
      (s.keyagent.apimoduleLoadkeyHash.lookup requestId ≠ none →
        s.keyagent.stmHash.lookup (gQuarkFromString data.name) ≠ none →
        t.keyagent.currentOf data.name = some r) := by
  have hfail : (s.keyagent.stmHash.lookup (gQuarkFromString data.name) = none ∨
      s.keyagent.apimoduleLoadkeyHash.lookup requestId = none) →
      Runs (sysStep refusingStep 0) (keyagentStmSetSession .unknown requestId r err) s
        (false, kSetError err stmLogDomain stmErrorInvalidSessionData
          (lit "__keyagent_stm_set_session: Invalid session data")) s := by
    intro h
    refine runs_keyagent (runs_deref hd (runs_keyagent (runs_keyagent ?_)))
    dsimp only
    split
    · next lstm request hl hr =>
      rcases h with h | h
      · exact absurd (hl.symm.trans h) nofun
      · exact absurd (hr.symm.trans h) nofun
    · exact .pure _ _
  -- without the STM or the request it fails at once; with both, the STM refuses the session
  cases hl : s.keyagent.stmHash.lookup (gQuarkFromString data.name) with
  | none => exact ⟨_, s, hfail (.inl hl), rfl, rfl, fun _ h => absurd rfl h⟩
  | some lstm =>
    cases hr : s.keyagent.apimoduleLoadkeyHash.lookup requestId with
    | none => exact ⟨_, s, hfail (.inr hr), rfl, rfl, fun h => absurd rfl h⟩
    | some request =>
      refine ⟨err, { s with keyagent := s.keyagent.setCurrent data.name requestId lstm.label r },
        runs_keyagent (runs_deref hd (runs_keyagent (runs_keyagent ?_))), rfl, rfl, fun _ _ => ?_⟩
      · rw [hl, hr]
        refine runs_modifyKeyagent (runs_modifyKeyagent ?_)
        have hset : ∀ d (u : World Unit),
            sysStep refusingStep 0 (.stm (.setSession lstm.label d err)) u (false, err) u :=
          fun d u => ⟨(), u.apimodule, show (false, err).1 = false from rfl, rfl⟩
        exact .step (hset _ _) (.refl _ _)
      · rw [Keyagent.currentOf, Keyagent.setCurrent, GHashTable.lookup_update, if_pos rfl, hl]
        rfl

end

/-! ### All the runs that fail -/

/-- Whatever the surroundings do, a call that fails leaves the tables as they were. -/
def FailsUnchanged (k : Keyagent) (requestId label sessionId swk swkType : Bytes) (cacheId : Int)
    (error : Option GError) : Prop :=
  ∀ (W : Type) (E : Step skcSig W) (s u : World W) (err : Option GError), s.keyagent = k →
    Runs (sysStep E 0)
      (keyagentSessionCreate .unknown requestId label sessionId swk swkType cacheId error) s
      (false, err) u →
    Unchanged k u.keyagent

section

variable {k : Keyagent} {requestId label sessionId swk swkType : Bytes} {cacheId : Int}
  {error : Option GError}

/-- What the session and the keys are is decided by what is in the tables. -/
theorem KeysRemoved.updateOrInsert {k k' : Keyagent} (h : KeysRemoved k k')
    (found : Option SessionRef) (session : KeyagentSessionReal) :
    KeysRemoved (k.updateOrInsert found session) (k'.updateOrInsert found session) := by
  cases found with
  | none =>
    refine ⟨⟨h.keys, h.requests⟩, ?_, ?_, h.stmHash⟩
    · show k'.sessionHash.insert _ k'.sessions.length = k.sessionHash.insert _ k.sessions.length
      rw [h.sessionHash, h.sessions]
    · show k'.sessions ++ _ = k.sessions ++ _
      rw [h.sessions]
  | some r =>
    refine ⟨⟨h.keys, h.requests⟩, h.sessionHash, ?_, h.stmHash⟩
    show k'.sessions.modify r _ = k.sessions.modify r _
    rw [h.sessions]

/-- There is a call that fails after it has done everything else. -/
theorem exists_runs_sessionCreate (requestId : Bytes) (error : Option GError)
    (hk : ValidSessions k)
    (htype : keyagentSessionLookupSwktype swkType ≠ none) {lstm : KeyagentStmReal}
    (hl : k.stmHash.lookup (gQuarkFromString label) = some lstm)
    {k₁ : Keyagent} {ref : SessionRef}
    (hk₁ : k₁ = k.createSession lstm.session ⟨swk, label, sessionId, swkType, cacheId⟩)
    (href : ref = k.createRef (k.sessionHash.lookup (hashKey sessionId)))
    {d : KeyagentSessionReal} (hd : k₁.sessions[ref]? = some d) :
    ∃ (s u : World Unit) (err : Option GError), s.keyagent = k ∧
      Runs (sysStep refusingStep 0)
        (keyagentSessionCreate .unknown requestId label sessionId swk swkType cacheId error) s
        (false, err) u ∧ u.keyagent.sessionHash = k₁.sessionHash ∧
      (∃ d', u.keyagent.sessions[ref]? = some d' ∧ d'.swk = d.swk) ∧
      (k.apimoduleLoadkeyHash.lookup requestId ≠ none →
        k.stmHash.lookup (gQuarkFromString d.name) ≠ none →
        u.keyagent.currentOf d.name = some ref) := by
  have hcurrent : ∀ r, lstm.session = some r → ∃ d, k.sessions[r]? = some d := fun r hr =>
    hk.current label r (by rw [Keyagent.currentOf, hl]; exact hr)
  -- the old session goes
  obtain ⟨t₁, hrun₁, hgone⟩ := exists_runs_sessionReplaceCurrent (E := refusingStep) sessionId
    ⟨k, ⟨∅, [], 0⟩, none, ()⟩ hcurrent
  have hlen : t₁.keyagent.sessions = k.sessions :=
    hgone.sessions.trans (Keyagent.replaceCurrent_sessions _ _ _)
  -- the new one comes
  obtain ⟨t₂, hrun₂, ht₂⟩ := exists_runs_sessionUpdateOrInsert (E := refusingStep)
    (k.sessionHash.lookup (hashKey sessionId)) label sessionId swk swkType cacheId t₁
    fun r hr => hlen ▸ hk.table _ r hr
  have href₁ : t₁.keyagent.createRef (k.sessionHash.lookup (hashKey sessionId)) = ref := by
    rw [href, Keyagent.createRef, Keyagent.createRef, hlen]
  rw [href₁] at hrun₂
  have hk₂ : KeysRemoved k₁ t₂.keyagent := by
    rw [ht₂, hk₁]
    exact hgone.updateOrInsert _ _
  have hd₂ : t₂.keyagent.sessions[ref]? = some d := by rw [hk₂.sessions, hd]
  -- it is cached, and handed to the STM
  obtain ⟨err₃, t₃, hrun₃, hc⟩ := exists_runs_sessionCreateCache cacheId error t₂
    ⟨d, hd₂⟩
  obtain ⟨d₃, hd₃, he⟩ := hc.toCacheEq.session hd₂
  obtain ⟨hswk, hname, -, -⟩ := KeyagentSessionReal.uncached_eq he
  obtain ⟨err, u, hrun₄, hhash, hsessions, hcur⟩ := exists_runs_stmSetSession requestId err₃ t₃
    hd₃
  refine ⟨⟨k, ⟨∅, [], 0⟩, none, ()⟩, u, err, rfl, ?_, ?_, ⟨d₃, by rw [hsessions, hd₃], hswk⟩,
    fun hreq hstm => ?_⟩
  · obtain ⟨type, htype⟩ := Option.ne_none_iff_exists'.mp htype
    refine runs_keyagent ?_
    dsimp only
    rw [htype]
    refine runs_keyagent ?_
    dsimp only
    rw [hl]
    exact hrun₁.bind (hrun₂.bind (hrun₃.bind hrun₄))
  · rw [hhash, hc.sessionHash, hk₂.sessionHash]
  · rw [hname] at hcur
    have hstm₁ : k₁.stmHash = k.stmHash := by rw [hk₁, Keyagent.createSession_stmHash]
    have hreq₁ : k₁.apimoduleLoadkeyHash = k.apimoduleLoadkeyHash := by
      rw [hk₁, Keyagent.createSession_requests]
    refine hcur ?_ ?_
    · rw [hc.requests, hk₂.requests, hreq₁]
      exact hreq
    · rw [hc.stmHash, hk₂.stmHash, hstm₁]
      exact hstm

/--
**A call that fails changes nothing**, whatever the surroundings do, if and only if it is refused at
once, or there is nothing to replace and nothing to install.
-/
theorem session_unchanged (hk : ValidSessions k) :
    FailsUnchanged k requestId label sessionId swk swkType cacheId error ↔
      ChangesNothing k requestId label sessionId swk swkType := by
  constructor
  · intro h
    by_cases htype : keyagentSessionLookupSwktype swkType = none
    · exact .inl htype
    cases hl : k.stmHash.lookup (gQuarkFromString label) with
    | none => exact .inr (.inl hl)
    | some lstm =>
      obtain ⟨d, hd, hswk, hfound⟩ := Keyagent.createSession_session lstm.session
        ⟨swk, label, sessionId, swkType, cacheId⟩ (hk.table _)
      obtain ⟨s, u, err, hs, hrun, hhash, ⟨d', hd', hswk'⟩, hcur⟩ := exists_runs_sessionCreate
        requestId error hk htype hl rfl rfl hd
      have hu := h Unit refusingStep s u err hs hrun
      have hlookup := fun p => Keyagent.createSession_lookup k lstm.session
        ⟨swk, label, sessionId, swkType, cacheId⟩ p
      rw [← hhash, hu.sessionHash] at hlookup
      -- the session was there before, so the call has found it
      have hfirst := hlookup (hashKey sessionId)
      rw [if_pos rfl] at hfirst
      rcases hfound with ⟨r, found, hr, hdr, hname, -⟩ | ⟨hnone, -⟩
      · refine .inr (.inr ⟨?_, r, found, hr, hdr, ?_, ?_⟩)
        · cases hdisp : k.displaced lstm.session sessionId with
          | none => simp [Keyagent.replaced, hl, hdisp]
          | some dd =>
            have hne : hashKey dd.sessionId ≠ hashKey sessionId := by
              intro he
              have hne' := (Option.filter_eq_some_iff.mp hdisp).2
              simp [hashKey_injective he] at hne'
            have hgone := hlookup (hashKey dd.sessionId)
            rw [if_neg hne, hdisp] at hgone
            obtain ⟨type, htype⟩ := Option.ne_none_iff_exists'.mp htype
            simpa [Keyagent.replaced, htype, hl, hdisp] using hgone
        · -- its swk is the one it had
          have href : k.createRef (k.sessionHash.lookup (hashKey sessionId)) = r := by
            rw [hr]
            rfl
          obtain ⟨d₁, hd₁, hswk₁, -⟩ := hu.sessions r found hdr
          rw [href, hd₁, Option.some.injEq] at hd'
          rw [← hswk₁, hd', hswk', hswk]
        · by_cases hreq : k.apimoduleLoadkeyHash.lookup requestId = none
          · exact .inl hreq
          by_cases hstm : k.stmHash.lookup (gQuarkFromString found.name) = none
          · exact .inr (.inl hstm)
          rw [← hname] at hstm
          have hcur' := hcur hreq hstm
          rw [hu.stms, hname, hr] at hcur'
          exact .inr (.inr hcur')
      · cases hfirst.symm.trans hnone
  · rintro h W E s u err rfl hrun
    exact seqView_runs (sat_sessionCreate_unchanged h) hrun

end

/-! ### A session that is there, and a new one that is refused -/

/-- An agent whose STM has a session. -/
def sgxSessionAgent : Keyagent :=
  { sgxAgent with
    stmHash := AList.insert ⟨lit "SGX"⟩ ⟨lit "SGX", true, true, some 0⟩ ∅
    sessionHash := AList.insert (hashKey (lit "a")) 0 ∅
    sessions := [⟨[1], lit "SGX", lit "a", lit "AES256-GCM", 0⟩] }

theorem validSessions_sgxSessionAgent : ValidSessions sgxSessionAgent where
  current name r hr := by
    have h : r = 0 := by
      obtain ⟨lstm, hl, hr⟩ := Option.bind_eq_some_iff.mp hr
      rw [sgxSessionAgent, GHashTable.lookup_insert_eq] at hl
      split at hl
      · rw [← Option.some.inj hl] at hr
        exact (Option.some.inj hr).symm
      · simp at hl
    exact ⟨_, by rw [h]; rfl⟩
  table p r hr := by
    have h : r = 0 := by
      rw [sgxSessionAgent, GHashTable.lookup_insert_eq] at hr
      split at hr
      · exact (Option.some.inj hr).symm
      · simp at hr
    exact ⟨_, by rw [h]; rfl⟩

theorem session_unchanged_sgx : FailsUnchanged sgxSessionAgent (lit "request") (lit "SGX") (lit "a")
    [1] (lit "AES256-GCM") (-1) none := by
  refine (session_unchanged validSessions_sgxSessionAgent).mpr (.inr (.inr ⟨by rfl, 0, _, by rfl,
    rfl, rfl, .inr (.inr (by rfl))⟩))

/-- An STM that refuses every session. -/
def refusingStm : (c : Call) → Unit → Option (c.Ans × Unit)
  | .stm (.setSession _ _ err), _ => some ((false, err), ())
  | _, _ => none

theorem not_session_unchanged : ¬∀ (k : Keyagent) (requestId label sessionId swk swkType : Bytes)
    (cacheId : Int) (error : Option GError), ValidSessions k →
    FailsUnchanged k requestId label sessionId swk swkType cacheId error := by
  intro h
  obtain ⟨⟨a, u⟩, hr, hv⟩ := Option.map_eq_some_iff.mp (show
    ((createNamed (lit "b") (lit "AES256-GCM")).run (sysHandler refusingStm 0)
      ⟨sgxSessionAgent, ⟨∅, [], 0⟩, none, ()⟩).map
      (fun r => (r.1, r.2.keyagent.sessionHash.values)) = some ((false, none), [1])
    by decide +kernel)
  obtain ⟨rfl, hvalues⟩ := Prod.mk.inj hv
  have hruns := Prog.run_runs (R := sysStep (fun c w a w' => refusingStm c w = some (a, w')) 0)
    sysHandler_answers hr
  have hu := h sgxSessionAgent (lit "request") (lit "SGX") (lit "b") [1] (lit "AES256-GCM") (-1) none
    validSessions_sgxSessionAgent Unit _ _ u none rfl hruns
  rw [hu.sessionHash] at hvalues
  exact absurd hvalues (by decide)

end SkcLibrary
