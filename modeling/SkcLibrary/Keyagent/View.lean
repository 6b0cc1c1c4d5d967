import SkcLibrary.Keyagent.Session

/-!
# Reasoning about the agent's functions

The functions of the agent change its variables and hand over to the cache database and to the
security modules. `AgentView` is a setting in which the variables are a part of the state, whatever
the rest is; the rules of this module say once what each function does to them.

The cache only changes `cache_id`s and its own variables. `CacheEq` leaves these out, and
`AgentView.Quiet` is what the cache may do to a state.
-/

namespace SkcLibrary

open Interaction

/-! ## What the cache leaves alone -/

/-- A session without its cache id. -/
def KeyagentSessionReal.uncached (s : KeyagentSessionReal) : KeyagentSessionReal :=
  { s with cacheId := 0 }

/-- A key without its cache id. -/
def KeyagentKeyReal.uncached (key : KeyagentKeyReal) : KeyagentKeyReal := { key with cacheId := 0 }

/-- The same agent, up to the cache. -/
structure CacheEq (k k' : Keyagent) : Prop where
  stmHash : k'.stmHash = k.stmHash
  sessionHash : k'.sessionHash = k.sessionHash
  requests : k'.apimoduleLoadkeyHash = k.apimoduleLoadkeyHash
  enabled : k'.apimoduleEnabled = k.apimoduleEnabled
  length : k'.sessions.length = k.sessions.length
  sessions : ∀ r : SessionRef,
    k'.sessions[r]?.map KeyagentSessionReal.uncached
      = k.sessions[r]?.map KeyagentSessionReal.uncached
  keys : ∀ p, (k'.keyHash.lookup p).map KeyagentKeyReal.uncached
    = (k.keyHash.lookup p).map KeyagentKeyReal.uncached

namespace CacheEq

variable {k k' k'' : Keyagent}

theorem refl (k : Keyagent) : CacheEq k k :=
  ⟨rfl, rfl, rfl, rfl, rfl, fun _ => rfl, fun _ => rfl⟩

theorem trans (h : CacheEq k k') (h' : CacheEq k' k'') : CacheEq k k'' where
  stmHash := h'.stmHash.trans h.stmHash
  sessionHash := h'.sessionHash.trans h.sessionHash
  requests := h'.requests.trans h.requests
  enabled := h'.enabled.trans h.enabled
  length := h'.length.trans h.length
  sessions r := (h'.sessions r).trans (h.sessions r)
  keys p := (h'.keys p).trans (h.keys p)

/-- A session that is still there, with at most another cache id. -/
theorem session (h : CacheEq k k') {r : SessionRef} {d : KeyagentSessionReal}
    (hd : k.sessions[r]? = some d) :
    ∃ d', k'.sessions[r]? = some d' ∧ d'.uncached = d.uncached := by
  have hr := h.sessions r
  rw [hd] at hr
  cases hd' : k'.sessions[r]? with
  | none => rw [hd'] at hr; simp at hr
  | some d' =>
    rw [hd'] at hr
    exact ⟨d', rfl, by simpa using hr⟩

/-- A key that was there before, with at most another cache id. -/
theorem key (h : CacheEq k k') {p : Gpointer} {key' : KeyagentKeyReal}
    (hk : k'.keyHash.lookup p = some key') :
    ∃ key, k.keyHash.lookup p = some key ∧ key.uncached = key'.uncached := by
  have hp := h.keys p
  rw [hk] at hp
  cases hk' : k.keyHash.lookup p with
  | none => rw [hk'] at hp; simp at hp
  | some key =>
    rw [hk'] at hp
    exact ⟨key, rfl, by simpa using hp.symm⟩

theorem symm (h : CacheEq k k') : CacheEq k' k where
  stmHash := h.stmHash.symm
  sessionHash := h.sessionHash.symm
  requests := h.requests.symm
  enabled := h.enabled.symm
  length := h.length.symm
  sessions r := (h.sessions r).symm
  keys p := (h.keys p).symm

theorem mapLocalcache (k : Keyagent) (f : Localcache → Localcache) :
    CacheEq k (k.mapLocalcache f) :=
  ⟨rfl, rfl, rfl, rfl, rfl, fun _ => rfl, fun _ => rfl⟩

end CacheEq

/-- What the cache of sessions leaves alone. -/
structure SessionCacheEq (k k' : Keyagent) : Prop extends CacheEq k k' where
  keyHash : k'.keyHash = k.keyHash

theorem KeyagentSessionReal.uncached_eq {d d' : KeyagentSessionReal}
    (h : d'.uncached = d.uncached) :
    d'.swk = d.swk ∧ d'.name = d.name ∧ d'.sessionId = d.sessionId ∧ d'.swkType = d.swkType := by
  obtain ⟨a, b, c, e, f⟩ := d
  obtain ⟨a', b', c', e', f'⟩ := d'
  simpa [KeyagentSessionReal.uncached] using h

theorem KeyagentKeyReal.uncached_eq {key key' : KeyagentKeyReal}
    (h : key'.uncached = key.uncached) :
    key'.url = key.url ∧ key'.type = key.type ∧ key'.session = key.session
      ∧ key'.attributes = key.attributes := by
  obtain ⟨a, b, c, e, f⟩ := key
  obtain ⟨a', b', c', e', f'⟩ := key'
  simpa [KeyagentKeyReal.uncached] using h

/-! ## Views -/

/-- The calls of the agent's own functions. -/
def Call.Agent : Call → Prop
  | .getKeyagent => True
  | .modifyKeyagent _ => True
  | .foreachSession => True
  | .generateUuid => True
  | .uninitialised _ => True
  | .httpsSend _ => True
  | .insertRow _ => True
  | .fault _ => True
  | _ => False

/-- A setting whose state holds the agent's variables. It asks nothing of the agent's own calls. -/
structure AgentView (σ : Type) where
  step : Step skcSig σ
  pre : Call → σ → Prop
  ka : σ → Keyagent
  put : σ → Keyagent → σ
  ka_put : ∀ s k, ka (put s k) = k
  put_put : ∀ s k k', put (put s k) k' = put s k'
  put_ka : ∀ s, put s (ka s) = s
  getKeyagent : ∀ {s a t}, step .getKeyagent s a t ↔ a = ka s ∧ t = s
  modifyKeyagent : ∀ {f s t}, step (.modifyKeyagent f) s () t ↔ t = put s (f (ka s))
  foreachSession : ∀ {s} {l : List SessionRef} {t},
    step .foreachSession s l t ↔ l.Perm (ka s).sessionHash.values ∧ t = s
  ka_step : ∀ {c s a t}, step c s a t → (∀ f, c ≠ .modifyKeyagent f) → ka t = ka s
  pre_of_agent : ∀ {c s}, c.Agent → pre c s

namespace AgentView

variable {σ α : Type} (V : AgentView σ)

/-- The logic of a view. -/
abbrev logic : Logic skcSig σ := .seq V.step V.pre

variable {V} {Q : α → σ → Prop} {s t : σ}

attribute [simp] ka_put put_put put_ka

/-- The same setting, with the steps that meet a condition. The agent's own calls are not concerned. -/
def restrict (V : AgentView σ) (allow : (c : Call) → σ → c.Ans → Prop)
    (hallow : ∀ {c s a}, c.Agent → allow c s a) : AgentView σ where
  step := V.step.restrict allow
  pre := V.pre
  ka := V.ka
  put := V.put
  ka_put := V.ka_put
  put_put := V.put_put
  put_ka := V.put_ka
  getKeyagent {s a t} := by
    rw [Step.restrict_iff, V.getKeyagent]
    exact and_iff_left (hallow trivial)
  modifyKeyagent {f s t} := by
    rw [Step.restrict_iff, V.modifyKeyagent]
    exact and_iff_left (hallow trivial)
  foreachSession {s l t} := by
    rw [Step.restrict_iff, V.foreachSession]
    exact and_iff_left (hallow trivial)
  ka_step h := V.ka_step h.1
  pre_of_agent := V.pre_of_agent

/-! ## Single calls -/

@[simp] theorem sat_keyagent {f : Keyagent → Skc α} :
    Sat V.logic (Skc.keyagent >>= f) Q s ↔ Sat V.logic (f (V.ka s)) Q s := by
  rw [Skc.keyagent_bind, sat_seq_call]
  constructor
  · exact fun h => h.2 _ _ (V.getKeyagent.mpr ⟨rfl, rfl⟩)
  · intro h
    refine ⟨V.pre_of_agent trivial, fun a t ht => ?_⟩
    obtain ⟨rfl, rfl⟩ := V.getKeyagent.mp ht
    exact h

@[simp] theorem sat_modifyKeyagent {g : Keyagent → Keyagent} {f : Unit → Skc α} :
    Sat V.logic (Skc.modifyKeyagent g >>= f) Q s ↔
      Sat V.logic (f ()) Q (V.put s (g (V.ka s))) := by
  rw [Skc.modifyKeyagent_bind, sat_seq_call]
  constructor
  · exact fun h => h.2 () _ (V.modifyKeyagent.mpr rfl)
  · intro h
    refine ⟨V.pre_of_agent trivial, fun a t ht => ?_⟩
    rw [V.modifyKeyagent.mp ht]
    exact h

@[simp] theorem sat_modifyKeyagent' {g : Keyagent → Keyagent} {Q : Unit → σ → Prop} :
    Sat V.logic (Skc.modifyKeyagent g) Q s ↔ Q () (V.put s (g (V.ka s))) := by
  have h : Skc.modifyKeyagent g = Skc.modifyKeyagent g >>= pure := (bind_pure _).symm
  rw [h, sat_modifyKeyagent]
  exact sat_seq_pure

@[simp] theorem sat_foreachSession {f : List SessionRef → Skc α} :
    Sat V.logic (Skc.foreachSession >>= f) Q s ↔
      ∀ l, l.Perm (V.ka s).sessionHash.values → Sat V.logic (f l) Q s := by
  rw [Skc.foreachSession_bind, sat_seq_call]
  constructor
  · exact fun h l hl => h.2 l s (V.foreachSession.mpr ⟨hl, rfl⟩)
  · intro h
    refine ⟨V.pre_of_agent trivial, fun l t ht => ?_⟩
    obtain ⟨hl, rfl⟩ := V.foreachSession.mp ht
    exact h l hl

/-- A single call. -/
theorem sat_lift {c : Call} {f : c.Ans → Skc α} :
    Sat V.logic (Prog.lift (S := skcSig) c >>= f) Q s ↔
      V.pre c s ∧ ∀ a t, V.step c s a t → Sat V.logic (f a) Q t := by
  rw [Prog.lift_bind]
  exact sat_seq_call

theorem sat_lift' {c : Call} {Q : c.Ans → σ → Prop} :
    Sat V.logic (Prog.lift (S := skcSig) c) Q s ↔ V.pre c s ∧ ∀ a t, V.step c s a t → Q a t := by
  have h : Prog.lift (S := skcSig) c = Prog.lift (S := skcSig) c >>= pure := (bind_pure _).symm
  rw [h, sat_lift]
  simp only [sat_seq_pure]

/-- A call of the PKCS#11 module. -/
theorem sat_ck {c : CkCall} {f : c.Ans → Skc α} :
    Sat V.logic (Skc.ck c >>= f) Q s ↔
      V.pre (.ck c) s ∧ ∀ a t, V.step (.ck c) s a t → Sat V.logic (f a) Q t := sat_lift

@[simp] theorem sat_fault {reason : String} : Sat V.logic (Skc.fault reason) Q s := by
  rw [Skc.fault, sat_seq_call]
  exact ⟨V.pre_of_agent trivial, fun a => nomatch a⟩

/-- A pointer that is `NULL` ends the run. -/
@[simp] theorem sat_deref {β : Type} {p : Option β} {reason : String} {f : β → Skc α} :
    Sat V.logic (Skc.deref p reason >>= f) Q s ↔ ∀ b, p = some b → Sat V.logic (f b) Q s := by
  cases p with
  | none => simp [Skc.fault_bind]
  | some b => simp

/-! ## The cache -/

/-- What a cache function may do to a state, if it changes the agent's variables as `R` says. -/
inductive Quiet (V : AgentView σ) (R : Keyagent → Keyagent → Prop) (s : σ) : σ → Prop where
  | refl : Quiet V R s s
  | row {t u : σ} {table : CacheTable} {a : Option GError} :
      Quiet V R s t → V.step (.insertRow table) t a u → Quiet V R s u
  | cache {t : σ} {k : Keyagent} : Quiet V R s t → R (V.ka t) k → Quiet V R s (V.put t k)

/-- What survives an `INSERT` and a change of the cache's variables. -/
theorem Quiet.induction {R : Keyagent → Keyagent → Prop} {J : σ → Prop}
    (hrow : ∀ {t u table a}, J t → V.step (.insertRow table) t a u → J u)
    (hcache : ∀ {t k}, J t → R (V.ka t) k → J (V.put t k)) (h : V.Quiet R s t) (hs : J s) :
    J t := by
  induction h with
  | refl => exact hs
  | row _ hst ih => exact hrow ih hst
  | cache _ hk ih => exact hcache ih hk

theorem Quiet.cacheEq (h : V.Quiet CacheEq s t) : CacheEq (V.ka s) (V.ka t) := by
  induction h with
  | refl => exact .refl _
  | row _ hst ih => rw [V.ka_step hst fun _ => nofun]; exact ih
  | cache _ hk ih => rw [V.ka_put]; exact ih.trans hk

theorem Quiet.sessionCacheEq (h : V.Quiet SessionCacheEq s t) :
    SessionCacheEq (V.ka s) (V.ka t) := by
  induction h with
  | refl => exact ⟨.refl _, rfl⟩
  | row _ hst ih => rw [V.ka_step hst fun _ => nofun]; exact ih
  | cache _ hk ih => rw [V.ka_put]; exact ⟨ih.trans hk.toCacheEq, hk.keyHash.trans ih.keyHash⟩

/-- The calls of a cache function that changes the agent's variables as `R` says. -/
def CacheCall (R : Keyagent → Keyagent → Prop) : Call → Prop
  | .getKeyagent => True
  | .modifyKeyagent f => ∀ k, R k (f k)
  | .insertRow _ => True
  | .fault _ => True
  | _ => False

/-- The calls of a function that only reads and writes the agent's variables, as `R` says. -/
def OwnCall (R : Keyagent → Keyagent → Prop) : Call → Prop
  | .getKeyagent => True
  | .modifyKeyagent f => ∀ k, R k (f k)
  | _ => False

theorem OwnCall.cacheCall {R R' : Keyagent → Keyagent → Prop} (hR : ∀ k k', R k k' → R' k k')
    {c : Call} (h : OwnCall R c) : CacheCall R' c := by
  cases c <;> first | exact trivial | exact fun k => hR _ _ (h k) | exact h.elim

section

variable {R : Keyagent → Keyagent → Prop}

theorem cacheExecute_issues (hR : ∀ k f, R k (k.mapLocalcache f)) (f : CacheDb → CacheDb) :
    (cacheExecute f).Issues (CacheCall R) :=
  ⟨fun k => hR k _, fun _ => trivial⟩

theorem keyagentCacheGenerateFakeId_issues (hR : ∀ k f, R k (k.mapLocalcache f)) :
    keyagentCacheGenerateFakeId.Issues (CacheCall R) :=
  ⟨fun k => hR k _, fun _ => ⟨trivial, fun _ => trivial⟩⟩

end

theorem SessionCacheEq.mapLocalcache (k : Keyagent) (f : Localcache → Localcache) :
    SessionCacheEq k (k.mapLocalcache f) := ⟨.mapLocalcache k f, rfl⟩

theorem keyagentSessionSetCacheId_issues (session : SessionRef) (cacheId : Int) :
    (keyagentSessionSetCacheId session cacheId).Issues (CacheCall SessionCacheEq) := by
  refine ⟨fun k => ?_, fun _ => trivial⟩
  refine ⟨⟨rfl, rfl, rfl, rfl, by simp, fun r => ?_, fun _ => rfl⟩, rfl⟩
  simp only [List.getElem?_modify]
  split
  · cases k.sessions[r]? <;> rfl
  · simp

theorem keyagentKeySetCacheId_issues (url : Bytes) (cacheId : Int) :
    (keyagentKeySetCacheId url cacheId).Issues (CacheCall CacheEq) := by
  refine ⟨fun k => ?_, fun _ => trivial⟩
  refine ⟨rfl, rfl, rfl, rfl, rfl, fun _ => rfl, fun p => ?_⟩
  rw [GHashTable.lookup_update]
  split
  · next h =>
    rw [h]
    cases k.keyHash.lookup (Gpointer.gintToPointer (gQuarkFromString url)) <;> rfl
  · rfl

theorem keyagentCacheSession_issues (session : SessionRef) (error : Option GError) :
    (keyagentCacheSession session error).Issues (CacheCall SessionCacheEq) := by
  unfold keyagentCacheSession
  refine Skc.issues_keyagent_bind.mpr ⟨trivial, fun k => ?_⟩
  split
  · refine (Skc.issues_deref trivial).bind fun data => ⟨trivial, fun e => ?_⟩
    cases e with
    | some e => exact (keyagentSessionSetCacheId_issues _ _).bind fun _ => trivial
    | none =>
      refine (cacheExecute_issues SessionCacheEq.mapLocalcache _).bind fun _ => ⟨trivial, fun k => ?_⟩
      refine (Skc.issues_deref trivial).bind fun row => ?_
      exact (keyagentSessionSetCacheId_issues _ _).bind fun _ => trivial
  · refine (keyagentCacheGenerateFakeId_issues SessionCacheEq.mapLocalcache).bind fun id => ?_
    exact (keyagentSessionSetCacheId_issues _ _).bind fun _ => trivial

theorem cacheKeyAttrs_issues (key : KeyagentKeyReal) (row : KeyRow) (error : Option GError) :
    (cacheKeyAttrs key row error).Issues (CacheCall CacheEq) := by
  unfold cacheKeyAttrs
  split
  · refine (Skc.issues_deref trivial).bind fun tmp => ⟨trivial, fun e => ?_⟩
    cases e with
    | some e => trivial
    | none => exact (cacheExecute_issues CacheEq.mapLocalcache _).bind fun _ => trivial
  · trivial

theorem keyagentCacheKey_issues (url : Bytes) (error : Option GError) :
    (keyagentCacheKey url error).Issues (CacheCall CacheEq) := by
  unfold keyagentCacheKey
  refine Skc.issues_keyagent_bind.mpr ⟨trivial, fun k => ?_⟩
  split
  · refine (Skc.issues_deref trivial).bind fun key => ?_
    refine (Skc.issues_deref trivial).bind fun session => ⟨trivial, fun e => ?_⟩
    cases e with
    | some e => exact (keyagentKeySetCacheId_issues _ _).bind fun _ => trivial
    | none =>
      refine (cacheExecute_issues CacheEq.mapLocalcache _).bind fun _ => ⟨trivial, fun k => ?_⟩
      refine (Skc.issues_deref trivial).bind fun row => ?_
      refine (cacheKeyAttrs_issues _ _ _).bind fun r => ?_
      dsimp only
      split
      · refine (cacheExecute_issues CacheEq.mapLocalcache _).bind fun _ => ?_
        exact (keyagentKeySetCacheId_issues _ _).bind fun _ => trivial
      · exact (keyagentKeySetCacheId_issues _ _).bind fun _ => trivial
  · refine (keyagentCacheGenerateFakeId_issues CacheEq.mapLocalcache).bind fun id => ?_
    exact (keyagentKeySetCacheId_issues _ _).bind fun _ => trivial

/-- A program of cache calls is quiet. -/
theorem sat_quiet {R : Keyagent → Keyagent → Prop} {p : Skc α} (hp : p.Issues (CacheCall R)) :
    Sat V.logic p (fun _ t => V.Quiet R s t) s := by
  refine Sat.of_issues hp stable_seq (fun c hc t ht => ?_) .refl
  cases c with
  | getKeyagent =>
    refine ⟨V.pre_of_agent trivial, fun a u hu => ⟨trivial, ?_⟩⟩
    obtain ⟨-, rfl⟩ := V.getKeyagent.mp hu
    exact ht
  | modifyKeyagent f =>
    refine ⟨V.pre_of_agent trivial, fun a u hu => ⟨trivial, ?_⟩⟩
    rw [V.modifyKeyagent.mp hu]
    exact ht.cache (hc _)
  | insertRow table =>
    exact ⟨V.pre_of_agent trivial, fun a u hu => ⟨trivial, ht.row hu⟩⟩
  | fault r => exact ⟨V.pre_of_agent trivial, fun a => nomatch a⟩
  | _ => exact hc.elim

end AgentView

end SkcLibrary
