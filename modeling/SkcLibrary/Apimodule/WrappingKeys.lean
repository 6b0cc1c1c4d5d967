import SkcLibrary.Npm.KmsRules
import SkcLibrary.Apimodule.WrappingCalls
import SkcLibrary.Apimodule.TokenObjects
import SkcLibrary.Keyagent.SessionCreate

/-!
# The wrapping key of a session

Calls that load keys from KBS, one after the other. KBS sends a wrapping key with each session. The
session goes into `session_hash` with it, the STM takes the session for its current one, and only then
the wrapping key is unwrapped, and its handle noted in the token. If that fails the session stays where
it is: KBS is told of it, may hand out a key for it, and the key is unwrapped with whatever handle is in
the token.

* `key_unwrapped_own_swk` — a key is unwrapped with the wrapping key of its own session, in every run
  that meets `NamesInstalled`
-/

namespace SkcLibrary

open Interaction

variable {W : Type}

/-! ## Sessions -/

section Session

variable {E : Step skcSig W} {L : Library} {uri : Bytes} {x y : World W × Wrapping}
  {cInit : Skc CkRv} {uriData : ApimoduleUriData}

/-- The cache leaves all of this alone. -/
theorem wrapView_quiet {R : Keyagent → Keyagent → Prop} (h : (wrapView E L uri).Quiet R x y) :
    y.1.apimodule = x.1.apimodule ∧ y.1.rwlock = x.1.rwlock ∧ y.2 = x.2 := by
  refine h.induction (J := fun y => y.1.apimodule = x.1.apimodule ∧ y.1.rwlock = x.1.rwlock ∧
    y.2 = x.2) (fun {t u table a} ht hu => ?_) (fun ht _ => ht) ⟨rfl, rfl, rfl⟩
  have hm : u.1.apimodule = t.1.apimodule := sysStep_apimodule hu.1.1 id
  have hs := steady_agent (c := .insertRow table) trivial (fun _ => nofun) hu
  exact ⟨hm.trans ht.1, hs.rwlock.trans ht.2.1, hs.wrapping.trans ht.2.2⟩

variable {k k' : Keyagent}

/-- Every session of the table is SGX's. -/
def Keyagent.OnlySgx (k : Keyagent) : Prop :=
  ∀ p r, k.sessionHash.lookup p = some r → ∃ d, k.sessions[r]? = some d ∧ d.name = lit "SGX"

theorem Keyagent.OnlySgx.of_cacheEq (h : k.OnlySgx) (hc : CacheEq k k') : k'.OnlySgx := by
  intro p r hr
  rw [hc.sessionHash] at hr
  obtain ⟨d, hd, hname⟩ := h p r hr
  obtain ⟨d', hd', he⟩ := hc.session hd
  exact ⟨d', hd', (KeyagentSessionReal.uncached_eq he).2.1.trans hname⟩

theorem Keyagent.OnlySgx.createSession (h : k.OnlySgx) {current : Option SessionRef}
    {session : KeyagentSessionReal} (hname : session.name = lit "SGX") :
    (k.createSession current session).OnlySgx := by
  intro p r hr
  rw [Keyagent.createSession_lookup] at hr
  rw [Keyagent.createSession_sessions]
  -- a session with this id takes the new SWK in place, any other is appended
  cases hf : k.sessionHash.lookup (hashKey session.sessionId) with
  | some found =>
    have hold : ∃ q, k.sessionHash.lookup q = some r := by
      split at hr
      · rw [hf] at hr
        exact ⟨_, hf.trans hr⟩
      · split at hr
        · cases hr
        · exact ⟨p, hr⟩
    obtain ⟨q, hq⟩ := hold
    obtain ⟨d, hd, hdname⟩ := h q r hq
    obtain ⟨d', hd', hn, -⟩ := modify_swk found session.swk hd
    exact ⟨d', hd', hn.trans hdname⟩
  | none =>
    split at hr
    · rw [hf] at hr
      obtain rfl : k.sessions.length = r := Option.some.inj hr
      exact ⟨session, by simp, hname⟩
    · split at hr
      · cases hr
      · obtain ⟨d, hd, hdname⟩ := h p r hr
        have hlt : r < k.sessions.length := (List.getElem?_eq_some_iff.mp hd).1
        exact ⟨d, by rw [List.getElem?_append_left hlt, hd], hdname⟩

/-- One STM has one current session. -/
theorem SessionsCurrentBut.only {r r' : SessionRef} {p p' : Gpointer} (h : SessionsCurrentBut k r)
    (hsgx : k.OnlySgx) (hp : k.sessionHash.lookup p = some r)
    (hp' : k.sessionHash.lookup p' = some r') : r' = r := by
  by_contra hne
  obtain ⟨data, lstm, hd, -, -, -, hbut⟩ := h p' r' hp'
  obtain ⟨d, hdr, hname⟩ := hsgx p r hp
  obtain ⟨d', hdr', hname'⟩ := hsgx p' r' hp'
  obtain rfl : data = d' := Option.some.inj (hd.symm.trans hdr')
  exact (hbut hne).2 d hdr (hname.trans hname'.symm)

/-- The lock is held, and the request of the load is there. -/
structure InLoad (requestId : Bytes) (uriData : ApimoduleUriData) (x : World W × Wrapping) : Prop
    extends SwkInv x where
  held : x.1.rwlock ≠ none
  request : ∃ request, x.1.keyagent.apimoduleLoadkeyHash.lookup requestId = some request ∧
    request.moduleData = some uriData

variable {requestId : Bytes}

theorem SwkInv.onlySgx (h : SwkInv x) : x.1.keyagent.OnlySgx := by
  intro p r hr
  obtain ⟨d, hd, hname, -⟩ := h.sessions p r hr
  exact ⟨d, hd, hname⟩

theorem InLoad.aside (hx : InLoad requestId uriData x) (h : Aside x y) (hy : SwkInv y) :
    InLoad requestId uriData y where
  toSwkInv := hy
  held := by rw [h.rwlock]; exact hx.held
  request := by rw [h.keyagent]; exact hx.request

theorem InLoad.steady (hx : InLoad requestId uriData x) (h : Steady x y) :
    InLoad requestId uriData y := hx.aside h.toAside (h.swkInv hx.toSwkInv)

/-- **A session is created**, and its wrapping key is offered. -/
theorem sat_sessionCreate_swk {name sessionId swk swkType : Bytes} {error : Option GError}
    (hlabel : cstr uriData.tokenLabel = Kms.kmsPrefixToken) (hname : name = lit "SGX")
    (hx : InLoad requestId uriData x) (htoken : HasToken x) :
    Sat (wrapView E L uri).logic
      (keyagentSessionCreateUncached (L.stmOps cInit) requestId name sessionId swk swkType error)
      (fun _ y => InLoad requestId uriData y ∧ y.1.keyagent.keyHash = x.1.keyagent.keyHash) x := by
  refine AgentView.sat_keyagentSessionCreate hx.tables.noHeapKeys (fun _ => ⟨hx, rfl⟩)
    fun lstm err' t hty hl ht => ?_
  obtain ⟨hm, hlock, hwrap⟩ := wrapView_quiet ht
  have hc : SessionCacheEq (x.1.keyagent.createSession lstm.session
      ⟨swk, name, sessionId, swkType, -1⟩) t.1.keyagent := ht.sessionCacheEq
  -- the session is the only one of the table
  have hnew : SessionsCurrentBut (x.1.keyagent.createSession lstm.session
      ⟨swk, name, sessionId, swkType, -1⟩) _ := hx.tables.current.createSession hl hty
  have hbut := hnew.of_cacheEq hc.toCacheEq
  have hsgx : t.1.keyagent.OnlySgx := (hx.onlySgx.createSession hname).of_cacheEq hc.toCacheEq
  have hin : t.1.keyagent.sessionHash.lookup (hashKey sessionId)
      = some (x.1.keyagent.createRef (x.1.keyagent.sessionHash.lookup (hashKey sessionId))) := by
    rw [hc.sessionHash]
    exact (Keyagent.createSession_lookup _ _ _ _).trans (if_pos rfl)
  have hkeys : t.1.keyagent.keyHash = x.1.keyagent.keyHash :=
    hc.keyHash.trans (Keyagent.createSession_keyHash _ _ _)
  have hrequests : t.1.keyagent.apimoduleLoadkeyHash = x.1.keyagent.apimoduleLoadkeyHash :=
    hc.requests.trans (Keyagent.createSession_requests _ _ _)
  obtain ⟨request, hrequest, hmodule⟩ := hx.request
  refine AgentView.sat_keyagentStmSetSession ?_ ?_
  · rintro data e hd (hnone | hnone)
    · exact absurd hnone (hbut.registered hin hd)
    · have hnone : t.1.keyagent.apimoduleLoadkeyHash.lookup requestId = none := hnone
      rw [hrequests, hrequest] at hnone
      cases hnone
  · intro data lstm' request' hd hl' hrequest'
    have hd : t.1.keyagent.sessions[x.1.keyagent.createRef
        (x.1.keyagent.sessionHash.lookup (hashKey sessionId))]? = some data := hd
    have hrequest' : t.1.keyagent.apimoduleLoadkeyHash.lookup requestId = some request' := hrequest'
    obtain rfl : request = request' := by
      rw [hrequests, hrequest] at hrequest'
      exact Option.some.inj hrequest'
    have hdata : data.name = lit "SGX" := by
      obtain ⟨d, hd', hn⟩ := hsgx _ _ hin
      rw [Option.some.inj (hd.symm.trans hd')]
      exact hn
    have hhandle : HandleKnown t := by
      intro handle swk hi
      rw [hwrap] at hi
      rw [hm]
      exact hx.handle handle swk hi
    have htoken : HasToken t := by
      rw [HasToken, hm]
      exact htoken
    refine (sat_setWrappingKey_swk ?_ ?_ hlabel ?_ ?_ err').mono fun _ y hy => ?_
    · exact hdata
    · exact hmodule
    · exact htoken
    · exact hhandle
    have hk : y.1.keyagent = t.1.keyagent.setCurrent data.name requestId lstm'.label _ := hy.keyagent
    refine ⟨⟨⟨?_, ?_, hy.handle⟩, ?_, ?_⟩, ?_⟩
    · rw [hk]
      exact ⟨hx.tables.noHeapKeys.of_keyHash hkeys, hbut.setCurrent hd _ _⟩
    · intro p r hr
      rw [hk] at hr
      obtain rfl := hbut.only hsgx hin hr
      refine ⟨data, ?_, hdata, hy.offered⟩
      rw [hk]
      exact hd
    · rw [hy.rwlock]
      show t.1.rwlock ≠ none
      rw [hlock]
      exact hx.held
    · refine ⟨{ request with stmName := some lstm'.label }, ?_, hmodule⟩
      rw [hk, Keyagent.setCurrent, GHashTable.lookup_update, if_pos rfl, hrequest']
      rfl
    · rw [hk]
      exact hkeys

end Session

/-! ## KBS -/

/-- The key of the load, if it is there, has a session whose wrapping key was installed last. -/
def KeyReady (url : Bytes) (x : World W × Wrapping) : Prop :=
  ∀ key, x.1.keyagent.keyHash.lookup (hashKey url) = some key → ∃ r d, key.session = some r ∧
    x.1.keyagent.sessions[r]? = some d ∧ x.2.installed.map Prod.snd = some d.swk

/-- A load that has not found its key. -/
structure Searches (requestId url : Bytes) (uriData : ApimoduleUriData) (x : World W × Wrapping) :
    Prop extends InLoad requestId uriData x where
  missing : x.1.keyagent.keyHash.lookup (hashKey url) = none

section Kbs

variable {E : Step skcSig W} {L : Library} {uri : Bytes} {x y : World W × Wrapping}
  {cInit : Skc CkRv} {uriData : ApimoduleUriData} {requestId url : Bytes}

theorem KeyReady.of_missing (h : x.1.keyagent.keyHash.lookup (hashKey url) = none) :
    KeyReady url x := by
  intro key hkey
  rw [h] at hkey
  cases hkey

theorem Searches.ready (h : Searches requestId url uriData x) :
    InLoad requestId uriData x ∧ KeyReady url x := ⟨h.toInLoad, .of_missing h.missing⟩

theorem Searches.steady (hx : Searches requestId url uriData x) (h : Steady x y) :
    Searches requestId url uriData y where
  toInLoad := hx.toInLoad.steady h
  missing := by rw [h.keyagent]; exact hx.missing

/-- A call of the agent's own functions. -/
theorem sat_agent_steady {c : Call} (hc : c.Agent) (hmod : ∀ f, c ≠ .modifyKeyagent f) :
    Sat (wrapView E L uri).logic (Prog.lift (S := skcSig) c) (fun _ y => Steady x y) x :=
  AgentView.sat_lift'.mpr ⟨hc.unwrapsOwn, fun _ _ hy => steady_agent hc hmod hy⟩

/-- A request for a key is answered as the condition says. -/
theorem sat_transfer_swk {request : HttpRequest} (hrequest : request.postdata = none) :
    Sat (wrapView E L uri).logic (Prog.lift (S := skcSig) (.httpsSend request))
      (fun res y => Steady x y ∧ ∀ id, transferSession res = some id →
        y.1.keyagent.sessionHash.lookup (hashKey id) ≠ none →
        y.2.offered = y.2.installed.map Prod.snd) x := by
  refine AgentView.sat_lift'.mpr ⟨trivial, fun res y hy => ?_⟩
  have hsteady : Steady x y := steady_agent (c := .httpsSend request) trivial (fun _ => nofun) hy
  have hallow := hy.2 hrequest
  refine ⟨hsteady, ?_⟩
  rw [hsteady.keyagent, hsteady.wrapping]
  exact hallow

/-- **A key is created**, for a session whose wrapping key is installed. -/
theorem sat_keyCreate_swk {stm : StmOps} {type : KeyagentKeytype} {attrs : Option KAttributes}
    {id : Bytes} {error : Option GError} (hx : Searches requestId url uriData x)
    (hallow : x.1.keyagent.sessionHash.lookup (hashKey id) ≠ none →
      x.2.offered = x.2.installed.map Prod.snd) :
    Sat (wrapView E L uri).logic (npmOps stm (.keyCreate requestId url type attrs (some id) error))
      (fun _ y => InLoad requestId uriData y ∧ KeyReady url y) x := by
  refine AgentView.sat_keyagentKeyCreateWithCacheid (fun _ _ => hx.ready) ?_ ?_
  · intro key err' t hkey _
    exact absurd (hx.missing.symm.trans hkey) nofun
  · intro a id' r err' t _ _ hid hr ht
    obtain rfl : id = id' := Option.some.inj hid
    obtain ⟨hm, hlock, hwrap⟩ := wrapView_quiet ht
    have hm : t.1.apimodule = x.1.apimodule := hm
    have hlock : t.1.rwlock = x.1.rwlock := hlock
    have hwrap : t.2 = x.2 := hwrap
    have hc : CacheEq (x.1.keyagent.insertKey ⟨url, type, some r, a, -1⟩) t.1.keyagent := ht.cacheEq
    -- the writes to the cache change no name and no SWK
    have hsession : ∀ p r, x.1.keyagent.sessionHash.lookup p = some r → ∃ d,
        t.1.keyagent.sessions[r]? = some d ∧ d.name = lit "SGX" ∧ t.2.offered = some d.swk := by
      intro p r hp
      obtain ⟨d, hd, hname, hoffered⟩ := hx.sessions p r hp
      obtain ⟨d', hd', he⟩ := hc.session (r := r) hd
      obtain ⟨hswk, hname', -⟩ := KeyagentSessionReal.uncached_eq he
      exact ⟨d', hd', hname'.trans hname, by rw [hwrap, hoffered, hswk]⟩
    refine ⟨⟨⟨⟨?_, ?_⟩, ?_, ?_⟩, ?_, ?_⟩, ?_⟩
    · exact (hx.tables.noHeapKeys.insertKey _).of_cacheEq hc
    · exact SessionsCurrent.of_cacheEq (k := x.1.keyagent.insertKey _) hx.tables.current hc
    · intro p r hp
      rw [hc.sessionHash] at hp
      exact hsession p r hp
    · intro handle swk hi
      rw [hwrap] at hi
      rw [hm]
      exact hx.handle handle swk hi
    · rw [hlock]
      exact hx.held
    · rw [hc.requests]
      exact hx.request
    -- the key that the URL finds is the one that was made here
    · intro key hkey
      obtain ⟨key', hkey', he⟩ := hc.key hkey
      rw [Keyagent.insertKey_lookup, if_pos rfl, Option.some.injEq] at hkey'
      obtain ⟨d, hd, -, hoffered⟩ := hsession _ r hr
      have hin : x.1.keyagent.sessionHash.lookup (hashKey id) ≠ none :=
        Option.ne_none_iff_exists'.mpr ⟨r, hr⟩
      refine ⟨r, d, ?_, hd, ?_⟩
      · rw [← (KeyagentKeyReal.uncached_eq he).2.2.1, ← hkey']
      · rw [← hoffered, hwrap]
        exact (hallow hin).symm

/-- **The challenge.** -/
theorem sat_stmGetChallenge_swk (hinit : UntilLock cInit)
    (hlabel : cstr uriData.tokenLabel = Kms.kmsPrefixToken) {nonce name : Bytes}
    {error : Option GError} (hx : Searches requestId url uriData x) :
    Sat (wrapView E L uri).logic
      (keyagentStmGetChallenge (L.stmOps cInit) requestId nonce name error)
      (fun r y => Searches requestId url uriData y ∧
        (r.1 = true → name = lit "SGX" ∧ HasToken y)) x := by
  refine AgentView.sat_keyagentStmGetChallenge (fun _ => ⟨hx, nofun⟩)
    fun lstm request _ hrequest => ?_
  have hrequest : x.1.keyagent.apimoduleLoadkeyHash.lookup requestId = some request := hrequest
  obtain ⟨request', hrequest', hmodule⟩ := hx.request
  obtain rfl : request = request' := Option.some.inj (hrequest.symm.trans hrequest')
  have hu : Searches requestId url uriData
      (({ x.1 with keyagent := x.1.keyagent.setStmName requestId lstm.label }, x.2) :
        World W × Wrapping) := by
    refine ⟨⟨⟨⟨hx.tables.noHeapKeys, hx.tables.current⟩, hx.sessions, hx.handle⟩, hx.held, ?_⟩,
      hx.missing⟩
    refine ⟨{ request with stmName := some lstm.label }, ?_, hmodule⟩
    show (x.1.keyagent.apimoduleLoadkeyHash.update requestId _).lookup requestId = _
    rw [GHashTable.lookup_update, if_pos rfl, hrequest]
    rfl
  refine (sat_stmCreateChallenge_swk hinit L.sgxStm ?_ hu.held hu.toSwkInv error).mono
    fun r y hy => ⟨⟨hu.toInLoad.aside hy.1 hy.2.1, ?_⟩, hy.2.2⟩
  · intro data hdata
    obtain rfl : uriData = data := Option.some.inj (hmodule.symm.trans hdata)
    exact hlabel
  · rw [hy.1.keyagent]
    exact hu.missing

variable {details : KeyagentKeyloadDetails} {err : Option GError}

/-- The quote is posted, and the session that is answered is created. -/
theorem sat_postChallenge_swk {req : Kms.ChallengeRequest} {challenge : Bytes}
    (hlabel : cstr uriData.tokenLabel = Kms.kmsPrefixToken) (hname : req.challengeType = lit "SGX")
    (hx : Searches details.requestId url uriData x) (htoken : HasToken x) :
    Sat (wrapView E L uri).logic (runNpm (L.stmOps cInit) (Kms.postChallenge details req challenge err))
      (fun _ y => Searches details.requestId url uriData y) x := by
  refine AgentView.sat_runNpm_postChallenge fun request _ => ?_
  refine (sat_agent_steady (c := .httpsSend request) trivial fun _ => nofun).mono fun res y hy => ?_
  have hy' : Searches details.requestId url uriData y := hx.steady hy
  refine ⟨fun _ => hy', AgentView.sat_runNpm_createSession (fun _ => hy') fun swk swkType _ => ?_⟩
  refine (sat_sessionCreate_swk hlabel hname hy'.toInLoad (hy.hasToken htoken)).mono fun _ z hz => ?_
  have hz : Searches details.requestId url uriData z := ⟨hz.1, by rw [hz.2]; exact hy'.missing⟩
  exact ⟨fun _ => hz, fun _ _ => hz⟩

/-- **`start_session`** -/
theorem sat_startSession_swk (hinit : UntilLock cInit)
    (hlabel : cstr uriData.tokenLabel = Kms.kmsPrefixToken) {transferData : Json}
    (hx : Searches details.requestId url uriData x) :
    Sat (wrapView E L uri).logic (runNpm (L.stmOps cInit) (Kms.startSession details transferData err))
      (fun _ y => Searches details.requestId url uriData y) x := by
  refine AgentView.sat_runNpm_startSession (fun _ _ => hx) (fun _ _ _ => hx) fun req _ _ => ?_
  refine (sat_agent_steady (c := .uninitialised _) trivial fun _ => nofun).mono fun _ y hy nonce => ?_
  refine (sat_stmGetChallenge_swk hinit hlabel (hx.steady hy)).mono ?_
  rintro ⟨ret, challenge, err⟩ z ⟨hz, hsgx⟩
  refine ⟨fun _ => hz, fun hret challenge _ => ?_⟩
  obtain ⟨hname, htoken⟩ := hsgx hret
  exact sat_postChallenge_swk hlabel hname hz htoken

/-- The key that KBS hands out. -/
theorem sat_createKey_swk {stm : StmOps} {res : HttpResponse} (hstatus : res.status = 200)
    (hx : Searches details.requestId details.url uriData x)
    (hallow : ∀ id, transferSession res = some id →
      x.1.keyagent.sessionHash.lookup (hashKey id) ≠ none →
      x.2.offered = x.2.installed.map Prod.snd) :
    Sat (wrapView E L uri).logic (runNpm stm (Kms.createKey details res err))
      (fun _ y => InLoad details.requestId uriData y ∧ KeyReady details.url y) x := by
  refine AgentView.sat_runNpm_createKey (fun _ => hx.ready)
    fun transfer tokens sessionId hparse htokens hid => ?_
  have hnamed : transferSession res = some (gStrstrip sessionId) := by
    rw [transferSession, if_pos hstatus, hparse, htokens]
    simp only [hid, Option.join_some, Option.map_some]
  exact sat_keyCreate_swk hx (hallow _ hnamed)

/-- **`__npm_loadkey`**: a load that starts a session searches on as before. -/
theorem sat_npmLoadkey_swk (hinit : UntilLock cInit)
    (hlabel : cstr uriData.tokenLabel = Kms.kmsPrefixToken) {serverUrl : Bytes} {tries : Nat}
    (hx : Searches details.requestId details.url uriData x) :
    Sat (wrapView E L uri).logic
      (runNpm (L.stmOps cInit) (Kms.npmLoadkey serverUrl details tries err))
      (fun _ y => InLoad details.requestId uriData y ∧ KeyReady details.url y) x := by
  refine AgentView.sat_runNpm_npmLoadkey
    (P := fun _ y => Searches details.requestId details.url uriData y)
    (A := fun res _ y => Searches details.requestId details.url uriData y ∧ ∀ id,
      transferSession res = some id → y.1.keyagent.sessionHash.lookup (hashKey id) ≠ none →
      y.2.offered = y.2.installed.map Prod.snd)
    (fun _ _ hy _ => hy.ready) (fun _ y hy => ?_) (fun _ _ _ hy _ _ => hy.1.ready)
    (fun _ _ _ _ hy _ _ _ => hy.1.ready) (fun _ _ y hy _ _ => ?_)
    (fun _ _ y hy hstatus => sat_createKey_swk hstatus hy.1 hy.2) hx
  · refine AgentView.sat_sessionGetIds fun l _ request hget => (sat_transfer_swk hget).mono ?_
    exact fun res z hz => ⟨hy.steady hz.1, hz.2⟩
  · exact (sat_startSession_swk hinit hlabel hy.1).mono fun _ _ hz =>
      ⟨fun _ => hz, fun _ => hz.ready⟩

end Kbs

/-! ## A key load -/

section Load

variable {E : Step skcSig W} {L : Library} {uri : Bytes} {x y : World W × Wrapping}
  {cInit : Skc CkRv} {uriData : ApimoduleUriData} {requestId url : Bytes}

/-- A call of the PKCS#11 module that is not noted. -/
theorem steady_ck {d : CkCall} {a : d.Ans} (hnote : noteSwk (W := W) (.ck d) x.1 a x.2 = x.2)
    (h : wrapStep E (.ck d) x a y) : Steady x y := by
  refine .of_apimodule ⟨sysStep_keyagent h.1.1 fun _ => nofun, sysStep_rwlock h.1.1 nofun nofun, ?_⟩
    (sysStep_apimodule h.1.1 id)
  exact h.1.2.trans hnote

/-- **`sgx_load_key`**: what is unwrapped is unwrapped with the handle in the token. -/
theorem sat_loadKey_swk {details : KeyagentApimoduleLoadkeyDetails}
    (hdata : details.moduleData = some uriData)
    (hlabel : cstr uriData.tokenLabel = Kms.kmsPrefixToken)
    (hown : ∀ iv handle session template, details.iv = some iv →
      x.1.apimodule.wrappingHandle = some handle →
      UnwrapsOwn L uri
        (.ck (.cUnwrapKey session (.aesGcm iv details.tagSize) handle details.key template)) x)
    (err : Option GError) :
    Sat (wrapView E L uri).logic (apimoduleLoadKey details err) (fun _ y => Steady x y) x := by
  have hkey : ∀ template atoken, x.1.apimodule.apimoduleTokenHash.lookup Kms.kmsPrefixToken =
      some atoken → Sat (wrapView E L uri).logic (sgxUnwrapKey template details atoken)
        (fun _ y => Steady x y) x := by
    intro template atoken hlookup
    refine AgentView.sat_deref.mpr fun iv hiv => sat_readToken_swk fun token htoken => ?_
    have hhandle : x.1.apimodule.wrappingHandle = some token.wrappingkeyHandle := by
      rw [Apimodule.wrappingHandle, hlookup, Option.bind_some, htoken, Option.map_some]
    refine AgentView.sat_ck.mpr ⟨hown iv _ token.session template hiv hhandle, fun a y hy => ?_⟩
    exact sat_seq_pure.mpr (steady_ck rfl hy)
  unfold apimoduleLoadKey
  rw [hdata]
  refine sat_lookup_swk hlabel ?_
  split
  · dsimp only
    -- the class of the key only decides whether it is loaded and with which template
    generalize (if uriData.type = ckoData then keytypeClass details.type else uriData.type) = type
    split
    · exact sat_seq_pure.mpr (.refl x)
    · unfold sgxLoadKey
      rw [hdata]
      refine sat_lookup_swk hlabel ?_
      cases hlookup : x.1.apimodule.apimoduleTokenHash.lookup Kms.kmsPrefixToken with
      | none => exact sat_seq_pure.mpr (.refl x)
      | some atoken =>
        have hunwrap : Sat (wrapView E L uri).logic (sgxUnwrap details uriData atoken)
            (fun _ y => Steady x y) x := by
          unfold sgxUnwrap
          split
          · exact hkey _ _ hlookup
          · exact hkey _ _ hlookup
          · exact sat_seq_pure.mpr (.refl x)
        refine hunwrap.bind fun rv y hy => ?_
        split <;> exact sat_seq_pure.mpr hy
  · exact sat_seq_pure.mpr (.refl x)

/-- **The key is loaded into the token.** -/
theorem sat_loadkeyStm_swk (hurl : callUrl L uri = some url)
    (hlabel : cstr uriData.tokenLabel = Kms.kmsPrefixToken) (hx : InLoad requestId uriData x)
    (hready : KeyReady url x) (err : Option GError) :
    Sat (wrapView E L uri).logic (loadkeyStm (L.stmOps cInit) requestId url err)
      (fun _ y => InLoad requestId uriData y) x := by
  refine AgentView.sat_loadkeyStm (fun _ _ => hx) (fun _ _ => hx) fun key _ hkey => ?_
  refine AgentView.sat_keyagentStmLoadKey (fun _ => hx) ?_
  intro r d lstm request current cdata keydata iv wrappedKey tagSize hsession hd _ hrequest _ _
    hkeydata hparts
  obtain ⟨r', d', hsession', hd', hinstalled⟩ := hready key hkey
  obtain rfl : r = r' := Option.some.inj (hsession.symm.trans hsession')
  obtain rfl : d = d' := Option.some.inj (hd.symm.trans hd')
  obtain ⟨⟨handle, swk⟩, hinstalled, rfl⟩ := Option.map_eq_some_iff.mp hinstalled
  obtain ⟨request', hrequest', hmodule⟩ := hx.request
  obtain rfl : request = request' := Option.some.inj (hrequest.symm.trans hrequest')
  refine (sat_loadKey_swk ?_ hlabel ?_ _).mono fun _ y hy => hx.steady hy
  · exact hmodule
  · intro iv' handle' session template hiv hhandle
    have hsame : handle' = handle :=
      Option.some.inj (hhandle.symm.trans (hx.handle handle _ hinstalled))
    have hiv : iv = some iv' := hiv
    rw [hiv] at hparts
    rw [hsame]
    exact ⟨url, key, r, d, keydata, hurl, hkey, hsession, hd, hkeydata, hparts, hinstalled⟩

/-- **`_loadkey`**, for KMS. -/
theorem sat_loadkey_swk (hinit : UntilLock cInit) (hurl : callUrl L uri = some url)
    (hlabel : cstr uriData.tokenLabel = Kms.kmsPrefixToken) {serverUrl : Bytes} (hx : SwkInv x)
    (hheld : x.1.rwlock ≠ none) (hmissing : x.1.keyagent.keyHash.lookup (hashKey url) = none)
    (err : Option GError) :
    Sat (wrapView E L uri).logic
      (loadkey (L.modules (L.stmOps cInit)) (Kms.npm serverUrl) url (some uriData) err)
      (fun _ y => SwkInv y ∧ y.1.rwlock ≠ none) x := by
  refine AgentView.sat_loadkey ⟨hx, hheld⟩ ?_
  intro tmpError requestId y details _ hy hid hdetails
  subst hid hdetails
  have hsteady : Steady x y := steady_agent (c := .generateUuid) trivial (fun _ => nofun) hy
  have hinv : SwkInv y := hsteady.swkInv hx
  refine Sat.mono (Q := fun _ u => InLoad details.requestId uriData u ∧ KeyReady details.url u) ?_ ?_
  -- the request is registered, and no key has the URL yet
  · refine sat_npmLoadkey_swk hinit hlabel ⟨⟨⟨⟨hinv.tables.noHeapKeys, hinv.tables.current⟩,
      hinv.sessions, hinv.handle⟩, ?_, ?_⟩, ?_⟩
    · show y.1.rwlock ≠ none
      rw [hsteady.rwlock]
      exact hheld
    · exact ⟨_, AList.lookup_insert _, rfl⟩
    · show y.1.keyagent.keyHash.lookup (hashKey details.url) = none
      rw [hsteady.keyagent]
      exact hmissing
  · rintro ⟨_, err⟩ u ⟨hu, hready⟩
    refine (sat_loadkeyStm_swk hurl hlabel hu hready _).mono ?_
    rintro ⟨ret, tmpError⟩ v hv
    exact ⟨⟨⟨hv.tables.noHeapKeys, hv.tables.current⟩, hv.sessions, hv.handle⟩, hv.held⟩

theorem SwkInv.of_eq (hx : SwkInv x) (hk : y.1.keyagent = x.1.keyagent)
    (hm : y.1.apimodule = x.1.apimodule) (hw : y.2 = x.2) : SwkInv y where
  tables := by rw [hk]; exact hx.tables
  sessions := by rw [hk, hw]; exact hx.sessions
  handle := by
    intro handle swk hi
    rw [hw] at hi
    rw [hm]
    exact hx.handle handle swk hi

variable {fuel : Nat} {serverUrl : Bytes}

/-- **A load between lock and unlock.** -/
theorem sat_loadkeyLocked_swk (hinit : UntilLock cInit) (hurl : callUrl L uri = some url)
    (hlabel : cstr uriData.tokenLabel = Kms.kmsPrefixToken) (hnpm : L.npmHash = [Kms.npm serverUrl])
    (hx : SwkInv x) (hheld : x.1.rwlock ≠ none) (err : Option GError) :
    Sat (wrapView E L uri).logic
      (loadkeyLocked (L.modules (L.stmOps cInit)) url (some uriData) err)
      (fun _ y => SwkInv y) x := by
  refine AgentView.sat_loadkeyLocked (fun _ => hx) fun hmissing => ?_
  rw [show (L.modules (L.stmOps cInit)).npmHash = [Kms.npm serverUrl] from hnpm]
  refine Sat.bind (sat_loadkey_swk hinit hurl hlabel hx hheld hmissing err) ?_
  rintro ⟨ret, err⟩ y ⟨hy, -⟩
  cases ret with
  | true => exact sat_seq_pure.mpr ⟨fun _ _ => hy, fun _ => hy⟩
  | false => exact sat_seq_pure.mpr ⟨fun _ _ => hy, fun _ => hy⟩

/-- **The agent is asked for a key.** -/
theorem sat_onDemandLoadkey_swk (hinit : UntilLock cInit)
    (hurl : callUrl L uri = some (keyUrl uriData uri))
    (hlabel : cstr uriData.tokenLabel = Kms.kmsPrefixToken) (hnpm : L.npmHash = [Kms.npm serverUrl])
    (hx : SwkInv x) (hfree : x.1.rwlock = none) (err : Option GError) :
    Sat (wrapView E L uri).logic (onDemandLoadkey L (L.stmOps cInit) uriData uri err)
      (fun _ y => SwkInv y ∧ y.1.rwlock = none) x := by
  have hload : Sat (wrapView E L uri).logic (keyagentLoadkeyWithModuledata
      (L.modules (L.stmOps cInit)) (keyUrl uriData uri) (some uriData) err)
      (fun _ y => SwkInv y ∧ y.1.rwlock = none) x := by
    refine AgentView.sat_loadkeyWithModuledata (fun _ => ⟨hx, hfree⟩) fun _ =>
      ⟨trivial, fun _ y hy => ?_⟩
    obtain ⟨⟨⟨-, hy⟩, hw⟩, -⟩ := hy
    have hinv : SwkInv y := hx.of_eq (by rw [hy]) (by rw [hy]) hw
    have hheld : y.1.rwlock ≠ none := by
      rw [hy]
      nofun
    refine (sat_loadkeyLocked_swk hinit hurl hlabel hnpm hinv hheld err).mono fun r z hz => ?_
    refine ⟨trivial, fun _ u hu => ?_⟩
    obtain ⟨⟨hu, hw⟩, -⟩ := hu
    have hu : u.1 = { z.1 with rwlock := none } := hu
    exact ⟨hz.of_eq (by rw [hu]) (by rw [hu]) hw, by rw [hu]⟩
  refine hload.bind ?_
  rintro ⟨ret, err⟩ y hy
  dsimp only
  split
  · exact sat_seq_pure.mpr hy
  · exact AgentView.sat_deref.mpr fun _ _ => sat_seq_pure.mpr hy

/-- **The whole call.** -/
theorem sat_onDemand_swk (hnpm : L.npmHash = [Kms.npm serverUrl]) (hx : SwkInv x)
    (hfree : x.1.rwlock = none) :
    Sat (wrapView E L uri).logic (onDemand L fuel uri) (fun _ y => SwkInv y ∧ y.1.rwlock = none) x := by
  have hinit := cInitialize_untilLock L fuel
  unfold onDemand cOnDemandKeyLoad
  split
  · exact sat_seq_pure.mpr ⟨hx, hfree⟩
  · next uriData huri =>
    have hurl : callUrl L uri = some (keyUrl uriData uri) := by
      rw [callUrl, huri]
      rfl
    have hlabel := (apimoduleUriToUriData_spec huri).1
    -- every way through the call that finds no object ends in a load
    have hload : ∀ y : World W × Wrapping, SwkInv y → y.1.rwlock = none → ∀ err,
        Sat (wrapView E L uri).logic
          (onDemandLoadkey L (L.stmOps (cInitialize L fuel)) uriData uri err)
          (fun _ z => SwkInv z ∧ z.1.rwlock = none) y := fun y hy hlock err =>
      sat_onDemandLoadkey_swk hinit hurl hlabel hnpm hy hlock err
    refine (sat_lookupToken_swk hlabel hx none).bind ?_
    rintro ⟨atoken, err⟩ y ⟨hy, hinv⟩
    have hlock : y.1.rwlock = none := hy.rwlock.trans hfree
    cases atoken with
    | none => exact hload y hinv hlock err
    | some atoken =>
      refine sat_readToken_swk fun token _ => ?_
      split
      · exact sat_seq_pure.mpr ⟨hinv, hlock⟩
      · have hobject := (apimoduleFindobject_issues token.session uriData).mono ObjectCall.steadyCall
        refine (sat_issues_steady hobject).bind ?_
        rintro ⟨rv, isPresent⟩ z hz
        have hlock : z.1.rwlock = none := hz.rwlock.trans hlock
        dsimp only
        split
        · exact sat_seq_pure.mpr ⟨hz.swkInv hinv, hlock⟩
        · exact hload z (hz.swkInv hinv) hlock err

theorem SwkInv.of_empty {s : World W} (h : EmptyTables s.keyagent) : SwkInv (s, .nothing) where
  tables := .of_empty h
  sessions p r hr := by
    have hr : s.keyagent.sessionHash.lookup p = some r := hr
    rw [h.sessionHash] at hr
    cases hr
  handle := nofun

/--
**The wrapping key of a session.** In every run of key loads whose steps meet the condition: what is
unwrapped as a key is the payload of the key that was asked for, and it is unwrapped with the handle
under which the present wrapping key of the key's own session was installed.
-/
theorem key_unwrapped_own_swk {s : World W} {x y : World W × Wrapping} (hfree : s.rwlock = none)
    (htables : EmptyTables s.keyagent) (hnpm : L.npmHash = [Kms.npm serverUrl])
    (hr : Serial (wrapStep E) (onDemand L fuel) (fun _ _ => True) (s, .nothing) x)
    {session handle tagSize : Nat} {iv wrapped : Bytes} {template : CkTemplate}
    {k : CkRv × Nat → Skc CkRv}
    (hk : Exec (wrapStep E) (onDemand L fuel uri) x
      (.call (.ck (.cUnwrapKey session (.aesGcm iv tagSize) handle wrapped template)) k) y) :
    ∃ url key r d keydata, callUrl L uri = some url ∧
      y.1.keyagent.keyHash.lookup (hashKey url) = some key ∧ key.session = some r ∧
      y.1.keyagent.sessions[r]? = some d ∧
      key.attributes.lookup keyagentAttrKeydata = some keydata ∧
      splitKeytransfer keydata = some (.parts (some iv) wrapped tagSize) ∧
      y.2.installed = some (handle, d.swk) := by
  have hcall : ∀ {uri rv} {u v : World W × Wrapping}, SwkInv u ∧ u.1.rwlock = none → True →
      Runs (wrapStep E) (onDemand L fuel uri) u rv v → SwkInv v ∧ v.1.rwlock = none :=
    fun hu _ hruns => (sat_onDemand_swk hnpm hu.1 hu.2).runs hruns
  have hx : SwkInv x ∧ x.1.rwlock = none := hr.invariant hcall ⟨.of_empty htables, hfree⟩
  exact (sat_onDemand_swk hnpm hx.1 hx.2).issued hk

end Load

/-! ## A wrapping key that is refused -/

instance (c : Call) (x : World W × Wrapping) (a : c.Ans) : Decidable (NamesInstalled c x a) := by
  casesm* Call
  case httpsSend =>
    have : Decidable (c.postdata = none) := Option.decidableEqNone _
    exact inferInstanceAs (Decidable (c.postdata = none → ∀ id ∈ transferSession a,
      x.1.keyagent.sessionHash.lookup (hashKey id) ≠ none →
        x.2.offered = x.2.installed.map Prod.snd))
  all_goals exact isTrue trivial

/-- The handle with which a key is about to be unwrapped, and the wrapped key. -/
def keyUnwrap {α : Type} : Skc α → Option (Nat × Bytes)
  | .call (.ck (.cUnwrapKey _ (.aesGcm _ _) handle wrapped _)) _ => some (handle, wrapped)
  | _ => none

theorem keyUnwrap_eq_some {α : Type} {p : Skc α} {handle : Nat} {wrapped : Bytes}
    (h : keyUnwrap p = some (handle, wrapped)) : ∃ session iv tagSize template k,
      p = .call (.ck (.cUnwrapKey session (.aesGcm iv tagSize) handle wrapped template)) k := by
  unfold keyUnwrap at h
  split at h
  · obtain ⟨rfl, rfl⟩ := Prod.mk.inj (Option.some.inj h)
    exact ⟨_, _, _, _, _, rfl⟩
  · cases h

/-- The module with one token, which refuses every wrapping key. -/
def refusingSwk (c : Call) (w : TokenStore) : Option (c.Ans × TokenStore) :=
  match c with
  | .ck (.cUnwrapKey _ .rsaPkcsOaep _ _ _) => some ((ckrGeneralError, 0), w)
  | c => tokenStoreHandler c w

/-- The surroundings with that module. -/
def refusingSwkStep : Step skcSig TokenStore := fun c w a w' => refusingSwk c w = some (a, w')

/-- A handler, with the wrapping keys. -/
def swkHandler (h : (c : Call) → TokenStore → Option (c.Ans × TokenStore)) (c : skcSig.Op)
    (x : World TokenStore × Wrapping) : Option (skcSig.Ans c × World TokenStore × Wrapping) :=
  observing (S := skcSig) (sysHandler h 0) noteSwk c x

theorem swkHandler_step (h : (c : Call) → TokenStore → Option (c.Ans × TokenStore)) (c : skcSig.Op)
    (x : World TokenStore × Wrapping) (a : skcSig.Ans c) (y : World TokenStore × Wrapping)
    (hc : swkHandler h c x = some (a, y)) :
    (sysStep (fun c w a w' => h c w = some (a, w')) 0).observed noteSwk c x a y :=
  observing_step sysHandler_answers c x a y hc

/-- A process that has no sessions yet, over a token with a pin. -/
def swkStart : World TokenStore × Wrapping := (tokenStoreWorld (some (lit "1234")), .nothing)

/-- The wrapping key gets handle 4. -/
theorem key_unwrapped_own_swk_installed : ∃ (p : Skc CkRv) (y : World TokenStore × Wrapping)
    (wrapped : Bytes) (url : Bytes) (key : KeyagentKeyReal) (r : SessionRef)
    (d : KeyagentSessionReal),
    Exec (wrapStep tokenStoreStep) (onDemand kmsLibrary 2 (twoSpellings 0)) swkStart p y ∧
    keyUnwrap p = some (4, wrapped) ∧ y.1.keyagent.keyHash.lookup (hashKey url) = some key ∧
    key.session = some r ∧ y.1.keyagent.sessions[r]? = some d ∧ y.2.installed = some (4, d.swk) := by
  obtain ⟨⟨p, y⟩, hp, hv⟩ := Option.map_eq_some_iff.mp (show
    ((onDemand kmsLibrary 2 (twoSpellings 0)).steps
      (restricting (swkHandler tokenStoreHandler) NamesInstalled) 77 swkStart).map
      (fun r => (keyUnwrap r.1).map Prod.fst) = some (some 4) by decide +kernel)
  obtain ⟨⟨handle, wrapped⟩, hunwrap, rfl⟩ := Option.map_eq_some_iff.mp hv
  obtain ⟨session, iv, tagSize, template, k, rfl⟩ := keyUnwrap_eq_some hunwrap
  have hexec := Prog.steps_exec (restricting_step (swkHandler_step tokenStoreHandler)) hp
  obtain ⟨url, key, r, d, keydata, -, hkey, hsession, hd, -, -, hinstalled⟩ :=
    key_unwrapped_own_swk rfl ⟨rfl, rfl⟩ rfl .refl hexec
  exact ⟨_, y, wrapped, url, key, r, d, hexec, rfl, hkey, hsession, hd, hinstalled⟩

/-- The first load is refused its wrapping key, and the second one unwraps its key with handle 0. -/
theorem not_key_unwrapped_own_swk : ¬∀ (W : Type) (L : Library) (fuel : Nat) (E : Step skcSig W)
    (serverUrl : Bytes) (s : World W) (x y : World W × Wrapping) (uri : Bytes), s.rwlock = none →
    EmptyTables s.keyagent → L.npmHash = [Kms.npm serverUrl] →
    Serial ((sysStep E 0).observed noteSwk) (onDemand L fuel) (fun _ _ => True) (s, .nothing) x →
    ∀ session handle tagSize iv wrapped template k,
      Exec ((sysStep E 0).observed noteSwk) (onDemand L fuel uri) x
        (.call (.ck (.cUnwrapKey session (.aesGcm iv tagSize) handle wrapped template)) k) y →
      ∃ url key r d, callUrl L uri = some url ∧
        y.1.keyagent.keyHash.lookup (hashKey url) = some key ∧ key.session = some r ∧
        y.1.keyagent.sessions[r]? = some d ∧ y.2.installed = some (handle, d.swk) := by
  intro h
  have hrun : (((onDemand kmsLibrary 2 (twoSpellings 0)).run (swkHandler refusingSwk) swkStart).bind
      fun r => ((onDemand kmsLibrary 2 (twoSpellings 0)).steps (swkHandler refusingSwk) 27 r.2).map
        fun r => ((keyUnwrap r.1).map Prod.fst, r.2.2.installed)) = some (some 0, none) := by
    decide +kernel
  obtain ⟨⟨rv, x⟩, hx, hrun⟩ := Option.bind_eq_some_iff.mp hrun
  obtain ⟨⟨p, y⟩, hp, hv⟩ := Option.map_eq_some_iff.mp hrun
  obtain ⟨hunwrap, hnone⟩ := Prod.mk.inj hv
  obtain ⟨⟨handle, wrapped⟩, hunwrap, rfl⟩ := Option.map_eq_some_iff.mp hunwrap
  obtain ⟨session, iv, tagSize, template, k, rfl⟩ := keyUnwrap_eq_some hunwrap
  have hfirst := Prog.run_runs (swkHandler_step refusingSwk) hx
  have hexec := Prog.steps_exec (swkHandler_step refusingSwk) hp
  obtain ⟨url, key, r, d, -, -, -, -, hinstalled⟩ := h TokenStore kmsLibrary 2 refusingSwkStep _ _ x y
    (twoSpellings 0) rfl ⟨rfl, rfl⟩ rfl (.run .refl trivial hfirst) session 0 tagSize iv wrapped
    template k hexec
  rw [hnone] at hinstalled
  cases hinstalled

end SkcLibrary
