import SkcLibrary.Keyagent.Ready

/-!
# A key transfer with a KBS that serves

The KMS module over an agent that is ready, with a KBS that has the key: whether KBS still has one of
the sessions it is told of, or asks for a new one, the key ends up in the agent's table.
-/

namespace SkcLibrary

open Interaction

/-- KBS has a key of the given type and with the given secret under the id. -/
def Kbs.Has (K : Kbs) (keyId : Bytes) (type : KeyagentKeytype) (secret : Bytes) : Prop :=
  ∃ key, K.keys (K.serverUrl ++ lit "/v1/keys/" ++ keyId ++ lit "/dhsm2-transfer") = some key ∧
    key.keytype = type ∧ key.secret = secret

theorem Kbs.Has.wrapped {K : Kbs} (hK : K.Proper) {keyId secret : Bytes} {type : KeyagentKeytype}
    (h : K.Has keyId type secret) (id : Bytes) : (K.wrap (K.swk id) secret).Proper := by
  obtain ⟨key, hkey, -, rfl⟩ := h
  exact hK.wrapped hkey id

variable {W : Type} {E : Step skcSig W} {K : Kbs} {kbs : W → KbsState} {J : Apimodule → W → Prop}
  {T : StmStates W} {label : Bytes} {moduleData : Option ApimoduleUriData} {type : KeyagentKeytype}
  {secret : Bytes} {done : Bytes → W → Prop} {stm : StmOps} {lock : Option Nat} {k : Keyagent}
  {state : KbsState} {s : World W} {error : Option GError}

/-- One operation of an NPM. -/
theorem live_runNpm_op {c : NpmCall} {α : Type} {Q : α → World W → Prop} {f : c.Ans → Npm α} :
    Sat (.live (sysStep E 0)) (runNpm stm (Npm.op c >>= f)) Q s ↔
      Sat (.live (sysStep E 0)) (npmOps stm c)
        (fun a t => Sat (.live (sysStep E 0)) (runNpm stm (f a)) Q t) s := by
  rw [runNpm, Npm.op, Prog.interp_bind, Prog.interp_lift]
  exact Sat.bind_iff

theorem live_runNpm_pure {α : Type} {Q : α → World W → Prop} {a : α} :
    Sat (.live (sysStep E 0)) (runNpm stm (pure a)) Q s ↔ Q a s := sat_seq_pure

/-- A request of an NPM is served. -/
theorem live_runNpm_httpsSend (hE : Cooperates E K kbs J) (hs : Standing kbs J lock k state s)
    {request : HttpRequest} {α : Type} {Q : α → World W → Prop} {f : HttpResponse → Npm α}
    (h : ∀ t, Standing kbs J lock k (K.serve request state).2 t →
      Sat (.live (sysStep E 0)) (runNpm stm (f (K.serve request state).1)) Q t) :
    Sat (.live (sysStep E 0)) (runNpm stm (Npm.op (.httpsSend request) >>= f)) Q s := by
  rw [live_runNpm_op]
  have hlift : Prog.lift (S := skcSig) (.httpsSend request)
      = Prog.lift (S := skcSig) (.httpsSend request) >>= pure := (bind_pure _).symm
  rw [npmOps, hlift]
  exact live_httpsSend hE hs fun t ht => sat_seq_pure.mpr (h t ht)

/-- An array of an NPM. -/
theorem live_runNpm_uninitialised (hE : Cooperates E K kbs J) (hs : Standing kbs J lock k state s)
    {n : Nat} {α : Type} {Q : α → World W → Prop} {f : Uninitialised n → Npm α}
    (h : ∀ a t, Standing kbs J lock k state t → Sat (.live (sysStep E 0)) (runNpm stm (f a)) Q t) :
    Sat (.live (sysStep E 0)) (runNpm stm (Npm.op (.uninitialised n) >>= f)) Q s := by
  rw [live_runNpm_op]
  have hlift : Prog.lift (S := skcSig) (.uninitialised n)
      = Prog.lift (S := skcSig) (.uninitialised n) >>= pure := (bind_pure _).symm
  rw [npmOps, hlift]
  exact live_uninitialised hE hs fun a t ht => sat_seq_pure.mpr (h a t ht)

/-! ## The sessions that KBS is told of -/

/-- The sessions of the table, in some order. -/
structure Listed (k : Keyagent) (l : List KeyagentSessionReal) : Prop where
  tidy : ∀ d ∈ l, Kbs.TidyLabel d.name ∧ Kbs.TidyId d.sessionId
  stored : ∀ d ∈ l, k.sessionHash.lookup (hashKey d.sessionId) ≠ none
  all : ∀ id, k.sessionHash.lookup (hashKey id) ≠ none → ∃ d ∈ l, d.sessionId = id

theorem ReadyToLoad.listed (hk : ReadyToLoad label k) (hlabel : Kbs.TidyLabel label) {l : List SessionRef}
    (hl : l.Perm k.sessionHash.values) : Listed k (l.filterMap (k.sessions[·]?)) := by
  have hmem : ∀ d ∈ l.filterMap (k.sessions[·]?), Kbs.TidyLabel d.name ∧
      k.sessionHash.lookup (hashKey d.sessionId) ≠ none := by
    intro d hd
    obtain ⟨r, hr, hdr⟩ := List.mem_filterMap.mp hd
    obtain ⟨p, hp⟩ := GHashTable.mem_values.mp (hl.mem_iff.mp hr)
    obtain ⟨data, lstm, hdata, rfl, hlstm, -⟩ := hk.current p r hp
    obtain rfl : d = data := Option.some.inj (hdr.symm.trans hdata)
    have hname : d.name = label := congrArg GQuark.string (hk.stms hlstm).1
    refine ⟨hname ▸ hlabel, ?_⟩
    rw [hp]
    exact Option.some_ne_none _
  refine ⟨fun d hd => ⟨(hmem d hd).1, hk.ids _ (hmem d hd).2⟩, fun d hd => (hmem d hd).2, ?_⟩
  intro id hid
  obtain ⟨r, hr⟩ := Option.ne_none_iff_exists'.mp hid
  obtain ⟨d, -, hd, hp, -⟩ := hk.current _ r hr
  have hr' : r ∈ l := hl.mem_iff.mpr (GHashTable.mem_values.mpr ⟨_, hr⟩)
  exact ⟨d, List.mem_filterMap.mpr ⟨r, hr', hd⟩, (hashKey_injective hp).symm⟩

/-- `__keyagent_session_get_ids` -/
theorem live_sessionGetIds (hs : Standing kbs J lock k state s) (hk : ReadyToLoad label k)
    (hlabel : Kbs.TidyLabel label) {Q : Option Bytes → World W → Prop}
    (h : ∀ l, Listed k l → Q (if gStrjoin 44 (l.map KeyagentSessionReal.entry) = [] then none
      else some (gStrjoin 44 (l.map KeyagentSessionReal.entry))) s) :
    Sat (.live (sysStep E 0)) keyagentSessionGetIds Q s := by
  simp only [keyagentSessionGetIds]
  refine live_foreachSession hs fun l hl => live_keyagent hs (sat_seq_pure.mpr ?_)
  have hjoin : l.foldl (getSessionIds k.sessions) []
      = gStrjoin 44 ((l.filterMap (k.sessions[·]?)).map KeyagentSessionReal.entry) := by
    rw [foldl_getSessionIds fun r hr => hk.current.valid (hl.mem_iff.mp hr), foldl_entry]
  rw [hjoin]
  exact h _ (hk.listed hlabel hl)

/-! ## The key is handed out -/

/-- What a transfer leaves: the agent has the key, and the security module the swk that it needs. -/
def Transferred (K : Kbs) (kbs : W → KbsState) (T : StmStates W) (lock : Option Nat)
    (label requestId : Bytes) (moduleData : Option ApimoduleUriData) (url : Bytes)
    (type : KeyagentKeytype) (secret : Bytes) (s : World W) : Prop :=
  ∃ k state id, Standing kbs (T.equipped (K.swk id)) lock k state s ∧
    ReadyFor label requestId moduleData k ∧
    HasKeyOf url type id (K.wrap (K.swk id) secret).keytransfer k

namespace Kms

variable {details : KeyagentKeyloadDetails}

/-- The answer with the key names its session. -/
theorem live_createKey (hstm : stm.Works E K kbs T label moduleData type done) {id : Bytes}
    (hs : Standing kbs (T.equipped (K.swk id)) lock k state s)
    (hk : ReadyFor label details.requestId moduleData k)
    (hmiss : k.keyHash.lookup (hashKey details.url) = none) {name : Bytes}
    (hname : Kbs.TidyLabel name) (hid : Kbs.TidyId id)
    (hstored : k.sessionHash.lookup (hashKey id) ≠ none) {key : KbsKey} (htype : key.keytype = type)
    (hsecret : key.secret = secret) :
    Sat (.live (sysStep E 0)) (runNpm stm (createKey details
        ⟨200, [sessionIdHeader (name ++ lit ":" ++ id)], K.keyDocument key id⟩ error))
      (fun _ t => Transferred K kbs T lock label details.requestId moduleData details.url type secret t)
      s := by
  obtain ⟨token, htoken, hstrip⟩ := gStrv_sessionIdHeader name id
  have htokens : sessionIdTokens [sessionIdHeader (name ++ lit ":" ++ id)]
      = some (gStrsplit (sessionIdHeader (name ++ lit ":" ++ id)) 58) :=
    sessionIdTokens_eq [] (isSessionIdHeader_sessionIdHeader _) fun _ h => absurd h List.not_mem_nil
  have hread : gStrstrip token = id := by
    rw [hstrip, gStrstrip_namedId, EntryReadable, if_neg hname.colon]
    exact ⟨hid.colon, hid.trimmed⟩
  simp only [createKey, parseKeyTransfer_keyDocument]
  simp only [htokens, htoken, Npm.deref_some, pure_bind]
  rw [live_runNpm_op, hread, htype, hsecret]
  refine (live_keyCreate (hstm.equipped _) hs hk hmiss hstored).mono fun r t ht => ?_
  obtain ⟨-, k', ht', hk', hof⟩ := ht
  exact live_runNpm_pure.mpr ⟨k', state, id, ht', hk', hof⟩

/-! ## A session is asked for -/

/-- The agent has a session that KBS has, and the security module its swk. -/
def Agreed (K : Kbs) (kbs : W → KbsState) (T : StmStates W) (lock : Option Nat)
    (label requestId : Bytes) (moduleData : Option ApimoduleUriData) (k : Keyagent) (s : World W) :
    Prop :=
  ∃ k' state id, Standing kbs (T.equipped (K.swk id)) lock k' state s ∧
    ReadyFor label requestId moduleData k' ∧ SameKeys k k' ∧ id ∈ state.sessions ∧
    k'.sessionHash.lookup (hashKey id) ≠ none

/-- The answer is posted, and the session goes into the table. -/
theorem live_postChallenge (hK : K.Proper) (hstm : stm.Works E K kbs T label moduleData type done)
    {challenge : Bytes} (hs : Standing kbs (T.challenged challenge) lock k state s)
    (hk : ReadyFor label details.requestId moduleData k) {q : GQuark} {lstm : KeyagentStmReal}
    (hl : k.stmHash.lookup q = some lstm) {url method : Bytes} {n : Nat} :
    Sat (.live (sysStep E 0)) (runNpm stm (postChallenge details
        ⟨url, method, label, gBase64Encode (K.sessionId n)⟩ challenge error))
      (fun r t => r = (true, error) ∧
        Agreed K kbs T lock label details.requestId moduleData k t) s := by
  unfold postChallenge
  refine live_runNpm_httpsSend (hstm.challenged challenge) hs fun t ht => ?_
  rw [Kbs.serve_sessionData] at ht ⊢
  dsimp only
  rw [if_neg (by decide), if_neg (by decide), createSession]
  have hid : cstr (gBase64Decode (gBase64Encode (K.sessionId n))) = K.sessionId n := by
    rw [gBase64Decode_gBase64Encode, hK.texts]
  simp only [Kbs.parseSession_sessionCreated]
  rw [live_runNpm_op, hid]
  refine (live_sessionCreate hstm ht hk hl (hK.ids n) (hK.swkTypes _)).mono ?_
  rintro r u ⟨rfl, k', hu, hk', hsame, hin⟩
  rw [if_neg (by simp)]
  exact live_runNpm_pure.mpr ⟨rfl, k', _, _, hu, hk', hsame, List.mem_cons_self, hin⟩

theorem live_startSession (hK : K.Proper) (hstm : stm.Works E K kbs T label moduleData type done)
    (hlabel : Kbs.TidyLabel label) (hs : Standing kbs T.up lock k state s)
    (hk : ReadyFor label details.requestId moduleData k) {n : Nat} :
    Sat (.live (sysStep E 0)) (runNpm stm (startSession details
        (K.notAuthorized label (K.sessionId n)) error))
      (fun r t => r = (true, error) ∧
        Agreed K kbs T lock label details.requestId moduleData k t) s := by
  obtain ⟨q, lstm, hl, -⟩ := hk.enabled
  simp only [startSession, Kbs.parseChallenge_notAuthorized, hlabel.text]
  rw [if_neg (by decide)]
  refine live_runNpm_uninitialised hstm.up hs fun nonce t ht => ?_
  -- the id of the session fits the nonce
  obtain ⟨nonce, hnonce⟩ := nonce
  have hfits : stripDashes (gBase64Decode (gBase64Encode (K.sessionId n))) 0 nonce ≠ none := by
    refine stripDashes_ne_none ?_
    rw [Nat.zero_add, hnonce]
    exact hK.fits n
  obtain ⟨nonce', hstrip⟩ := Option.ne_none_iff_exists'.mp hfits
  simp only [hstrip, Npm.deref_some, pure_bind]
  rw [live_runNpm_op]
  refine (live_stmGetChallenge hstm ht hk hl).mono ?_
  rintro r u ⟨challenge, rfl, hu⟩
  rw [if_neg (by simp)]
  simp only [Npm.deref_some, pure_bind]
  exact live_postChallenge hK hstm hu (hk.setStmName label) hl

/-! ## The transfer -/

/-- One try: KBS has a session that the agent has, or it asks for a new one. -/
theorem live_npmLoadkey_try (hstm : stm.Works E K kbs T label moduleData type done)
    (hlabel : Kbs.TidyLabel label) (hs : Standing kbs (T.Covers K k) lock k state s)
    (hk : ReadyFor label details.requestId moduleData k)
    (hurl : (gStrsplit details.url 58)[0]? = some kmsPrefixToken)
    (hkey : K.Has ((gStrsplit details.url 58).getD 1 []) type secret)
    (hmiss : k.keyHash.lookup (hashKey details.url) = none) {tries : Nat}
    {Q : Bool × Option GError → World W → Prop}
    (hdone : ∀ r t,
      Transferred K kbs T lock label details.requestId moduleData details.url type secret t → Q r t)
    (hchallenge : (∀ id ∈ state.sessions, k.sessionHash.lookup (hashKey id) = none) →
      ∀ keyId ids t, Standing kbs (T.Covers K k) lock k { state with issued := state.issued + 1 } t →
      Sat (.live (sysStep E 0)) (runNpm stm (startSession details (K.notAuthorized
          (Kbs.accepted (transferRequest K.serverUrl details keyId ids).headers)
          (K.sessionId state.issued)) error))
        (fun r u => r = (true, error) ∧
          Sat (.live (sysStep E 0)) (runNpm stm (npmLoadkey K.serverUrl details tries error)) Q u) t) :
    Sat (.live (sysStep E 0)) (runNpm stm (npmLoadkey K.serverUrl details (tries + 1) error)) Q s := by
  rw [npmLoadkey]
  dsimp only
  rw [if_neg (by rw [hurl]; simp), live_runNpm_op]
  refine live_sessionGetIds hs hk.toReadyToLoad hlabel fun l hl => ?_
  refine live_runNpm_httpsSend (hstm.covers k) hs fun t ht => ?_
  have hoffered : Kbs.offered (transferRequest K.serverUrl details
      ((gStrsplit details.url 58).getD 1 []) (if gStrjoin 44 (l.map KeyagentSessionReal.entry) = [] then
        none else some (gStrjoin 44 (l.map KeyagentSessionReal.entry)))).headers
      = l.map fun d => (d.name, d.sessionId) := Kbs.offered_transferRequest rfl hl.tidy
  rcases Kbs.granted_cases state hoffered with ⟨d, hd, hgranted⟩ | ⟨hgranted, hnone⟩
  · obtain ⟨key, hkeys, htype, hsecret⟩ := hkey
    rw [Kbs.serve_granted rfl hgranted hkeys] at ht ⊢
    dsimp only
    rw [if_neg (by decide), if_neg (by decide), if_pos rfl]
    -- the module has the swk of this session
    have ht' : Standing kbs (T.equipped (K.swk d.sessionId)) lock k state t :=
      ht.mono fun h => h.2 _ (hl.stored d hd)
    exact (live_createKey hstm ht' hk hmiss (hl.tidy d hd).1 (hl.tidy d hd).2 (hl.stored d hd) htype
      hsecret).mono hdone
  · rw [Kbs.serve_notAuthorized rfl hgranted] at ht ⊢
    dsimp only
    rw [if_neg (by decide), if_pos rfl]
    simp only [Kbs.parseFault_notAuthorized]
    rw [if_pos ⟨trivial, trivial⟩, runNpm, Prog.interp_bind]
    refine (hchallenge (fun id hid => ?_) _ _ t ht).bind fun r u hu => ?_
    · by_contra hne
      obtain ⟨d, hd, rfl⟩ := hl.all id hne
      exact hnone d hd hid
    · obtain ⟨rfl, hu⟩ := hu
      exact hu

/-- **A key transfer**: the key ends up in the table, with at most one new session. -/
theorem live_npmKeyLoad (hK : K.Proper) (hstm : stm.Works E K kbs T label moduleData type done)
    (hlabel : Kbs.TidyLabel label) (hs : Standing kbs (T.Covers K k) lock k state s)
    (hk : ReadyFor label details.requestId moduleData k)
    (hnames : details.stmNames = stmNames k.stmHash.values k.apimoduleEnabled)
    (hurl : (gStrsplit details.url 58)[0]? = some kmsPrefixToken)
    (hkey : K.Has ((gStrsplit details.url 58).getD 1 []) type secret)
    (hmiss : k.keyHash.lookup (hashKey details.url) = none) :
    Sat (.live (sysStep E 0)) (runNpm stm (npmKeyLoad K.serverUrl details error))
      (fun _ t => Transferred K kbs T lock label details.requestId moduleData details.url type secret t)
      s := by
  refine live_npmLoadkey_try hstm hlabel hs hk hurl hkey hmiss (fun _ _ h => h)
    fun _ keyId ids t ht => ?_
  -- KBS picks the module
  have hstms : ∀ stm ∈ k.stmHash.values, stm.label = label := by
    intro stm hm
    obtain ⟨q, hq⟩ := GHashTable.mem_values.mp hm
    exact (hk.stms hq).2
  obtain ⟨q₀, stm₀, hq₀, hon⟩ := hk.enabled
  obtain ⟨lstm, hm, haccepted⟩ := Kbs.accepted_transferRequest K.serverUrl keyId ids hnames
    (fun stm hm => hstms stm hm ▸ hlabel) ⟨stm₀, GHashTable.mem_values.mpr ⟨q₀, hq₀⟩, hon⟩
  rw [haccepted, hstms lstm hm]
  refine (live_startSession hK hstm hlabel (ht.mono fun h => h.1) hk).mono ?_
  rintro r u ⟨rfl, k', state', id, hu, hk', hsame, hid, hin⟩
  refine ⟨rfl, ?_⟩
  -- the session is known on both sides, so the second try is the last
  refine live_npmLoadkey_try hstm hlabel (hu.mono (hstm.covered hk'.toReadyToLoad hin)) hk' hurl hkey
    (hsame.none_iff.mpr hmiss) (fun _ _ h => h) fun hnone => ?_
  exact absurd (hnone id hid) hin

end Kms

end SkcLibrary
