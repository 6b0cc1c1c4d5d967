import SkcLibrary.Apimodule.KeyIds
import SkcLibrary.Apimodule.TokenLive
import SkcLibrary.Npm.KmsLive

/-!
# Loads that succeed

A load that is called alone, with the KMS module, a KBS that has the key, a database that takes every
row, and a token that unwraps what KBS made for it. KBS may have forgotten the sessions that the agent
still has, or have others, and between two loads it may change as it likes.

* `loads_complete` — from every point of every load there is a way to its end, and every end is
  `CKR_OK`; a key that neither the agent nor the token had is in the token then, with the secret that
  KBS has
-/

namespace SkcLibrary

open Interaction

variable {W : Type}

/-! ## The agent's part -/

section Agent

variable {E : Step skcSig W} {K : Kbs} {kbs : W → KbsState} {J : Apimodule → W → Prop}
  {T : StmStates W} {label : Bytes} {moduleData : Option ApimoduleUriData} {type : KeyagentKeytype}
  {secret : Bytes} {done : Bytes → W → Prop} {M : Modules} {lock : Option Nat} {k : Keyagent}
  {state : KbsState} {s : World W} {err : Option GError} {url keyId : Bytes} {rest : List Bytes}

/-- The lock is free. -/
theorem live_rwLockWriterLock (hs : Standing kbs J none k state s) {α : Type}
    {Q : α → World W → Prop} {f : Unit → Skc α}
    (h : ∀ t, Standing kbs J (some 0) k state t → Sat (.live (sysStep E 0)) (f ()) Q t) :
    Sat (.live (sysStep E 0)) (Prog.lift (S := skcSig) .rwLockWriterLock >>= f) Q s := by
  rw [Prog.lift_bind, sat_seq_call]
  refine ⟨⟨(), _, hs.lock, rfl⟩, fun _ t ht => ?_⟩
  obtain ⟨-, rfl⟩ := ht
  exact h _ ⟨hs.keyagent, hs.kbs, hs.module, rfl⟩

theorem live_rwLockWriterUnlock (hs : Standing kbs J lock k state s) {α : Type}
    {Q : α → World W → Prop} {f : Unit → Skc α}
    (h : ∀ t, Standing kbs J none k state t → Sat (.live (sysStep E 0)) (f ()) Q t) :
    Sat (.live (sysStep E 0)) (Prog.lift (S := skcSig) .rwLockWriterUnlock >>= f) Q s := by
  rw [Prog.lift_bind, sat_seq_call]
  have hstep : sysStep E 0 .rwLockWriterUnlock s () { s with rwlock := none } := rfl
  refine ⟨⟨(), _, hstep⟩, fun _ t ht => ?_⟩
  obtain rfl : t = { s with rwlock := none } := ht
  exact h _ ⟨hs.keyagent, hs.kbs, hs.module, rfl⟩

/-- What a load leaves: the key is in the agent's table, and something else holds. -/
def LoadedIn (K : Kbs) (kbs : W → KbsState) (T : StmStates W) (lock : Option Nat) (label url : Bytes)
    (G : W → Prop) (s : World W) : Prop :=
  ∃ k state, Standing kbs (T.Covers K k) lock k state s ∧ ReadyToLoad label k ∧
    k.keyHash.lookup (hashKey url) ≠ none ∧ G s.env

/-- `_loadkey` with the KMS module. -/
theorem live_loadkey (hK : K.Proper) (hlabel : Kbs.TidyLabel label)
    (hstm : M.stm.Works E K kbs T label moduleData type done)
    (hs : Standing kbs (T.Covers K k) lock k state s) (hk : ReadyToLoad label k)
    (htokens : gStrsplit url 58 = Kms.kmsPrefixToken :: keyId :: rest) (hid : keyId ≠ [])
    (hkey : K.Has keyId type secret) (hmiss : k.keyHash.lookup (hashKey url) = none) :
    Sat (.live (sysStep E 0)) (loadkey M (Kms.npm K.serverUrl) url moduleData err)
      (fun r t => r.1 = true ∧ LoadedIn K kbs T lock label url (done secret) t) s := by
  have hregister : (Kms.npm K.serverUrl).register url = (true, none) := by
    simp [Kms.npm, Kms.npmRegister, htokens, hid]
  have hinit : (Kms.npm K.serverUrl).initialized ≠ false := by simp [Kms.npm]
  rw [loadkey, if_neg hinit]
  simp only [hregister]
  refine live_generateUuid (hstm.covers k) hs fun requestId t ht => ?_
  simp only [requestInsert]
  refine live_modifyKeyagent ht fun u hu => live_keyagent hu ?_
  have hk' : ReadyFor label requestId moduleData (k.withRequests
      (k.apimoduleLoadkeyHash.insert requestId ⟨moduleData, (Kms.npm K.serverUrl).label, none⟩)) :=
    ⟨hk.withRequests _, _, (GHashTable.lookup_insert_eq _ _ _ _).trans (if_pos rfl), rfl⟩
  have hload : Sat (.live (sysStep E 0)) (runNpm M.stm (Kms.npmKeyLoad K.serverUrl
        ⟨requestId, url, stmNames k.stmHash.values k.apimoduleEnabled, M.config.sslOpts⟩ err))
      (fun _ t => Transferred K kbs T lock label requestId moduleData url type secret t) u :=
    Kms.live_npmKeyLoad hK hstm hlabel hu hk' rfl (by simp [htokens]) (by simpa [htokens] using hkey)
      hmiss
  refine hload.bind ?_
  rintro ⟨_, err⟩ v ⟨k₁, state₁, id, hv, hk₁, hof⟩
  refine (live_loadkeyStm hstm (hkey.wrapped hK id) hv hk₁ hof).bind ?_
  rintro r x ⟨rfl, hx, hdone⟩
  -- the key's session is the only one, so the module has the swk of every session
  obtain ⟨key, session, hlookup, -, -, hsession, -⟩ := hof
  have hin : k₁.sessionHash.lookup (hashKey id) ≠ none := by
    rw [hsession]
    exact Option.some_ne_none _
  have hx' : Standing kbs (fun m w => T.Covers K k₁ m w ∧ done secret w) lock k₁ state₁ x :=
    hx.mono fun h => ⟨hstm.covered hk₁.toReadyToLoad hin h, hdone⟩
  simp only [requestRemove]
  have hne : k₁.keyHash.lookup (hashKey url) ≠ none := by
    rw [hlookup]
    exact Option.some_ne_none _
  refine live_modifyKeyagent hx' fun y hy => sat_seq_pure.mpr ⟨rfl, ?_⟩
  exact ⟨k₁.withRequests (k₁.apimoduleLoadkeyHash.erase requestId), state₁, hy.mono fun h => h.1,
    hk₁.toReadyToLoad.withRequests _, hne, hy.module.2⟩

/-- **A load** of a url whose key KBS has. -/
theorem live_loadkeyWithModuledata (hK : K.Proper) (hlabel : Kbs.TidyLabel label)
    (hM : M.npmHash = [Kms.npm K.serverUrl])
    (hstm : M.stm.Works E K kbs T label moduleData type done)
    (hs : Standing kbs (T.Covers K k) none k state s) (hk : ReadyToLoad label k)
    (htokens : gStrsplit url 58 = Kms.kmsPrefixToken :: keyId :: rest) (hid : keyId ≠ [])
    (hkey : K.Has keyId type secret) :
    Sat (.live (sysStep E 0)) (keyagentLoadkeyWithModuledata M url moduleData err)
      (fun r t => r.1 = true ∧ LoadedIn K kbs T none label url
        (fun w => k.keyHash.lookup (hashKey url) = none → done secret w) t) s := by
  have hmissing : urlTokenMissing url = some false := by
    have hkms : Kms.kmsPrefixToken ≠ [] := by decide
    simp [urlTokenMissing, htokens, gStrv, hkms, hid]
  rw [keyagentLoadkeyWithModuledata]
  refine live_deref hmissing ?_
  rw [if_neg (by simp)]
  refine live_rwLockWriterLock hs fun t ht => ?_
  simp only [loadkeyLocked, keyagentKeyLookup, bind_assoc, pure_bind]
  refine live_keyagent ht ?_
  cases hlookup : k.keyHash.lookup (hashKey url) with
  | some key =>
    refine live_rwLockWriterUnlock ht fun u hu => sat_seq_pure.mpr ⟨rfl, k, state, hu, hk, ?_, ?_⟩
    · rw [hlookup]
      exact Option.some_ne_none _
    · exact fun h => absurd h (Option.some_ne_none _)
  | none =>
    simp only [hM, npmHashFind, bind_assoc]
    refine (live_loadkey hK hlabel hstm ht hk htokens hid hkey hlookup).bind ?_
    rintro ⟨ret, e⟩ u ⟨hret, k', state', hu, hk', hne, hdone⟩
    obtain rfl : ret = true := hret
    simp only [if_pos, pure_bind]
    rw [if_neg (by simp)]
    simp only [bind_assoc, pure_bind]
    have hu' : Standing kbs (fun m w => T.Covers K k' m w ∧ done secret w) (some 0) k' state' u :=
      hu.mono fun h => ⟨h, hdone⟩
    refine live_keyagent hu' (live_rwLockWriterUnlock hu' fun v hv => sat_seq_pure.mpr ?_)
    exact ⟨Option.isSome_iff_ne_none.mpr hne, k', state', hv.mono fun h => h.1, hk', hne,
      fun _ => hv.module.2⟩

end Agent

/-! ## The api module's part -/

/-- A URI of a key that KBS has, with the pin of the token. -/
structure ServedUri (L : Library) (K : Kbs) (pin uri : Bytes) (uriData : ApimoduleUriData)
    (secret : Bytes) : Prop where
  data : callData L uri = some uriData
  tokenLabel : uriData.tokenLabel = Kms.kmsPrefixToken
  pin : uriData.pin = pin
  keyId : firstToken 58 (cstr uriData.keyId) ≠ []
  key : ∃ type, type ≠ .invalidkey ∧ uriData.type = keytypeClass type ∧
    K.Has (firstToken 58 (cstr uriData.keyId)) type secret

/-- No load is going on, and everything is ready for one. -/
structure Prepared (P : Pkcs11Token W) (K : Kbs) (s : World W) : Prop where
  lock : s.rwlock = none
  ready : ReadyToLoad (lit "SGX") s.keyagent
  token : TokenIdle P K s.keyagent s.apimodule s.env

section Module

variable {E : Step skcSig W} {K : Kbs} {kbs : W → KbsState} {J : Apimodule → W → Prop}
  {P : Pkcs11Token W} {L : Library} {fuel : Nat} {s t : World W} {uri secret : Bytes}
  {uriData : ApimoduleUriData}

theorem tidyLabel_sgx : Kbs.TidyLabel (lit "SGX") :=
  ⟨by decide, by decide, by decide, by decide⟩

/-- An agent that is ready, and a module that has its swks. -/
theorem Standing.prepared {k : Keyagent} {state : KbsState}
    (hs : Standing kbs ((tokenStates P).Covers K k) none k state s) (hk : ReadyToLoad (lit "SGX") k) :
    Prepared P K s := by
  obtain rfl := hs.keyagent
  exact ⟨hs.lock, hk, fun _ => hs.module.1, hs.module.2⟩

/-- The part of `C_OnDemand_KeyLoad` that asks the agent, with the token open. -/
theorem live_onDemandLoadkey (hE : Cooperates E K kbs J) (hP : P.In L.rsaPublicKeyParams K E) (hK : K.Proper)
    (hnpm : L.npmHash = [Kms.npm K.serverUrl]) (hconfig : L.sgxStm.Attests)
    (hu : ServedUri L K P.pin uri uriData secret) {k : Keyagent} {state : KbsState}
    (hs : Standing kbs ((tokenStates P).Covers K k) none k state s) (hk : ReadyToLoad (lit "SGX") k)
    {cInit : Skc CkRv} {err : Option GError} :
    Sat (.live (sysStep E 0)) (onDemandLoadkey L (L.stmOps cInit) uriData uri err)
      (fun rv t => rv = ckrOk ∧ Prepared P K t ∧
        (k.keyHash.lookup (hashKey (keyUrl uriData uri)) = none →
          (uriData.objectName, secret) ∈ P.objects t.env)) s := by
  obtain ⟨type, htype, hclass, hkey⟩ := hu.key
  obtain ⟨rest, htokens⟩ := gStrsplit_keyUrl hu.data
  have hkms := (apimoduleUriToUriData_spec hu.data).1
  have hstm : (L.modules (L.stmOps cInit)).stm.Works E K kbs (tokenStates P) (lit "SGX")
      (some uriData) type (fun secret w => (uriData.objectName, secret) ∈ P.objects w) :=
    sgxStm_works hE hP hconfig hkms htype hclass
  unfold onDemandLoadkey
  refine (live_loadkeyWithModuledata hK tidyLabel_sgx hnpm hstm hs hk htokens hu.keyId hkey).bind ?_
  rintro ⟨ret, e⟩ t ⟨hret, k', state', ht, hk', -, hdone⟩
  obtain rfl : ret = true := hret
  exact sat_seq_pure.mpr ⟨rfl, ht.prepared hk', hdone⟩

/-- **A load** of a URI whose key KBS has. -/
theorem live_onDemand (hE : Cooperates E K kbs J) (hP : P.In L.rsaPublicKeyParams K E) (hK : K.Proper)
    (hnpm : L.npmHash = [Kms.npm K.serverUrl]) (hconfig : L.sgxStm.Attests)
    (hu : ServedUri L K P.pin uri uriData secret) (hs : Prepared P K s) :
    Sat (.live (sysStep E 0)) (onDemand L fuel uri)
      (fun rv t => rv = ckrOk ∧ Prepared P K t ∧
        (s.keyagent.keyHash.lookup (hashKey (keyUrl uriData uri)) = none →
          (∀ x, (uriData.objectName, x) ∉ P.objects s.env) →
          (uriData.objectName, secret) ∈ P.objects t.env)) s := by
  have htext := apimoduleUriToUriData_pin hu.data
  have hdata : apimoduleUriToUriData (L.p11KitUriParse (cstr uri)) uri = some uriData := hu.data
  unfold onDemand cOnDemandKeyLoad
  simp only [hdata]
  have hs' : Standing kbs (TokenIdle P K s.keyagent) none s.keyagent (kbs s.env) s :=
    ⟨rfl, rfl, hs.token, hs.lock⟩
  refine (live_lookupOrInitToken hE hP hs' hu.tokenLabel hu.pin htext).bind ?_
  rintro r t ⟨atoken, rfl, hobjects, hat, ht⟩
  have ht' : Standing kbs (TokenAt P atoken fun _ _ => True) none s.keyagent (kbs s.env) t :=
    ht.mono fun _ => hat
  refine live_readToken ht' fun token _ hpin _ => ?_
  rw [if_neg (by rw [hpin, htext, hu.pin]; exact not_not.mpr rfl)]
  refine (live_findobject hE hP ht).bind ?_
  rintro ⟨rv, isPresent⟩ u ⟨hrv, hfound, hobjects', hu'⟩
  obtain rfl : rv = ckrOk := hrv
  cases isPresent with
  | true =>
    simp only [or_true, if_true]
    refine sat_seq_pure.mpr ⟨rfl, hu'.prepared hs.ready, fun _ hnew => ?_⟩
    obtain ⟨x, hx⟩ := hfound rfl
    exact absurd (hobjects ▸ hx) (hnew x)
  | false =>
    rw [if_neg (by simp)]
    refine (live_onDemandLoadkey hE hP hK hnpm hconfig hu hu' hs.ready).mono fun rv v hv => ?_
    exact ⟨hv.1, hv.2.1, fun hmiss _ => hv.2.2 hmiss⟩

/-! ## Every load -/

/--
Loads that are called one after the other. In between, anything may happen outside that leaves the
token its handles.
-/
inductive LoadsAlone (E : Step skcSig W) (L : Library) (K : Kbs) (P : Pkcs11Token W) (fuel : Nat)
    (s : World W) : World W → Prop
  | refl : LoadsAlone E L K P fuel s s
  | load {t u : World W} {uri secret : Bytes} {uriData : ApimoduleUriData} {rv : CkRv} :
      LoadsAlone E L K P fuel s t → ServedUri L K P.pin uri uriData secret →
      Runs (sysStep E 0) (onDemand L fuel uri) t rv u → LoadsAlone E L K P fuel s u
  | outside {t : World W} {w : W} : LoadsAlone E L K P fuel s t → P.Lasts t.env w →
      LoadsAlone E L K P fuel s { t with env := w }

theorem Prepared.outside (h : Prepared P K s) {w : W} (hw : P.Lasts s.env w) :
    Prepared P K { s with env := w } :=
  ⟨h.lock, h.ready, fun hlookup => (h.token.up hlookup).imp fun _ h => h.mono fun _ _ => trivial,
    fun id hid => equipped_of_lasts hw (h.token.equipped id hid)⟩

/-- Between two loads everything is ready. -/
theorem LoadsAlone.prepared (hE : Cooperates E K kbs J) (hP : P.In L.rsaPublicKeyParams K E) (hK : K.Proper)
    (hnpm : L.npmHash = [Kms.npm K.serverUrl]) (hconfig : L.sgxStm.Attests) (hs : Prepared P K s)
    (h : LoadsAlone E L K P fuel s t) : Prepared P K t := by
  induction h with
  | refl => exact hs
  | load _ hu hr ih => exact ((live_onDemand hE hP hK hnpm hconfig hu ih).runs hr).2.1
  | outside _ hw ih => exact ih.outside hw

/--
**Loads complete.** After any loads, and whatever happened outside since: from every point of a load
there is a way to its end, and every end is `CKR_OK`. If the agent had not loaded the key, and the token
had no object of that name, then it has one with KBS's secret.
-/
theorem loads_complete (hE : Cooperates E K kbs J) (hP : P.In L.rsaPublicKeyParams K E) (hK : K.Proper)
    (hnpm : L.npmHash = [Kms.npm K.serverUrl]) (hconfig : L.sgxStm.Attests) (hs : Prepared P K s)
    (h : LoadsAlone E L K P fuel s t) (hu : ServedUri L K P.pin uri uriData secret) :
    Terminates (sysStep E 0) (onDemand L fuel uri)
      (fun rv u => rv = ckrOk ∧
        (t.keyagent.keyHash.lookup (hashKey (keyUrl uriData uri)) = none →
          (∀ x, (uriData.objectName, x) ∉ P.objects t.env) →
          (uriData.objectName, secret) ∈ P.objects u.env)) t :=
  ((live_onDemand hE hP hK hnpm hconfig hu (h.prepared hE hP hK hnpm hconfig hs)).mono
    fun _ _ hr => ⟨hr.1, hr.2.2⟩).terminates

end Module

/-! ## A KBS and a token -/

/-- Two byte strings in one: every byte of the first has a mark before it. -/
def pack (first second : Bytes) : Bytes := first.flatMap (fun b => [1, b]) ++ 0 :: second

def unpack : Bytes → Option (Bytes × Bytes)
  | 1 :: b :: rest => (unpack rest).map fun r => (b :: r.1, r.2)
  | 0 :: rest => some ([], rest)
  | _ => none

theorem unpack_pack (first second : Bytes) : unpack (pack first second) = some (first, second) := by
  induction first with
  | nil => rfl
  | cons b rest ih =>
    rw [pack] at ih
    simp [pack, unpack, ih]

/-- What is protected is marked with what opens it. -/
def demoKbs : Kbs where
  serverUrl := lit "https://kbs"
  keys _ := some ⟨lit "1", lit "RSA", lit "secret"⟩
  sessionId _ := lit "session"
  replyTo := lit "https://kbs/session"
  swk id := lit "swk of " ++ id.take 32
  swkType _ := lit "AES256-GCM"
  protect quote secret := pack quote secret
  wrap swk secret := ⟨[7], pack swk secret, 16⟩

theorem tidyId_session : Kbs.TidyId (lit "session") :=
  ⟨by decide, by decide, gStrstrip_eq_self.mp (by decide)⟩

theorem fitsNonce_session : Kms.FitsNonce (gBase64Encode (lit "session")) := by
  rw [Kms.FitsNonce]
  decide

theorem demoKbs_wrapped (id : Bytes) : (demoKbs.wrap (demoKbs.swk id) (lit "secret")).Proper := by
  have hlen : (pack (lit "swk of " ++ id.take 32) (lit "secret")).length < 2 ^ 32 := by
    simp [pack, lit]
    omega
  exact ⟨List.cons_ne_nil _ _, Nat.le_add_left 1 63, hlen, Nat.lt_of_sub_eq_succ rfl⟩

theorem demoKbs_proper : demoKbs.Proper where
  ids _ := tidyId_session
  texts _ := (by decide : cstr (lit "session") = lit "session")
  fits _ := fitsNonce_session
  swkTypes _ := (by decide : keyagentSessionLookupSwktype (cstr (lit "AES256-GCM")) ≠ none)
  wrapped {url key} hkey id := by
    obtain rfl := Option.some.inj hkey
    exact demoKbs_wrapped id

/-- A token, and KBS. -/
structure Hsm where
  objects : List (ObjectName × Bytes)
  wanted : ObjectName
  /-- The secrets behind the handles. -/
  secrets : List Bytes
  /-- The private keys of what was quoted. -/
  quotes : List (Nat × Bytes)
  nextKey : Nat
  kbs : KbsState

/-- The quote of a key. -/
def Hsm.quote (publicKey quoteLen : Nat) : Bytes := (List.replicate 16 0 ++ le32 publicKey).take quoteLen

/-- What is unwrapped has a handle. -/
def Hsm.unwrapped (w : Hsm) (secret : Bytes) : (CkRv × Nat) × Hsm :=
  ((ckrOk, w.secrets.length), { w with secrets := w.secrets ++ [secret] })

def Hsm.call (c : CkCall) (w : Hsm) : c.Ans × Hsm :=
  match c with
  | .cInitialize => (ckrOk, w)
  | .cFinalize => (ckrOk, w)
  | .cGetSlotListCount => ((ckrOk, 1), w)
  | .cGetSlotList _ => ((ckrOk, [0]), w)
  | .cGetTokenInfo _ => ((ckrOk, paddedLabel (lit "KMS")), w)
  | .cInitToken _ _ _ => (ckrGeneralError, w)
  | .cOpenSession _ => ((ckrOk, 1), w)
  | .cCloseSession _ => (ckrOk, w)
  | .cLogin _ _ pin => (if pin = lit "1234" then ckrOk else ckrGeneralError, w)
  | .cLogout _ => (ckrOk, w)
  | .cInitPin _ _ => (ckrGeneralError, w)
  | .cFindObjectsInit _ label id => (ckrOk, { w with wanted := (id, label) })
  | .cFindObjects _ => ((ckrOk, if w.objects.any (·.1 = w.wanted) then [1] else []), w)
  | .cFindObjectsFinal _ => (ckrOk, w)
  | .cGetAttributeValue _ _ => (ckrOk, w)
  | .cGenerateKeyPair _ _ _ => ((ckrOk, w.nextKey, w.nextKey + 1), { w with nextKey := w.nextKey + 2 })
  | .cWrapKeySize _ _ _ _ => ((ckrOk, 20), w)
  | .cWrapKey _ _ _ publicKey quoteLen =>
    ((ckrOk, Hsm.quote publicKey quoteLen),
      { w with quotes := ((quoteChallenge ckRsaPublicKeyParams quoteLen
          (Hsm.quote publicKey quoteLen)).map (publicKey + 1, ·)).toList ++ w.quotes })
  | .cUnwrapKey _ .rsaPkcsOaep privateKey wrapped _ =>
    match unpack wrapped with
    | some (challenge, secret) =>
      if w.quotes.any fun q => q.1 = privateKey ∧ q.2 = challenge then w.unwrapped secret
      else ((ckrGeneralError, 0), w)
    | none => ((ckrGeneralError, 0), w)
  | .cUnwrapKey _ (.aesGcm _ _) key wrapped template =>
    match unpack wrapped with
    | some (swk, secret) =>
      if w.secrets[key]? = some swk then
        { w with objects := (template.objectName, secret) :: w.objects }.unwrapped secret
      else ((ckrGeneralError, 0), w)
    | none => ((ckrGeneralError, 0), w)

/-- The surroundings with that token and that KBS. -/
def hsmHandler (c : Call) (w : Hsm) : Option (c.Ans × Hsm) :=
  match c with
  | .generateUuid => some (lit "request", w)
  | .uninitialised n => some (zeroBytes n, w)
  | .httpsSend request =>
    some ((demoKbs.serve request w.kbs).1, { w with kbs := (demoKbs.serve request w.kbs).2 })
  | .insertRow _ => some (none, w)
  | .calloc _ => some (true, w)
  | .ck c => some (w.call c)
  | _ => none

def hsmStep : Step skcSig Hsm := fun c w a w' => hsmHandler c w = some (a, w')

/-- What the token has. -/
def hsmToken : Pkcs11Token Hsm where
  pin := lit "1234"
  slot := 0
  objects := Hsm.objects
  wanted := Hsm.wanted
  keyPair _ publicKey privateKey := privateKey = publicKey + 1
  opens w privateKey challenge := (privateKey, challenge) ∈ w.quotes
  value w key := w.secrets[key]?

theorem Hsm.unwrapped_secrets (w : Hsm) (secret : Bytes) :
    (w.unwrapped secret).2.secrets[(w.unwrapped secret).1.2]? = some secret := by
  simp [Hsm.unwrapped]

/-- The answers are those of a token that serves. -/
theorem hsmToken_serves (c : CkCall) (w : Hsm) :
    hsmToken.Serves ckRsaPublicKeyParams demoKbs w c (w.call c).1 (w.call c).2 := by
  cases c with
  | cGetSlotListCount => exact ⟨rfl, Nat.one_ne_zero⟩
  | cGetSlotList nslots => exact ⟨rfl, List.mem_singleton_self _⟩
  | cGetTokenInfo slot =>
    intro _
    exact (by decide : TokenReported Kms.kmsPrefixToken (ckrOk, paddedLabel (lit "KMS")))
  | cOpenSession slot => rfl
  | cLogin session userType pin =>
    rintro - rfl
    rfl
  | cFindObjectsInit session label id => exact ⟨rfl, rfl⟩
  | cFindObjects session =>
    refine ⟨rfl, fun hne => ?_⟩
    have hin : w.objects.any (·.1 = w.wanted) = true := by
      by_contra hout
      exact hne (if_neg hout)
    obtain ⟨⟨name, secret⟩, hmem, hname⟩ := List.any_eq_true.mp hin
    obtain rfl : name = w.wanted := of_decide_eq_true hname
    exact ⟨secret, hmem⟩
  | cFindObjectsFinal session => rfl
  | cGetAttributeValue session object => rfl
  | cGenerateKeyPair session label id => exact ⟨rfl, rfl⟩
  | cWrapKeySize session policy nonce publicKey =>
    exact ⟨rfl, (by decide : 16 ≤ 20), (by decide : 20 < 2 ^ 32)⟩
  | cWrapKey session policy nonce publicKey quoteLen =>
    intro hmin
    have hmin' : 16 ≤ quoteLen := hmin
    refine ⟨rfl, ?_, ?_, ?_⟩
    · simp [Hsm.call, Hsm.quote, le32, ckRsaPublicKeyParams]
      omega
    · exact List.length_take_le quoteLen _
    · rintro privateKey challenge rfl hquote
      have hquotes : (w.call (.cWrapKey session policy nonce publicKey quoteLen)).2.quotes
          = ((quoteChallenge ckRsaPublicKeyParams quoteLen (Hsm.quote publicKey quoteLen)).map
            (publicKey + 1, ·)).toList ++ w.quotes := rfl
      have hchallenge : quoteChallenge ckRsaPublicKeyParams quoteLen (Hsm.quote publicKey quoteLen)
          = some challenge := hquote
      have hmem : (publicKey + 1, challenge)
          ∈ (w.call (.cWrapKey session policy nonce publicKey quoteLen)).2.quotes := by
        rw [hquotes, hchallenge]
        exact List.mem_cons_self
      exact hmem
  | cUnwrapKey session mechanism key wrapped template =>
    cases mechanism with
    | rsaPkcsOaep =>
      rintro challenge secret hopens rfl
      have hopens' : w.quotes.any (fun q => q.1 = key ∧ q.2 = challenge) = true :=
        List.any_eq_true.mpr ⟨_, hopens, decide_eq_true ⟨rfl, rfl⟩⟩
      have hcall : w.call (.cUnwrapKey session .rsaPkcsOaep key (demoKbs.protect challenge secret)
          template) = w.unwrapped secret := by
        simp only [Hsm.call, demoKbs, unpack_pack, hopens', if_true]
      rw [hcall]
      exact ⟨rfl, w.unwrapped_secrets secret⟩
    | aesGcm iv tagSize =>
      intro swk secret hvalue hwrap
      have hvalue' : w.secrets[key]? = some swk := hvalue
      obtain ⟨-, rfl, -⟩ := WrappedKey.mk.inj hwrap
      have hcall : w.call (.cUnwrapKey session (.aesGcm iv tagSize) key (pack swk secret) template)
          = { w with objects := (template.objectName, secret) :: w.objects }.unwrapped secret := by
        simp [Hsm.call, unpack_pack, hvalue']
      rw [hcall]
      exact ⟨rfl, List.mem_cons_self⟩
  | _ => trivial

/-- No secret and no quote is forgotten. -/
theorem Hsm.call_lasts (c : CkCall) (w : Hsm) :
    (∃ l, (w.call c).2.secrets = w.secrets ++ l) ∧ w.quotes ⊆ (w.call c).2.quotes := by
  have hsame : ∀ v : Hsm, v.secrets = w.secrets → v.quotes = w.quotes →
      (∃ l, v.secrets = w.secrets ++ l) ∧ w.quotes ⊆ v.quotes := fun v hs hq =>
    ⟨⟨[], by rw [hs, List.append_nil]⟩, by rw [hq]; exact List.Subset.refl _⟩
  cases c with
  | cWrapKey session policy nonce publicKey quoteLen =>
    exact ⟨⟨[], (List.append_nil _).symm⟩, List.subset_append_right _ _⟩
  | cUnwrapKey session mechanism key wrapped template =>
    cases mechanism <;> simp only [Hsm.call]
    all_goals
      split
      · split
        · exact ⟨⟨_, rfl⟩, List.Subset.refl _⟩
        · exact hsame w rfl rfl
      · exact hsame w rfl rfl
  | _ => exact hsame _ rfl rfl

/-- The call, and what it leaves. -/
theorem hsmStep_ck {c : CkCall} {w w' : Hsm} {a : c.Ans} (h : hsmStep (.ck c) w a w') :
    w.call c = (a, w') := Option.some.inj h

theorem hsmToken_in : hsmToken.In ckRsaPublicKeyParams demoKbs hsmStep where
  answers c w := ⟨_, _, rfl⟩
  serves {c w a w'} h := by
    have hcall := hsmToken_serves c w
    rwa [hsmStep_ck h] at hcall
  lasts {c w a w'} _ h := by
    have hlasts : (∃ l, w'.secrets = w.secrets ++ l) ∧ w.quotes ⊆ w'.quotes := by
      cases c with
      | ck d =>
        have hcall := w.call_lasts d
        rwa [hsmStep_ck h] at hcall
      | generateUuid | uninitialised n | httpsSend request | insertRow table | calloc n =>
        obtain ⟨-, rfl⟩ := Prod.mk.inj (Option.some.inj h)
        exact ⟨⟨[], (List.append_nil _).symm⟩, List.Subset.refl _⟩
      | _ => exact absurd h (Option.some_ne_none _).symm
    obtain ⟨⟨l, hsecrets⟩, hquotes⟩ := hlasts
    refine ⟨id, fun hopens => hquotes hopens, fun {key secret} hvalue => ?_⟩
    have hvalue' : w.secrets[key]? = some secret := hvalue
    have hkey : w'.secrets[key]? = some secret := by
      rw [hsecrets, List.getElem?_append_left (List.getElem?_eq_some_iff.mp hvalue').1, hvalue']
    exact hkey
  objects {c w a w'} hc h := by
    cases c with
    | ck d =>
      have hcall := hsmStep_ck h
      cases d with
      | cUnwrapKey session mechanism key wrapped template => exact absurd trivial hc
      | _ => exact (congrArg (fun r => r.2.objects) hcall).symm
    | generateUuid | uninitialised n | httpsSend request | insertRow table | calloc n =>
      obtain ⟨-, rfl⟩ := Prod.mk.inj (Option.some.inj h)
      rfl
    | _ => exact absurd h (Option.some_ne_none _).symm
  calloc n w := ⟨_, _, rfl⟩
  allocated {n w b w'} h := (Prod.mk.inj (Option.some.inj h)).1.symm

theorem hsmStep_cooperates : Cooperates hsmStep demoKbs Hsm.kbs fun _ _ => True where
  httpsSend request w := ⟨_, _, rfl⟩
  served {request w res w'} h := by
    obtain ⟨rfl, rfl⟩ := Prod.mk.inj (Option.some.inj h)
    rfl
  generateUuid w := ⟨_, _, rfl⟩
  uninitialised n w := ⟨_, _, rfl⟩
  insertRow table w := ⟨_, _, rfl⟩
  inserted {table w e w'} h := (Prod.mk.inj (Option.some.inj h)).1.symm
  others {c w a w'} hc h := by
    cases c with
    | ck d =>
      have hcall := hsmStep_ck h
      have hkbs : (w.call d).2.kbs = w.kbs := by
        cases d with
        | cUnwrapKey session mechanism key wrapped template =>
          cases mechanism <;> simp only [Hsm.call] <;> split <;> try split
          all_goals rfl
        | _ => rfl
      rw [← hkbs, hcall]
    | httpsSend request => exact absurd rfl (hc request)
    | generateUuid | uninitialised n | insertRow table | calloc n =>
      obtain ⟨-, rfl⟩ := Prod.mk.inj (Option.some.inj h)
      rfl
    | _ => exact absurd h (Option.some_ne_none _).symm
  keeps _ _ _ := trivial

/-- A process with the SGX module, over a token without objects and a KBS without sessions. -/
def hsmWorld : World Hsm :=
  ⟨{ sgxAgent with apimoduleLoadkeyHash := ∅ }, ⟨∅, [], 1⟩, none, ⟨[], ([], []), [], [], 1, ⟨[], 0⟩⟩⟩

theorem hsmWorld_prepared : Prepared hsmToken demoKbs hsmWorld where
  lock := rfl
  ready := by
    have hstm : ∀ {q stm}, hsmWorld.keyagent.stmHash.lookup q = some stm →
        q = gQuarkFromString (lit "SGX") ∧ stm = ⟨lit "SGX", true, true, none⟩ := by
      intro q stm hq
      have hlookup := (GHashTable.lookup_insert_eq (∅ : GHashTable GQuark KeyagentStmReal) ⟨lit "SGX"⟩
        q ⟨lit "SGX", true, true, none⟩).symm.trans hq
      split at hlookup
      · next he => exact ⟨he, (Option.some.inj hlookup).symm⟩
      · exact absurd hlookup.symm (Option.some_ne_none _)
    refine ⟨.of_empty ⟨rfl, rfl⟩, fun hq => ?_, ⟨⟨lit "SGX"⟩, _, AList.lookup_insert _, fun _ => rfl⟩,
      fun _ hid => absurd rfl hid, fun hq hr => ?_, fun hon => ?_⟩
    · obtain ⟨rfl, rfl⟩ := hstm hq
      exact ⟨rfl, rfl⟩
    · obtain ⟨-, rfl⟩ := hstm hq
      exact absurd hr.symm (Option.some_ne_none _)
    · rcases hon with hon | hon
      · exact absurd hon Bool.false_ne_true
      · exact absurd hon Bool.false_ne_true
  token := ⟨fun h => absurd rfl h, fun _ hid => absurd rfl hid⟩

/-- What the two spellings of a URI say. -/
def hsmUriData : ApimoduleUriData where
  tokenLabel := lit "KMS"
  keyLabel := lit "key"
  keyId := List.replicate 36 97
  pin := lit "1234"
  type := ckoPrivateKey

theorem hsm_servedUri {uri : Bytes} (h : callData kmsLibrary uri = some hsmUriData) :
    ServedUri kmsLibrary demoKbs hsmToken.pin uri hsmUriData (lit "secret") :=
  ⟨h, rfl, rfl, by decide, .rsakey, by decide, rfl, _, rfl, by decide, rfl⟩

/-- A load. -/
def runHsm (i : Nat) : World Hsm → Option (CkRv × World Hsm) :=
  (onDemand kmsLibrary 1 (twoSpellings i)).run (sysHandler hsmHandler 0)

/-- KBS has started again, without sessions, and the key was deleted from the token. -/
def Hsm.later (w : Hsm) : Hsm := { w with objects := [], kbs := ⟨[], 0⟩ }

/-- The second load: the agent still has the session that KBS has forgotten. -/
theorem loads_complete_hsm : ∃ t u : World Hsm,
    LoadsAlone hsmStep kmsLibrary demoKbs hsmToken 1 hsmWorld t ∧
    t.keyagent.sessionHash.values = [0] ∧ t.env.kbs.sessions = [] ∧
    Runs (sysStep hsmStep 0) (onDemand kmsLibrary 1 (twoSpellings 1)) t ckrOk u ∧
    (hsmUriData.objectName, lit "secret") ∈ u.env.objects := by
  obtain ⟨⟨rv, s⟩, hs, hv⟩ := Option.map_eq_some_iff.mp (show
    (runHsm 0 hsmWorld).map (fun r => (r.2.keyagent.sessionHash.values,
      (r.2.keyagent.keyHash.lookup (hashKey (keyUrl hsmUriData (twoSpellings 1)))).isSome)) =
      some ([0], false) by decide +kernel)
  obtain ⟨hsessions, hkey⟩ := Prod.mk.inj hv
  have hfirst := Prog.run_runs (R := sysStep hsmStep 0) sysHandler_answers hs
  have hlasts : hsmToken.Lasts s.env s.env.later := ⟨id, id, id⟩
  have hreach : LoadsAlone hsmStep kmsLibrary demoKbs hsmToken 1 hsmWorld
      { s with env := s.env.later } :=
    .outside (.load .refl (hsm_servedUri (show callData kmsLibrary (twoSpellings 0) = _ from rfl))
      hfirst) hlasts
  obtain ⟨rv, u, hu, rfl, hobject⟩ := loads_complete hsmStep_cooperates hsmToken_in demoKbs_proper rfl
    ⟨rfl, _, rfl, by decide⟩ hsmWorld_prepared hreach
    (hsm_servedUri (show callData kmsLibrary (twoSpellings 1) = _ from rfl)) _ _ (.refl _ _)
  have hmiss := Option.not_isSome_iff_eq_none.mp (Bool.not_eq_true _ ▸ hkey)
  exact ⟨_, u, hreach, hsessions, rfl, hu, hobject hmiss fun _ => List.not_mem_nil⟩

end SkcLibrary
