import SkcLibrary.Apimodule.TokenObjects
import SkcLibrary.Keyagent.Ready

/-!
# A token that serves

A PKCS#11 module with an initialised token: the token is found and opened, quotes its keys, and unwraps
what KBS made for it: a swk with the private key that was quoted, and a key with the swk. Over such a
module the functions of the api module succeed, and the SGX security module does what a load needs.
-/

namespace SkcLibrary

open Interaction

variable {W : Type}

/-! ## The module -/

/-- A token in one of the slots, and what it has behind its handles. -/
structure Pkcs11Token (W : Type) where
  pin : Bytes
  slot : Nat
  /-- The objects, with their secrets. -/
  objects : W → List (ObjectName × Bytes)
  /-- What was last looked for. -/
  wanted : W → ObjectName
  keyPair : W → (publicKey privateKey : Nat) → Prop
  /-- The private key is the one of the public key that a challenge quotes. -/
  opens : W → (privateKey : Nat) → (challenge : Bytes) → Prop
  /-- The secret of a key. -/
  value : W → (key : Nat) → Option Bytes

namespace Pkcs11Token

/-- What the token answers to a call, and what it has then. -/
def Serves (P : Pkcs11Token W) (params : CkRsaPublicKeyParams) (K : Kbs) (w : W) (c : CkCall) :
    c.Ans → W → Prop :=
  match c with
  | .cGetSlotListCount => fun a _ => a.1 = ckrOk ∧ a.2 ≠ 0
  | .cGetSlotList _ => fun a _ => a.1 = ckrOk ∧ P.slot ∈ a.2
  | .cGetTokenInfo slot => fun a _ => slot = P.slot → TokenReported Kms.kmsPrefixToken a
  | .cOpenSession _ => fun a _ => a.1 = ckrOk
  | .cLogin _ userType pin => fun rv _ => userType = .user → pin = P.pin → loginRv rv = ckrOk
  | .cFindObjectsInit _ label id => fun rv w' => rv = ckrOk ∧ P.wanted w' = (id, label)
  | .cFindObjects _ => fun a _ =>
    a.1 = ckrOk ∧ (a.2 ≠ [] → ∃ secret, (P.wanted w, secret) ∈ P.objects w)
  | .cFindObjectsFinal _ => fun rv _ => rv = ckrOk
  | .cGetAttributeValue _ _ => fun rv _ => rv = ckrOk
  | .cGenerateKeyPair _ _ _ => fun a w' => a.1 = ckrOk ∧ P.keyPair w' a.2.1 a.2.2
  | .cWrapKeySize _ _ _ _ => fun a _ =>
    a.1 = ckrOk ∧ params.size ≤ a.2 ∧ a.2 < 2 ^ 32
  | .cWrapKey _ _ _ publicKey quoteLen => fun a w' => params.size ≤ quoteLen →
    a.1 = ckrOk ∧ params.size ≤ a.2.length ∧ a.2.length ≤ quoteLen ∧
      ∀ privateKey challenge, P.keyPair w publicKey privateKey →
        quoteChallenge params quoteLen a.2 = some challenge → P.opens w' privateKey challenge
  | .cUnwrapKey _ .rsaPkcsOaep privateKey wrapped _ => fun a w' => ∀ challenge secret,
    P.opens w privateKey challenge → wrapped = K.protect challenge secret →
      a.1 = ckrOk ∧ P.value w' a.2 = some secret
  | .cUnwrapKey _ (.aesGcm iv tagSize) key wrapped template => fun a w' => ∀ swk secret,
    P.value w key = some swk → K.wrap swk secret = ⟨iv, wrapped, tagSize⟩ →
      a.1 = ckrOk ∧ (template.objectName, secret) ∈ P.objects w'
  | _ => fun _ _ => True

/-- Everything behind a handle is still there. -/
structure Lasts (P : Pkcs11Token W) (w w' : W) : Prop where
  keyPair : ∀ {publicKey privateKey}, P.keyPair w publicKey privateKey →
    P.keyPair w' publicKey privateKey
  opens : ∀ {privateKey challenge}, P.opens w privateKey challenge → P.opens w' privateKey challenge
  value : ∀ {key secret}, P.value w key = some secret → P.value w' key = some secret

end Pkcs11Token

/-- Calls that can close handles. -/
def Call.ClosesHandles : Call → Prop
  | .ck .cInitialize => True
  | .ck .cFinalize => True
  | .ck (.cInitToken _ _ _) => True
  | .ck (.cCloseSession _) => True
  | .ck (.cLogout _) => True
  | _ => False

/-- Calls that make objects. -/
def Call.Unwraps : Call → Prop
  | .ck (.cUnwrapKey _ _ _ _ _) => True
  | _ => False

/-- The surroundings have that token, and memory. -/
structure Pkcs11Token.In (P : Pkcs11Token W) (params : CkRsaPublicKeyParams) (K : Kbs)
    (E : Step skcSig W) : Prop where
  answers : ∀ c w, Answered E (.ck c) w
  serves : ∀ {c w a w'}, E (.ck c) w a w' → P.Serves params K w c a w'
  lasts : ∀ {c w a w'}, ¬Call.ClosesHandles c → E c w a w' → P.Lasts w w'
  objects : ∀ {c w a w'}, ¬Call.Unwraps c → E c w a w' → P.objects w' = P.objects w
  calloc : ∀ n w, Answered E (.calloc n) w
  allocated : ∀ {n w b w'}, E (.calloc n) w b w' → b = true

/-! ## Cached tokens -/

/-- The token is cached in the object, with its pin and something else. -/
def TokenAt (P : Pkcs11Token W) (atoken : TokenRef) (F : ApimoduleToken → W → Prop) (m : Apimodule)
    (w : W) : Prop :=
  m.apimoduleTokenHash.lookup Kms.kmsPrefixToken = some atoken ∧
    ∃ token, m.tokens[atoken]? = some token ∧ token.pin = P.pin ∧ F token w

/-- How far the SGX security module is: what it has stored in the token's object. -/
def tokenStates (P : Pkcs11Token W) : StmStates W where
  up m w := ∃ atoken, TokenAt P atoken (fun _ _ => True) m w
  challenged challenge m w := ∃ atoken,
    TokenAt P atoken (fun token w => P.opens w token.privatekeyChallengeHandle challenge) m w
  equipped swk m w := ∃ atoken,
    TokenAt P atoken (fun token w => P.value w token.wrappingkeyHandle = some swk) m w

section TokenAt

variable {P : Pkcs11Token W} {atoken : TokenRef} {F G : ApimoduleToken → W → Prop} {m : Apimodule}
  {w w' : W}

theorem TokenAt.mono (h : TokenAt P atoken F m w) (hFG : ∀ token, F token w → G token w') :
    TokenAt P atoken G m w' := by
  obtain ⟨hr, token, htoken, hpin, hF⟩ := h
  exact ⟨hr, token, htoken, hpin, hFG token hF⟩

theorem TokenAt.mapToken (h : TokenAt P atoken F m w) {f : ApimoduleToken → ApimoduleToken}
    (hf : ∀ token, F token w → (f token).pin = token.pin ∧ G (f token) w) :
    TokenAt P atoken G (m.mapToken atoken f) w := by
  obtain ⟨hr, token, htoken, hpin, hF⟩ := h
  obtain ⟨hpin', hG⟩ := hf token hF
  refine ⟨hr, f token, ?_, hpin'.trans hpin, hG⟩
  simp [Apimodule.mapToken, htoken]

/-- A token of that label and pin is cached. -/
theorem tokenAt_addToken {token : ApimoduleToken} (hlabel : token.tokenLabel = Kms.kmsPrefixToken)
    (hpin : token.pin = P.pin) :
    TokenAt P m.tokens.length (fun _ _ => True) (m.addToken token) w := by
  refine ⟨?_, token, ?_, hpin, trivial⟩
  · rw [Apimodule.addToken, hlabel, GHashTable.lookup_insert_eq, if_pos rfl]
  · simp [Apimodule.addToken]

theorem tokenStates_runs {swk : Bytes} (h : (tokenStates P).equipped swk m w) :
    (tokenStates P).up m w := by
  obtain ⟨atoken, h⟩ := h
  exact ⟨atoken, h.mono fun _ _ => trivial⟩

theorem equipped_of_lasts (hw : P.Lasts w w') {swk : Bytes} (h : (tokenStates P).equipped swk m w) :
    (tokenStates P).equipped swk m w' := by
  obtain ⟨atoken, h⟩ := h
  exact ⟨atoken, h.mono fun _ => hw.value⟩

theorem covers_of_lasts (hw : P.Lasts w w') {K : Kbs} {k : Keyagent}
    (h : (tokenStates P).Covers K k m w) : (tokenStates P).Covers K k m w' := by
  obtain ⟨⟨atoken, hup⟩, hids⟩ := h
  exact ⟨⟨atoken, hup.mono fun _ _ => trivial⟩, fun id hid => equipped_of_lasts hw (hids id hid)⟩

end TokenAt

/-! ## Calls -/

section Calls

variable {E : Step skcSig W} {K : Kbs} {kbs : W → KbsState} {J J' : Apimodule → W → Prop}
  {lock : Option Nat} {k : Keyagent} {state : KbsState} {s : World W} {α : Type}
  {Q : α → World W → Prop} {P : Pkcs11Token W} {params : CkRsaPublicKeyParams} {atoken : TokenRef}
  {F G : ApimoduleToken → W → Prop}

theorem live_apimodule {f : Apimodule → Skc α}
    (h : Sat (.live (sysStep E 0)) (f s.apimodule) Q s) :
    Sat (.live (sysStep E 0)) (Skc.apimodule >>= f) Q s := by
  rw [Skc.apimodule_bind, sat_seq_call]
  refine ⟨⟨_, _, rfl, rfl⟩, fun a t ht => ?_⟩
  obtain ⟨rfl, rfl⟩ := ht
  exact h

/-- A call of the PKCS#11 module. -/
theorem live_ck (hE : Cooperates E K kbs J') (hP : P.In params K E) (hs : Standing kbs J lock k state s)
    {c : CkCall} (hJ : ∀ {a w}, E (.ck c) s.env a w → J s.apimodule s.env → J s.apimodule w)
    {f : c.Ans → Skc α}
    (h : ∀ a t, E (.ck c) s.env a t.env → t.apimodule = s.apimodule →
      Standing kbs J lock k state t → Sat (.live (sysStep E 0)) (f a) Q t) :
    Sat (.live (sysStep E 0)) (Skc.ck c >>= f) Q s := by
  refine live_external (c := .ck c) id (fun _ => nofun) (hP.answers _ _) fun a w hw => ?_
  refine h a _ hw rfl ⟨hs.keyagent, ?_, hJ hw hs.module, hs.lock⟩
  exact (hE.others (c := .ck c) (fun _ => nofun) hw).trans hs.kbs

theorem live_calloc (hE : Cooperates E K kbs J') (hP : P.In params K E) (hs : Standing kbs J lock k state s)
    {n : Nat} (hJ : ∀ {a w}, E (.calloc n) s.env a w → J s.apimodule s.env → J s.apimodule w)
    {f : Bool → Skc α}
    (h : ∀ t, Standing kbs J lock k state t → Sat (.live (sysStep E 0)) (f true) Q t) :
    Sat (.live (sysStep E 0)) (Prog.lift (S := skcSig) (.calloc n) >>= f) Q s := by
  refine live_external (c := .calloc n) id (fun _ => nofun) (hP.calloc _ _) fun b w hw => ?_
  obtain rfl := hP.allocated hw
  refine h _ ⟨hs.keyagent, ?_, hJ hw hs.module, hs.lock⟩
  exact (hE.others (c := .calloc n) (fun _ => nofun) hw).trans hs.kbs

theorem live_writeToken (hs : Standing kbs (TokenAt P atoken F) lock k state s)
    {g : ApimoduleToken → ApimoduleToken} {f : Unit → Skc α}
    (hg : ∀ token, F token s.env → (g token).pin = token.pin ∧ G (g token) s.env)
    (h : ∀ t, t.env = s.env → Standing kbs (TokenAt P atoken G) lock k state t →
      Sat (.live (sysStep E 0)) (f ()) Q t) :
    Sat (.live (sysStep E 0)) (writeToken atoken g >>= f) Q s := by
  rw [writeToken, Prog.lift_bind, sat_seq_call]
  have hstep : sysStep E 0 (.writeToken atoken g) s ()
      { s with apimodule := s.apimodule.mapToken atoken g } := rfl
  refine ⟨⟨(), _, hstep⟩, fun _ t ht => ?_⟩
  obtain rfl : t = { s with apimodule := s.apimodule.mapToken atoken g } := ht
  exact h _ rfl ⟨hs.keyagent, hs.kbs, hs.module.mapToken hg, hs.lock⟩

/-- The object of a cached token. -/
theorem live_readToken (hs : Standing kbs (TokenAt P atoken F) lock k state s)
    {f : ApimoduleToken → Skc α}
    (h : ∀ token, F token s.env → token.pin = P.pin →
      Standing kbs (TokenAt P atoken fun t _ => t = token) lock k state s →
      Sat (.live (sysStep E 0)) (f token) Q s) :
    Sat (.live (sysStep E 0)) (readToken atoken >>= f) Q s := by
  obtain ⟨hr, token, htoken, hpin, hF⟩ := hs.module
  simp only [readToken, bind_assoc]
  refine live_apimodule (live_deref htoken (h token hF hpin ?_))
  exact hs.mono fun _ => ⟨hr, token, htoken, hpin, rfl⟩

theorem live_lookupApimoduleToken {label : Bytes} (hlabel : cstr label = Kms.kmsPrefixToken)
    (hs : Standing kbs (TokenAt P atoken F) lock k state s) {f : Option TokenRef → Skc α}
    (h : Sat (.live (sysStep E 0)) (f (some atoken)) Q s) :
    Sat (.live (sysStep E 0)) (lookupApimoduleToken label >>= f) Q s := by
  have hlookup : s.apimodule.apimoduleTokenHash.lookup (cstr label) = some atoken := by
    rw [hlabel]
    exact hs.module.1
  simp only [lookupApimoduleToken, bind_assoc, pure_bind]
  refine live_apimodule ?_
  rw [hlookup]
  exact h

end Calls

/-! ## Finding and opening the token -/

section Open

variable {E : Step skcSig W} {K : Kbs} {kbs : W → KbsState} {J J' : Apimodule → W → Prop}
  {T : Apimodule → Prop} {lock : Option Nat} {k : Keyagent} {state : KbsState} {s : World W}
  {P : Pkcs11Token W} {params : CkRsaPublicKeyParams} {objects : List (ObjectName × Bytes)}
  {err : Option GError}

/-- Nothing is unwrapped. -/
theorem Pkcs11Token.In.quiet (hP : P.In params K E) {c : Call} (hc : ¬c.Unwraps) {m : Apimodule} {w w' : W}
    {a : c.Ans} (hw : E c w a w') (h : T m ∧ P.objects w = objects) :
    T m ∧ P.objects w' = objects :=
  ⟨h.1, (hP.objects hc hw).trans h.2⟩

/-- The loop ends at the token at the latest. -/
theorem live_findtokenLoop (hE : Cooperates E K kbs J') (hP : P.In params K E)
    (hs : Standing kbs (fun m w => T m ∧ P.objects w = objects) lock k state s) {slots : List Nat}
    (hslot : P.slot ∈ slots) (rv : CkRv) :
    Sat (.live (sysStep E 0)) (findtokenLoop Kms.kmsPrefixToken slots rv)
      (fun r t => (∃ slot, r = (ckrOk, some slot)) ∧
        Standing kbs (fun m w => T m ∧ P.objects w = objects) lock k state t) s := by
  -- induction on the slots that are left; the token's slot is one of them
  induction slots generalizing rv s with
  | nil => exact absurd hslot List.not_mem_nil
  | cons slot rest ih =>
    rw [findtokenLoop_cons, ← Skc.ck_bind]
    refine live_ck hE hP hs (hP.quiet id) fun a t hstep _ ht => ?_
    by_cases hreported : TokenReported Kms.kmsPrefixToken a
    · rw [if_pos hreported]
      exact sat_seq_pure.mpr ⟨⟨slot, rfl⟩, ht⟩
    · rw [if_neg hreported]
      refine ih ht ?_ a.1
      rcases List.mem_cons.mp hslot with rfl | hrest
      · exact absurd (hP.serves hstep rfl) hreported
      · exact hrest

/-- `apimodule_findtoken` -/
theorem live_findtoken (hE : Cooperates E K kbs J') (hP : P.In params K E)
    (hs : Standing kbs (fun m w => T m ∧ P.objects w = objects) lock k state s)
    {uriData : ApimoduleUriData} (hlabel : uriData.tokenLabel = Kms.kmsPrefixToken) :
    Sat (.live (sysStep E 0)) (apimoduleFindtoken uriData)
      (fun r t => (∃ slot, r = (ckrOk, some slot)) ∧
        Standing kbs (fun m w => T m ∧ P.objects w = objects) lock k state t) s := by
  unfold apimoduleFindtoken
  refine live_ck hE hP hs (hP.quiet id) fun a t hstep _ ht => ?_
  obtain ⟨rv, nslots⟩ := a
  obtain ⟨hrv, hnslots⟩ : rv = ckrOk ∧ nslots ≠ 0 := hP.serves hstep
  dsimp only
  rw [if_neg (by simp [hrv, hnslots])]
  refine live_calloc hE hP ht (hP.quiet id) fun u hu => ?_
  rw [if_pos rfl]
  refine live_ck hE hP hu (hP.quiet id) fun b v hstep _ hv => ?_
  obtain ⟨rv, slots⟩ := b
  obtain ⟨hrv, hslots⟩ : rv = ckrOk ∧ P.slot ∈ slots := hP.serves hstep
  dsimp only
  rw [if_neg (by simp [hrv, List.ne_nil_of_mem hslots]), hlabel]
  exact live_findtokenLoop hE hP hv hslots rv

/-- A session is opened, and the user logs in. -/
theorem live_openToken (hE : Cooperates E K kbs J') (hP : P.In params K E)
    (hs : Standing kbs (fun m w => T m ∧ P.objects w = objects) lock k state s)
    {uriData : ApimoduleUriData} (hlabel : uriData.tokenLabel = Kms.kmsPrefixToken)
    (hpin : uriData.pin = P.pin) {atoken : ApimoduleToken} :
    Sat (.live (sysStep E 0)) (openToken uriData atoken err)
      (fun r t => (∃ session, r = (ckrOk, { atoken with session := session }, err)) ∧
        Standing kbs (fun m w => T m ∧ P.objects w = objects) lock k state t) s := by
  unfold openToken
  refine (live_findtoken hE hP hs hlabel).bind ?_
  rintro r t ⟨⟨slot, rfl⟩, ht⟩
  dsimp only
  rw [if_neg (by simp)]
  refine live_ck hE hP ht (hP.quiet id) fun a u hstep _ hu => ?_
  obtain ⟨rv, session⟩ := a
  obtain rfl : rv = ckrOk := hP.serves hstep
  dsimp only
  rw [if_neg (by simp)]
  refine live_ck hE hP hu (hP.quiet id) fun _ v _ _ hv => ?_
  refine live_ck hE hP hv (hP.quiet id) fun rv x hstep _ hx => ?_
  have hlogin : loginRv rv = ckrOk := hP.serves hstep rfl hpin
  rw [if_neg (not_not.mpr hlogin)]
  exact sat_seq_pure.mpr ⟨⟨session, rfl⟩, hx⟩

/-- What the token's object has, if there is one, and the sessions of the agent. -/
structure TokenIdle (P : Pkcs11Token W) (K : Kbs) (k : Keyagent) (m : Apimodule) (w : W) : Prop where
  up : m.apimoduleTokenHash.lookup Kms.kmsPrefixToken ≠ none → (tokenStates P).up m w
  equipped : ∀ id, k.sessionHash.lookup (hashKey id) ≠ none →
    (tokenStates P).equipped (K.swk id) m w

/-- The token is there, so that nothing is created and the module is not initialised anew. -/
theorem live_lookupOrInitToken (hE : Cooperates E K kbs J') (hP : P.In params K E)
    (hs : Standing kbs (TokenIdle P K k) lock k state s) {cInit : Skc CkRv}
    {uriData : ApimoduleUriData} (hlabel : uriData.tokenLabel = Kms.kmsPrefixToken)
    (hpin : uriData.pin = P.pin) (htext : cstr uriData.pin = uriData.pin) {create : Bool} :
    Sat (.live (sysStep E 0)) (lookupOrInitToken cInit uriData create err)
      (fun r t => ∃ atoken, r = (some atoken, err) ∧ P.objects t.env = P.objects s.env ∧
        TokenAt P atoken (fun _ _ => True) t.apimodule t.env ∧
        Standing kbs ((tokenStates P).Covers K k) lock k state t) s := by
  have hkms : cstr uriData.tokenLabel = Kms.kmsPrefixToken := by
    rw [hlabel]
    decide
  simp only [lookupOrInitToken, lookupApimoduleToken, bind_assoc, pure_bind]
  refine live_apimodule ?_
  cases hlookup : s.apimodule.apimoduleTokenHash.lookup (cstr uriData.tokenLabel) with
  | some atoken =>
    rw [hkms] at hlookup
    obtain ⟨r, hr⟩ := hs.module.up (by rw [hlookup]; exact Option.some_ne_none _)
    obtain rfl : atoken = r := Option.some.inj (hlookup.symm.trans hr.1)
    exact sat_seq_pure.mpr ⟨atoken, rfl, rfl, hr, hs.mono fun h => ⟨⟨atoken, hr⟩, h.equipped⟩⟩
  | none =>
    rw [hkms] at hlookup
    -- without an object of the token there are no sessions
    have hempty : ∀ id, k.sessionHash.lookup (hashKey id) = none := by
      intro id
      by_contra hid
      obtain ⟨atoken, hr, -⟩ := hs.module.equipped id hid
      exact Option.some_ne_none atoken (hr.symm.trans hlookup)
    have hs' : Standing kbs (fun _ w => True ∧ P.objects w = P.objects s.env) lock k state s :=
      hs.mono fun _ => ⟨trivial, rfl⟩
    simp only [initApimoduleToken, ensureToken, bind_assoc]
    refine (live_findtoken hE hP hs' hlabel).bind ?_
    rintro r t ⟨⟨slot, rfl⟩, ht⟩
    simp only [ne_eq, not_true_eq_false, if_false, pure_bind]
    refine (live_openToken hE hP ht hlabel hpin).bind ?_
    rintro r u ⟨⟨session, rfl⟩, hu⟩
    simp only [not_true_eq_false, if_false, cacheApimoduleToken]
    rw [Prog.lift_bind, sat_seq_call]
    refine ⟨⟨_, _, rfl, rfl⟩, fun a v hv => sat_seq_pure.mpr ⟨a, rfl, ?_⟩⟩
    obtain ⟨rfl, rfl⟩ := hv
    have hat : TokenAt P u.apimodule.tokens.length (fun _ _ => True)
        (u.apimodule.addToken
          { allocApimoduleToken uriData.tokenLabel uriData.pin with session := session })
        u.env := tokenAt_addToken hkms (htext.trans hpin)
    refine ⟨hu.module.2, hat, hu.keyagent, hu.kbs, ⟨⟨_, hat⟩, fun id hid => ?_⟩, hu.lock⟩
    exact absurd (hempty id) hid

/-- `apimodule_findobject` -/
theorem live_findobject (hE : Cooperates E K kbs J') (hP : P.In params K E)
    (hs : Standing kbs ((tokenStates P).Covers K k) lock k state s) {session : Nat}
    {uriData : ApimoduleUriData} :
    Sat (.live (sysStep E 0)) (apimoduleFindobject session uriData)
      (fun r t => r.1 = ckrOk ∧
        (r.2 = true → ∃ secret, (uriData.objectName, secret) ∈ P.objects s.env) ∧
        P.objects t.env = P.objects s.env ∧
        Standing kbs ((tokenStates P).Covers K k) lock k state t) s := by
  have hkeeps : ∀ {c : Call} {m w w'} {a : c.Ans}, ¬c.ClosesHandles → E c w a w' →
      (tokenStates P).Covers K k m w → (tokenStates P).Covers K k m w' :=
    fun hc hw => covers_of_lasts (hP.lasts hc hw)
  unfold apimoduleFindobject
  refine live_ck hE hP hs (hkeeps id) fun rv t hstep _ ht => ?_
  obtain ⟨hrv, hwanted⟩ : rv = ckrOk ∧ P.wanted t.env = uriData.objectName := hP.serves hstep
  have hobjects := hP.objects (c := .ck (.cFindObjectsInit _ _ _)) id hstep
  rw [if_neg (not_not.mpr hrv)]
  refine live_ck hE hP ht (hkeeps id) fun a u hstep _ hu => ?_
  obtain ⟨rv, objects⟩ := a
  obtain ⟨hrv, hfound⟩ : rv = ckrOk ∧
      (objects ≠ [] → ∃ secret, (P.wanted t.env, secret) ∈ P.objects t.env) := hP.serves hstep
  rw [hwanted, hobjects] at hfound
  have hobjects := (hP.objects (c := .ck (.cFindObjects _)) id hstep).trans hobjects
  dsimp only
  rw [if_neg (not_not.mpr hrv)]
  refine live_ck hE hP hu (hkeeps id) fun rv v hstep _ hv => ?_
  obtain rfl : rv = ckrOk := hP.serves hstep
  have hobjects := (hP.objects (c := .ck (.cFindObjectsFinal _)) id hstep).trans hobjects
  rw [if_neg (by simp)]
  cases objects with
  | nil => exact sat_seq_pure.mpr ⟨rfl, nofun, hobjects, hv⟩
  | cons object rest =>
    refine live_ck hE hP hv (hkeeps id) fun rv x hstep _ hx => ?_
    have hobjects := (hP.objects (c := .ck (.cGetAttributeValue _ _)) id hstep).trans hobjects
    exact sat_seq_pure.mpr ⟨hP.serves hstep, fun _ => hfound (List.cons_ne_nil _ _), hobjects, hx⟩

end Open

/-! ## The SGX operations -/

section Sgx

variable {E : Step skcSig W} {K : Kbs} {kbs : W → KbsState} {J' : Apimodule → W → Prop}
  {lock : Option Nat} {k : Keyagent} {state : KbsState} {s : World W} {P : Pkcs11Token W}
  {params : CkRsaPublicKeyParams} {err : Option GError} {atoken : TokenRef}
  {uriData : ApimoduleUriData}

/-- `generate_rsa_keypair` -/
theorem live_generateRsaKeypair (hE : Cooperates E K kbs J') (hP : P.In params K E)
    (hs : Standing kbs (TokenAt P atoken fun _ _ => True) lock k state s) {label id : Bytes} :
    Sat (.live (sysStep E 0)) (generateRsaKeypair atoken label id)
      (fun rv t => rv = ckrOk ∧ Standing kbs (TokenAt P atoken fun token w =>
        P.keyPair w token.publickeyChallengeHandle token.privatekeyChallengeHandle) lock k state t)
      s := by
  unfold generateRsaKeypair
  refine live_writeToken (G := fun _ _ => True) hs ?_ fun t _ ht => ?_
  · exact fun _ _ => ⟨rfl, trivial⟩
  refine live_readToken ht fun token _ _ ht' => live_ck hE hP ht' (fun _ h => h) fun a u hstep _ hu => ?_
  obtain ⟨rv, publicKey, privateKey⟩ := a
  obtain ⟨rfl, hpair⟩ : rv = ckrOk ∧ P.keyPair u.env publicKey privateKey := hP.serves hstep
  dsimp only
  rw [if_pos rfl]
  refine live_writeToken hu ?_ fun v _ hv => sat_seq_pure.mpr ⟨rfl, hv⟩
  exact fun _ _ => ⟨rfl, hpair⟩

/-- The quote fits its buffer, and is left in the token. -/
theorem live_exportQuote (hE : Cooperates E K kbs J') (hP : P.In params K E)
    (hs : Standing kbs (TokenAt P atoken fun token w =>
      P.keyPair w token.publickeyChallengeHandle token.privatekeyChallengeHandle) lock k state s)
    {policy : Int} {nonce : Bytes} :
    Sat (.live (sysStep E 0)) (exportQuote params atoken policy nonce err)
      (fun r t => r = (true, err) ∧ ∃ challenge, Standing kbs (TokenAt P atoken fun token w =>
        token.challenge = some challenge ∧ P.opens w token.privatekeyChallengeHandle challenge) lock k
        state t) s := by
  unfold exportQuote
  refine live_readToken hs fun token hpair _ hs' => ?_
  refine live_ck hE hP hs' (fun _ h => h) fun a t hstep _ ht => ?_
  obtain ⟨rv, quoteLen⟩ := a
  obtain ⟨rfl, hmin, hmax⟩ : rv = ckrOk ∧ params.size ≤ quoteLen ∧ quoteLen < 2 ^ 32 :=
    hP.serves hstep
  have hpair' := (hP.lasts (c := .ck (.cWrapKeySize _ _ _ _)) id hstep).keyPair hpair
  dsimp only
  rw [if_neg (by simp)]
  refine live_readToken ht fun token' htoken _ _ => ?_
  obtain rfl : token' = token := htoken
  refine live_ck hE hP ht (fun _ h => h) fun b u hstep _ hu => ?_
  obtain ⟨rv, quote⟩ := b
  obtain ⟨hrv, hquote, hfits, hopens⟩ := hP.serves hstep hmin
  obtain rfl : rv = ckrOk := hrv
  dsimp only
  rw [if_neg (by simp)]
  have hchallenge : quoteChallenge params quoteLen quote ≠ none := by
    rw [quoteChallenge_eq, if_pos ⟨hquote, by rw [Nat.mod_eq_of_lt hmax]; exact hfits⟩]
    exact Option.some_ne_none _
  obtain ⟨challenge, hchallenge⟩ := Option.ne_none_iff_exists'.mp hchallenge
  refine live_deref hchallenge ?_
  refine live_writeToken hu ?_ fun v _ hv => sat_seq_pure.mpr ⟨rfl, challenge, hv⟩
  rintro _ rfl
  exact ⟨rfl, rfl, hopens _ _ hpair' hchallenge⟩

/-- `sgx_get_challenge` -/
theorem live_sgxGetChallenge (hE : Cooperates E K kbs J') (hP : P.In params K E)
    (hs : Standing kbs (TokenAt P atoken fun _ _ => True) lock k state s)
    {details : KeyagentApimoduleGetChallengeDetails} {request : KeyagentSgxChallengeRequest}
    (htype : request.attestationType = lit "ECDSA")
    (hlabel : cstr uriData.tokenLabel = Kms.kmsPrefixToken)
    (hdata : details.moduleData = some uriData) :
    Sat (.live (sysStep E 0)) (sgxGetChallenge params details request err)
      (fun r t => r = (true, err) ∧ ∃ challenge, Standing kbs (TokenAt P atoken fun token w =>
        token.challenge = some challenge ∧ P.opens w token.privatekeyChallengeHandle challenge) lock k
        state t) s := by
  rw [sgxGetChallenge, if_neg (not_not.mpr htype)]
  simp only [hdata]
  refine live_lookupApimoduleToken hlabel hs ?_
  refine (live_generateRsaKeypair hE hP hs).bind ?_
  rintro rv t ⟨rfl, ht⟩
  rw [if_neg (by simp)]
  exact live_exportQuote hE hP ht

/-- `sgx_set_wrapping_key` -/
theorem live_sgxSetWrappingKey (hE : Cooperates E K kbs J') (hP : P.In params K E) {challenge swk : Bytes}
    (hs : Standing kbs (TokenAt P atoken fun token w =>
      P.opens w token.privatekeyChallengeHandle challenge) lock k state s)
    {details : KeyagentApimoduleSessionDetails} (hdata : details.moduleData = some uriData)
    (hsession : details.session = K.protect challenge swk)
    (hlabel : cstr uriData.tokenLabel = Kms.kmsPrefixToken) :
    Sat (.live (sysStep E 0)) (sgxSetWrappingKey details err)
      (fun r t => r = (true, err) ∧ Standing kbs (TokenAt P atoken fun token w =>
        P.value w token.wrappingkeyHandle = some swk) lock k state t) s := by
  unfold sgxSetWrappingKey
  simp only [hdata]
  refine live_lookupApimoduleToken hlabel hs (live_readToken hs fun token hopens _ hs' => ?_)
  refine live_ck hE hP hs' (fun _ h => h) fun a t hstep _ ht => ?_
  obtain ⟨rv, key⟩ := a
  obtain ⟨hrv, hvalue⟩ := hP.serves hstep challenge swk hopens hsession
  obtain rfl : rv = ckrOk := hrv
  dsimp only
  rw [if_neg (by simp)]
  refine live_writeToken ht ?_ fun u _ hu => sat_seq_pure.mpr ⟨rfl, hu⟩
  exact fun _ _ => ⟨rfl, hvalue⟩

/-- `sgx_load_key`, of a key of a known type that is wrapped with the swk. -/
theorem live_sgxLoadKey (hE : Cooperates E K kbs J') (hP : P.In params K E) {swk secret : Bytes}
    (hs : Standing kbs (TokenAt P atoken fun token w =>
      P.value w token.wrappingkeyHandle = some swk) lock k state s)
    {details : KeyagentApimoduleLoadkeyDetails} (hdata : details.moduleData = some uriData)
    (hlabel : cstr uriData.tokenLabel = Kms.kmsPrefixToken) (htype : details.type ≠ .invalidkey)
    {iv : Bytes} (hiv : details.iv = some iv)
    (hwrap : K.wrap swk secret = ⟨iv, details.key, details.tagSize⟩) :
    Sat (.live (sysStep E 0)) (sgxLoadKey details err)
      (fun r t => r = (true, err) ∧
        Standing kbs (TokenAt P atoken fun token w =>
          P.value w token.wrappingkeyHandle = some swk) lock k state t ∧
        (uriData.objectName, secret) ∈ P.objects t.env) s := by
  -- both templates carry the object's name
  have hunwrap : ∀ template : CkTemplate, template.objectName = uriData.objectName →
      Sat (.live (sysStep E 0)) (sgxUnwrapKey template details atoken)
        (fun rv t => rv = ckrOk ∧
          Standing kbs (TokenAt P atoken fun token w =>
            P.value w token.wrappingkeyHandle = some swk) lock k state t ∧
          (uriData.objectName, secret) ∈ P.objects t.env) s := by
    intro template hname
    unfold sgxUnwrapKey
    refine live_deref hiv (live_readToken hs fun token hvalue _ hs' => ?_)
    refine live_ck hE hP hs' (fun _ h => h) fun a t hstep _ ht => ?_
    obtain ⟨hrv, hobject⟩ := hP.serves hstep swk secret hvalue hwrap
    have hlasts := hP.lasts (c := .ck (.cUnwrapKey _ _ _ _ _)) id hstep
    refine sat_seq_pure.mpr ⟨hrv, ht.mono fun h => h.mono ?_, hname ▸ hobject⟩
    rintro _ rfl
    exact hlasts.value hvalue
  unfold sgxLoadKey
  simp only [hdata]
  refine live_lookupApimoduleToken hlabel hs ?_
  have hload : Sat (.live (sysStep E 0)) (sgxUnwrap details uriData atoken)
      (fun rv t => rv = ckrOk ∧
        Standing kbs (TokenAt P atoken fun token w =>
          P.value w token.wrappingkeyHandle = some swk) lock k state t ∧
        (uriData.objectName, secret) ∈ P.objects t.env) s := by
    unfold sgxUnwrap
    cases hkey : details.type with
    | aeskey => exact hunwrap _ rfl
    | rsakey => exact hunwrap _ rfl
    | invalidkey => exact absurd hkey htype
  refine hload.bind ?_
  rintro rv t ⟨rfl, ht⟩
  rw [if_pos rfl]
  exact sat_seq_pure.mpr ⟨rfl, ht⟩

end Sgx

/-! ## The security module -/

/-- The configuration of a security module that attests. -/
def SgxStmConfig.Attests (config : SgxStmConfig) : Prop :=
  config.attestationType = lit "ECDSA" ∧ ∃ qlPolicy, config.qlPolicy = some qlPolicy ∧
    SgxStm.launchPolicy qlPolicy ≠ none

/-- The agent's calls close no handles. -/
theorem Call.Agent.not_closesHandles {c : Call} (hc : c.Agent) : ¬c.ClosesHandles := by
  cases c <;> first | exact id | exact hc.elim

/-- **The SGX security module** over the token, for one URI and the type of its key. -/
theorem sgxStm_works {E : Step skcSig W} {K : Kbs} {kbs : W → KbsState} {P : Pkcs11Token W}
    {params : CkRsaPublicKeyParams} {J : Apimodule → W → Prop} (hE : Cooperates E K kbs J)
    (hP : P.In params K E) {config : SgxStmConfig} (hconfig : config.Attests) {cInit : Skc CkRv}
    {uriData : ApimoduleUriData} (hlabel : cstr uriData.tokenLabel = Kms.kmsPrefixToken)
    {type : KeyagentKeytype} (htype : type ≠ .invalidkey) (hclass : uriData.type = keytypeClass type) :
    (SgxStm.stmOps config (apimoduleOps params cInit)).Works E K kbs (tokenStates P) (lit "SGX")
      (some uriData) type (fun secret w => (uriData.objectName, secret) ∈ P.objects w) where
  up := { hE with
    keeps := fun _ _ h => h.imp fun _ h => h.mono fun _ _ => trivial }
  challenged challenge := { hE with
    keeps := fun hc hw h => h.imp fun _ h => h.mono fun _ => (hP.lasts hc.not_closesHandles hw).opens }
  equipped swk := { hE with
    keeps := fun hc hw h => equipped_of_lasts (hP.lasts hc.not_closesHandles hw) h }
  runs := tokenStates_runs
  createChallenge {d err lock k state s} hd hdata hs := by
    obtain ⟨hattest, qlPolicy, hpolicy, hlaunch⟩ := hconfig
    obtain ⟨policy, hlaunch⟩ := Option.ne_none_iff_exists'.mp hlaunch
    obtain ⟨atoken, hat⟩ := hs.module
    have hs' : Standing kbs (TokenAt P atoken fun _ _ => True) lock k state s := hs.mono fun _ => hat
    have hapi : apimoduleApiKnown d.label = true := by simp [apimoduleApiKnown, hd]
    simp only [SgxStm.stmOps, SgxStm.stmCreateChallenge, apimoduleOps]
    refine live_deref hpolicy ?_
    simp only [hlaunch, apimoduleGetChallenge, hdata, bind_assoc, lookupOrInitToken]
    refine live_lookupApimoduleToken hlabel hs' ?_
    simp only [pure_bind, hapi, bind_assoc]
    refine (live_sgxGetChallenge hE hP hs' hattest hlabel rfl).bind ?_
    rintro r t ⟨rfl, challenge, ht⟩
    simp only [if_pos, bind_assoc]
    refine live_readToken ht fun token htoken _ ht' => live_deref htoken.1 ?_
    rw [pure_bind]
    dsimp only
    rw [if_neg (by simp)]
    refine sat_seq_pure.mpr ⟨challenge, rfl, ht.mono fun h => ⟨atoken, h.mono fun _ h => h.2⟩⟩
  setSession {d err lock k state s challenge swk} hd hdata hsession hs := by
    obtain ⟨atoken, hat⟩ := hs.module
    have hs' : Standing kbs (TokenAt P atoken fun token w =>
        P.opens w token.privatekeyChallengeHandle challenge) lock k state s := hs.mono fun _ => hat
    have hapi : apimoduleApiKnown d.label = true := by simp [apimoduleApiKnown, hd]
    simp only [SgxStm.stmOps, SgxStm.stmSetSession, apimoduleOps, apimoduleSetWrappingKey, hdata]
    refine live_lookupApimoduleToken hlabel hs' ?_
    simp only [hapi]
    refine (live_sgxSetWrappingKey hE hP hs' rfl hsession hlabel).mono ?_
    rintro r t ⟨rfl, ht⟩
    exact ⟨rfl, ht.mono fun h => ⟨atoken, h⟩⟩
  loadKey {d err lock k state s swk secret} hd hdata hkey hiv hwrapped htag hs := by
    obtain ⟨atoken, hat⟩ := hs.module
    have hs' : Standing kbs (TokenAt P atoken fun token w =>
        P.value w token.wrappingkeyHandle = some swk) lock k state s := hs.mono fun _ => hat
    have hapi : apimoduleApiKnown d.label = true := by simp [apimoduleApiKnown, hd]
    simp only [SgxStm.stmOps, SgxStm.stmLoadKey, apimoduleOps, apimoduleLoadKey, hdata]
    refine live_lookupApimoduleToken hlabel hs' ?_
    have hagree : ¬(if uriData.type = ckoData then keytypeClass d.type else uriData.type) ≠
        keytypeClass d.type := by
      rw [hclass, hkey]
      split <;> simp
    simp only [hapi]
    rw [if_neg hagree]
    have hwrap : K.wrap swk secret = ⟨(K.wrap swk secret).iv, d.key, d.tagSize⟩ := by
      rw [hwrapped, htag]
    refine (live_sgxLoadKey hE hP hs' rfl hlabel (hkey ▸ htype) hiv hwrap).mono ?_
    rintro r t ⟨rfl, ht, hobject⟩
    exact ⟨rfl, ht.mono fun h => ⟨atoken, h⟩, hobject⟩

end SkcLibrary
