import SkcLibrary.Apimodule.OnDemandRuns
import SkcLibrary.Threads

/-!
# The objects of the token

Any number of threads, each of which loads a key on demand, with any NPMs and over any PKCS#11
module. An object is named by its id and its label.

Whether the token has the object already is asked before the agent's lock is taken; under the lock,
only the URL is compared, and two URIs of one key give two URLs. `NewAtLock` is the condition that
the object is still missing when the lock is taken.

* `objects_once` — no object is unwrapped into the token that has it
-/

namespace SkcLibrary

open Interaction

variable {W : Type}

/-! ## Runs -/

/-- What an object is looked for by: its id and its label. -/
abbrev ObjectName := Bytes × Bytes

def CkTemplate.objectName (template : CkTemplate) : ObjectName := (template.id, template.label)

def ApimoduleUriData.objectName (uriData : ApimoduleUriData) : ObjectName :=
  (uriData.keyId, uriData.keyLabel)

/-- One more call: a key that was unwrapped is an object of the token. -/
def noteObject (c : Call) : c.Ans → List ObjectName → List ObjectName :=
  match c with
  | .ck (.cUnwrapKey _ (.aesGcm _ _) _ _ template) => fun a l =>
    if a.1 = ckrOk then template.objectName :: l else l
  | _ => fun _ l => l

/-- The token does not have the object that is unwrapped. -/
def UnwrapsNew (c : Call) (l : List ObjectName) : Prop :=
  match c with
  | .ck (.cUnwrapKey _ (.aesGcm _ _) _ _ template) => template.objectName ∉ l
  | _ => True

/--
A call that takes the lock has its URL in `key_hash`, or asks for a key whose object the token does
not have.
-/
def NewAtLock (L : Library) (uri : Nat → Bytes) (i : Nat) (c : Call)
    (x : World W × List ObjectName) : c.Ans → Prop :=
  match c with
  | .rwLockWriterLock => fun _ => ∀ uriData, callData L (uri i) = some uriData →
    x.1.keyagent.keyHash.lookup (hashKey (keyUrl uriData (uri i))) = none →
    uriData.objectName ∉ x.2
  | _ => fun _ => True

/-- The steps of a thread, as far as they meet the condition. -/
abbrev objectStep (E : Step skcSig W) (L : Library) (uri : Nat → Bytes) :
    Nat → Step skcSig (World W × List ObjectName) :=
  threadStep E (fun _ c _ => noteObject c) (NewAtLock L uri)

/-! ## The setting -/

/-- No object was unwrapped twice, and only the thread that holds the lock unwraps. -/
def objectMutex : Mutex Nat (World W × List ObjectName) where
  holder x := x.1.rwlock
  outside :=
    { rel := fun x y => y.1.keyagent = x.1.keyagent ∧ y.2 = x.2
      refl := fun _ => ⟨rfl, rfl⟩
      trans := fun h h' => ⟨h'.1.trans h.1, h'.2.trans h.2⟩ }
  always :=
    { rel := fun x y => (x.2.Nodup → y.2.Nodup) ∧ (RequestsLocked x.1 → RequestsLocked y.1)
      refl := fun _ => ⟨id, id⟩
      trans := fun h h' => ⟨h'.1 ∘ h.1, h'.2 ∘ h.2⟩ }

section Calls

variable {E : Step skcSig W} {L : Library} {uri : Nat → Bytes} {i : Nat} {c : Call} {a : c.Ans}
  {x y : World W × List ObjectName}

theorem SwkCall.noteObject (hc : SwkCall c) (l : List ObjectName) :
    noteObject c a l = l := by
  cases c with
  | ck d =>
    cases d with
    | cUnwrapKey session mechanism key wrapped template =>
      cases mechanism with
      | rsaPkcsOaep => rfl
      | aesGcm iv tagSize => exact hc.elim
    | _ => rfl
  | _ => rfl

theorem SwkCall.unwrapsNew (hc : SwkCall c) (l : List ObjectName) :
    UnwrapsNew c l := by
  cases c with
  | ck d =>
    cases d with
    | cUnwrapKey session mechanism key wrapped template =>
      cases mechanism with
      | rsaPkcsOaep => trivial
      | aesGcm iv tagSize => exact hc.elim
    | _ => trivial
  | _ => trivial

/-- A key that is unwrapped is a new one. -/
theorem noteObject_nodup {l : List ObjectName} (hc : UnwrapsNew c l) (hl : l.Nodup) :
    (noteObject c a l).Nodup := by
  cases c with
  | ck d =>
    cases d with
    | cUnwrapKey session mechanism key wrapped template =>
      cases mechanism with
      | rsaPkcsOaep => exact hl
      | aesGcm iv tagSize =>
        simp only [noteObject]
        split
        · exact List.nodup_cons.mpr ⟨hc, hl⟩
        · exact hl
    | _ => exact hl
  | _ => exact hl

theorem objectStep_always (h : objectStep E L uri i c x a y) (hguard : ¬c.Guarded)
    (hc : UnwrapsNew c x.2) : objectMutex.always.rel x y := by
  refine ⟨fun hnodup => ?_, fun hreq hfree => ?_⟩
  · rw [show y.2 = noteObject c a x.2 from h.1.2]
    exact noteObject_nodup hc hnodup
  · rw [threadStep_keyagent h hguard]
    exact hreq (by rw [← threadStep_rwlock h hguard]; exact hfree)

/-- The thread with the lock sees the objects. -/
theorem sees_objects (E : Step skcSig W) (L : Library) (uri : Nat → Bytes) (i : Nat) :
    Sees E (fun _ c _ => noteObject c) (NewAtLock L uri) objectMutex (fun _ c x => UnwrapsNew c x.2) i
      True (fun c l a l' => l' = noteObject c a l) UnwrapsNew (fun x l => x.2 = l) where
  holder _ := rfl
  outside h := h.1
  unseen {c _ _ _} hc := by cases c <;> first | rfl | exact hc.elim
  guarded {c _} hc := by cases c <;> trivial
  put {x k _} hheld hx := by
    refine ⟨⟨⟨id, fun _ hfree => ?_⟩, fun _ _ => trivial⟩, hx⟩
    exact absurd (hheld.symm.trans hfree) nofun
  other {c x l} _ hguard hc hx := by
    subst hx
    refine ⟨hc, fun a y hy => ⟨⟨?_, fun _ _ => trivial⟩, y.2, hy.1.2, rfl⟩⟩
    exact objectStep_always hy hguard hc

end Calls

/-! ## A key load -/

theorem unwrapsNew_of_ne_ck {c : Call} {l : List ObjectName} (hc : ∀ d, c ≠ .ck d) :
    UnwrapsNew c l := by
  cases c <;> first | trivial | exact absurd rfl (hc _)

theorem Call.Agent.unwrapsNew {c : Call} {l : List ObjectName} (hc : c.Agent) : UnwrapsNew c l := by
  refine unwrapsNew_of_ne_ck ?_
  rintro d rfl
  exact hc

/-- The thread with the lock, and the objects of the token. -/
abbrev objectView : AgentView (Keyagent × List ObjectName) :=
  lockedView (fun c l a l' => l' = noteObject c a l) UnwrapsNew Call.Agent.unwrapsNew

section Load

variable {x y : Keyagent × List ObjectName} {α : Type}

theorem objectView_step {c : Call} (hc : SwkCall c) {a : c.Ans}
    (h : objectView.step c x a y) : y = x := by
  obtain ⟨hk, hl⟩ := lockedView_step Call.Agent.unwrapsNew hc.not_guarded h
  exact Prod.ext hk (hl.trans (hc.noteObject _))

theorem SwkCall.objectPre {c : Call} (hc : SwkCall c) : objectView.pre c x := by
  refine ⟨?_, hc.unwrapsNew _⟩
  rintro rfl
  exact hc

/-- What does not unwrap keys leaves the objects alone. -/
theorem sat_untilLock_objects {p : Skc α}
    (hp : p.IssuesUntil (fun c : Call => c = .rwLockWriterLock) SwkCall) :
    Sat objectView.logic p (fun _ y => y = x) x := by
  refine Sat.of_issuesUntil hp stable_seq (fun c hc t ht => ?_) (fun c hc t ht => ?_) rfl
  · subst hc
    exact ⟨⟨nofun, trivial⟩, fun _ _ h => h.elim⟩
  · refine ⟨hc.objectPre, fun a u hu => ⟨trivial, ?_⟩⟩
    rw [objectView_step hc hu, ht]

theorem sat_issues_objects {p : Skc α} (hp : p.Issues SwkCall) :
    Sat objectView.logic p (fun _ y => y = x) x := sat_untilLock_objects hp.until

/-- A key whose object is missing is unwrapped once. -/
theorem sat_sgxUnwrapKey_objects {template : CkTemplate}
    {details : KeyagentApimoduleLoadkeyDetails} {atoken : TokenRef}
    (hx : template.objectName ∉ x.2) :
    Sat objectView.logic (sgxUnwrapKey template details atoken)
      (fun rv y => y.1 = x.1 ∧ (rv ≠ ckrOk → y.2 = x.2)) x := by
  refine AgentView.sat_deref.mpr fun iv _ => ?_
  refine (sat_issues_objects ((readToken_issues atoken).mono TokenCall.swkCall)).bind ?_
  rintro token y rfl
  refine AgentView.sat_ck.mpr ⟨⟨nofun, hx⟩, fun a z hz => ?_⟩
  obtain ⟨rv, key⟩ := a
  obtain ⟨hk, hl⟩ := lockedView_step Call.Agent.unwrapsNew id hz
  refine sat_seq_pure.mpr ⟨hk, fun hrv => ?_⟩
  simp only [noteObject, if_neg hrv] at hl
  exact hl

theorem sat_loadKey_objects {details : KeyagentApimoduleLoadkeyDetails} {err : Option GError}
    {uriData : ApimoduleUriData} (hdata : details.moduleData = some uriData)
    (hx : uriData.objectName ∉ x.2) :
    Sat objectView.logic (apimoduleLoadKey details err)
      (fun r y => y.1 = x.1 ∧ (r.1 = false → y.2 = x.2)) x := by
  have hlookup : ∀ label, Sat objectView.logic (lookupApimoduleToken label) (fun _ y => y = x) x :=
    fun label => sat_issues_objects ((lookupApimoduleToken_issues label).mono TokenCall.swkCall)
  unfold apimoduleLoadKey
  rw [hdata]
  refine (hlookup _).bind ?_
  rintro atoken y rfl
  split
  · by_cases htype : (if uriData.type = ckoData then keytypeClass details.type else uriData.type) ≠
        keytypeClass details.type
    · exact (if_pos htype).symm ▸ sat_seq_pure.mpr ⟨rfl, fun _ => rfl⟩
    · rw [if_neg htype]
      unfold sgxLoadKey
      rw [hdata]
      refine (hlookup _).bind ?_
      rintro atoken' y rfl
      cases atoken' with
      | none => exact sat_seq_pure.mpr ⟨rfl, fun _ => rfl⟩
      | some atoken' =>
        -- the class of the key picks the template, and both templates carry the object's name
        have hunwrap : Sat objectView.logic (sgxUnwrap details uriData atoken')
            (fun rv z => z.1 = y.1 ∧ (rv ≠ ckrOk → z.2 = y.2)) y := by
          unfold sgxUnwrap
          split
          · exact sat_sgxUnwrapKey_objects hx
          · exact sat_sgxUnwrapKey_objects hx
          · exact sat_seq_pure.mpr ⟨rfl, fun _ => rfl⟩
        refine hunwrap.bind fun rv z hz => ?_
        split
        · exact sat_seq_pure.mpr ⟨hz.1, nofun⟩
        · next hrv => exact sat_seq_pure.mpr ⟨hz.1, fun _ => hz.2 hrv⟩
  · exact sat_seq_pure.mpr ⟨rfl, fun _ => rfl⟩

/-- The SGX security module, while the object of the key is missing. -/
theorem serving_objects {L : Library} {cInit : Skc CkRv} (hinit : UntilLock cInit)
    (uriData : ApimoduleUriData) :
    Serving objectView (L.stmOps cInit) (some uriData) (fun x => uriData.objectName ∉ x.2) where
  call {c x a y} hc hmod hx hy := by
    have hl : y.2 = x.2 := by
      cases c with
      | modifyKeyagent f => exact absurd rfl (hmod f)
      | getKeyagent => rw [hy.2]
      | foreachSession => rw [hy.2]
      | generateUuid | uninitialised _ | httpsSend _ | insertRow _ | fault _ => exact hy.2
      | _ => exact hc.elim
    rw [hl]
    exact hx
  put hx := hx
  createChallenge {_ details err x} _ hx := by
    refine (sat_untilLock_objects ((stmCreateChallenge_untilLock hinit L.sgxStm details err).mono
      ApimoduleCall.swkCall)).mono ?_
    rintro _ y rfl
    exact ⟨hx, rfl⟩
  setSession {_ details err x} _ hx := by
    have hset := apimoduleSetWrappingKey_issues (P := SwkCall) trivial (fun _ => trivial)
      (fun _ _ hf => hf) (fun _ _ _ _ => trivial)
    refine (sat_issues_objects (hset _ err)).mono ?_
    rintro _ y rfl
    exact ⟨hx, rfl⟩

/-- **A load between lock and unlock**, of a key whose object is missing. -/
theorem sat_loadkeyLocked_objects {L : Library} {cInit : Skc CkRv} (hinit : UntilLock cInit)
    {url : Bytes} {uriData : ApimoduleUriData} {err : Option GError}
    (hx : x.1.keyHash.lookup (hashKey url) = none → uriData.objectName ∉ x.2)
    (hreq : x.1.NoRequests) :
    Sat objectView.logic (loadkeyLocked (L.modules (L.stmOps cInit)) url (some uriData) err)
      (fun _ y => y.1.NoRequests) x := by
  have hloading : Loading objectView (L.modules (L.stmOps cInit)) url (some uriData)
      (fun x => uriData.objectName ∉ x.2) fun _ => True :=
    (serving_objects hinit uriData).loading (fun _ => trivial) (fun _ => trivial) ?_
  · exact (hloading.sat_loadkeyLocked (fun _ => trivial) hx hreq).mono fun _ y hy => hy.2.1
  · intro label details err x hdata hx
    refine (sat_loadKey_objects hdata hx).mono fun r y hy => ⟨?_, hy.1⟩
    split
    · trivial
    · next hret =>
      rw [hy.2 (Bool.eq_false_iff.mpr hret)]
      exact hx

end Load

/-! ## Every interleaving -/

section Runs

variable {E : Step skcSig W} {L : Library} {uri : Nat → Bytes} {fuel : Nat}

/-- A call that takes the lock unwraps an object that the token does not have. -/
theorem takesLock_objects {i : Nat} {cInit : Skc CkRv} (hinit : UntilLock cInit)
    {uriData : ApimoduleUriData} (hdata : callData L (uri i) = some uriData) :
    TakesLock E (fun _ c _ => noteObject c) (NewAtLock L uri) objectMutex
      (fun _ c x => UnwrapsNew c x.2) i (L.modules (L.stmOps cInit)) uriData (uri i)
      (fun x => RequestsLocked x.1) fun _ _ => True where
  holder _ := rfl
  outside h := h.1
  known hx h := h.2 hx
  result _ _ := trivial
  failure _ := trivial
  pre hc := unwrapsNew_of_ne_ck hc
  acquire {x a x'} hx h := by
    obtain ⟨⟨⟨hfree, hx'⟩, hobs⟩, hallow⟩ := h
    have hl : x'.2 = x.2 := hobs
    -- a load that starts under the lock has a name that no object was given before
    have hka : x'.1.keyagent = x.1.keyagent := by rw [hx']
    have hheld : x'.1.rwlock = some i := by rw [hx']
    refine ⟨⟨⟨fun hnodup => by rw [hl]; exact hnodup, fun _ hnone => ?_⟩, fun _ _ => trivial⟩,
      fun err => ?_⟩
    · exact absurd (hheld.symm.trans hnone) nofun
    · have hload : Sat objectView.logic (loadkeyLocked (L.modules (L.stmOps cInit))
          (keyUrl uriData (uri i)) (some uriData) err) (fun _ y => y.1.NoRequests)
          (x'.1.keyagent, x'.2) := by
        rw [hka, hl]
        exact sat_loadkeyLocked_objects hinit (hallow uriData hdata) (hx hfree)
      refine ((sees_objects E L uri i).sat_locked (fun hxl _ hout => hout.2.trans hxl) hload hheld
        rfl).mono fun r y hy => ?_
      obtain ⟨hheld, l, -, hreq⟩ := hy
      exact ⟨hheld, hreq, fun _ => trivial⟩
  release {x a x'} hreq h := by
    obtain ⟨⟨hx', hobs⟩, -⟩ := h
    have hl : x'.2 = x.2 := hobs
    refine ⟨⟨fun hnodup => by rw [hl]; exact hnodup, fun _ _ => ?_⟩, fun _ _ => trivial⟩
    rw [show x'.1 = _ from hx']
    exact hreq

theorem sat_onDemand_objects {s : World W} {held : List ObjectName} (hfree : s.rwlock = none)
    (hreq : s.keyagent.NoRequests) (i : Nat) :
    Sat (objectMutex.logic i (objectStep E L uri) fun _ c x => UnwrapsNew c x.2)
      (onDemand L fuel (uri i)) (fun _ _ => True) (s, held) := by
  have hinit := cInitialize_untilLock L fuel
  refine TakesLock.sat_onDemand (J := fun x => RequestsLocked x.1) (by rw [hfree]; nofun)
    (fun _ => hreq) (fun _ hdata => takesLock_objects hinit hdata) fun {c x} hc _ _ => ?_
  have hswk := (hc.apimoduleCall c).swkCall c
  refine ⟨hswk.unwrapsNew _, fun a x' h => ⟨⟨?_, ?_⟩, ?_, fun _ _ => trivial⟩⟩
  · exact threadStep_keyagent h hswk.not_guarded
  · exact (show x'.2 = noteObject c a x.2 from h.1.2).trans (hswk.noteObject _)
  · exact objectStep_always h hswk.not_guarded (hswk.unwrapsNew _)

/--
**The objects of the token.** Whatever the interleaving, if every call that takes the lock meets the
condition: the token has no object twice, and none that it has is unwrapped again.
-/
theorem objects_once {s : World W} {held : List ObjectName}
    {q : Pool Nat skcSig (World W × List ObjectName) CkRv} (hfree : s.rwlock = none)
    (hreq : s.keyagent.NoRequests) (hheld : held.Nodup)
    (hr : Pool.Reach (objectStep E L uri) (loadThreads L fuel uri (s, held)) q) :
    q.state.2.Nodup ∧ ∀ i session iv tagSize key wrapped template k,
      q.threads i = .call (.ck (.cUnwrapKey session (.aesGcm iv tagSize) key wrapped template)) k →
      template.objectName ∉ q.state.2 := by
  have hp : ∀ i, Sat (objectMutex.logic i (objectStep E L uri) fun _ c x => UnwrapsNew c x.2)
      ((loadThreads L fuel uri (s, held)).threads i) (fun _ _ => True) (s, held) :=
    sat_onDemand_objects hfree hreq
  refine ⟨(objectMutex.always_reach hp hr).1 hheld, fun i _ _ _ _ _ template k hk => ?_⟩
  exact Pool.pre_of_sat (objectMutex.sat_reach hp hr i) hk

end Runs

/-! ## Two URIs of one key -/

/-- A PKCS#11 module with one token, which keeps its pin and its objects. -/
structure TokenStore where
  /-- The pin the token was created with. -/
  pin : Option Bytes
  objects : List ObjectName
  /-- What was last looked for. -/
  wanted : ObjectName
  nextHandle : Nat

/-- That module, and a KBS that hands a key to whoever has a session. -/
def tokenStoreHandler (c : Call) (w : TokenStore) : Option (c.Ans × TokenStore) :=
  match c with
  | .generateUuid => some (lit "request", w)
  | .uninitialised n => some (zeroBytes n, w)
  | .httpsSend req => some (Kms.sessionKbs req, w)
  | .calloc _ => some (true, w)
  | .ck .cInitialize => some (ckrOk, w)
  | .ck .cFinalize => some (ckrOk, w)
  | .ck .cGetSlotListCount => some ((ckrOk, 1), w)
  | .ck (.cGetSlotList _) => some ((ckrOk, [0]), w)
  | .ck (.cGetTokenInfo _) => some ((ckrOk, if w.pin = none then [] else lit "KMS"), w)
  | .ck (.cInitToken _ pin _) =>
    if w.pin = none then some (ckrOk, { w with pin := some pin }) else some (ckrGeneralError, w)
  | .ck (.cOpenSession _) => some ((ckrOk, w.nextHandle), { w with nextHandle := w.nextHandle + 1 })
  | .ck (.cCloseSession _) => some (ckrOk, w)
  | .ck (.cLogin _ .so _) => some (ckrOk, w)
  | .ck (.cLogin _ .user pin) =>
    some (if w.pin = some pin then ckrOk else ckrGeneralError, w)
  | .ck (.cLogout _) => some (ckrOk, w)
  | .ck (.cInitPin _ _) => some (ckrOk, w)
  | .ck (.cFindObjectsInit _ label id) => some (ckrOk, { w with wanted := (id, label) })
  | .ck (.cFindObjects _) => some ((ckrOk, if w.wanted ∈ w.objects then [1] else []), w)
  | .ck (.cFindObjectsFinal _) => some (ckrOk, w)
  | .ck (.cGetAttributeValue _ _) => some (ckrOk, w)
  | .ck (.cGenerateKeyPair _ _ _) =>
    some ((ckrOk, w.nextHandle, w.nextHandle + 1), { w with nextHandle := w.nextHandle + 2 })
  | .ck (.cWrapKeySize _ _ _ _) => some ((ckrOk, 16), w)
  | .ck (.cWrapKey _ _ _ _ _) => some ((ckrOk, List.replicate 16 0), w)
  | .ck (.cUnwrapKey _ _ _ _ template) =>
    some ((ckrOk, w.nextHandle),
      { w with nextHandle := w.nextHandle + 1, objects := template.objectName :: w.objects })
  | _ => none

/-- The surroundings with that module and that KBS. -/
def tokenStoreStep : Step skcSig TokenStore := fun c w a w' => tokenStoreHandler c w = some (a, w')

/-- A process whose agent has no sessions yet, over a token with the given pin. -/
def tokenStoreWorld (pin : Option Bytes) : World TokenStore :=
  ⟨{ sgxAgent with apimoduleLoadkeyHash := ∅ }, ⟨∅, [], 1⟩, none, ⟨pin, [], ([], []), 1⟩⟩

/-- Two threads ask for one key, by URIs that are spelled differently. -/
def twoSpellings (i : Nat) : Bytes :=
  if i = 0 then lit "pkcs11:token=KMS;object=key;type=private"
  else lit "pkcs11:object=key;token=KMS;type=private"

instance (L : Library) (uri : Nat → Bytes) (i : Nat) (c : Call) (x : World W × List ObjectName)
    (a : c.Ans) : Decidable (NewAtLock L uri i c x a) := by
  casesm* Call
  case rwLockWriterLock =>
    exact inferInstanceAs (Decidable (∀ uriData ∈ callData L (uri i),
      x.1.keyagent.keyHash.lookup (hashKey (keyUrl uriData (uri i))) = none → uriData.objectName ∉ x.2))
  all_goals exact isTrue trivial

/-- The handler of a thread, with the objects it is seen to unwrap. -/
def objectHandler (i : Nat) (c : skcSig.Op) (x : World TokenStore × List ObjectName) :
    Option (skcSig.Ans c × World TokenStore × List ObjectName) :=
  observing (S := skcSig) (sysHandler tokenStoreHandler i) (fun c _ => noteObject c) c x

theorem objectHandler_step (i : Nat) (c : skcSig.Op) (x : World TokenStore × List ObjectName)
    (a : skcSig.Ans c) (y : World TokenStore × List ObjectName)
    (h : objectHandler i c x = some (a, y)) :
    (sysStep tokenStoreStep i).observed (fun c _ => noteObject c) c x a y :=
  observing_step sysHandler_answers c x a y h

theorem noRequests_tokenStoreWorld (pin : Option Bytes) :
    (tokenStoreWorld pin).keyagent.NoRequests := fun _ => rfl

/-- The second thread waits for the first before it looks for the object. -/
theorem objects_once_waiting : ∃ q : Pool Nat skcSig (World TokenStore × List ObjectName) CkRv,
    Pool.Reach (objectStep tokenStoreStep kmsLibrary twoSpellings)
      (loadThreads kmsLibrary 2 twoSpellings (tokenStoreWorld (some (lit "1234")), [])) q ∧
    q.result 0 = some ckrOk ∧ q.result 1 = some ckrOk ∧ q.state.2.length = 1 ∧
    q.state.2.Nodup := by
  obtain ⟨q, hq, hv⟩ := Option.map_eq_some_iff.mp (show
    (Pool.schedule (fun i => restricting (objectHandler i) (NewAtLock kmsLibrary twoSpellings i))
      [(0, 17), (1, 1), (0, 1000), (1, 1000)]
      (loadThreads kmsLibrary 2 twoSpellings (tokenStoreWorld (some (lit "1234")), []))).map
      (fun q => (q.result 0, q.result 1, q.state.2.length)) = some (some ckrOk, some ckrOk, 1)
    by decide +kernel)
  obtain ⟨h₀, hv⟩ := Prod.mk.inj hv
  obtain ⟨h₁, hlen⟩ := Prod.mk.inj hv
  have hstep : ∀ i c x a y, restricting (objectHandler i) (NewAtLock kmsLibrary twoSpellings i) c x =
      some (a, y) → objectStep tokenStoreStep kmsLibrary twoSpellings i c x a y :=
    fun i c x a y => restricting_step (objectHandler_step i) c x a y
  have hreach := Pool.schedule_reach hstep hq
  exact ⟨q, hreach, h₀, h₁, hlen,
    (objects_once rfl (noRequests_tokenStoreWorld _) List.nodup_nil hreach).1⟩

/-- Both threads look for the object before one of them takes the lock. -/
theorem not_objects_once : ¬∀ (W : Type) (L : Library) (fuel : Nat) (E : Step skcSig W)
    (uri : Nat → Bytes) (s : World W) (held : List ObjectName)
    (q : Pool Nat skcSig (World W × List ObjectName) CkRv), s.rwlock = none →
    s.keyagent.NoRequests → held.Nodup →
    Pool.Reach (fun i => (sysStep E i).observed fun c _ => noteObject c)
      (loadThreads L fuel uri (s, held)) q → q.state.2.Nodup := by
  intro h
  obtain ⟨q, hq, hv⟩ := Option.map_eq_some_iff.mp (show
    (Pool.schedule objectHandler [(0, 17), (1, 5), (0, 1000), (1, 1000)]
      (loadThreads kmsLibrary 2 twoSpellings (tokenStoreWorld (some (lit "1234")), []))).map
      (fun q => decide q.state.2.Nodup) = some false by decide +kernel)
  have hnodup := h TokenStore kmsLibrary 2 tokenStoreStep twoSpellings _ [] q rfl
    (noRequests_tokenStoreWorld _) List.nodup_nil
    (Pool.schedule_reach (fun i c x a y h => objectHandler_step i c x a y h) hq)
  exact absurd hnodup (of_decide_eq_false hv)

end SkcLibrary
