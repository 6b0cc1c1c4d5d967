import SkcLibrary.Apimodule.Deadlock
import SkcLibrary.Apimodule.TokenPins

/-!
# The data of a call

A URI names a token, a pin, an object and its class. A call hands them to the PKCS#11 module, some of them
through the agent and its security module, where the calls of all threads meet: what the security module gets
is found again under the id of a request.

* `own_data` — in every interleaving each call presents the data of its own URI, and no other
-/

namespace SkcLibrary

open Interaction

variable {W : Type}

/-! ## What is presented -/

/-- The template of the object that a URI names; a private key is kept in the token. -/
def ApimoduleUriData.template (d : ApimoduleUriData) : CkTemplate :=
  unwrapTemplate d.type (decide (d.type = ckoPrivateKey)) d

/-- A call that presents nothing of a URI, or what is in `d`. -/
def CkCall.Presents (d : ApimoduleUriData) : CkCall → Prop
  | .cInitToken _ pin label => pin = d.pin ∧ label = paddedLabel d.tokenLabel
  | .cLogin _ _ pin => pin = d.pin
  | .cInitPin _ pin => pin = d.pin
  | .cFindObjectsInit _ label id => label = d.keyLabel ∧ id = d.keyId
  | .cUnwrapKey _ (.aesGcm _ _) _ _ template => template = d.template
  | _ => True

/-- A call of the api module that presents no other. -/
def OwnCall (d : ApimoduleUriData) : Call → Prop
  | .ck c => c.Presents d
  | .stm _ => False
  | .getKeyagent => False
  | .modifyKeyagent _ => False
  | .foreachSession => False
  | .rwLockWriterLock => False
  | .rwLockWriterUnlock => False
  | _ => True

variable {d : ApimoduleUriData}

theorem SlotCall.own (c : Call) (h : SlotCall c) : OwnCall d c := by
  cases c with
  | ck c => cases c <;> first | exact trivial | exact h.elim
  | calloc n => trivial
  | _ => exact h.elim

theorem ChallengeCall.own (c : Call) (h : ChallengeCall c) : OwnCall d c := by
  cases c with
  | ck c => cases c <;> first | exact trivial | exact h.elim
  | _ => first | exact trivial | exact h.elim

theorem OwnCall.not_guarded {c : Call} (h : OwnCall d c) : ¬c.Guarded := by
  intro hc
  cases c <;> first | exact h | exact hc

theorem createtoken_own : (apimoduleCreatetoken d).Issues (OwnCall d) := by
  refine Skc.issues_ck_bind.mpr ⟨trivial, fun a => ?_⟩
  obtain ⟨rv, nslots⟩ := a
  dsimp only
  split
  · trivial
  · refine Skc.issues_ck_bind.mpr ⟨⟨rfl, rfl⟩, fun rv => ?_⟩
    split
    · trivial
    · refine Skc.issues_ck_bind.mpr ⟨trivial, fun b => ?_⟩
      obtain ⟨rv, session⟩ := b
      dsimp only
      split
      · trivial
      · refine Prog.Issues.bind ?_ fun _ => trivial
        exact createtokenLogin_issues (fun _ => rfl) rfl trivial

theorem findobject_own (session : Nat) : (apimoduleFindobject session d).Issues (OwnCall d) := by
  refine Skc.issues_ck_bind.mpr ⟨⟨rfl, rfl⟩, fun rv => ?_⟩
  split
  · trivial
  · refine Skc.issues_ck_bind.mpr ⟨trivial, fun a => ?_⟩
    obtain ⟨rv, objects⟩ := a
    dsimp only
    split
    · trivial
    · refine Skc.issues_ck_bind.mpr ⟨trivial, fun rv => ?_⟩
      split
      · trivial
      · split
        · trivial
        · exact ⟨trivial, fun _ => trivial⟩

theorem readToken_own (atoken : TokenRef) : (readToken atoken).Issues (OwnCall d) :=
  ⟨trivial, fun _ => Skc.issues_deref trivial⟩

theorem lookupApimoduleToken_own (label : Bytes) :
    (lookupApimoduleToken label).Issues (OwnCall d) := ⟨trivial, fun _ => trivial⟩

theorem openToken_own (atoken : ApimoduleToken) (err : Option GError) :
    (openToken d atoken err).Issues (OwnCall d) := by
  refine ((apimoduleFindtoken_issues d).mono SlotCall.own).bind fun a => ?_
  obtain ⟨rv, slot⟩ := a
  dsimp only
  split
  · trivial
  · split
    · trivial
    · refine Skc.issues_ck_bind.mpr ⟨trivial, fun b => ?_⟩
      obtain ⟨rv, session⟩ := b
      dsimp only
      split
      · trivial
      · refine Skc.issues_ck_bind.mpr ⟨trivial, fun _ => ?_⟩
        refine Skc.issues_ck_bind.mpr ⟨rfl, fun rv => ?_⟩
        split <;> trivial

/-- The class in the template is that of the key, and that of the URI if it names one. -/
theorem loadKey_own (htype : d.type ≠ ckoData) {details : KeyagentApimoduleLoadkeyDetails}
    (hdata : details.moduleData = some d) (err : Option GError) :
    (apimoduleLoadKey details err).Issues (OwnCall d) := by
  unfold apimoduleLoadKey
  rw [hdata]
  refine (lookupApimoduleToken_own _).bind fun atoken => ?_
  split
  · dsimp only
    rw [if_neg htype]
    split
    · trivial
    · next hclass =>
      have hclass : d.type = keytypeClass details.type := not_not.mp hclass
      unfold sgxLoadKey
      rw [hdata]
      refine (lookupApimoduleToken_own _).bind fun atoken => ?_
      split
      · trivial
      · have hkey : ∀ template atoken, template = d.template →
            (sgxUnwrapKey template details atoken).Issues (OwnCall d) := by
          intro template atoken htemplate
          refine (Skc.issues_deref trivial).bind fun iv => ?_
          refine (readToken_own atoken).bind fun token => ?_
          exact Skc.issues_ck_bind.mpr ⟨htemplate, fun _ => trivial⟩
        refine Prog.Issues.bind ?_ fun rv => by split <;> trivial
        unfold sgxUnwrap
        split
        · next hkind =>
          rw [hkind] at hclass
          refine hkey _ _ ?_
          rw [ApimoduleUriData.template, hclass]
          rfl
        · next hkind =>
          rw [hkind] at hclass
          refine hkey _ _ ?_
          rw [ApimoduleUriData.template, hclass]
          rfl
        · trivial
  · trivial


theorem issues_bindClosed {P : Call → Prop} : Prog.BindClosed fun _ (p : Skc _) => p.Issues P :=
  ⟨fun _ => trivial, Prog.Issues.bind⟩

/-- A token that is only looked for. -/
theorem lookupOrInitToken_own (cInit : Skc CkRv) (err : Option GError) :
    (lookupOrInitToken cInit d false err).Issues (OwnCall d) :=
  lookupOrInitToken_closed issues_bindClosed (lookupApimoduleToken_own _)
    (initApimoduleToken_closed issues_bindClosed
      (ensureToken_closed issues_bindClosed ((apimoduleFindtoken_issues d).mono SlotCall.own)
        createtoken_own (fun _ => ⟨trivial, fun _ => trivial⟩) (fun _ => ⟨trivial, fun _ => trivial⟩)
        ⟨trivial, fun _ => trivial⟩ nofun)
      openToken_own fun _ => ⟨trivial, fun _ => trivial⟩)

/-! ## With the lock -/

/-- What is to be shown of a call: only those of the PKCS#11 module present something. -/
def OwnPre (d : ApimoduleUriData) : Call → Prop
  | .ck c => c.Presents d
  | .stm _ => False
  | _ => True

theorem OwnCall.ownPre {c : Call} (h : OwnCall d c) : OwnPre d c := by
  cases c <;> first | exact trivial | exact h

theorem Call.Agent.ownPre {c : Call} (h : c.Agent) : OwnPre d c := by
  cases c <;> first | exact trivial | exact h.elim

/-- The counter of `C_Initialize` has been raised. -/
def FlagRaised (c : Call) : c.Ans → Prop :=
  match c with
  | .atomicIntAdd => fun flag => flag ≠ 0
  | _ => fun _ => True

/-- What the functions of the api module see that are run with the lock. -/
abbrev ownFree (d : ApimoduleUriData) : Logic skcSig Unit :=
  freeLogic (fun c _ a _ => FlagRaised c a) (fun c _ => OwnPre d c) True

/-- The thread with the lock. -/
abbrev ownView (d : ApimoduleUriData) : AgentView (Keyagent × Unit) :=
  lockedView (fun c _ a _ => FlagRaised c a) (fun c _ => OwnPre d c) Call.Agent.ownPre

/-- The function presents the data of the URI, and no other. -/
def PresentsOwn (d : ApimoduleUriData) {α : Type} (p : Skc α) : Prop :=
  ∀ y, Sat (ownFree d) p (fun _ _ => True) y

variable {α : Type} {p : Skc α}

theorem PresentsOwn.of_issues (hp : p.Issues (OwnCall d)) : PresentsOwn d p := fun _ =>
  Sat.of_issues hp stable_seq (fun _ hc _ _ => ⟨.inr ⟨OwnCall.not_guarded hc, OwnCall.ownPre hc⟩,
    fun _ _ _ => ⟨trivial, trivial⟩⟩) trivial

theorem presentsOwn_bindClosed : Prog.BindClosed fun _ (p : Skc _) => PresentsOwn d p where
  pure _ _ := sat_seq_pure.mpr trivial
  bind hp hf y := (hp y).bind fun a z _ => hf a z

/-- The counter has been raised, so no other URI is looked at. -/
theorem presentsOwn_cInitialize (L : Library) (fuel : Nat) :
    PresentsOwn d (cInitialize L (fuel + 1)) := by
  intro y
  rw [cInitialize, cInitializeWith, Skc.ck_bind]
  refine sat_seq_call.mpr ⟨.inr ⟨id, trivial⟩, fun rv z _ => ?_⟩
  split
  · rw [Prog.lift_bind]
    refine sat_seq_call.mpr ⟨.inr ⟨id, trivial⟩, fun flag u hu => ?_⟩
    have hflag : flag ≠ 0 := hu.2
    rw [if_neg hflag]
    exact sat_seq_pure.mpr trivial
  · exact sat_seq_pure.mpr trivial

/-- The challenge; a token is created for it if there is none. -/
theorem presentsOwn_createChallenge (L : Library) (fuel : Nat)
    {details : KeyagentStmCreateChallengeDetails} (hdata : details.moduleData = some d)
    (err : Option GError) :
    PresentsOwn d (SgxStm.stmCreateChallenge L.sgxStm (apimoduleOps L.rsaPublicKeyParams
      (cInitialize L (fuel + 1))) details err) := by
  have hissues : ∀ {β : Type} {p : Skc β}, p.Issues (OwnCall d) → PresentsOwn d p :=
    PresentsOwn.of_issues
  refine stmCreateChallenge_closed presentsOwn_bindClosed
    (fun _ => hissues (Skc.issues_deref trivial)) fun request => ?_
  refine apimoduleGetChallenge_closed presentsOwn_bindClosed (fun data hd => ?_)
    (fun _ => hissues ((sgxGetChallenge_issues _ _ _).mono ChallengeCall.own))
    (fun _ => hissues (readToken_own _)) fun _ => hissues (Skc.issues_deref trivial)
  obtain rfl : d = data := Option.some.inj (hdata.symm.trans hd)
  refine lookupOrInitToken_closed presentsOwn_bindClosed (hissues (lookupApimoduleToken_own _)) ?_
  refine initApimoduleToken_closed presentsOwn_bindClosed ?_ (fun _ _ => hissues (openToken_own _ _))
    fun _ => hissues ⟨trivial, fun _ => trivial⟩
  exact ensureToken_closed presentsOwn_bindClosed
    (hissues ((apimoduleFindtoken_issues d).mono SlotCall.own)) (hissues createtoken_own)
    (fun _ => hissues ⟨trivial, fun _ => trivial⟩) (fun _ => hissues ⟨trivial, fun _ => trivial⟩)
    (hissues ⟨trivial, fun _ => trivial⟩) fun _ => presentsOwn_cInitialize L fuel

/-- What is run with the lock leaves the agent alone. -/
theorem PresentsOwn.sat_locked (hp : PresentsOwn d p) (x : Keyagent × Unit) :
    Sat (ownView d).logic p (fun _ y => y.1 = x.1) x :=
  (sat_locked_of_free (fun _ => trivial) (hp x.2)).mono fun _ _ hy => hy.1

/-- The SGX security module, while it serves the URI. -/
theorem serving_own (L : Library) (fuel : Nat) :
    Serving (ownView d) (L.stmOps (cInitialize L (fuel + 1))) (some d) fun _ => True where
  call _ _ _ _ := trivial
  put _ := trivial
  createChallenge hdata _ :=
    ((presentsOwn_createChallenge L fuel hdata _).sat_locked _).mono fun _ _ hy => ⟨trivial, hy⟩
  setSession _ _ := by
    refine (PresentsOwn.sat_locked (.of_issues ?_) _).mono fun _ _ hy => ⟨trivial, hy⟩
    exact apimoduleSetWrappingKey_issues trivial (fun _ => trivial) (fun _ _ _ => trivial)
      (fun _ _ _ _ => trivial) _ _

/-- **A load between lock and unlock.** -/
theorem sat_loadkeyLocked_own (htype : d.type ≠ ckoData) (L : Library) (fuel : Nat) (url : Bytes)
    (err : Option GError) {x : Keyagent × Unit} (hreq : x.1.NoRequests) :
    Sat (ownView d).logic
      (loadkeyLocked (L.modules (L.stmOps (cInitialize L (fuel + 1)))) url (some d) err)
      (fun _ y => y.1.NoRequests) x := by
  have hloading : Loading (ownView d) (L.modules (L.stmOps (cInitialize L (fuel + 1)))) url (some d)
      (fun _ => True) fun _ => True :=
    (serving_own L fuel).loading (fun _ => trivial) (fun _ => trivial) fun hdata _ =>
      ((PresentsOwn.of_issues (loadKey_own htype hdata _)).sat_locked _).mono fun _ _ hy =>
        ⟨by split <;> trivial, hy⟩
  exact (hloading.sat_loadkeyLocked (fun _ => trivial) (fun _ => trivial) hreq).mono
    fun _ _ hy => hy.2.1

/-! ## Every interleaving -/

/-- The class in a URI that is accepted is that of a key. -/
theorem callData_type {L : Library} {uri : Bytes} (h : callData L uri = some d) :
    d.type ≠ ckoData := by
  obtain ⟨keyUri, -, h⟩ := Option.bind_eq_some_iff.mp h
  split at h
  · simp at h
  · obtain ⟨label, -, h⟩ := Option.bind_eq_some_iff.mp h
    obtain ⟨id, -, h⟩ := Option.bind_eq_some_iff.mp h
    split at h
    · simp at h
    · split at h
      · simp at h
      · obtain ⟨type, -, h⟩ := Option.bind_eq_some_iff.mp h
        split at h
        · simp at h
        · next htype =>
          obtain ⟨upin, -, h⟩ := Option.bind_eq_some_iff.mp h
          split at h
          · simp at h
          · obtain ⟨tokenLabel, -, h⟩ := Option.bind_eq_some_iff.mp h
            split at h
            · simp at h
            · rw [← Option.some.inj h]
              rintro rfl
              exact htype (by decide)

/-- Threads that nobody watches. -/
abbrev ownStep (E : Step skcSig W) : Nat → Step skcSig (World W × Unit) :=
  threadStep E (fun _ _ _ _ w => w) fun _ c x a => NoWrap c x.1 a

/-- The lock; loads are registered under it only, and the counter, once raised, stays so. -/
def ownMutex : Mutex Nat (World W × Unit) where
  holder x := x.1.rwlock
  outside :=
    { rel := fun x y => y.1.keyagent = x.1.keyagent
      refl := fun _ => rfl
      trans := fun h h' => h'.trans h }
  always :=
    { rel := fun x y => (x.1.apimodule.preloadKeysFlag ≠ 0 → y.1.apimodule.preloadKeysFlag ≠ 0) ∧
        (RequestsLocked x.1 → RequestsLocked y.1)
      refl := fun _ => ⟨id, id⟩
      trans := fun h h' => ⟨h'.1 ∘ h.1, h'.2 ∘ h.2⟩ }

section

variable {E : Step skcSig W} {L : Library} {uri : Nat → Bytes} {i : Nat} {fuel : Nat}
  {x y : World W × Unit}

/-- A step of the api module's functions. -/
theorem ownStep_always {c : Call} {a : c.Ans} (h : ownStep E i c x a y) (hguard : ¬c.Guarded)
    (hc : OwnPre d c) (hflag : x.1.apimodule.preloadKeysFlag ≠ 0) :
    ownMutex.always.rel x y ∧ y.1.apimodule.preloadKeysFlag ≠ 0 ∧ FlagRaised c a := by
  have hreq : RequestsLocked x.1 → RequestsLocked y.1 := by
    intro hreq hfree
    rw [threadStep_keyagent h hguard]
    exact hreq (by rw [← threadStep_rwlock h hguard]; exact hfree)
  obtain ⟨⟨hs, -⟩, hwrap⟩ := h
  suffices y.1.apimodule.preloadKeysFlag ≠ 0 ∧ FlagRaised c a from ⟨⟨fun _ => this.1, hreq⟩, this⟩
  by_cases hadd : c = .atomicIntAdd
  · subst hadd
    obtain ⟨rfl, hy⟩ := hs
    exact ⟨by rw [hy]; exact hwrap rfl, hflag⟩
  · rw [sysStep_flag hs hadd (by rintro e rfl; exact hc)]
    refine ⟨hflag, ?_⟩
    cases c <;> first | exact trivial | exact absurd rfl hadd

/-- What is to be shown of a call of thread `i`. -/
def OwnOf (L : Library) (uri : Nat → Bytes) (i : Nat) (c : Call) (_ : World W × Unit) : Prop :=
  ∀ d e, callData L (uri i) = some d → c = .ck e → e.Presents d

theorem OwnPre.ownOf (hdata : callData L (uri i) = some d) {c : Call} (h : OwnPre d c) :
    OwnOf L uri i c x := by
  rintro d' e hd' rfl
  obtain rfl : d' = d := Option.some.inj (hd'.symm.trans hdata)
  exact h

theorem ownOf_of_ne_ck {c : Call} (hc : ∀ e, c ≠ .ck e) : OwnOf L uri i c x :=
  fun _ e _ he => absurd he (hc e)

/-- What the thread with the lock sees: the counter has been raised. -/
theorem sees_own (E : Step skcSig W) (hdata : callData L (uri i) = some d) :
    Sees E (fun _ _ _ _ w => w) (fun _ c x a => NoWrap c x.1 a) ownMutex (OwnOf L uri) i
      True (fun c _ a _ => FlagRaised c a) (fun c (_ : Unit) => OwnPre d c)
      fun x _ => x.1.apimodule.preloadKeysFlag ≠ 0 where
  holder _ := rfl
  outside h := h
  unseen _ := rfl
  guarded {c _} hc := by
    refine ownOf_of_ne_ck ?_
    rintro e rfl
    exact hc
  put {x k _} hheld hx := by
    refine ⟨⟨⟨id, fun _ hfree => ?_⟩, fun _ _ => trivial⟩, hx⟩
    exact absurd (hheld.symm.trans hfree) nofun
  other {c x _} _ hguard hc hx := by
    refine ⟨hc.ownOf hdata, fun a y hy => ?_⟩
    obtain ⟨halways, hflag, hraised⟩ := ownStep_always hy hguard hc hx
    exact ⟨⟨halways, fun _ _ => trivial⟩, (), hraised, hflag⟩

/-- The lock, as it is taken by a call of a thread. -/
theorem takesLock_own (hdata : callData L (uri i) = some d) :
    TakesLock E (fun _ _ _ _ w => w) (fun _ c x a => NoWrap c x.1 a) ownMutex (OwnOf L uri) i
      (L.modules (L.stmOps (cInitialize L (fuel + 1)))) d (uri i)
      (fun x => x.1.apimodule.preloadKeysFlag ≠ 0 ∧ RequestsLocked x.1) fun _ _ => True where
  holder _ := rfl
  outside h := h
  known hx h := ⟨h.1 hx.1, h.2 hx.2⟩
  result _ _ := trivial
  failure _ := trivial
  pre hc := ownOf_of_ne_ck hc
  acquire {x a y} hx h := by
    obtain ⟨⟨⟨hfree, hy⟩, -⟩, -⟩ := h
    have hka : y.1.keyagent = x.1.keyagent := by rw [hy]
    have hheld : y.1.rwlock = some i := by rw [hy]
    have hflag : y.1.apimodule.preloadKeysFlag ≠ 0 := by
      rw [hy]
      exact hx.1
    refine ⟨⟨⟨fun _ => hflag, fun _ hnone => absurd (hheld.symm.trans hnone) nofun⟩,
      fun _ _ => trivial⟩, fun err => ?_⟩
    have hload := sat_loadkeyLocked_own (callData_type hdata) L fuel (keyUrl d (uri i)) err
      (x := (y.1.keyagent, ())) (by rw [hka]; exact hx.2 hfree)
    refine ((sees_own E hdata).sat_locked (fun hx hothers _ => hothers.1.1 hx) hload hheld
      hflag).mono fun r z hz => ?_
    obtain ⟨hheld, _, -, hreq⟩ := hz
    exact ⟨hheld, hreq, fun _ => trivial⟩
  release {x a y} hreq h := by
    obtain ⟨⟨hy, -⟩, -⟩ := h
    refine ⟨⟨fun hflag => ?_, fun _ _ => ?_⟩, fun _ _ => trivial⟩
    · rw [show y.1 = _ from hy]
      exact hflag
    · rw [show y.1 = _ from hy]
      exact hreq

/-- The search for the object runs without the lock. -/
theorem sat_unlocked_own (hdata : callData L (uri i) = some d) {p : Skc α}
    (hp : p.Issues (OwnCall d)) (hs : x.1.rwlock ≠ some i)
    (hx : x.1.apimodule.preloadKeysFlag ≠ 0 ∧ RequestsLocked x.1) :
    Sat (ownMutex.logic i (ownStep E) (OwnOf L uri)) p (fun _ y => y.1.rwlock ≠ some i ∧
      y.1.apimodule.preloadKeysFlag ≠ 0 ∧ RequestsLocked y.1) x := by
  refine sat_unlocked_issues (J := fun x : World W × Unit =>
    x.1.apimodule.preloadKeysFlag ≠ 0 ∧ RequestsLocked x.1) (fun _ => rfl) hp
    (fun _ => OwnCall.not_guarded) (fun hx h => ⟨h.1 hx.1, h.2 hx.2⟩) (fun {c x} hc _ hx => ?_) hs hx
  refine ⟨hc.ownPre.ownOf hdata, fun a y hy => ⟨threadStep_keyagent hy hc.not_guarded, ?_,
    fun _ _ => trivial⟩⟩
  exact (ownStep_always hy hc.not_guarded hc.ownPre hx.1).1

/-- **A call of a thread.** -/
theorem sat_onDemand_own {s : World W} (hflag : s.apimodule.preloadKeysFlag ≠ 0)
    (hfree : s.rwlock = none) (hreq : s.keyagent.NoRequests) (i : Nat) :
    Sat (ownMutex.logic i (ownStep E) (OwnOf L uri)) (onDemand L (fuel + 1) (uri i))
      (fun _ _ => True) (s, ()) := by
  unfold onDemand cOnDemandKeyLoad
  split
  · exact Sat.pure fun _ _ => trivial
  · next d hdata =>
    have hlock : TakesLock E _ _ ownMutex (OwnOf L uri) i
        (L.modules (L.stmOps (cInitialize L (fuel + 1)))) d (uri i) _ _ := takesLock_own hdata
    have hs : (s, ()).1.rwlock ≠ some i := by
      rw [hfree]
      nofun
    refine (sat_unlocked_own hdata (lookupOrInitToken_own _ none) hs ⟨hflag, fun _ => hreq⟩).bind ?_
    rintro ⟨atoken, err⟩ x ⟨hs, hx⟩
    cases atoken with
    | none => exact hlock.sat_onDemandLoadkey hs hx err
    | some atoken =>
      refine (sat_unlocked_own hdata (readToken_own atoken) hs hx).bind ?_
      rintro token y ⟨hs, hy⟩
      split
      · exact Sat.pure fun _ _ => trivial
      · refine (sat_unlocked_own hdata (findobject_own _) hs hy).bind ?_
        rintro ⟨rv, isPresent⟩ z ⟨hs, hz⟩
        dsimp only
        split
        · exact Sat.pure fun _ _ => trivial
        · exact hlock.sat_onDemandLoadkey hs hz err

/-- The steps of the process are those of threads that nobody watches. -/
theorem reach_unwatched {β : Type} {p q : Pool Nat skcSig (World W) β}
    (h : Pool.Reach (appStep E) p q) :
    Pool.Reach (ownStep E) ⟨p.threads, (p.state, ())⟩ ⟨q.threads, (q.state, ())⟩ := by
  induction h with
  | refl => exact .refl
  | @tail r _ _ hn ih =>
    obtain @⟨i, c, k, a, s, hc, hs⟩ := hn
    exact ih.tail (.call (p := ⟨r.threads, (r.state, ())⟩) (s := (s, ())) hc ⟨⟨hs.1, rfl⟩, hs.2⟩)

/--
**Each call presents its own data.** Whatever the interleaving: a pin, a label, an id or a template that a
thread hands to the PKCS#11 module is that of the URI the thread was called with.
-/
theorem own_data {s : World W} (hflag : s.apimodule.preloadKeysFlag ≠ 0) (hfree : s.rwlock = none)
    (hreq : s.keyagent.NoRequests) {q : Pool Nat skcSig (World W) CkRv}
    (hr : Pool.Reach (appStep E) (loadThreads L (fuel + 1) uri s) q) {c : CkCall}
    {k : c.Ans → Skc CkRv} (hc : q.threads i = .call (.ck c) k)
    (hdata : callData L (uri i) = some d) : c.Presents d := by
  have hp : ∀ i, Sat (ownMutex.logic i (ownStep E) (OwnOf L uri))
      ((loadThreads L (fuel + 1) uri (s, ())).threads i) (fun _ _ => True) (s, ()) :=
    sat_onDemand_own hflag hfree hreq
  have hq := Pool.pre_of_sat (ownMutex.sat_reach hp (reach_unwatched hr) i) hc
  exact hq d c hdata rfl

end

/-- The next call is a login. -/
def logsIn (p : Skc CkRv) : Bool :=
  match p with
  | .call (.ck (.cLogin _ _ _)) _ => true
  | _ => false

theorem exists_of_logsIn {p : Skc CkRv} (h : logsIn p = true) :
    ∃ session userType pin k, p = .call (S := skcSig) (.ck (.cLogin session userType pin)) k := by
  unfold logsIn at h
  split at h
  · exact ⟨_, _, _, _, rfl⟩
  · exact absurd h Bool.false_ne_true

/-- One thread has created the token with its pin, the other one logs in with another. -/
theorem own_data_pin : ∃ (q : Pool Nat skcSig (World TokenStore) CkRv) (session : Nat)
    (userType : CkUser) (k : CkRv → Skc CkRv),
    Pool.Reach (appStep tokenStoreStep) (loadThreads pinLibrary 2 twoPins (tokenStoreWorld none)) q ∧
    q.state.rwlock = some 0 ∧ q.state.env.pin = some (lit "1234") ∧
    q.threads 1 = .call (S := skcSig) (.ck (.cLogin session userType (lit "9999"))) k := by
  obtain ⟨q, hq, hv⟩ := Option.map_eq_some_iff.mp (show
    (Pool.schedule (fun i => restricting (sysHandler tokenStoreHandler i) NoWrap)
      [(0, 30), (1, 11)] (loadThreads pinLibrary 2 twoPins (tokenStoreWorld none))).map
      (fun q => (q.state.rwlock, q.state.env.pin, logsIn (q.threads 1))) =
      some (some 0, some (lit "1234"), true)
    by decide +kernel)
  obtain ⟨hheld, hv⟩ := Prod.mk.inj hv
  obtain ⟨hpin, hlogin⟩ := Prod.mk.inj hv
  have hr : Pool.Reach (appStep tokenStoreStep) _ q :=
    Pool.schedule_reach (fun _ => restricting_step sysHandler_answers) hq
  obtain ⟨session, userType, pin, k, hk⟩ := exists_of_logsIn hlogin
  have hdata : (callData pinLibrary (twoPins 1)).map (·.pin) = some (lit "9999") := by
    decide +kernel
  obtain ⟨d, hd, hdpin⟩ := Option.map_eq_some_iff.mp hdata
  have hown : pin = d.pin := own_data (by decide) rfl (noRequests_tokenStoreWorld _) hr hk hd
  refine ⟨q, session, userType, k, hr, hheld, hpin, ?_⟩
  rw [hk, hown, hdpin]

end SkcLibrary
