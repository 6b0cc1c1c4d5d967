import SkcLibrary.Apimodule.Maintain
import SkcLibrary.Apimodule.TokenObjects
import SkcLibrary.Apimodule.TokenSessions

/-!
# Initialisation inside initialisation

The module puts its own `C_Initialize` into the function list that it uses itself. A key that is loaded
can need a token, and when a token has been created the module is initialised again; and `C_Initialize`
loads keys. All of this happens under a lock that must not be taken twice.

What ends it is the counter: it is raised before the first key is loaded, and no token can be created
before the wrapped module has been initialised, which is when the counter is raised.

* `nesting_bounded` — one nested `C_Initialize`, one preloading, no second lock
-/

namespace SkcLibrary

open Interaction

variable {W : Type}

/-! ## What is seen of a process -/

/-- The return code of a PKCS#11 function. -/
def CkCall.rv : (c : CkCall) → c.Ans → CkRv
  | .cGetSlotListCount, a => a.1
  | .cGetSlotList _, a => a.1
  | .cGetTokenInfo _, a => a.1
  | .cOpenSession _, a => a.1
  | .cFindObjects _, a => a.1
  | .cGenerateKeyPair _ _ _, a => a.1
  | .cWrapKeySize _ _ _ _, a => a.1
  | .cWrapKey _ _ _ _ _, a => a.1
  | .cUnwrapKey _ _ _ _ _, a => a.1
  | .cInitialize, rv => rv
  | .cFinalize, rv => rv
  | .cInitToken _ _ _, rv => rv
  | .cCloseSession _, rv => rv
  | .cLogin _ _ _, rv => rv
  | .cLogout _, rv => rv
  | .cInitPin _ _, rv => rv
  | .cFindObjectsInit _ _ _, rv => rv
  | .cFindObjectsFinal _, rv => rv
  | .cGetAttributeValue _ _, rv => rv

/-- What is seen of the initialisation of a process. -/
@[ext] structure Nesting where
  /-- The wrapped `C_Initialize` has succeeded. -/
  working : Bool
  /-- How often `C_Initialize` has been called. -/
  inits : Nat
  /-- How often the counter has been raised. -/
  adds : Nat
  /-- How often the counter was 0 then: `apimodule_preload_keys` is entered. -/
  preloads : Nat

/-- One more call of the library. -/
def Nesting.note (c : Call) (_ : World W) : c.Ans → Nesting → Nesting :=
  match c with
  | .ck .cInitialize => fun rv g => { g with working := g.working || rv = ckrOk, inits := g.inits + 1 }
  | .atomicIntAdd => fun a g =>
    { g with adds := g.adds + 1, preloads := if a = 0 then g.preloads + 1 else g.preloads }
  | _ => fun _ g => g

/-- Before the first call. -/
def Nesting.start : Nesting := ⟨false, 0, 0, 0⟩

/--
The functions of the PKCS#11 module fail until the wrapped `C_Initialize` has succeeded; and `C_Initialize`
is called fewer than 2 ^ 32 times.
-/
def FailsBefore (c : Call) (x : World W × Nesting) : c.Ans → Prop :=
  match c with
  | .ck .cInitialize => fun _ => x.2.inits + 1 < 2 ^ 32
  | .ck d => fun a => x.2.working = false → d.rv a ≠ ckrOk
  | _ => fun _ => True

/-- The surroundings with such a module. -/
def nestStep (E : Step skcSig W) : Step skcSig (World W × Nesting) :=
  ((sysStep E 0).observed Nesting.note).restrict FailsBefore

/-- The functions that an application calls. -/
inductive EntryPoint where
  | cInitialize
  | cFinalize
  | onDemand (uri : Bytes)

/-- What they do: one `C_Initialize` inside another is followed, and no more. -/
def EntryPoint.prog (L : Library) : EntryPoint → Skc CkRv
  | .cInitialize => SkcLibrary.cInitialize L 2
  | .cFinalize => SkcLibrary.cFinalize
  | .onDemand uri => SkcLibrary.onDemand L 1 uri

/-- The states between the calls of an application. -/
abbrev NestReach (E : Step skcSig W) (L : Library) :=
  Serial (nestStep E) (EntryPoint.prog L) fun _ _ => True

/-- `C_Initialize` is not nested deeper, the lock is free when it is taken, and no keys are preloaded
twice. -/
def NestPre (c : Call) (x : World W × Nesting) : Prop :=
  c ≠ .outOfFuel ∧ (c = .rwLockWriterLock → x.1.rwlock = none) ∧ x.2.preloads ≤ 1

/-! ## What holds -/

/-- The counter. -/
structure Counted (x : World W × Nesting) : Prop where
  flag : x.1.apimodule.preloadKeysFlag.toNat = x.2.adds % 2 ^ 32
  adds : x.2.adds ≤ x.2.inits
  inits : x.2.inits < 2 ^ 32
  preloads : x.2.preloads = min x.2.adds 1

/-- And it has been raised if the module works. -/
structure Raised (x : World W × Nesting) : Prop extends Counted x where
  working : x.2.working = true → 0 < x.2.adds

/-- With the lock free, or held. -/
structure RaisedWith (rwlock : Option Nat) (x : World W × Nesting) : Prop extends Raised x where
  rwlock : x.1.rwlock = rwlock

/-- The module works. -/
def Working (x : World W × Nesting) : Prop := x.2.working = true

/-- The calls that concern neither the counter nor the lock. -/
def OrdinaryCall : Call → Prop
  | .ck .cInitialize => False
  | .atomicIntAdd => False
  | .rwLockWriterLock => False
  | .rwLockWriterUnlock => False
  | .stm _ => False
  | .outOfFuel => False
  | _ => True

theorem PlainCall.ordinary (c : Call) (h : PlainCall c) : OrdinaryCall c := by
  cases c with
  | ck d => cases d <;> first | exact trivial | exact h.elim
  | _ => first | exact trivial | exact h.elim

theorem CreateCall.ordinary (c : Call) (h : CreateCall c) : OrdinaryCall c := by
  cases c with
  | ck d => cases d <;> first | exact trivial | exact h.elim
  | _ => exact h.elim

section

variable {E : Step skcSig W} {x y : World W × Nesting} {rwlock : Option Nat}

/-- The setting of the functions below. -/
abbrev nestLogic (E : Step skcSig W) : Logic skcSig (World W × Nesting) := .seq (nestStep E) NestPre

theorem Counted.preloads_le (h : Counted x) : x.2.preloads ≤ 1 := by
  rw [h.preloads]
  exact Nat.min_le_right _ _

/-- Of the api module's variables only the counter's own call changes the counter. -/
theorem sysStep_flag {i : Nat} {c : Call} {s t : World W} {a : c.Ans} (hs : sysStep E i c s a t)
    (hadd : c ≠ .atomicIntAdd) (hstm : ∀ d, c ≠ .stm d) :
    t.apimodule.preloadKeysFlag = s.apimodule.preloadKeysFlag := by
  by_cases hc : c.WritesTokens
  · cases c with
    | writeToken atoken f =>
      rw [show t = _ from hs]
      rfl
    | cacheToken token =>
      rw [hs.2]
      rfl
    | atomicIntAdd => exact absurd rfl hadd
    | stm d => exact absurd rfl (hstm d)
    | _ => exact hc.elim
  · rw [sysStep_apimodule hs hc]

/-- An ordinary call changes nothing of this. -/
theorem nestStep_ordinary {c : Call} {a : c.Ans} (hc : OrdinaryCall c) (h : nestStep E c x a y) :
    y.1.apimodule.preloadKeysFlag = x.1.apimodule.preloadKeysFlag ∧ y.1.rwlock = x.1.rwlock ∧
      y.2 = x.2 := by
  obtain ⟨⟨hs, hnote⟩, -⟩ := h
  refine ⟨sysStep_flag hs ?_ ?_, sysStep_rwlock hs ?_ ?_, hnote.trans ?_⟩
  · rintro rfl
    exact hc
  · rintro d rfl
    exact hc
  · rintro rfl
    exact hc
  · rintro rfl
    exact hc
  · cases c with
    | ck d => cases d <;> first | rfl | exact hc.elim
    | atomicIntAdd => exact hc.elim
    | _ => rfl

theorem RaisedWith.of_eq (h : RaisedWith rwlock x)
    (hflag : y.1.apimodule.preloadKeysFlag = x.1.apimodule.preloadKeysFlag)
    (hlock : y.1.rwlock = x.1.rwlock) (hnest : y.2 = x.2) : RaisedWith rwlock y := by
  refine ⟨⟨⟨?_, ?_, ?_, ?_⟩, ?_⟩, hlock.trans h.rwlock⟩
  · rw [hflag, hnest]
    exact h.flag
  · rw [hnest]
    exact h.adds
  · rw [hnest]
    exact h.inits
  · rw [hnest]
    exact h.preloads
  · rw [hnest]
    exact h.working

/-- The ordinary calls keep what holds, and a module that works goes on working. -/
theorem ordinary_triple {c : Call} (hc : OrdinaryCall c) (W' : Prop) :
    (nestLogic E).Triple (fun x => RaisedWith rwlock x ∧ (W' → Working x)) c fun _ x =>
      RaisedWith rwlock x ∧ (W' → Working x) := by
  rintro x ⟨hx, hworking⟩
  refine ⟨⟨?_, ?_, hx.preloads_le⟩, fun a y hy => ⟨trivial, ?_⟩⟩
  · rintro rfl
    exact hc
  · rintro rfl
    exact hc.elim
  · obtain ⟨hflag, hlock, hnest⟩ := nestStep_ordinary hc hy
    refine ⟨hx.of_eq hflag hlock hnest, fun hw => ?_⟩
    rw [Working, hnest]
    exact hworking hw

theorem keptByCalls_raised : KeptByCalls (nestLogic E) (RaisedWith rwlock) where
  stable := stable_seq
  call _ hc := (ordinary_triple hc.ordinary False).conseq (fun _ hx => ⟨hx, False.elim⟩)
    fun _ _ hx => hx.1

theorem keptByCalls_working :
    KeptByCalls (nestLogic E) fun x => RaisedWith rwlock x ∧ Working x where
  stable := stable_seq
  call _ hc := (ordinary_triple hc.ordinary True).conseq (fun _ hx => ⟨hx.1, fun _ => hx.2⟩)
    fun _ _ hx => ⟨hx.1, hx.2 trivial⟩

/-- A token can only be created by a module that works. -/
theorem sat_createtoken_working (uriData : ApimoduleUriData) (hx : RaisedWith rwlock x) :
    Sat (nestLogic E) (apimoduleCreatetoken uriData)
      (fun r y => RaisedWith rwlock y ∧ (r.1 = ckrOk → Working y)) x := by
  have hissues := createtoken_issues uriData
  rw [apimoduleCreatetoken] at hissues ⊢
  obtain ⟨-, hrest⟩ := Skc.issues_ck_bind.mp hissues
  rw [Skc.ck_bind]
  refine sat_seq_call.mpr ⟨⟨nofun, nofun, hx.preloads_le⟩, fun a y hy => ?_⟩
  obtain ⟨hflag, hlock, hnest⟩ := nestStep_ordinary (c := .ck .cGetSlotListCount) trivial hy
  have hy' : RaisedWith rwlock y := hx.of_eq hflag hlock hnest
  have hfails : x.2.working = false → a.1 ≠ ckrOk := hy.2
  have hrest := hrest a
  obtain ⟨rv, nslots⟩ := a
  -- C_GetSlotList fails in a library that is not initialised
  by_cases hrv : rv = ckrOk
  · have hworking : Working y := by
      rw [Working, hnest]
      cases hw : x.2.working with
      | true => rfl
      | false => exact absurd hrv (hfails hw)
    refine (Sat.of_issues hrest stable_seq (J := fun z => RaisedWith rwlock z ∧ (True → Working z))
      (fun c hc => ordinary_triple hc.ordinary True) ⟨hy', fun _ => hworking⟩).mono ?_
    exact fun r z hz => ⟨hz.1, fun _ => hz.2 trivial⟩
  · dsimp only
    rw [if_pos (Or.inl hrv)]
    exact sat_seq_pure.mpr ⟨hy', fun h => absurd h hrv⟩

/-- The wrapped `C_Initialize` is called. -/
theorem Raised.initialized (h : Raised x) (hx : x.2.inits + 1 < 2 ^ 32) {rv : CkRv}
    (hflag : y.1.apimodule.preloadKeysFlag = x.1.apimodule.preloadKeysFlag)
    (hnote : y.2 = Nesting.note (.ck .cInitialize) x.1 rv x.2) : Counted y ∧ y.2.adds < y.2.inits := by
  rw [Nesting.note] at hnote
  have hadds := h.adds
  refine ⟨⟨?_, ?_, ?_, ?_⟩, ?_⟩ <;> rw [hnote]
  · rw [hflag]
    exact h.flag
  · exact Nat.le_succ_of_le hadds
  · exact hx
  · exact h.preloads
  · exact Nat.lt_succ_of_le hadds

/-- And the counter is raised. -/
theorem Counted.raised (h : Counted x) (hx : x.2.adds < x.2.inits)
    (hflag : y.1.apimodule = x.1.apimodule.addFlag)
    (hnote : y.2 = Nesting.note .atomicIntAdd x.1 x.1.apimodule.preloadKeysFlag x.2) :
    Raised y ∧ (x.1.apimodule.preloadKeysFlag = 0 → x.2.adds = 0) := by
  rw [Nesting.note] at hnote
  have hinits := h.inits
  -- fewer adds than initialisations, so the counter has not wrapped
  have hcount : x.1.apimodule.preloadKeysFlag.toNat = x.2.adds := by
    rw [h.flag, Nat.mod_eq_of_lt (by omega)]
  have hzero : x.1.apimodule.preloadKeysFlag = 0 ↔ x.2.adds = 0 := by
    rw [← hcount, ← UInt32.toNat_inj]
    rfl
  refine ⟨⟨⟨?_, ?_, ?_, ?_⟩, ?_⟩, hzero.mp⟩ <;> rw [hnote]
  · rw [hflag, Apimodule.addFlag, UInt32.toNat_add, hcount]
    rfl
  · exact hx
  · exact hinits
  · have hpreloads := h.preloads
    show (if x.1.apimodule.preloadKeysFlag = 0 then x.2.preloads + 1 else x.2.preloads) =
      min (x.2.adds + 1) 1
    split
    · next hflag =>
      rw [hpreloads, hzero.mp hflag]
      rfl
    · next hflag =>
      have hadds : x.2.adds ≠ 0 := fun h => hflag (hzero.mpr h)
      omega
  · exact fun _ => Nat.succ_pos _

/-- `C_Initialize`; the keys are loaded only if the counter has never been raised. -/
theorem sat_cInitializeWith {preLoadKeyfile : Bytes} {load : Bytes → Skc CkRv}
    (hx : RaisedWith rwlock x)
    (hload : x.2.adds = 0 → ∀ uri, Maintains (nestLogic E) (RaisedWith rwlock) (load uri)) :
    Sat (nestLogic E) (cInitializeWith preLoadKeyfile load) (fun _ y => RaisedWith rwlock y) x := by
  rw [cInitializeWith, Skc.ck_bind]
  refine sat_seq_call.mpr ⟨⟨nofun, nofun, hx.preloads_le⟩, fun rv y hy => ?_⟩
  obtain ⟨⟨hs, hnote⟩, hinits⟩ := hy
  have hlock : y.1.rwlock = rwlock := (sysStep_rwlock hs nofun nofun).trans hx.rwlock
  obtain ⟨hy, hadds⟩ := hx.toRaised.initialized hinits (sysStep_flag hs nofun nofun) hnote
  have hsame : y.2.adds = x.2.adds := by
    rw [hnote]
    rfl
  split
  · rw [Prog.lift_bind]
    refine sat_seq_call.mpr ⟨⟨nofun, nofun, hy.preloads_le⟩, fun flag z hz => ?_⟩
    obtain ⟨⟨⟨rfl, hz⟩, hnote⟩, -⟩ := hz
    obtain ⟨hraised, hzero⟩ := hy.raised hadds (congrArg World.apimodule hz) hnote
    have hz : RaisedWith rwlock z := ⟨hraised, (congrArg World.rwlock hz).trans hlock⟩
    split
    · next hflag =>
      -- the flag was zero: no other call has raised it, and this one preloads
      have hload := hload (hsame.symm.trans (hzero hflag))
      refine (keptByCalls_raised.preloadKeys hload preLoadKeyfile z hz).bind ?_
      rintro ⟨loaded, error⟩ u hu
      dsimp only
      split
      · exact sat_seq_pure.mpr hu
      · exact (keptByCalls_raised.deref error _ u hu).bind fun _ v hv => sat_seq_pure.mpr hv
    · exact sat_seq_pure.mpr hz
  · next hrv =>
    refine sat_seq_pure.mpr ⟨⟨hy, fun hworking => ?_⟩, hlock⟩
    have hrv : ¬rv = ckrOk := (not_or.mp hrv).1
    rw [hsame]
    refine hx.working ?_
    rw [hnote] at hworking
    simpa [Nesting.note, hrv] using hworking

/-- The `C_Initialize` inside a load preloads nothing. -/
theorem createsTokens_nested (L : Library) :
    CreatesTokens (nestLogic E) (RaisedWith rwlock) Working (cInitialize L 1) where
  calls := keptByCalls_raised
  ready := keptByCalls_working
  createtoken uriData _ hx := sat_createtoken_working uriData hx
  cInitialize x hx hworking := sat_cInitializeWith hx fun hadds => by
    have hpos := hx.working hworking
    omega

/-- The lock is free when it is taken. -/
theorem lock_triple : (nestLogic E).Triple (RaisedWith none) .rwLockWriterLock fun _ =>
    RaisedWith (some 0) := by
  refine fun x hx => ⟨⟨nofun, fun _ => hx.rwlock, hx.preloads_le⟩, fun _ y hy => ⟨trivial, ?_⟩⟩
  obtain ⟨⟨⟨-, hs⟩, hnote⟩, -⟩ := hy
  have h : RaisedWith none ({ y.1 with rwlock := none }, y.2) :=
    hx.of_eq (by rw [hs]) hx.rwlock.symm hnote
  exact ⟨⟨⟨h.flag, h.adds, h.inits, h.preloads⟩, h.working⟩, by rw [hs]⟩

theorem unlock_triple : (nestLogic E).Triple (RaisedWith (some 0)) .rwLockWriterUnlock fun _ =>
    RaisedWith none := by
  refine fun x hx => ⟨⟨nofun, nofun, hx.preloads_le⟩, fun _ y hy => ⟨trivial, ?_⟩⟩
  obtain ⟨⟨hs, hnote⟩, -⟩ := hy
  have hs : y.1 = { x.1 with rwlock := none } := hs
  have h : RaisedWith (some 0) ({ y.1 with rwlock := some 0 }, y.2) :=
    hx.of_eq (by rw [hs]) hx.rwlock.symm hnote
  exact ⟨⟨⟨h.flag, h.adds, h.inits, h.preloads⟩, h.working⟩, by rw [hs]⟩

/-- **Every function an application can call.** -/
theorem maintains_entryPoint (L : Library) (i : EntryPoint) :
    Maintains (nestLogic E) (RaisedWith none) (i.prog L) := by
  have hload : ∀ uri, Maintains (nestLogic E) (RaisedWith none) (onDemand L 1 uri) :=
    maintains_onDemand keptByCalls_raised (createsTokens_nested L) lock_triple unlock_triple L
  cases i with
  | cInitialize => exact fun x hx => sat_cInitializeWith hx fun _ => hload
  | cFinalize => exact keptByCalls_raised.ck trivial
  | onDemand uri => exact hload uri

/--
**Initialisation inside initialisation.** Whatever an application calls: every run of it ends, and on the
way no `C_Initialize` is nested in one that is nested itself, keys are preloaded once at most, and the lock
is free when it is taken.
-/
theorem nesting_bounded {L : Library} {s : World W} (hflag : s.apimodule.preloadKeysFlag = 0)
    (hlock : s.rwlock = none) (hx : NestReach E L (s, .start) x) (i : EntryPoint) :
    Acc (Prog.Next (nestStep E)) (i.prog L, x) ∧ ∀ q y, Exec (nestStep E) (i.prog L) x q y →
      y.2.preloads ≤ 1 ∧ ∀ c k, q = .call c k → c ≠ .outOfFuel ∧
        (c = .rwLockWriterLock → y.1.rwlock = none) := by
  have hstart : RaisedWith none (s, Nesting.start) := by
    refine ⟨⟨⟨?_, Nat.le_refl 0, Nat.two_pow_pos 32, rfl⟩, nofun⟩, hlock⟩
    show s.apimodule.preloadKeysFlag.toNat = 0
    rw [hflag]
    rfl
  have hraised : RaisedWith none x := hx.invariant
    (fun hu _ hrun => (maintains_entryPoint L _ _ hu).runs hrun) hstart
  refine ⟨Prog.acc_next _ _ _, fun q y hexec => ?_⟩
  have hsat := (maintains_entryPoint L i x hraised).exec hexec
  cases q with
  | ret rv => exact ⟨(sat_seq_pure.mp hsat).preloads_le, nofun⟩
  | call c k =>
    obtain ⟨hfuel, hfree, hpreloads⟩ := (sat_seq_call.mp hsat).1
    refine ⟨hpreloads, fun c' k' hq => ?_⟩
    cases hq
    exact ⟨hfuel, hfree⟩

end

/-! ## A key whose token has to be created -/

instance (c : Call) (x : World W × Nesting) (a : c.Ans) : Decidable (FailsBefore c x a) := by
  casesm* Call, CkCall
  case ck.cInitialize => exact inferInstanceAs (Decidable (x.2.inits + 1 < 2 ^ 32))
  all_goals first
    | exact isTrue trivial
    | exact inferInstanceAs (Decidable (x.2.working = false → _ ≠ ckrOk))

theorem preloadStoreHandler_step (c : skcSig.Op) (x : World TokenStore × Nesting) (a : skcSig.Ans c)
    (y : World TokenStore × Nesting)
    (h : restricting (S := skcSig) (observing (sysHandler preloadStoreHandler 0) Nesting.note)
      FailsBefore c x = some (a, y)) : nestStep preloadStoreStep c x a y :=
  restricting_step (observing_step sysHandler_answers) c x a y h

/-- The token is created while keys are preloaded; after that nothing is preloaded any more. -/
theorem nesting_bounded_preload : ∃ x : World TokenStore × Nesting,
    NestReach preloadStoreStep preloadLibrary (preloadStoreWorld, .start) x ∧
    x.2 = ⟨true, 2, 2, 1⟩ ∧
    Acc (Prog.Next (nestStep preloadStoreStep)) (EntryPoint.cInitialize.prog preloadLibrary, x) ∧
    ∀ q y, Exec (nestStep preloadStoreStep) (EntryPoint.cInitialize.prog preloadLibrary) x q y →
      y.2.preloads ≤ 1 := by
  obtain ⟨r, hr, hv⟩ := Option.map_eq_some_iff.mp (show
    ((EntryPoint.cInitialize.prog preloadLibrary).run
      (restricting (observing (sysHandler preloadStoreHandler 0) Nesting.note) FailsBefore)
      (preloadStoreWorld, .start)).map
      (fun r => (r.2.2.working, r.2.2.inits, r.2.2.adds, r.2.2.preloads)) = some (true, 2, 2, 1)
    by decide +kernel)
  have hreach : NestReach preloadStoreStep preloadLibrary (preloadStoreWorld, .start) r.2 :=
    Serial.run (i := EntryPoint.cInitialize) .refl trivial (Prog.run_runs preloadStoreHandler_step hr)
  obtain ⟨hends, hbounded⟩ := nesting_bounded rfl rfl hreach .cInitialize
  refine ⟨r.2, hreach, ?_, hends, fun q y hexec => (hbounded q y hexec).1⟩
  obtain ⟨hworking, hv⟩ := Prod.mk.inj hv
  obtain ⟨hinits, hv⟩ := Prod.mk.inj hv
  obtain ⟨hadds, hpreloads⟩ := Prod.mk.inj hv
  exact Nesting.ext hworking hinits hadds hpreloads

end SkcLibrary
