import SkcLibrary.Apimodule.TokenSearch

/-!
# The search for an object

`apimodule_findobject` on sessions that outlive the call. A search that `C_FindObjectsInit` has opened is
active until `C_FindObjectsFinal` succeeds, and while it is no other can be opened on the session.

The function leaves when `C_FindObjects` fails, before it gets to `C_FindObjectsFinal`. The search stays
active, and from then on `C_FindObjectsInit` fails in every call.

* `searches_released` — the calls that leave no search behind
-/

namespace SkcLibrary

open Interaction

variable {W : Type}

/-! ## Searches -/

/-- `CKR_OPERATION_ACTIVE` -/
def ckrOperationActive : CkRv := 0x90

/-- What is seen of the searches on a PKCS#11 module. -/
structure ObjectSearches where
  /-- The sessions with an active search. -/
  active : Nat → Bool
  /-- `C_FindObjects` has failed since the last `C_FindObjectsInit`. -/
  findFailed : Bool
  /-- `C_FindObjectsFinal` has failed since the last `C_FindObjectsInit`. -/
  finalFailed : Bool
  /-- The sessions whose last `C_FindObjectsFinal` has failed. -/
  unfinished : Nat → Bool

/-- One more call of the library. -/
def ObjectSearches.note (c : Call) (_ : World W) : c.Ans → ObjectSearches → ObjectSearches :=
  match c with
  | .ck (.cFindObjectsInit session _ _) => fun rv g =>
    { g with
      active := if rv = ckrOk then Function.update g.active session true else g.active
      findFailed := false
      finalFailed := false }
  | .ck (.cFindObjects _) => fun a g => { g with findFailed := a.1 ≠ ckrOk }
  | .ck (.cFindObjectsFinal session) => fun rv g =>
    if rv = ckrOk then
      { g with
        active := Function.update g.active session false
        unfinished := Function.update g.unfinished session false }
    else { g with finalFailed := true, unfinished := Function.update g.unfinished session true }
  | _ => fun _ g => g

/-- No search has been opened. -/
def ObjectSearches.start : ObjectSearches := ⟨fun _ => false, false, false, fun _ => false⟩

/-- No second search is opened on a session. -/
def OneSearch (c : Call) (x : World W × ObjectSearches) : c.Ans → Prop :=
  match c with
  | .ck (.cFindObjectsInit session _ _) => fun rv => x.2.active session = true → rv ≠ ckrOk
  | _ => fun _ => True

/-- The surroundings of a PKCS#11 module that keeps to this. -/
def searchStep (E : Step skcSig W) : Step skcSig (World W × ObjectSearches) :=
  ((sysStep E 0).observed ObjectSearches.note).restrict OneSearch

/-- `C_FindObjects` does not fail. -/
def FindsObjects (c : Call) (_ : World W × ObjectSearches) : c.Ans → Prop :=
  match c with
  | .ck (.cFindObjects _) => fun a => a.1 = ckrOk
  | _ => fun _ => True

/-- A look-up on a session. -/
def lookUp (i : Nat × ApimoduleUriData) : Skc (CkRv × Bool) := apimoduleFindobject i.1 i.2

/-- The states between look-ups, one after the other and on any sessions. -/
abbrev LookupReach (E : Step skcSig W) :=
  Serial (searchStep E) lookUp fun _ _ => True

/-- No search has been left on the session. -/
def NoneLeft (session : Nat) (x : World W × ObjectSearches) : Prop := x.2.active session = false

/-- The states between look-ups in which `C_FindObjects` does not fail. -/
abbrev CleanReach (E : Step skcSig W) :=
  Serial ((searchStep E).restrict FindsObjects) lookUp fun _ _ => True

/-- The call that led here leaves no search behind, unless `C_FindObjectsFinal` has failed in it. -/
def Released (session : Nat) (y : World W × ObjectSearches) : Prop :=
  y.2.finalFailed = false → NoneLeft session y

/-- Where `C_FindObjectsFinal` has not failed, no search was left from earlier and `C_FindObjects` has not
failed either. -/
def Completes (session : Nat) (x y : World W × ObjectSearches) : Prop :=
  y.2.finalFailed = false → NoneLeft session x ∧ y.2.findFailed = false

/-! ## One look-up -/

/-- What a look-up does to the searches. -/
inductive LookedUp (session : Nat) (g : ObjectSearches) : ObjectSearches → Prop where
  | refused : LookedUp session g { g with findFailed := false, finalFailed := false }
  | failed : g.active session = false → LookedUp session g
      { g with
        active := Function.update g.active session true
        findFailed := true
        finalFailed := false }
  | unfinished : g.active session = false → LookedUp session g
      { active := Function.update g.active session true
        findFailed := false
        finalFailed := true
        unfinished := Function.update g.unfinished session true }
  | finished : g.active session = false → LookedUp session g
      { active := Function.update g.active session false
        findFailed := false
        finalFailed := false
        unfinished := Function.update g.unfinished session false }

section

variable {E : Step skcSig W} {x y : World W × ObjectSearches} {session : Nat}

theorem sat_findobject_lookedUp (session : Nat) (data : ApimoduleUriData) :
    Sat (.seq (searchStep E) fun _ _ => True) (apimoduleFindobject session data)
      (fun _ y => LookedUp session x.2 y.2) x := by
  rw [apimoduleFindobject, Skc.ck_bind]
  refine sat_seq_call.mpr ⟨trivial, fun rv y hy => ?_⟩
  obtain ⟨⟨-, hnote⟩, hone⟩ := hy
  have hone : x.2.active session = true → rv ≠ ckrOk := hone
  by_cases hrv : rv = ckrOk
  · have hfree : x.2.active session = false := by
      cases hactive : x.2.active session with
      | false => rfl
      | true => exact absurd hrv (hone hactive)
    have hnote : y.2 = { x.2 with
        active := Function.update x.2.active session true
        findFailed := false
        finalFailed := false } := by
      simpa only [ObjectSearches.note, if_pos hrv] using hnote
    rw [if_neg (not_not.mpr hrv), Skc.ck_bind]
    refine sat_seq_call.mpr ⟨trivial, fun a z hz => ?_⟩
    obtain ⟨rv', objects⟩ := a
    have hnotez : z.2 = { y.2 with findFailed := rv' ≠ ckrOk } := hz.1.2
    rw [hnote] at hnotez
    dsimp only
    by_cases hfind : rv' = ckrOk
    · rw [if_neg (not_not.mpr hfind), Skc.ck_bind]
      refine sat_seq_call.mpr ⟨trivial, fun rv'' u hu => ?_⟩
      have hdone : LookedUp session x.2 u.2 := by
        rw [show u.2 = _ from hu.1.2, ObjectSearches.note, hnotez]
        by_cases hfinal : rv'' = ckrOk
        · simpa [hfinal, hfind] using LookedUp.finished hfree
        · simpa [hfinal, hfind] using LookedUp.unfinished hfree
      split
      · exact sat_seq_pure.mpr hdone
      · split
        · exact sat_seq_pure.mpr hdone
        -- the attribute that is read does not matter to the searches
        · refine sat_seq_call.mpr ⟨trivial, fun _ v hv => sat_seq_pure.mpr ?_⟩
          exact (show v.2 = u.2 from hv.1.2) ▸ hdone
    · rw [if_pos hfind]
      refine sat_seq_pure.mpr ?_
      rw [hnotez]
      simpa [hfind] using LookedUp.failed hfree
  · rw [if_pos hrv]
    refine sat_seq_pure.mpr ?_
    rw [show y.2 = _ from hnote]
    simpa only [ObjectSearches.note, if_neg hrv] using LookedUp.refused

theorem LookedUp.released_iff (h : LookedUp session x.2 y.2) :
    Released session y ↔ Completes session x y := by
  obtain ⟨s, g⟩ := x
  obtain ⟨t, g'⟩ := y
  change LookedUp session g g' at h
  unfold Released Completes NoneLeft
  cases h with
  | refused => simp
  | failed hfree => simp
  | unfinished hfree => simp
  | finished hfree => simp [hfree]

/-- In order: `C_FindObjects` has not failed, and the searches that are active could not be finished. -/
structure SearchesInv (x : World W × ObjectSearches) : Prop where
  findFailed : x.2.findFailed = false
  unfinished : ∀ session, x.2.active session = true → x.2.unfinished session = true

/-- A look-up in which `C_FindObjects` does not fail. -/
theorem LookedUp.inv (h : LookedUp session x.2 y.2) (hx : SearchesInv x)
    (hfind : y.2.findFailed = false) : SearchesInv y := by
  refine ⟨hfind, fun session' hactive => ?_⟩
  have hinv := hx.unfinished session'
  obtain ⟨s, g⟩ := x
  obtain ⟨t, g'⟩ := y
  change LookedUp session g g' at h
  by_cases hsame : session' = session
  · subst hsame
    cases h with
    | refused => exact hinv hactive
    | failed => exact absurd hfind (by simp)
    | unfinished => simp
    | finished => exact absurd hactive (by simp)
  · cases h with
    | refused => exact hinv hactive
    | failed => exact absurd hfind (by simp)
    | unfinished =>
      simp only [Function.update_of_ne hsame] at hactive ⊢
      exact hinv hactive
    | finished =>
      simp only [Function.update_of_ne hsame] at hactive ⊢
      exact hinv hactive

/-- Where `C_FindObjects` does not fail, no look-up says that it did. -/
theorem sat_findobject_findFailed (session : Nat) (data : ApimoduleUriData)
    (hx : x.2.findFailed = false) :
    Sat (.seq ((searchStep E).restrict FindsObjects) fun _ _ => True)
      (apimoduleFindobject session data) (fun _ y => y.2.findFailed = false) x := by
  refine Sat.of_issues (apimoduleFindobject_issues session data) stable_seq (fun c hc u hu => ?_) hx
  refine ⟨trivial, fun a v hv => ⟨trivial, ?_⟩⟩
  obtain ⟨⟨⟨-, hnote⟩, -⟩, hfinds⟩ := hv
  have hnote : v.2 = ObjectSearches.note c u.1 a u.2 := hnote
  show v.2.findFailed = false
  rw [hnote]
  cases c with
  | ck d =>
    cases d with
    | cFindObjectsInit session label id => rfl
    | cFindObjects session =>
      have hok : a.1 = ckrOk := hfinds
      simp [ObjectSearches.note, hok]
    | cFindObjectsFinal session =>
      simp only [ObjectSearches.note]
      split <;> exact hu
    | cGetAttributeValue session object => exact hu
    | _ => exact hc.elim
  | _ => exact hc.elim

theorem lookUp_inv {i : Nat × ApimoduleUriData} {result : CkRv × Bool} (hx : SearchesInv x)
    (hrun : Runs ((searchStep E).restrict FindsObjects) (lookUp i) x result y) : SearchesInv y :=
  ((sat_findobject_lookedUp i.1 i.2).runs (hrun.mono fun _ _ _ _ h => h.1)).inv hx
    ((sat_findobject_findFailed i.1 i.2 hx.findFailed).runs hrun)

/-- **Between look-ups in which `C_FindObjects` does not fail**, searches are left only where they could
not be finished. -/
theorem CleanReach.inv {s : World W} (hx : CleanReach E (s, .start) x) : SearchesInv x := by
  refine Serial.invariant hx (fun hu _ hr => lookUp_inv hu hr) ?_
  exact ⟨rfl, nofun⟩

/--
**Look-ups.** As long as `C_FindObjects` does not fail: on a session whose last `C_FindObjectsFinal` has not
failed a look-up finds no search left, and it leaves none. And of all look-ups, from any state, just
those that find none and in which `C_FindObjects` does not fail leave none.
-/
theorem searches_released (E : Step skcSig W) (s : World W) :
    (∀ x i result y, CleanReach E (s, .start) x → x.2.unfinished i.1 = false →
      Runs ((searchStep E).restrict FindsObjects) (lookUp i) x result y →
      NoneLeft i.1 x ∧ Released i.1 y) ∧
    ∀ x i result y, Runs (searchStep E) (lookUp i) x result y →
      (Released i.1 y ↔ Completes i.1 x y) := by
  constructor
  · intro x i result y hx hdone hrun
    have hinv := hx.inv
    have hnone : NoneLeft i.1 x := by
      by_contra hleft
      have hactive : x.2.active i.1 = true := by simpa [NoneLeft] using hleft
      exact absurd ((hinv.unfinished i.1 hactive).symm.trans hdone) (by decide)
    have hlooked := (sat_findobject_lookedUp i.1 i.2).runs (hrun.mono fun _ _ _ _ h => h.1)
    exact ⟨hnone, hlooked.released_iff.mpr fun _ => ⟨hnone, (lookUp_inv hinv hrun).findFailed⟩⟩
  · intro x i result y hrun
    exact ((sat_findobject_lookedUp i.1 i.2).runs hrun).released_iff

end

/-! ## Look-ups that fail -/

/-- A module in which `C_FindObjects` answers `rv`, which opens one search at a time on a session, and
which cannot finish those of session 3. -/
def objectModuleHandler (rv : CkRv) (c : Call) (active : List Nat) : Option (c.Ans × List Nat) :=
  match c with
  | .ck (.cFindObjectsInit session _ _) =>
    some (if active.any (· = session) then (ckrOperationActive, active)
      else (ckrOk, session :: active))
  | .ck (.cFindObjects _) => some ((rv, [4]), active)
  | .ck (.cFindObjectsFinal session) =>
    some (if session = 3 then (ckrGeneralError, active) else (ckrOk, active.filter (· ≠ session)))
  | .ck (.cGetAttributeValue _ _) => some (ckrOk, active)
  | _ => none

/-- The surroundings with that module. -/
def objectModuleStep (rv : CkRv) : Step skcSig (List Nat) := fun c w a w' =>
  objectModuleHandler rv c w = some (a, w')

instance (c : Call) (x : World W × ObjectSearches) (a : c.Ans) : Decidable (OneSearch c x a) := by
  casesm* Call, CkCall
  case ck.cFindObjectsInit session label id =>
    exact inferInstanceAs (Decidable (x.2.active session = true → a ≠ ckrOk))
  all_goals exact isTrue trivial

instance (c : Call) (x : World W × ObjectSearches) (a : c.Ans) : Decidable (FindsObjects c x a) := by
  casesm* Call, CkCall
  case ck.cFindObjects => exact inferInstanceAs (Decidable (a.1 = ckrOk))
  all_goals exact isTrue trivial

/-- The handler of a process with such a module. -/
def objectHandlerOf (rv : CkRv) :=
  restricting (S := skcSig) (observing (sysHandler (objectModuleHandler rv) 0) ObjectSearches.note)
    OneSearch

theorem objectHandlerOf_step {rv : CkRv} (c : skcSig.Op) (x : World (List Nat) × ObjectSearches)
    (a : skcSig.Ans c) (y : World (List Nat) × ObjectSearches)
    (h : objectHandlerOf rv c x = some (a, y)) : searchStep (objectModuleStep rv) c x a y :=
  restricting_step (observing_step sysHandler_answers) c x a y h

/-- A process without a search. -/
def noSearchWorld : World (List Nat) := ⟨sgxAgent, ⟨∅, [], 1⟩, none, []⟩

/-- Look-ups on the sessions, one after the other; `C_FindObjects` does not fail. -/
def lookUpOn (sessions : List Nat) : World (List Nat) × ObjectSearches →
    Option (World (List Nat) × ObjectSearches) :=
  Prog.runSerial (restricting (objectHandlerOf ckrOk) FindsObjects) lookUp (fun _ _ => True)
    (sessions.map fun session => (session, kmsUriData))

/-- Between two look-ups on session 2 there are two on session 3, where a search is left. -/
theorem searches_released_found : ∃ x y : World (List Nat) × ObjectSearches,
    CleanReach (objectModuleStep ckrOk) (noSearchWorld, .start) x ∧ x.2.active 3 = true ∧
    Runs ((searchStep (objectModuleStep ckrOk)).restrict FindsObjects) (lookUp (2, kmsUriData)) x
      (ckrOk, true) y ∧ y.2.finalFailed = false ∧ NoneLeft 2 x ∧ NoneLeft 2 y := by
  obtain ⟨x, hx, hv⟩ := Option.bind_eq_some_iff.mp (show
    ((lookUpOn [2, 3, 3] (noSearchWorld, .start)).bind fun x =>
      ((lookUp (2, kmsUriData)).run (restricting (objectHandlerOf ckrOk) FindsObjects) x).map fun r =>
        (x.2.active 3, x.2.unfinished 2, r.1, r.2.2.finalFailed))
      = some (true, false, (ckrOk, true), false) by decide +kernel)
  obtain ⟨⟨r, y⟩, hr, hv⟩ := Option.map_eq_some_iff.mp hv
  obtain ⟨hleft, hv⟩ := Prod.mk.inj hv
  obtain ⟨hdone, hv⟩ := Prod.mk.inj hv
  obtain ⟨rfl, hfinal⟩ := Prod.mk.inj hv
  have hreach : CleanReach (objectModuleStep ckrOk) (noSearchWorld, .start) x :=
    Prog.runSerial_serial (restricting_step objectHandlerOf_step) .refl hx
  have hrun := Prog.run_runs (restricting_step objectHandlerOf_step) hr
  obtain ⟨hnone, hreleased⟩ := (searches_released _ noSearchWorld).1 x (2, kmsUriData) _ y hreach
    hdone hrun
  exact ⟨x, y, hreach, hleft, hrun, hfinal, hnone, hreleased hfinal⟩

/-- `C_FindObjects` fails. -/
theorem not_searches_released : ¬∀ (W : Type) (E : Step skcSig W) (s : World W)
    (x y : World W × ObjectSearches) (i : Nat × ApimoduleUriData) (result : CkRv × Bool),
    LookupReach E (s, .start) x → Runs (searchStep E) (lookUp i) x result y → Released i.1 y := by
  intro h
  obtain ⟨⟨r, y⟩, hr, hv⟩ := Option.map_eq_some_iff.mp (show
    ((lookUp (2, kmsUriData)).run (objectHandlerOf ckrGeneralError) (noSearchWorld, .start)).map
      (fun r => (r.2.2.finalFailed, r.2.2.active 2)) = some (false, true) by decide +kernel)
  obtain ⟨hfinal, hactive⟩ := Prod.mk.inj hv
  have hreleased := h (List Nat) (objectModuleStep ckrGeneralError) noSearchWorld _ y (2, kmsUriData)
    r .refl (Prog.run_runs objectHandlerOf_step hr) hfinal
  exact absurd (hactive.symm.trans hreleased) (by decide)

-- The next look-up fails with `CKR_OPERATION_ACTIVE`, although `C_FindObjects` works again.
example : ((lookUp (2, kmsUriData)).run (objectHandlerOf ckrGeneralError) (noSearchWorld, .start)).bind
    (fun r => ((lookUp (2, kmsUriData)).run (objectHandlerOf ckrOk) r.2).map Prod.fst) =
    some (ckrOperationActive, false) := by
  decide +kernel

end SkcLibrary
