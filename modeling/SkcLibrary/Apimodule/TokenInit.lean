import SkcLibrary.Apimodule.TokenSearch

/-!
# Opening a token

`init_apimodule_token`, over any PKCS#11 module and any `func_list->C_Initialize`. What the module answers
is kept in an `Opening`: the last search, and what was done with the token it reported.

One return code goes through the whole function. The second search leaves it at `CKR_OK` where it ends
without an error and without the token, and the token is cached as it was allocated.

* `token_opened_iff` — the calls that return a token with a session, or none
-/

namespace SkcLibrary

open Interaction

variable {W : Type}

/-! ## What is answered -/

/-- How far a token has been opened. -/
structure Opening where
  /-- The token was found once, or the module has been finalised for it. -/
  again : Bool
  /-- The last return code of the last search, and the slot that was reported. -/
  search : CkRv × Option Nat
  /-- The session that was opened in that slot. -/
  opened : Option Nat
  /-- The session, once the user is logged in. -/
  loggedIn : Option Nat
  /-- `apimodule_token_hash` when the last search began. -/
  tokenHash : GHashTable Bytes TokenRef

/-- One more call of the library. -/
def Opening.note (label : Bytes) (c : Call) (s : World W) : c.Ans → Opening → Opening :=
  match c with
  | .ck .cGetSlotListCount => fun a g =>
    ⟨g.again, (a.1, none), none, none, s.apimodule.apimoduleTokenHash⟩
  | .ck (.cGetSlotList _) => fun a g => { g with search := (a.1, none) }
  | .ck (.cGetTokenInfo slot) => fun a g =>
    if TokenReported label a then { g with again := true, search := (a.1, some slot) }
    else { g with search := (a.1, none) }
  | .ck .cFinalize => fun _ g => { g with again := true }
  | .ck (.cOpenSession slot) => fun a g =>
    if a.1 = ckrOk ∧ g.search.2 = some slot then { g with opened := some a.2 } else g
  | .ck (.cLogin session .user _) => fun rv g =>
    if loginRv rv = ckrOk ∧ g.opened = some session then { g with loggedIn := some session } else g
  | _ => fun _ g => g

/-- Before the call. -/
def Opening.start (s : World W) : Opening :=
  ⟨false, (ckrOk, none), none, none, s.apimodule.apimoduleTokenHash⟩

/-- The surroundings, with what they answer. -/
abbrev openingStep (E : Step skcSig W) (label : Bytes) : Step skcSig (World W × Opening) :=
  (sysStep E 0).observed (Opening.note label)

/--
A token with the session that was opened on it and into which the user is logged in, cached under its
label; or none, and nothing was cached.
-/
def TokenOpened (s : World W) (atoken : Option TokenRef) (x : World W × Opening) : Prop :=
  match x.2.loggedIn with
  | some session => ∃ ref token, atoken = some ref ∧ x.1.apimodule.tokens[ref]? = some token ∧
      token.session = session ∧ x.1.apimodule.apimoduleTokenHash.lookup token.tokenLabel = some ref
  | none => atoken = none ∧ x.1.apimodule.apimoduleTokenHash = s.apimodule.apimoduleTokenHash

/--
The second search does not end without an error and without the token, and `C_Initialize` caches no token
if the call fails after it.
-/
structure OpensOrFails (s : World W) (g : Opening) : Prop where
  searched : g.again = true → g.search ≠ (ckrOk, none)
  kept : g.loggedIn = none → g.tokenHash = s.apimodule.apimoduleTokenHash

/-! ## Searches -/

section

variable {E : Step skcSig W} {x : World W × Opening}

/-- The setting of the calls below. -/
abbrev openingLogic (E : Step skcSig W) (label : Bytes) : Logic skcSig (World W × Opening) :=
  .seq (openingStep E label) fun _ _ => True

/-- What a search leaves behind. -/
structure Searched (x y : World W × Opening) (result : CkRv × Option Nat) : Prop where
  apimodule : y.1.apimodule = x.1.apimodule
  opening : y.2 = ⟨x.2.again || result.2.isSome, result, none, none, x.1.apimodule.apimoduleTokenHash⟩
  found : result.2.isSome → result.1 = ckrOk

/-- The tokens are left alone by what is called outside. -/
theorem openingStep_ck {label : Bytes} {c : CkCall} {a : c.Ans} {y : World W × Opening}
    (h : openingStep E label (.ck c) x a y) :
    y.1.apimodule = x.1.apimodule ∧ y.2 = Opening.note label (.ck c) x.1 a x.2 :=
  ⟨sysStep_apimodule (c := .ck c) h.1 (fun h => h), h.2⟩

theorem sat_findtokenLoop_opening {label : Bytes} {m : Apimodule} {again : Bool} (slots : List Nat)
    {rv : CkRv} (hm : x.1.apimodule = m)
    (hx : x.2 = ⟨again, (rv, none), none, none, m.apimoduleTokenHash⟩) :
    Sat (openingLogic E label) (findtokenLoop label slots rv)
      (fun r y => y.1.apimodule = m ∧ (r.2.isSome → r.1 = ckrOk) ∧
        y.2 = ⟨again || r.2.isSome, r, none, none, m.apimoduleTokenHash⟩) x := by
  -- the loop ends at the first slot with the label; `rv` is the answer of the last slot asked
  induction slots generalizing rv x with
  | nil => exact sat_seq_pure.mpr ⟨hm, nofun, by rw [hx]; simp⟩
  | cons slot rest ih =>
    rw [findtokenLoop_cons]
    refine sat_seq_call.mpr ⟨trivial, fun a y hy => ?_⟩
    obtain ⟨hmy, hnote⟩ := openingStep_ck hy
    have hm' : y.1.apimodule = m := hmy.trans hm
    by_cases hreported : TokenReported label a
    · rw [if_pos hreported]
      refine sat_seq_pure.mpr ⟨hm', fun _ => rfl, ?_⟩
      rw [hnote, hx]
      simp only [Opening.note, hreported, if_true, Option.isSome_some, Bool.or_true, hreported.2.1]
    · rw [if_neg hreported]
      refine ih hm' ?_
      rw [hnote, hx]
      simp only [Opening.note, hreported, if_false]

theorem sat_findtoken_opening {data : ApimoduleUriData} :
    Sat (openingLogic E data.tokenLabel) (apimoduleFindtoken data) (fun r y => Searched x y r) x := by
  rw [apimoduleFindtoken, Skc.ck_bind]
  refine sat_seq_call.mpr ⟨trivial, fun a y hy => ?_⟩
  obtain ⟨hmy, hnote⟩ := openingStep_ck hy
  obtain ⟨rv, nslots⟩ := a
  have hopening : y.2 = ⟨x.2.again, (rv, none), none, none, x.1.apimodule.apimoduleTokenHash⟩ := hnote
  have habsent : ∀ {z : World W × Opening} {rv' : CkRv}, z.1.apimodule = x.1.apimodule →
      z.2 = ⟨x.2.again, (rv', none), none, none, x.1.apimodule.apimoduleTokenHash⟩ →
      Searched x z (rv', none) := by
    intro z rv' hmz hz
    refine ⟨hmz, ?_, fun h => ?_⟩
    · rw [hz]
      simp
    · cases h
  dsimp only
  split
  · exact sat_seq_pure.mpr (habsent hmy hopening)
  · next hok =>
    have hrv : rv = ckrOk := not_not.mp (not_or.mp hok).1
    rw [Prog.lift_bind]
    refine sat_seq_call.mpr ⟨trivial, fun b z hz => ?_⟩
    have hmz : z.1.apimodule = x.1.apimodule :=
      (sysStep_apimodule (c := .calloc nslots) hz.1 (fun h => h)).trans hmy
    have hoz : z.2 = y.2 := hz.2
    cases b with
    | false =>
      rw [if_neg (by decide)]
      exact sat_seq_pure.mpr (habsent hmz (hoz.trans hopening))
    | true =>
      rw [if_pos rfl, Skc.ck_bind]
      refine sat_seq_call.mpr ⟨trivial, fun c u hu => ?_⟩
      obtain ⟨hmu, hnoteu⟩ := openingStep_ck hu
      obtain ⟨rv', slots⟩ := c
      have hou : u.2 = ⟨x.2.again, (rv', none), none, none, x.1.apimodule.apimoduleTokenHash⟩ := by
        rw [hnoteu, hoz, hopening]
        rfl
      dsimp only
      split
      · exact sat_seq_pure.mpr (habsent (hmu.trans hmz) hou)
      · refine (sat_findtokenLoop_opening slots (hmu.trans hmz) hou).mono fun r v hv => ?_
        exact ⟨hv.1, hv.2.2, hv.2.1⟩

/-! ## The two parts of `init_apimodule_token` -/

/-- What the second part leaves behind, with the token it was given and the one it returns. -/
structure Tried (x y : World W × Opening) (given : ApimoduleToken) (rv : CkRv)
    (returned : ApimoduleToken) : Prop where
  apimodule : y.1.apimodule = x.1.apimodule
  again : y.2.again = true
  tokenHash : y.2.tokenHash = x.1.apimodule.apimoduleTokenHash
  success : rv = ckrOk → y.2.search ≠ (ckrOk, none) →
    ∃ session, y.2.loggedIn = some session ∧ returned = { given with session := session }
  absent : y.2.search = (ckrOk, none) → rv = ckrOk ∧ y.2.loggedIn = none
  failure : rv ≠ ckrOk → y.2.loggedIn = none

theorem sat_openToken_opening {uriData : ApimoduleUriData} {atoken : ApimoduleToken}
    {err : Option GError} (hx : x.2.again = true) :
    Sat (openingLogic E uriData.tokenLabel) (openToken uriData atoken err)
      (fun r y => Tried x y atoken r.1 r.2.1) x := by
  refine sat_findtoken_opening.bind ?_
  rintro ⟨rv, slot⟩ y hy
  have hagain : y.2.again = true := by rw [hy.opening, hx]; rfl
  have hhash : y.2.tokenHash = x.1.apimodule.apimoduleTokenHash := by rw [hy.opening]
  have hsearch : y.2.search = (rv, slot) := by rw [hy.opening]
  have hout : y.2.loggedIn = none := by rw [hy.opening]
  dsimp only
  split
  · next hrv =>
    refine sat_seq_pure.mpr ⟨hy.apimodule, hagain, hhash, fun h => absurd h hrv, fun h => ?_,
      fun _ => hout⟩
    rw [hsearch] at h
    exact absurd (congrArg Prod.fst h) hrv
  · next hrv =>
    have hrv : rv = ckrOk := not_not.mp hrv
    cases slot with
    | none =>
      refine sat_seq_pure.mpr ⟨hy.apimodule, hagain, hhash, fun _ h => ?_, fun _ => ⟨hrv, hout⟩,
        fun h => absurd hrv h⟩
      exact absurd (by rw [hsearch, hrv]) h
    | some slot =>
      dsimp only
      rw [Skc.ck_bind]
      refine sat_seq_call.mpr ⟨trivial, fun a z hz => ?_⟩
      obtain ⟨hmz, hnote⟩ := openingStep_ck hz
      obtain ⟨rv', session⟩ := a
      have hmz : z.1.apimodule = x.1.apimodule := hmz.trans hy.apimodule
      by_cases hopen : rv' = ckrOk
      · have hoz : z.2 = { y.2 with opened := some session } := by
          rw [hnote]
          simp only [Opening.note, hopen, hsearch, and_self, if_true]
        dsimp only
        rw [if_neg (not_not.mpr hopen), Skc.ck_bind]
        refine sat_seq_call.mpr ⟨trivial, fun _ u hu => ?_⟩
        obtain ⟨hmu, hou⟩ := openingStep_ck hu
        have hou : u.2 = { y.2 with opened := some session } := hou.trans hoz
        rw [Skc.ck_bind]
        refine sat_seq_call.mpr ⟨trivial, fun rv v hv => ?_⟩
        obtain ⟨hmv, hov⟩ := openingStep_ck hv
        have hmv : v.1.apimodule = x.1.apimodule := (hmv.trans hmu).trans hmz
        rw [hou] at hov
        -- the answer of C_Login decides whether the session counts as logged in
        by_cases hlogin : loginRv rv = ckrOk
        · have hin : v.2 = { y.2 with opened := some session, loggedIn := some session } := by
            rw [hov]
            simp only [Opening.note, hlogin, and_self, if_true]
          rw [if_neg (not_not.mpr hlogin)]
          refine sat_seq_pure.mpr ⟨hmv, ?_, ?_, fun _ _ => ⟨session, ?_, rfl⟩, fun h => ?_,
            fun h => absurd rfl h⟩
          · rw [hin]; exact hagain
          · rw [hin]; exact hhash
          · rw [hin]
          · rw [hin] at h
            exact absurd (congrArg Prod.snd (hsearch.symm.trans h)) nofun
        · have hno : v.2 = { y.2 with opened := some session } := by
            rw [hov]
            simp only [Opening.note, hlogin, false_and, if_false]
          rw [if_pos hlogin]
          refine sat_seq_pure.mpr ⟨hmv, ?_, ?_, fun h => absurd h hlogin, fun h => ?_, fun _ => ?_⟩
          · rw [hno]; exact hagain
          · rw [hno]; exact hhash
          · rw [hno] at h
            exact absurd (congrArg Prod.snd (hsearch.symm.trans h)) nofun
          · rw [hno]; exact hout
      · have hoz : z.2 = y.2 := by
          rw [hnote]
          simp only [Opening.note, hopen, false_and, if_false]
        dsimp only
        rw [if_pos hopen]
        refine sat_seq_pure.mpr ⟨hmz, by rw [hoz]; exact hagain, by rw [hoz]; exact hhash,
          fun h => absurd h hopen, fun h => ?_, fun _ => by rw [hoz]; exact hout⟩
        rw [hoz] at h
        exact absurd (congrArg Prod.snd (hsearch.symm.trans h)) nofun

/-- Nothing has been found or done so far. -/
structure NotFound (m : Apimodule) (y : World W × Opening) : Prop where
  apimodule : y.1.apimodule = m
  again : y.2.again = false
  absent : y.2.search.2 = none
  opened : y.2.opened = none
  loggedIn : y.2.loggedIn = none
  tokenHash : y.2.tokenHash = m.apimoduleTokenHash

theorem NotFound.of_eq {m : Apimodule} {y : World W × Opening} (h : NotFound m x)
    (hm : y.1.apimodule = m) (hy : y.2 = x.2) : NotFound m y where
  apimodule := hm
  again := by rw [hy]; exact h.again
  absent := by rw [hy]; exact h.absent
  opened := by rw [hy]; exact h.opened
  loggedIn := by rw [hy]; exact h.loggedIn
  tokenHash := by rw [hy]; exact h.tokenHash

/-- `apimodule_createtoken` does not open the token. -/
theorem sat_createtoken_opening {uriData : ApimoduleUriData} {m : Apimodule}
    (hx : NotFound m x) :
    Sat (openingLogic E uriData.tokenLabel) (apimoduleCreatetoken uriData)
      (fun _ y => NotFound m y) x := by
  refine Sat.of_issues (createtoken_issues uriData) stable_seq (fun c hc y hy => ?_) hx
  refine ⟨trivial, fun a z hz => ⟨trivial, ?_⟩⟩
  cases c with
  | ck d =>
    obtain ⟨hm, hnote⟩ := openingStep_ck hz
    have hm : z.1.apimodule = m := hm.trans hy.apimodule
    cases d with
    -- a count of the slots starts the search again
    | cGetSlotListCount =>
      have hz : z.2 = ⟨y.2.again, (a.1, none), none, none, y.1.apimodule.apimoduleTokenHash⟩ := hnote
      rw [hy.apimodule] at hz
      exact ⟨hm, by rw [hz]; exact hy.again, by rw [hz], by rw [hz], by rw [hz], by rw [hz]⟩
    | cOpenSession slot =>
      have hz : z.2 = y.2 := by
        rw [hnote]
        simp only [Opening.note, hy.absent, reduceCtorEq, and_false, if_false]
      exact hy.of_eq hm hz
    | cLogin session userType pin =>
      have hz : z.2 = y.2 := by
        rw [hnote]
        cases userType with
        | so => rfl
        | user => simp only [Opening.note, hy.opened, reduceCtorEq, and_false, if_false]
      exact hy.of_eq hm hz
    | cInitToken slot pin label | cLogout session | cInitPin session pin => exact hy.of_eq hm hnote
    | _ => exact hc.elim
  | _ => exact hc.elim

/-- What has been seen once is not forgotten. -/
theorem Opening.note_again {label : Bytes} {c : Call} {s : World W} {a : c.Ans} {g : Opening}
    (h : g.again = true) : (Opening.note label c s a g).again = true := by
  unfold Opening.note
  split
  · exact h
  · exact h
  · split
    · rfl
    · exact h
  · rfl
  · split <;> exact h
  · split <;> exact h
  · exact h

/-- The first part, whatever `C_Initialize` does. -/
theorem sat_ensureToken_opening {cInit : Skc CkRv} {uriData : ApimoduleUriData} {create : Bool}
    {err : Option GError} {m : Apimodule} (hx : NotFound m x) :
    Sat (openingLogic E uriData.tokenLabel) (ensureToken cInit uriData create err)
      (fun r y => (r.1 ≠ ckrOk → NotFound m y) ∧ (r.1 = ckrOk → y.2.again = true)) x := by
  refine sat_findtoken_opening.bind ?_
  rintro ⟨rv, slot⟩ y hy
  have hm : y.1.apimodule = m := hy.apimodule.trans hx.apimodule
  have habsent : slot = none → NotFound m y := by
    rintro rfl
    have hopening := hy.opening
    rw [hx.again, hx.apimodule] at hopening
    exact ⟨hm, by rw [hopening]; rfl, by rw [hopening], by rw [hopening], by rw [hopening],
      by rw [hopening]⟩
  dsimp only
  split
  · next hrv =>
    refine sat_seq_pure.mpr ⟨fun _ => habsent ?_, fun h => absurd h hrv⟩
    cases slot with
    | none => rfl
    | some slot => exact absurd (hy.found rfl) hrv
  · cases slot with
    | some slot =>
      refine sat_seq_pure.mpr ⟨fun h => absurd rfl h, fun _ => ?_⟩
      rw [hy.opening]
      simp
    | none =>
      cases create with
      | false =>
        have hrv : ckrGeneralError ≠ ckrOk := by decide
        exact sat_seq_pure.mpr ⟨fun _ => habsent rfl, fun h => absurd h hrv⟩
      | true =>
        dsimp only
        rw [if_neg (by decide)]
        refine (sat_createtoken_opening (habsent rfl)).bind ?_
        rintro ⟨rv', session⟩ z hz
        dsimp only
        split
        · next hrv' => exact sat_seq_pure.mpr ⟨fun _ => hz, fun h => absurd h hrv'⟩
        · refine sat_seq_call.mpr ⟨trivial, fun _ u _ => ?_⟩
          refine sat_seq_call.mpr ⟨trivial, fun _ v _ => ?_⟩
          refine sat_seq_call.mpr ⟨trivial, fun _ w hw => ?_⟩
          -- from `C_Finalize` on nothing more is known of what happens before the second search
          have hagain : w.2.again = true := by rw [hw.2]; rfl
          have hkeep : Sat (openingLogic E uriData.tokenLabel) cInit
              (fun _ y => y.2.again = true) w := by
            refine Sat.of_issues cInit.issues_true stable_seq (fun c _ y hy => ?_) hagain
            refine ⟨trivial, fun a z hz => ⟨trivial, ?_⟩⟩
            have hnote : z.2 = Opening.note uriData.tokenLabel c y.1 a y.2 := hz.2
            show z.2.again = true
            rw [hnote]
            exact Opening.note_again hy
          refine hkeep.bind fun _ y hy => ?_
          exact sat_seq_pure.mpr ⟨fun h => absurd rfl h, fun _ => hy⟩

end

/-! ## The theorem -/

section

variable {E : Step skcSig W} {s : World W}

theorem NotFound.start : NotFound s.apimodule (s, Opening.start s) := ⟨rfl, rfl, rfl, rfl, rfl, rfl⟩

/-- A token that is cached is found under its label. -/
theorem addToken_lookup (m : Apimodule) (token : ApimoduleToken) :
    (m.addToken token).apimoduleTokenHash.lookup token.tokenLabel = some m.tokens.length ∧
    (m.addToken token).tokens[m.tokens.length]? = some token := by
  refine ⟨AList.lookup_insert _, ?_⟩
  simp [Apimodule.addToken]

/--
**`init_apimodule_token`.** It returns what was opened, or nothing, if and only if the second search does
not leave it without a token and without an error, and nobody else has cached a token meanwhile.
-/
theorem token_opened_iff {cInit : Skc CkRv} {uriData : ApimoduleUriData} {create : Bool}
    {err err' : Option GError} {atoken : Option TokenRef} {x : World W × Opening}
    (hrun : Runs (openingStep E uriData.tokenLabel) (initApimoduleToken cInit uriData create err)
      (s, .start s) (atoken, err') x) :
    TokenOpened s atoken x ↔ OpensOrFails s x.2 := by
  have hsat : Sat (openingLogic E uriData.tokenLabel) (initApimoduleToken cInit uriData create err)
      (fun r y => TokenOpened s r.1 y ↔ OpensOrFails s y.2) (s, .start s) := by
    refine (sat_ensureToken_opening .start).bind ?_
    rintro ⟨rv, err⟩ y ⟨hfail, hok⟩
    dsimp only
    split
    · next hrv =>
      have hy := hfail hrv
      refine sat_seq_pure.mpr (iff_of_true ?_ ⟨fun h => ?_, fun _ => hy.tokenHash⟩)
      · rw [TokenOpened, hy.loggedIn]
        exact ⟨rfl, by rw [hy.apimodule]⟩
      · exact absurd (hy.again.symm.trans h) nofun
    · next hrv =>
      refine (sat_openToken_opening (hok (not_not.mp hrv))).bind ?_
      rintro ⟨rv, token, err⟩ z hz
      dsimp only
      split
      · next hrv =>
        have hout := hz.failure hrv
        refine sat_seq_pure.mpr ?_
        rw [TokenOpened, hout]
        constructor
        · rintro ⟨-, hsame⟩
          refine ⟨fun _ h => hrv (hz.absent h).1, fun _ => ?_⟩
          rw [hz.tokenHash, ← hz.apimodule, hsame]
        · intro h
          refine ⟨rfl, ?_⟩
          rw [hz.apimodule, ← hz.tokenHash]
          exact h.kept hout
      · next hrv =>
        refine sat_seq_call.mpr ⟨trivial, fun ref u hu => ?_⟩
        obtain ⟨⟨href, hu⟩, hnote⟩ := hu
        have hnote : u.2 = z.2 := hnote
        refine sat_seq_pure.mpr ?_
        rw [TokenOpened, hnote]
        -- a token that no slot has is cached all the same, without a session
        by_cases habsent : z.2.search = (ckrOk, none)
        · rw [(hz.absent habsent).2]
          exact iff_of_false (fun h => absurd h.1 nofun) fun h => h.searched hz.again habsent
        · obtain ⟨session, hin, htoken⟩ := hz.success (not_not.mp hrv) habsent
          rw [hin]
          obtain ⟨hlookup, hget⟩ := addToken_lookup z.1.apimodule token
          refine iff_of_true ⟨ref, token, rfl, ?_, ?_, ?_⟩ ⟨fun _ => habsent, fun h => ?_⟩
          · rw [hu, href]; exact hget
          · exact congrArg ApimoduleToken.session htoken
          · rw [hu, href]; exact hlookup
          · exact absurd (hin.symm.trans h) nofun
  exact hsat.runs hrun

end

/-! ## A token that is taken out -/

/-- A module with one slot that `w` more searches see, with a token that takes every pin. -/
def takenOutHandler (c : Call) (w : Nat) : Option (c.Ans × Nat) :=
  match c with
  | .calloc _ => some (true, w)
  | .ck .cGetSlotListCount => some ((ckrOk, min w 1), w - 1)
  | .ck (.cGetSlotList _) => some ((ckrOk, [7]), w)
  | .ck (.cGetTokenInfo _) => some ((ckrOk, lit "KMS"), w)
  | .ck (.cOpenSession slot) => some ((ckrOk, slot + 1), w)
  | .ck (.cLogout _) => some (ckrOk, w)
  | .ck (.cLogin _ _ _) => some (ckrUserAlreadyLoggedIn, w)
  | _ => none

/-- The surroundings with that module. -/
def takenOutStep : Step skcSig Nat := fun c w a w' => takenOutHandler c w = some (a, w')

/-- A process that has no token cached. -/
def noTokenWorld (searches : Nat) : World Nat := ⟨sgxAgent, ⟨∅, [], 1⟩, none, searches⟩

/-- A call, executed. -/
def runInit (searches : Nat) : Option ((Option TokenRef × Option GError) × World Nat × Opening) :=
  (initApimoduleToken (Skc.ck .cInitialize) kmsUriData true none).run
    (observing (sysHandler takenOutHandler 0) (Opening.note (lit "KMS")))
    (noTokenWorld searches, .start (noTokenWorld searches))

theorem runInit_runs {searches : Nat}
    {r : (Option TokenRef × Option GError) × World Nat × Opening} (h : runInit searches = some r) :
    Runs (openingStep takenOutStep kmsUriData.tokenLabel)
      (initApimoduleToken (Skc.ck .cInitialize) kmsUriData true none)
      (noTokenWorld searches, .start (noTokenWorld searches)) (r.1.1, r.1.2) r.2 :=
  Prog.run_runs (observing_step sysHandler_answers) h

theorem token_opened_twice_seen : ∃ (err : Option GError) (x : World Nat × Opening),
    Runs (openingStep takenOutStep kmsUriData.tokenLabel)
      (initApimoduleToken (Skc.ck .cInitialize) kmsUriData true none)
      (noTokenWorld 2, .start (noTokenWorld 2)) (some 0, err) x ∧
    x.2.loggedIn = some 8 ∧ TokenOpened (noTokenWorld 2) (some 0) x := by
  obtain ⟨⟨⟨atoken, err⟩, x⟩, hr, hv⟩ := Option.map_eq_some_iff.mp (show
    (runInit 2).map (fun r => (r.1.1, r.2.2.search, r.2.2.loggedIn)) =
      some (some 0, (ckrOk, some 7), some 8) by decide +kernel)
  obtain ⟨rfl, hv⟩ := Prod.mk.inj hv
  obtain ⟨hsearch, hin⟩ := Prod.mk.inj hv
  refine ⟨err, x, runInit_runs hr, hin, (token_opened_iff (runInit_runs hr)).mpr ⟨?_, ?_⟩⟩
  · intro _ h
    exact absurd (hsearch.symm.trans h) (by decide)
  · intro h
    exact absurd (hin.symm.trans h) nofun

/-- The second search sees no slot any more, and the token is returned without a session. -/
theorem not_token_opened : ¬∀ (W : Type) (E : Step skcSig W) (cInit : Skc CkRv)
    (uriData : ApimoduleUriData) (create : Bool) (err err' : Option GError)
    (atoken : Option TokenRef) (s : World W) (x : World W × Opening),
    Runs (openingStep E uriData.tokenLabel) (initApimoduleToken cInit uriData create err)
      (s, .start s) (atoken, err') x → TokenOpened s atoken x := by
  intro h
  obtain ⟨⟨⟨atoken, err⟩, x⟩, hr, hv⟩ := Option.map_eq_some_iff.mp (show
    (runInit 1).map (fun r => (r.1.1, r.2.2.loggedIn)) = some (some 0, none) by decide +kernel)
  obtain ⟨rfl, hin⟩ := Prod.mk.inj hv
  have hopened := h Nat takenOutStep _ kmsUriData true none err (some 0) (noTokenWorld 1) x
    (runInit_runs hr)
  have hin : x.2.loggedIn = none := hin
  rw [TokenOpened, hin] at hopened
  exact absurd hopened.1 nofun

end SkcLibrary
