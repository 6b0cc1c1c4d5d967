import SkcLibrary.Keyagent.LoadRules
import SkcLibrary.Npm.KmsRules
import SkcLibrary.Npm.KmsRuns

/-!
# Errors of a key load

A caller of `keyagent_loadkey_with_moduledata` looks at the error of every load that fails. What
KBS and the STM answer decides whether there is one: `SilentLoad` are the answers after which the
load fails without an error.

* `load_error_set` — a load that fails has an error, but for those
-/

namespace SkcLibrary

open Interaction

variable {W : Type}

/-! ## What a load hears -/

/-- The answers that a load gets from KBS to its transfers, and from the STM. -/
structure Heard where
  transfers : List HttpResponse
  challenges : List (Bool × Option Bytes × Option GError)
  sessions : List (Bool × Option GError)

/-- Before the load. -/
def Heard.nothing : Heard := ⟨[], [], []⟩

/-- One more answer. -/
def Heard.note (c : Call) (_ : World W) : c.Ans → Heard → Heard :=
  match c with
  | .httpsSend req => fun res w =>
    if req.postdata.isNone then { w with transfers := w.transfers ++ [res] } else w
  | .stm (.createChallenge _ _ _) => fun a w => { w with challenges := w.challenges ++ [a] }
  | .stm (.setSession _ _ _) => fun a w => { w with sessions := w.sessions ++ [a] }
  | _ => fun _ w => w

/--
A 401 whose fault is another one than `not-authorized`, or whose challenge is to be answered by
another method than `post`.
-/
def RefusedInSilence (res : HttpResponse) : Prop :=
  res.status = 401 ∧ ∃ fault, Kms.parseFault res.body = .ok fault ∧
    (fault ≠ (lit "failure", lit "not-authorized") ∨
      ∃ req, Kms.parseChallenge res.body = .ok req ∧ req.sessionMethod ≠ lit "post")

/-- The answer of an STM that has no challenge and no error. -/
def NoChallenge (a : Bool × Option Bytes × Option GError) : Prop := a.1 = false ∧ a.2.2 = none

/-- The error that the last session left. -/
def Heard.sessionError (w : Heard) : Option GError := w.sessions.getLast?.bind (·.2)

/-- What is heard ends a transfer without an error. -/
def Heard.Silent (w : Heard) : Prop :=
  (∃ a ∈ w.challenges, NoChallenge a) ∨
    ((∃ res ∈ w.transfers, RefusedInSilence res) ∧ w.sessionError = none)

/-- The load fails without an error. -/
def SilentLoad (url : Bytes) (w : Heard) : Prop := urlTokenMissing url = some true ∨ w.Silent

/-! ## The module, and what it hears -/

/-- A single thread that remembers what it heard. -/
def heardView (E : Step skcSig W) : AgentView (World W × Heard) :=
  observedView E Heard.note (fun _ _ => True) (fun _ _ _ => rfl) (fun _ _ _ _ => rfl)
    (fun _ _ _ => rfl) fun _ => trivial

section Module

variable {E : Step skcSig W} {x y : World W × Heard} {url : Bytes} {err : Option GError}

/-- Nothing that was heard ends a transfer in silence. -/
structure Heard.Clean (w : Heard) : Prop where
  challenges : ∀ a ∈ w.challenges, ¬NoChallenge a
  transfers : ∀ res ∈ w.transfers, ¬RefusedInSilence res

theorem Heard.Clean.not_silent {w : Heard} (h : w.Clean) : ¬w.Silent := by
  rintro (⟨a, ha, hno⟩ | ⟨⟨res, hres, href⟩, -⟩)
  · exact h.challenges a ha hno
  · exact h.transfers res hres href

/-- There is no key for the URL. -/
def NoKey (url : Bytes) (x : World W × Heard) : Prop :=
  x.1.keyagent.keyHash.lookup (hashKey url) = none

/-- Between two operations of the module. -/
structure Calm (url : Bytes) (x : World W × Heard) : Prop where
  noKey : NoKey url x
  clean : x.2.Clean

/-- What a transfer leaves: a key, or an error unless it ended in silence. -/
def Outcome (url : Bytes) (r : Bool × Option GError) (x : World W × Heard) : Prop :=
  (¬NoKey url x ∧ x.2.Clean) ∨ (NoKey url x ∧ (r.2 = none ↔ x.2.Silent))

/-- What `start_session` leaves. -/
def SessionOutcome (url : Bytes) (r : Bool × Option GError) (x : World W × Heard) : Prop :=
  if r.1 = true then Calm url x ∧ r.2 = x.2.sessionError
  else NoKey url x ∧ (r.2 = none ↔ x.2.Silent)

theorem Calm.error (h : Calm url x) {r : Bool} {e : GError} : Outcome url (r, some e) x :=
  .inr ⟨h.noKey, by simp [h.clean.not_silent]⟩

theorem Calm.sessionError (h : Calm url x) {e : GError} : SessionOutcome url (false, some e) x :=
  ⟨h.noKey, by simp [h.clean.not_silent]⟩

/-- Nothing that matters here has changed. -/
theorem Calm.of_eq (h : Calm url x) (hk : y.1.keyagent = x.1.keyagent) (hw : y.2 = x.2) :
    Calm url y :=
  ⟨by rw [NoKey, hk]; exact h.noKey, by rw [hw]; exact h.clean⟩

theorem heard_quiet {R : Keyagent → Keyagent → Prop} (h : (heardView E).Quiet R x y) :
    y.2 = x.2 := observedView_quiet (fun _ _ _ _ => rfl) h

/-- A call that is not noted. -/
theorem sat_unheard {c : Call} (hmod : ∀ f, c ≠ .modifyKeyagent f)
    (hnote : ∀ s a w, Heard.note (W := W) c s a w = w) {Q : c.Ans → World W × Heard → Prop}
    (h : ∀ a y, y.1.keyagent = x.1.keyagent → y.2 = x.2 → Q a y) :
    Sat (heardView E).logic (Prog.lift (S := skcSig) c) Q x :=
  AgentView.sat_lift'.mpr ⟨trivial, fun a y hy =>
    h a y (sysStep_keyagent hy.1 hmod) (hy.2.trans (hnote _ _ _))⟩

/-! ### The operations -/

theorem sat_sessionCreate_heard (hx : Calm url x)
    {requestId label sessionId swk swkType : Bytes} {error : Option GError} :
    Sat (heardView E).logic
      (keyagentSessionCreateUncached .unknown requestId label sessionId swk swkType error)
      (fun r y => Calm url y ∧ (r.1 = true → r.2 = y.2.sessionError)) x := by
  refine AgentView.sat_sessionCreate_quiet (fun e => ⟨hx, nofun⟩) fun session err' t ht => ?_
  have hk : NoKey url t := ht.keysFrom.none hx.noKey
  have hw : t.2 = x.2 := heard_quiet ht
  have hcalm : Calm url t := ⟨hk, hw ▸ hx.clean⟩
  refine AgentView.sat_keyagentStmSetSession (fun _ _ _ _ => ⟨hcalm, nofun⟩)
    fun data lstm request _ _ _ => ?_
  refine (AgentView.sat_lift' (c := .stm _)).mpr ⟨trivial, fun a y hy => ?_⟩
  have hka : y.1.keyagent = t.1.keyagent.setCurrent data.name requestId lstm.label session :=
    (heardView E).ka_step hy fun _ => nofun
  have hnote : y.2 = { t.2 with sessions := t.2.sessions ++ [a] } := hy.2
  refine ⟨⟨?_, ?_⟩, fun _ => ?_⟩
  · rw [NoKey, hka]
    exact hk
  · rw [hnote]
    exact ⟨hcalm.clean.challenges, hcalm.clean.transfers⟩
  · rw [hnote, Heard.sessionError, List.getLast?_concat, Option.bind_some]

theorem sat_stmGetChallenge_heard (hx : Calm url x) {requestId nonce name : Bytes}
    {error : Option GError} :
    Sat (heardView E).logic (keyagentStmGetChallenge .unknown requestId nonce name error)
      (fun r y => if r.1 = true then Calm url y ∧ y.2.sessionError = x.2.sessionError
        else NoKey url y ∧ (r.2.2 = none ↔ y.2.Silent)) x := by
  refine AgentView.sat_keyagentStmGetChallenge
    (fun e => ⟨hx.noKey, by simp [hx.clean.not_silent]⟩) fun lstm request _ _ => ?_
  refine (AgentView.sat_lift' (c := .stm _)).mpr ⟨trivial, fun a y hy => ?_⟩
  have hka : y.1.keyagent = x.1.keyagent.setStmName requestId lstm.label :=
    (heardView E).ka_step hy fun _ => nofun
  have hnote : y.2 = { x.2 with challenges := x.2.challenges ++ [a] } := hy.2
  have hk : NoKey url y := by
    rw [NoKey, hka]
    exact hx.noKey
  split
  · next hret =>
    refine ⟨⟨hk, ?_⟩, by rw [hnote]; rfl⟩
    rw [hnote]
    refine ⟨fun b hb => ?_, hx.clean.transfers⟩
    rcases List.mem_append.mp hb with hb | hb
    · exact hx.clean.challenges b hb
    · rw [List.mem_singleton.mp hb]
      exact fun hno => absurd (hret.symm.trans hno.1) (by decide)
  · next hret =>
    refine ⟨hk, ?_⟩
    have hfalse : a.1 = false := Bool.eq_false_iff.mpr hret
    rw [hnote]
    -- if a challenge failed in silence, it is this one
    constructor
    · exact fun he => .inl ⟨a, List.mem_append_right _ List.mem_cons_self, hfalse, he⟩
    · rintro (⟨b, hb, hno⟩ | ⟨⟨res, hres, href⟩, -⟩)
      · rcases List.mem_append.mp hb with hb | hb
        · exact absurd hno (hx.clean.challenges b hb)
        · rw [← List.mem_singleton.mp hb]
          exact hno.2
      · exact absurd href (hx.clean.transfers res hres)

theorem sat_keyCreate_heard (hx : Calm url x) {requestId : Bytes} {type : KeyagentKeytype}
    {attrs : Option KAttributes} {sessionId : Option Bytes} {error : Option GError} :
    Sat (heardView E).logic (npmOps .unknown (.keyCreate requestId url type attrs sessionId error))
      (fun r y => Outcome url (r.1.isSome, r.2) y) x := by
  refine AgentView.sat_keyagentKeyCreateWithCacheid (fun e _ => hx.error) ?_ ?_
  · intro key err' t hk _
    exact absurd (hk.symm.trans hx.noKey) (by simp)
  · intro a id r err' t _ _ _ _ ht
    have hc : CacheEq (x.1.keyagent.insertKey ⟨url, type, some r, a, -1⟩) t.1.keyagent :=
      ht.cacheEq
    have hw : t.2 = ((heardView E).put x _).2 := heard_quiet ht
    refine .inl ⟨fun hk => ?_, ?_⟩
    · have hkeys := hc.keys (hashKey url)
      rw [Keyagent.insertKey_lookup, if_pos rfl, show t.1.keyagent.keyHash.lookup _ = none from hk]
        at hkeys
      simp at hkeys
    · rw [hw]
      exact hx.clean

/-! ### The functions of the module -/

theorem sat_createKey_heard (hx : Calm url x) {details : KeyagentKeyloadDetails}
    (hurl : details.url = url) {res : HttpResponse} :
    Sat (heardView E).logic (runNpm .unknown (Kms.createKey details res err)) (Outcome url) x := by
  refine AgentView.sat_runNpm_createKey (fun _ => hx.error) fun _ _ _ _ _ _ => ?_
  rw [hurl]
  exact sat_keyCreate_heard hx

theorem sat_postChallenge_heard (hx : Calm url x) {details : KeyagentKeyloadDetails}
    {req : Kms.ChallengeRequest} {challenge : Bytes} :
    Sat (heardView E).logic (runNpm .unknown (Kms.postChallenge details req challenge err))
      (SessionOutcome url) x := by
  refine AgentView.sat_runNpm_postChallenge fun request hpost => ?_
  have hunheard : ∀ s a w, Heard.note (W := W) (.httpsSend request) s a w = w := by
    intro s a w
    rw [Heard.note, hpost]
    rfl
  refine sat_unheard (c := .httpsSend request) (fun _ => nofun) hunheard fun res y hk hw => ?_
  have hy : Calm url y := hx.of_eq hk hw
  refine ⟨fun _ => hy.sessionError, AgentView.sat_runNpm_createSession (fun _ => hy.sessionError) ?_⟩
  intro swk swkType _
  refine (sat_sessionCreate_heard hy).mono ?_
  rintro ⟨ret, e⟩ z ⟨hz, herr⟩
  refine ⟨fun hret => ?_, fun _ _ => hz.sessionError⟩
  obtain rfl : ret = true := hret
  exact ⟨hz, herr rfl⟩

/-- A transfer was answered, and what came before is calm. -/
structure Asked (url : Bytes) (err : Option GError) (res : HttpResponse) (x : World W × Heard) :
    Prop where
  noKey : NoKey url x
  challenges : ∀ a ∈ x.2.challenges, ¬NoChallenge a
  answered : res ∈ x.2.transfers
  transfers : ∀ r ∈ x.2.transfers, r ≠ res → ¬RefusedInSilence r
  error : err = x.2.sessionError

theorem Asked.calm {res : HttpResponse} (h : Asked url err res x) (href : ¬RefusedInSilence res) :
    Calm url x := by
  refine ⟨h.noKey, h.challenges, fun r hr => ?_⟩
  by_cases he : r = res
  · rw [he]
    exact href
  · exact h.transfers r hr he

/-- A refusal is silent if no session left an error. -/
theorem Asked.silent_iff {res : HttpResponse} (h : Asked url err res x)
    (href : RefusedInSilence res) : err = none ↔ x.2.Silent := by
  rw [h.error]
  constructor
  · exact fun he => .inr ⟨⟨res, h.answered, href⟩, he⟩
  · rintro (⟨a, ha, hno⟩ | ⟨-, he⟩)
    · exact absurd hno (h.challenges a ha)
    · exact he

theorem sat_startSession_heard {res : HttpResponse} (hx : Asked url err res x)
    (hstatus : res.status = 401)
    (hfault : Kms.parseFault res.body = .ok (lit "failure", lit "not-authorized"))
    {details : KeyagentKeyloadDetails} :
    Sat (heardView E).logic (runNpm .unknown (Kms.startSession details res.body err))
      (SessionOutcome url) x := by
  -- with this fault, only a challenge that asks for another method is refused in silence
  have href : RefusedInSilence res ↔
      ∃ req, Kms.parseChallenge res.body = .ok req ∧ req.sessionMethod ≠ lit "post" := by
    constructor
    · rintro ⟨-, fault, hf, hne | hreq⟩
      · exact absurd (Except.ok.inj (hf.symm.trans hfault)) hne
      · exact hreq
    · exact fun hreq => ⟨hstatus, _, hfault, .inr hreq⟩
  refine AgentView.sat_runNpm_startSession (fun hno e => ?_) (fun req hreq hne => ?_)
    fun req hparse hmethod => ?_
  · refine (hx.calm fun hr => ?_).sessionError
    obtain ⟨req, hreq, -⟩ := href.mp hr
    exact hno req hreq
  · have hsilent := hx.silent_iff (href.mpr ⟨req, hreq, hne⟩)
    exact ⟨hx.noKey, hsilent⟩
  · have hcalm : Calm url x := by
      refine hx.calm fun hr => ?_
      obtain ⟨req', hreq', hne⟩ := href.mp hr
      rw [hparse] at hreq'
      exact hne (Except.ok.inj hreq' ▸ hmethod)
    refine sat_unheard (c := .uninitialised _) (fun _ => nofun)
      (fun _ _ _ => rfl) fun _ y hk hw nonce => ?_
    have hy : Calm url y := hcalm.of_eq hk hw
    refine (sat_stmGetChallenge_heard hy).mono ?_
    rintro ⟨ret, challenge, e⟩ z hz
    cases ret with
    | false => exact ⟨fun _ => hz, nofun⟩
    | true => exact ⟨nofun, fun _ b _ => sat_postChallenge_heard hz.1⟩

/-- An answer to a transfer. -/
theorem Calm.asked {res : HttpResponse} {request : HttpRequest} (hx : Calm url x)
    (herr : err = x.2.sessionError) (hget : request.postdata = none)
    (hy : (heardView E).step (.httpsSend request) x res y) : Asked url err res y := by
  have hk : NoKey url y := by
    rw [NoKey, sysStep_keyagent hy.1 fun _ => nofun]
    exact hx.noKey
  have hw : y.2 = { x.2 with transfers := x.2.transfers ++ [res] } := by
    rw [show y.2 = Heard.note (.httpsSend request) x.1 res x.2 from hy.2, Heard.note, hget]
    rfl
  refine ⟨hk, ?_, ?_, ?_, ?_⟩
  · rw [hw]; exact hx.clean.challenges
  · rw [hw]; exact List.mem_append_right _ List.mem_cons_self
  · rw [hw]
    intro r hr hne
    rcases List.mem_append.mp hr with hr | hr
    · exact hx.clean.transfers r hr
    · exact absurd (List.mem_singleton.mp hr) hne
  · rw [hw]; exact herr

/-- The recursion: the error at hand is the one the last session left. -/
theorem sat_npmLoadkey_heard {serverUrl : Bytes} {details : KeyagentKeyloadDetails}
    {tries : Nat} (hx : Calm url x) (herr : err = x.2.sessionError) (hurl : details.url = url) :
    Sat (heardView E).logic (runNpm .unknown (Kms.npmLoadkey serverUrl details tries err))
      (Outcome url) x := by
  -- the answer to the last transfer is the only one that may be refused in silence
  refine AgentView.sat_runNpm_npmLoadkey (P := fun err y => Calm url y ∧ err = y.2.sessionError)
    (A := fun res err y => Asked url err res y) (fun _ _ hy _ => hy.1.error) (fun err y hy => ?_)
    (fun res err y hy hno e => ?_) (fun res err y fault hy hstatus hfault hne => ?_)
    (fun res err y hy hstatus hfault => ?_) (fun res err y hy hstatus => ?_) ⟨hx, herr⟩
  · refine AgentView.sat_sessionGetIds fun l _ request hget => ?_
    exact AgentView.sat_lift'.mpr ⟨trivial, fun res z hz => hy.1.asked hy.2 hget hz⟩
  · refine (hy.calm fun hr => ?_).error
    obtain ⟨hstatus, fault, hfault, -⟩ := hr
    exact hno hstatus fault hfault
  · exact .inr ⟨hy.noKey, hy.silent_iff ⟨hstatus, fault, hfault, .inl hne⟩⟩
  · refine (sat_startSession_heard hy hstatus hfault).mono ?_
    rintro ⟨started, e⟩ z hz
    cases started with
    | true => exact ⟨fun _ => hz, nofun⟩
    | false => exact ⟨nofun, fun _ => .inr hz⟩
  · refine sat_createKey_heard (hy.calm fun hr => ?_) hurl
    have hrefused := hr.1
    omega

/-! ### The agent -/

/-- The STM's part of a load leaves the keys alone, and does nothing if there is no key. -/
theorem sat_loadkeyStm_heard {requestId : Bytes} :
    Sat (heardView E).logic (loadkeyStm .unknown requestId url none)
      (fun r y => (NoKey url y ↔ NoKey url x) ∧ y.2 = x.2 ∧ (NoKey url x → r = (true, none))) x := by
  refine AgentView.sat_loadkeyStm nofun (fun _ _ => ⟨Iff.rfl, rfl, fun _ => rfl⟩) fun key _ hkey => ?_
  have hno : ¬NoKey url x := fun h => absurd (hkey.symm.trans h) (by simp)
  refine AgentView.sat_keyagentStmLoadKey (fun e => ⟨Iff.rfl, rfl, fun h => absurd h hno⟩) ?_
  intro _ _ _ _ _ _ _ _ _ _ _ _ _ _ _ _ _ _
  refine sat_unheard (c := .stm (.loadKey _ _ _)) (fun _ => nofun)
    (fun _ _ _ => rfl) fun a y hk hw => ⟨?_, hw, fun h => absurd h hno⟩
  rw [NoKey, hk]
  exact Iff.rfl

/-- `_loadkey` with the KMS module ends the search with the outcome of a transfer. -/
theorem sat_loadkey_heard (hx : Calm url x) (hsession : x.2.sessionError = none) {M : Modules}
    (hstm : M.stm = .unknown) {serverUrl : Bytes} {moduleData : Option ApimoduleUriData} :
    Sat (heardView E).logic (loadkey M (Kms.npm serverUrl) url moduleData none)
      (fun r y => if r.1 = true then Outcome url r y else y.2.Clean) x := by
  refine AgentView.sat_loadkey hx.clean ?_
  intro tmpError requestId y details hregister hy _ hurl
  have htmp : tmpError = none := by
    simp only [Kms.npm, Kms.npmRegister] at hregister
    split at hregister
    · simp at hregister
    · exact (Prod.mk.inj hregister).2.symm
  rw [hstm, htmp]
  have hk : y.1.keyagent = x.1.keyagent := sysStep_keyagent hy.1 fun _ => nofun
  have hw : y.2 = x.2 := hy.2
  have hcalm : Calm url y := hx.of_eq hk hw
  have hnone : none = y.2.sessionError := by rw [hw, hsession]
  refine Sat.mono (Q := Outcome url) ?_ ?_
  · exact sat_npmLoadkey_heard ⟨hcalm.noKey, hcalm.clean⟩ hnone hurl
  · rintro ⟨found, e⟩ z hz
    refine sat_loadkeyStm_heard.mono ?_
    rintro ⟨ret, e'⟩ v ⟨hkey, hv, hret⟩
    have hclean : ¬NoKey url z → v.2.Clean := by
      intro hno
      rcases hz with hz | hz
      · rw [hv]; exact hz.2
      · exact absurd hz.1 hno
    -- the error of the NPM only survives where no key was created
    by_cases hno : NoKey url z
    · obtain ⟨rfl, rfl⟩ := Prod.mk.inj (hret hno)
      rcases hz with hz | hz
      · exact absurd hno hz.1
      · refine .inr ⟨hkey.mpr hno, ?_⟩
        show gPropagateError e none = none ↔ v.2.Silent
        rw [hv, ← hz.2]
        cases e <;> simp [gPropagateError]
    · split
      · exact .inl ⟨fun h => hno (hkey.mp h), hclean hno⟩
      · exact hclean hno

/-- The part under the lock: the module is the only one. -/
theorem sat_loadkeyLocked_heard (hclean : x.2.Clean) (hsession : x.2.sessionError = none)
    {M : Modules} (hstm : M.stm = .unknown) {serverUrl : Bytes}
    (hnpm : M.npmHash = [Kms.npm serverUrl]) {moduleData : Option ApimoduleUriData} :
    Sat (heardView E).logic (loadkeyLocked M url moduleData none)
      (fun r y => (r.1 = false → r.2 ≠ none) ↔ ¬y.2.Silent) x := by
  refine AgentView.sat_loadkeyLocked (fun _ => by simp [hclean.not_silent]) fun hno => ?_
  rw [hnpm, npmHashFind]
  refine (sat_loadkey_heard ⟨hno, hclean⟩ hsession hstm).bind ?_
  rintro ⟨ret, e⟩ y hy
  cases ret with
  | false =>
    exact sat_seq_pure.mpr ⟨fun _ _ => by simp [Heard.Clean.not_silent hy], nofun⟩
  | true =>
    refine sat_seq_pure.mpr ⟨nofun, fun _ => ?_⟩
    rcases hy with ⟨hkey, hy⟩ | ⟨hkey, hy⟩
    · have hsome : (y.1.keyagent.keyHash.lookup (hashKey url)).isSome = true :=
        Option.isSome_iff_ne_none.mpr hkey
      exact iff_of_true (fun h => absurd (hsome.symm.trans h) (by decide)) hy.not_silent
    · have hnone : (y.1.keyagent.keyHash.lookup (hashKey url)).isSome = false := by
        rw [hkey]; rfl
      exact ⟨fun h hs => h hnone (hy.mpr hs), fun hs _ he => hs (hy.mp he)⟩

/--
**When a load that fails has an error.** The agent's only NPM is the KMS module; nothing is assumed
of the URL, of the agent's state, of KBS and of the STM.
-/
theorem load_error_set {M : Modules} {serverUrl : Bytes} {moduleData : Option ApimoduleUriData}
    {s t : World W} {ret : Bool} {w : Heard} (hstm : M.stm = .unknown)
    (hnpm : M.npmHash = [Kms.npm serverUrl])
    (hr : Runs ((sysStep E 0).observed Heard.note)
      (keyagentLoadkeyWithModuledata M url moduleData none) (s, .nothing) (ret, err) (t, w)) :
    (ret = false → err ≠ none) ↔ ¬SilentLoad url w := by
  have hclean : Heard.nothing.Clean := ⟨by simp [Heard.nothing], by simp [Heard.nothing]⟩
  have hs : Sat (heardView E).logic (keyagentLoadkeyWithModuledata M url moduleData none)
      (fun r y => (r.1 = false → r.2 ≠ none) ↔ ¬SilentLoad url y.2) (s, .nothing) := by
    refine AgentView.sat_loadkeyWithModuledata (fun hm => by simp [SilentLoad, hm])
      fun hm => ⟨trivial, fun _ y hy => ?_⟩
    have hw : y.2 = .nothing := hy.2
    refine (sat_loadkeyLocked_heard (hw ▸ hclean) (by rw [hw]; rfl) hstm hnpm).mono ?_
    intro r z hz
    refine ⟨trivial, fun _ v hv => ?_⟩
    have hv : v.2 = z.2 := hv.2
    simpa [SilentLoad, hm, hv] using hz
  exact hs.runs hr

end Module

/-! ## Two loads that fail -/

/-- An agent with the KMS module and one STM. -/
def kmsModules : Modules where
  config := ⟨[], [], [], true, true⟩
  npmHash := [Kms.npm (lit "https://kbs")]
  stm := .unknown

/-- A KBS that always gives one answer. -/
def answerHandler (res : HttpResponse) : (c : Call) → Unit → Option (c.Ans × Unit) := fun c _ =>
  match c with
  | .generateUuid => some (lit "uuid", ())
  | .httpsSend _ => some (res, ())
  | _ => none

/-- The surroundings with that KBS. -/
def answerStep (res : HttpResponse) : Step skcSig Unit := fun c w a w' =>
  answerHandler res c w = some (a, w')

/-- KBS cannot be reached. -/
def unreachable : HttpResponse := ⟨0, [], .null⟩

/-- KBS refuses the key for another reason than a missing session. -/
def forbidden : HttpResponse :=
  ⟨401, [], .object [(lit "status", .string (lit "failure")),
    (lit "faults", .array [.object [(lit "type", .string (lit "not-permitted"))]])]⟩

theorem load_error_set_unreachable : ∃ (t : World Unit) (e : GError) (w : Heard),
    Runs ((sysStep (answerStep unreachable) 0).observed Heard.note)
      (keyagentLoadkeyWithModuledata kmsModules (lit "KMS:1") none none) (sgxWorld, .nothing)
      (false, some e) (t, w) ∧ ¬SilentLoad (lit "KMS:1") w := by
  obtain ⟨⟨⟨ret, err⟩, t, w⟩, hr, hv⟩ := Option.map_eq_some_iff.mp (show
    ((keyagentLoadkeyWithModuledata kmsModules (lit "KMS:1") none none).run
      (observing (sysHandler (answerHandler unreachable) 0) Heard.note) (sgxWorld, .nothing)).map
      (fun r => (r.1.1, r.1.2.isSome)) = some (false, true) by decide +kernel)
  obtain ⟨rfl, he⟩ := Prod.mk.inj hv
  obtain ⟨e, rfl⟩ := Option.isSome_iff_exists.mp he
  have hruns := Prog.run_runs (R := (sysStep (answerStep unreachable) 0).observed Heard.note)
    (observing_step sysHandler_answers) hr
  exact ⟨t, e, w, hruns, (load_error_set rfl rfl hruns).mp fun _ => nofun⟩

theorem not_load_error_set : ¬∀ (W : Type) (E : Step skcSig W) (M : Modules) (serverUrl url : Bytes)
    (moduleData : Option ApimoduleUriData) (s t : World W) (err : Option GError),
    M.stm = .unknown → M.npmHash = [Kms.npm serverUrl] →
    Runs (sysStep E 0) (keyagentLoadkeyWithModuledata M url moduleData none) s (false, err) t →
    err ≠ none := by
  intro h
  obtain ⟨⟨r, t⟩, hr, hv⟩ := Option.map_eq_some_iff.mp (show
    ((keyagentLoadkeyWithModuledata kmsModules (lit "KMS:1") none none).run
      (sysHandler (answerHandler forbidden) 0) sgxWorld).map (fun r => r.1)
      = some (false, none) by decide +kernel)
  obtain rfl : r = (false, none) := hv
  exact h Unit (answerStep forbidden) kmsModules (lit "https://kbs") (lit "KMS:1") none sgxWorld t
    none rfl rfl (Prog.run_runs sysHandler_answers hr) rfl

end SkcLibrary
