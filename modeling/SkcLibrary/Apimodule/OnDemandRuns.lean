import SkcLibrary.Apimodule.Rules
import SkcLibrary.Keyagent.LoadRules
import SkcLibrary.Npm.KmsRuns

/-!
# Runs of key loads

`C_OnDemand_KeyLoad`, called again and again, with NPMs and an STM about which nothing is known. A
call that succeeds should have found the object, or a key that was once loaded into the token.

A key stays in `key_hash` when the STM fails to load it, and the next call for its URL takes it for
loaded. `Settled` is the condition that a call meets no such key.

* `loads_justified` — the calls that succeed for a good reason
-/

namespace SkcLibrary

open Interaction

variable {W : Type}

/-! ## Runs -/

/-- What was seen of a run. -/
structure Seen where
  /-- The URLs for which the STM's `load_key` has returned `TRUE`. -/
  loaded : List Bytes
  /-- `apimodule_findobject` has found the object of the present call. -/
  found : Bool

/-- Before the first call. -/
def Seen.nothing : Seen := ⟨[], false⟩

/-- One more call of the library. -/
def Seen.note (c : Call) (_ : World W) : c.Ans → Seen → Seen :=
  match c with
  | .stm (.loadKey _ details _) => fun a w =>
    if a.1 then { w with loaded := w.loaded ++ [details.url] } else w
  | .ck (.cFindObjects _) => fun a w => { w with found := a.1 = ckrOk ∧ a.2 ≠ [] }
  | .ck (.cFindObjectsFinal _) => fun rv w => { w with found := w.found && rv = ckrOk }
  | _ => fun _ w => w

/-- The URL that a call asks the agent for. -/
def callUrl (L : Library) (uri : Bytes) : Option Bytes :=
  (apimoduleUriToUriData (L.p11KitUriParse (cstr uri)) uri).map (keyUrl · uri)

/-- A whole call; whether its object was found is seen anew. -/
def LoadCall (L : Library) (E : Step skcSig W) (cInitialize : Skc CkRv) (uri : Bytes)
    (x : World W × Seen) (rv : CkRv) (y : World W × Seen) : Prop :=
  Runs ((sysStep E 0).observed Seen.note) (cOnDemandKeyLoad L .unknown cInitialize uri)
    (x.1, { x.2 with found := false }) rv y

/-- The states between the calls of a run that meet a condition. -/
inductive LoadReach (L : Library) (E : Step skcSig W) (cInitialize : Skc CkRv)
    (allow : Bytes → World W × Seen → Prop) (x : World W × Seen) : World W × Seen → Prop where
  | refl : LoadReach L E cInitialize allow x x
  | call {uri : Bytes} {rv : CkRv} {y z : World W × Seen} :
      LoadReach L E cInitialize allow x y → allow uri y → LoadCall L E cInitialize uri y rv z →
      LoadReach L E cInitialize allow x z

/-- If the URL of the call has a key, the key was once loaded. -/
def Settled (L : Library) (uri : Bytes) (x : World W × Seen) : Prop :=
  ∀ url, callUrl L uri = some url → x.1.keyagent.keyHash.lookup (hashKey url) ≠ none →
    url ∈ x.2.loaded

/-- A call that succeeds has found its object, or its key was loaded, now or before. -/
def Justified (L : Library) (uri : Bytes) (rv : CkRv) (y : World W × Seen) : Prop :=
  rv = ckrOk → y.2.found = true ∨ ∃ url, callUrl L uri = some url ∧ url ∈ y.2.loaded

/-! ## The keys of the agent -/

/-- Every key is stored under its own URL. -/
def KeyUrls (k : Keyagent) : Prop :=
  ∀ url key, k.keyHash.lookup (hashKey url) = some key → key.url = url

theorem KeyUrls.of_empty {k : Keyagent} (h : k.keyHash = ∅) : KeyUrls k := by
  intro url key hkey
  rw [h] at hkey
  simp at hkey

theorem KeyUrls.of_keysFrom {k k' : Keyagent} (h : KeyUrls k) (hk : KeysFrom k k') :
    KeyUrls k' := by
  intro url key' hkey'
  obtain ⟨key, hkey, he⟩ := hk.keys _ key' hkey'
  rw [← (KeyagentKeyReal.uncached_eq he).1]
  exact h url key hkey

theorem KeyUrls.of_keyHash {k k' : Keyagent} (h : KeyUrls k) (hk : k'.keyHash = k.keyHash) :
    KeyUrls k' := by
  intro url key hkey
  rw [hk] at hkey
  exact h url key hkey

theorem KeyUrls.insertKey {k : Keyagent} (h : KeyUrls k) (key : KeyagentKeyReal) :
    KeyUrls (k.insertKey key) := by
  intro url key' hkey'
  rw [Keyagent.insertKey, GHashTable.lookup_insert_eq] at hkey'
  split at hkey'
  · next he =>
    have hurl : url = key.url := by simpa [hashKey, gQuarkFromString] using he
    rw [← Option.some.inj hkey', hurl]
  · exact h url key' hkey'

/-! ## One call -/

/-- A single thread, and what is seen of it. -/
def seenView (E : Step skcSig W) : AgentView (World W × Seen) :=
  observedView E Seen.note (fun _ _ => True) (fun _ _ _ => rfl) (fun _ _ _ _ => rfl)
    (fun _ _ _ => rfl) fun _ => trivial

section Calls

variable {E : Step skcSig W} {x y : World W × Seen} {url : Bytes}

theorem seen_quiet {R : Keyagent → Keyagent → Prop} (h : (seenView E).Quiet R x y) :
    y.2 = x.2 := observedView_quiet (fun _ _ _ _ => rfl) h

/-- A call that is neither seen nor changes the agent's variables. -/
theorem sat_unseen {c : Call} (hmod : ∀ f, c ≠ .modifyKeyagent f)
    (hnote : ∀ s a w, Seen.note (W := W) c s a w = w) {Q : c.Ans → World W × Seen → Prop}
    (h : ∀ a y, y.1.keyagent = x.1.keyagent → y.2 = x.2 → Q a y) :
    Sat (seenView E).logic (Prog.lift (S := skcSig) c) Q x :=
  AgentView.sat_lift'.mpr ⟨trivial, fun a y hy =>
    h a y (sysStep_keyagent hy.1 hmod) (hy.2.trans (hnote _ _ _))⟩

/-- No operation of an NPM loads a key into the token. -/
theorem sat_npmOps_seen (c : NpmCall) (hx : KeyUrls x.1.keyagent) :
    Sat (seenView E).logic (npmOps .unknown c)
      (fun _ y => KeyUrls y.1.keyagent ∧ y.2 = x.2) x := by
  cases c with
  | sessionGetIds => exact AgentView.sat_sessionGetIds fun _ _ => ⟨hx, rfl⟩
  | stmGetChallenge requestId nonce name error =>
    refine AgentView.sat_keyagentStmGetChallenge (fun _ => ⟨hx, rfl⟩) fun lstm request _ _ => ?_
    refine sat_unseen (c := .stm (.createChallenge _ _ _)) (fun _ => nofun)
      (fun _ _ _ => rfl) fun a y hk hw => ⟨?_, hw⟩
    rw [hk]
    exact hx
  | sessionCreate requestId name sessionId swk swkType error =>
    refine AgentView.sat_sessionCreate_quiet (fun _ => ⟨hx, rfl⟩) fun session err' t ht => ?_
    have hkeys : KeyUrls t.1.keyagent := hx.of_keysFrom ht.keysFrom
    have hw : t.2 = x.2 := seen_quiet ht
    refine AgentView.sat_keyagentStmSetSession (fun _ _ _ _ => ⟨hkeys, hw⟩)
      fun data lstm request _ _ _ => ?_
    refine sat_unseen (c := .stm (.setSession _ _ _)) (fun _ => nofun)
      (fun _ _ _ => rfl) fun a y hk hw' => ⟨?_, hw'.trans hw⟩
    rw [hk]
    exact hkeys
  | keyCreate requestId url type attrs sessionId error =>
    refine AgentView.sat_keyagentKeyCreateWithCacheid (fun _ _ => ⟨hx, rfl⟩) ?_ ?_
    · exact fun key err' t _ ht => ⟨hx.of_keysFrom (.of_cacheEq ht.cacheEq), seen_quiet ht⟩
    · intro a id r err' t _ _ _ _ ht
      have hw : t.2 = ((seenView E).put x _).2 := seen_quiet ht
      exact ⟨(hx.insertKey _).of_keysFrom (.of_cacheEq ht.cacheEq), hw⟩
  | httpsSend request =>
    exact sat_unseen (c := .httpsSend _) (fun _ => nofun) (fun _ _ _ => rfl)
      fun a y hk hw => ⟨by rw [hk]; exact hx, hw⟩
  | uninitialised n =>
    exact sat_unseen (c := .uninitialised _) (fun _ => nofun) (fun _ _ _ => rfl)
      fun a y hk hw => ⟨by rw [hk]; exact hx, hw⟩
  | fault reason => exact sat_seq_call.mpr ⟨trivial, fun a => nomatch a⟩

/-- What every part of a call keeps. -/
structure Progress (x y : World W × Seen) : Prop where
  urls : KeyUrls y.1.keyagent
  found : y.2.found = x.2.found
  loaded : x.2.loaded ⊆ y.2.loaded

theorem Progress.of_eq (hx : KeyUrls x.1.keyagent) (hk : y.1.keyagent.keyHash = x.1.keyagent.keyHash)
    (hw : y.2 = x.2) : Progress x y where
  urls := hx.of_keyHash hk
  found := by rw [hw]
  loaded := by rw [hw]; exact List.Subset.refl _

theorem Progress.trans {z : World W × Seen} (h : Progress x y) (h' : Progress y z) :
    Progress x z where
  urls := h'.urls
  found := h'.found.trans h.found
  loaded := List.Subset.trans h.loaded h'.loaded

/-- The STM's part of a load says `TRUE` when the key was loaded. -/
theorem sat_loadkeyStm_seen (hx : KeyUrls x.1.keyagent) {requestId : Bytes} :
    Sat (seenView E).logic (loadkeyStm .unknown requestId url none)
      (fun r y => Progress x y ∧
        (r.1 = true → url ∈ y.2.loaded ∨ y.1.keyagent.keyHash.lookup (hashKey url) = none)) x := by
  refine AgentView.sat_loadkeyStm nofun (fun _ hkey => ⟨.of_eq hx rfl rfl, fun _ => .inr hkey⟩)
    fun key _ hkey => ?_
  refine AgentView.sat_keyagentStmLoadKey (fun e => ⟨.of_eq hx rfl rfl, nofun⟩) ?_
  intro r data lstm request current cdata keydata iv wrappedKey tagSize _ _ _ _ _ _ _ _
  refine (AgentView.sat_lift' (c := .stm _)).mpr ⟨trivial, fun a y hy => ?_⟩
  have hk : y.1.keyagent = x.1.keyagent := sysStep_keyagent hy.1 fun _ => nofun
  have hw : y.2 = if a.1 then { x.2 with loaded := x.2.loaded ++ [key.url] } else x.2 := hy.2
  rw [hx url key hkey] at hw
  split at hw
  · refine ⟨⟨by rw [hk]; exact hx, by rw [hw], ?_⟩, fun _ => .inl ?_⟩
    · rw [hw]
      exact List.subset_append_left _ _
    · rw [hw]
      exact List.mem_append_right _ List.mem_cons_self
  · next hret => exact ⟨.of_eq hx (by rw [hk]) hw, fun h => absurd h hret⟩

/-- A `register` that accepts a URL leaves no error. -/
def RegisterClean (npm : KeyagentNpmReal) : Prop := ∀ url e, npm.register url = (true, e) → e = none

theorem sat_loadkey_seen (hx : KeyUrls x.1.keyagent) {M : Modules} (hstm : M.stm = .unknown)
    {npm : KeyagentNpmReal} (hnpm : RegisterClean npm) {moduleData : Option ApimoduleUriData}
    {err : Option GError} :
    Sat (seenView E).logic (loadkey M npm url moduleData err)
      (fun r y => Progress x y ∧
        (r.1 = true → url ∈ y.2.loaded ∨ y.1.keyagent.keyHash.lookup (hashKey url) = none)) x := by
  refine AgentView.sat_loadkey ⟨.of_eq hx rfl rfl, nofun⟩ ?_
  intro tmpError requestId y details hregister hy _ _
  -- the NPM takes the URL and leaves no error of its own behind
  rw [hnpm url _ hregister, hstm]
  have hk : y.1.keyagent = x.1.keyagent := sysStep_keyagent hy.1 fun _ => nofun
  have hw : y.2 = x.2 := hy.2
  refine (AgentView.sat_runNpm (J := fun z => KeyUrls z.1.keyagent ∧ z.2 = x.2) _
    (fun c t ht => (sat_npmOps_seen c ht.1).mono fun _ u hu => ⟨hu.1, hu.2.trans ht.2⟩)
    ⟨?_, hw⟩).mono ?_
  · have hkeys : y.1.keyagent.keyHash = x.1.keyagent.keyHash := by rw [hk]
    exact hx.of_keyHash hkeys
  · rintro ⟨_, e⟩ z ⟨hz, hzw⟩
    refine (sat_loadkeyStm_seen hz).mono ?_
    rintro ⟨ret, e'⟩ v ⟨hv, hret⟩
    refine ⟨⟨hv.urls, ?_, ?_⟩, hret⟩
    · exact hv.found.trans (congrArg Seen.found hzw)
    · exact (congrArg Seen.loaded hzw) ▸ hv.loaded

/-- The search among the NPMs: the first that ends it decides. -/
theorem sat_npmHashFind_seen (hx : KeyUrls x.1.keyagent) {M : Modules}
    (hstm : M.stm = .unknown) {npms : List KeyagentNpmReal} (hnpm : ∀ npm ∈ npms, RegisterClean npm)
    {moduleData : Option ApimoduleUriData} {err : Option GError} :
    Sat (seenView E).logic (npmHashFind M url moduleData npms err)
      (fun r y => Progress x y ∧
        (r.1 = true → url ∈ y.2.loaded ∨ y.1.keyagent.keyHash.lookup (hashKey url) = none)) x := by
  induction npms generalizing x err with
  | nil => exact sat_seq_pure.mpr ⟨.of_eq hx rfl rfl, nofun⟩
  | cons npm rest ih =>
    refine (sat_loadkey_seen hx hstm (hnpm npm List.mem_cons_self)).bind ?_
    rintro ⟨ret, e⟩ y ⟨hy, hret⟩
    cases ret with
    | true => exact sat_seq_pure.mpr ⟨hy, hret⟩
    | false =>
      refine (ih hy.urls fun npm hm => hnpm npm (List.mem_cons_of_mem _ hm)).mono ?_
      exact fun r z hz => ⟨hy.trans hz.1, hz.2⟩

/-- What a load does for a URL: nothing if it has a key, else it must load one to succeed. -/
structure Loaded (url : Bytes) (ok : Prop) (x y : World W × Seen) : Prop where
  progress : Progress x y
  hit : x.1.keyagent.keyHash.lookup (hashKey url) ≠ none → y.2.loaded = x.2.loaded
  miss : ok → x.1.keyagent.keyHash.lookup (hashKey url) = none → url ∈ y.2.loaded

theorem sat_loadkeyLocked_seen (hx : KeyUrls x.1.keyagent) {M : Modules}
    (hstm : M.stm = .unknown) (hnpm : ∀ npm ∈ M.npmHash, RegisterClean npm)
    {moduleData : Option ApimoduleUriData} {err : Option GError} :
    Sat (seenView E).logic (loadkeyLocked M url moduleData err)
      (fun r y => Loaded url (r.1 = true) x y) x := by
  refine AgentView.sat_loadkeyLocked
    (fun hne => ⟨.of_eq hx rfl rfl, fun _ => rfl, fun _ hno => absurd hno hne⟩) fun hno => ?_
  have hmiss : x.1.keyagent.keyHash.lookup (hashKey url) = none := hno
  refine (sat_npmHashFind_seen hx hstm hnpm).mono ?_
  rintro ⟨found, e⟩ y ⟨hy, hret⟩
  refine ⟨fun _ _ => ⟨hy, fun h => absurd hmiss h, nofun⟩, fun hfound => ?_⟩
  refine ⟨hy, fun h => absurd hmiss h, fun hsome _ => ?_⟩
  -- a key that was missing is either loaded here or still missing
  rcases hret hfound with h | h
  · exact h
  · rw [show (seenView E).ka y = y.1.keyagent from rfl, h] at hsome
    simp at hsome

theorem sat_loadkeyWithModuledata_seen (hx : KeyUrls x.1.keyagent) {M : Modules}
    (hstm : M.stm = .unknown) (hnpm : ∀ npm ∈ M.npmHash, RegisterClean npm)
    {moduleData : Option ApimoduleUriData} {err : Option GError} :
    Sat (seenView E).logic (keyagentLoadkeyWithModuledata M url moduleData err)
      (fun r y => Loaded url (r.1 = true) x y) x := by
  refine AgentView.sat_loadkeyWithModuledata (fun _ => ⟨.of_eq hx rfl rfl, fun _ => rfl, nofun⟩)
    fun _ => ⟨trivial, fun _ y hy => ?_⟩
  have hk : y.1.keyagent = x.1.keyagent := sysStep_keyagent hy.1 fun _ => nofun
  have hw : y.2 = x.2 := hy.2
  refine (sat_loadkeyLocked_seen (by rw [hk]; exact hx) hstm hnpm).mono fun r z hz => ?_
  refine ⟨trivial, fun _ v hv => ?_⟩
  have hkv : v.1.keyagent = z.1.keyagent := sysStep_keyagent hv.1 fun _ => nofun
  have hwv : v.2 = z.2 := hv.2
  have hp : Progress x v := (Progress.of_eq hx (by rw [hk]) hw).trans
    (hz.progress.trans (.of_eq hz.progress.urls (by rw [hkv]) hwv))
  refine ⟨hp, fun h => ?_, fun hret h => ?_⟩
  · rw [hwv, hz.hit (by rw [hk]; exact h), hw]
  · rw [hwv]
    exact hz.miss hret (by rw [hk]; exact h)

theorem sat_onDemandLoadkey_seen {L : Library} (hx : KeyUrls x.1.keyagent)
    (hnpm : ∀ npm ∈ L.npmHash, RegisterClean npm) {uriData : ApimoduleUriData} {uri : Bytes}
    {err : Option GError} :
    Sat (seenView E).logic (onDemandLoadkey L .unknown uriData uri err)
      (fun rv y => Loaded (keyUrl uriData uri) (rv = ckrOk) x y) x := by
  refine (sat_loadkeyWithModuledata_seen (M := L.modules .unknown) hx rfl hnpm).bind ?_
  rintro ⟨ret, e⟩ y hy
  cases ret with
  | true => exact sat_seq_pure.mpr ⟨hy.progress, hy.hit, fun _ => hy.miss rfl⟩
  | false =>
    refine AgentView.sat_deref.mpr fun e _ => sat_seq_pure.mpr ?_
    exact ⟨hy.progress, hy.hit, fun h => absurd h (by decide)⟩

/-- The look-up of a token leaves the agent alone. -/
theorem TokenCall.unseen {c : Call} (hc : TokenCall c) {s t : World W × Seen} {a : c.Ans}
    (hs : (seenView E).step c s a t) : t.1.keyagent = s.1.keyagent ∧ t.2 = s.2 := by
  refine ⟨sysStep_keyagent hs.1 fun f hf => ?_, hs.2.trans ?_⟩
  · rw [hf] at hc
    exact hc
  · cases c with
    | ck d => cases d <;> first | rfl | exact hc.elim
    | stm d => exact hc.elim
    | _ => rfl

theorem sat_tokenCalls_seen {α : Type} {p : Skc α} (hp : p.Issues TokenCall) :
    Sat (seenView E).logic p (fun _ y => y.1.keyagent = x.1.keyagent ∧ y.2 = x.2) x := by
  refine Sat.of_issues hp stable_seq (fun c hc t ht => ?_) ⟨rfl, rfl⟩
  refine ⟨trivial, fun a u hu => ⟨trivial, ?_⟩⟩
  obtain ⟨hk, hw⟩ := hc.unseen hu
  exact ⟨hk.trans ht.1, hw.trans ht.2⟩

/-- `apimodule_findobject` is seen to find an object. -/
theorem sat_findobject_seen {session : Nat} {data : ApimoduleUriData} :
    Sat (seenView E).logic (apimoduleFindobject session data)
      (fun r y => y.1.keyagent = x.1.keyagent ∧ y.2.loaded = x.2.loaded ∧
        (r.1 = ckrOk → r.2 = true → y.2.found = true)) x := by
  have hka : ∀ {d : CkCall} {s t : World W × Seen} {a : d.Ans},
      (seenView E).step (.ck d) s a t → t.1.keyagent = s.1.keyagent := fun h =>
    sysStep_keyagent h.1 fun _ => nofun
  unfold apimoduleFindobject
  refine AgentView.sat_ck.mpr ⟨trivial, fun rv y hy => ?_⟩
  have hw : y.2 = x.2 := hy.2
  split
  · exact sat_seq_pure.mpr ⟨hka hy, by rw [hw], nofun⟩
  · refine AgentView.sat_ck.mpr ⟨trivial, fun a z hz => ?_⟩
    obtain ⟨rv, objects⟩ := a
    have hwz : z.2 = { y.2 with found := rv = ckrOk ∧ objects ≠ [] } := hz.2
    dsimp only
    split
    · exact sat_seq_pure.mpr ⟨(hka hz).trans (hka hy), by rw [hwz, hw], nofun⟩
    · next hrv =>
      refine AgentView.sat_ck.mpr ⟨trivial, fun rv' u hu => ?_⟩
      have hwu : u.2 = { z.2 with found := z.2.found && rv' = ckrOk } := hu.2
      have hku : u.1.keyagent = x.1.keyagent := (hka hu).trans ((hka hz).trans (hka hy))
      split
      · exact sat_seq_pure.mpr ⟨hku, by rw [hwu, hwz, hw], nofun⟩
      · next hrv' =>
        -- the search found an object if the list is not empty
        cases objects with
        | nil => exact sat_seq_pure.mpr ⟨hku, by rw [hwu, hwz, hw], nofun⟩
        | cons object rest =>
          refine AgentView.sat_ck.mpr ⟨trivial, fun rv'' v hv => sat_seq_pure.mpr ?_⟩
          have hwv : v.2 = u.2 := hv.2
          refine ⟨(hka hv).trans hku, by rw [hwv, hwu, hwz, hw], fun _ _ => ?_⟩
          rw [hwv, hwu, hwz]
          rw [ne_eq, not_not] at hrv hrv'
          simp [hrv, hrv']

/-- The specification of a whole call. -/
structure CallSpec (L : Library) (uri : Bytes) (x : World W × Seen) (rv : CkRv)
    (y : World W × Seen) : Prop where
  urls : KeyUrls y.1.keyagent
  loaded : x.2.loaded ⊆ y.2.loaded
  hit : ∀ url, callUrl L uri = some url → x.1.keyagent.keyHash.lookup (hashKey url) ≠ none →
    y.2.loaded = x.2.loaded
  miss : rv = ckrOk → y.2.found = true ∨ ∃ url, callUrl L uri = some url ∧
    (x.1.keyagent.keyHash.lookup (hashKey url) = none → url ∈ y.2.loaded)

theorem sat_onDemand_seen {L : Library} (hx : KeyUrls x.1.keyagent)
    (hnpm : ∀ npm ∈ L.npmHash, RegisterClean npm) {cInitialize : Skc CkRv} {uri : Bytes} :
    Sat (seenView E).logic (cOnDemandKeyLoad L .unknown cInitialize uri) (CallSpec L uri x) x := by
  unfold cOnDemandKeyLoad
  split
  · refine sat_seq_pure.mpr ⟨hx, List.Subset.refl _, fun _ _ _ => rfl, fun h => ?_⟩
    exact absurd h (by decide)
  · next uriData huri =>
    have hurl : callUrl L uri = some (keyUrl uriData uri) := by rw [callUrl, huri]; rfl
    -- the agent is asked, in a state in which nothing it looks at has changed
    have hload : ∀ y : World W × Seen, y.1.keyagent = x.1.keyagent → y.2.loaded = x.2.loaded →
        ∀ err, Sat (seenView E).logic (onDemandLoadkey L .unknown uriData uri err)
          (CallSpec L uri x) y := by
      intro y hk hw err
      refine (sat_onDemandLoadkey_seen (by rw [hk]; exact hx) hnpm).mono fun rv z hz => ?_
      refine ⟨hz.progress.urls, hw ▸ hz.progress.loaded, ?_, fun hrv => .inr ⟨_, hurl, fun h => ?_⟩⟩
      · intro url hurl' h
        rw [hurl, Option.some.injEq] at hurl'
        rw [← hw]
        exact hz.hit (by rw [hk, hurl']; exact h)
      · exact hz.miss hrv (by rw [hk]; exact h)
    refine (sat_tokenCalls_seen (lookupOrInitToken_issues _ _ _)).bind ?_
    rintro ⟨atoken, err⟩ y ⟨hk, hw⟩
    cases atoken with
    | none => exact hload y hk (by rw [hw]) err
    | some atoken =>
      refine (sat_tokenCalls_seen (readToken_issues atoken)).bind fun token z hz => ?_
      have hkz : z.1.keyagent = x.1.keyagent := hz.1.trans hk
      have hwz : z.2 = x.2 := hz.2.trans hw
      have hend : ∀ rv u, u.1.keyagent = x.1.keyagent → u.2.loaded = x.2.loaded →
          (rv = ckrOk → u.2.found = true) → CallSpec L uri x rv u := fun rv u hku hwu hrv =>
        ⟨by rw [hku]; exact hx, by rw [hwu]; exact List.Subset.refl _, fun _ _ _ => hwu,
          fun h => .inl (hrv h)⟩
      split
      · exact sat_seq_pure.mpr (hend _ z hkz (by rw [hwz]) fun h => absurd h (by decide))
      · refine sat_findobject_seen.bind ?_
        rintro ⟨rv, isPresent⟩ u ⟨hku, hwu, hfound⟩
        have hku' : u.1.keyagent = x.1.keyagent := hku.trans hkz
        have hwu' : u.2.loaded = x.2.loaded := by rw [hwu, hwz]
        dsimp only
        split
        · next hstop =>
          refine sat_seq_pure.mpr (hend _ u hku' hwu' fun hrv => hfound hrv ?_)
          exact hstop.resolve_left fun h => h hrv
        · exact hload u hku' hwu' err

end Calls

/-! ## Every run -/

section Runs

variable {L : Library} {E : Step skcSig W} {cInitialize : Skc CkRv} {s : World W}
  {x y : World W × Seen} {allow : Bytes → World W × Seen → Prop}

theorem LoadCall.spec (hx : KeyUrls x.1.keyagent) (hnpm : ∀ npm ∈ L.npmHash, RegisterClean npm)
    {uri : Bytes} {rv : CkRv} (h : LoadCall L E cInitialize uri x rv y) :
    CallSpec L uri (x.1, { x.2 with found := false }) rv y :=
  (sat_onDemand_seen (x := (x.1, { x.2 with found := false })) hx hnpm).runs h

theorem LoadReach.urls (hx : KeyUrls x.1.keyagent)
    (hnpm : ∀ npm ∈ L.npmHash, RegisterClean npm) (h : LoadReach L E cInitialize allow x y) :
    KeyUrls y.1.keyagent := by
  induction h with
  | refl => exact hx
  | call _ _ hc ih => exact (hc.spec ih hnpm).urls

/--
**The calls that succeed.** In a run whose calls are all settled, every call that succeeds is
justified; and in any run, a call that succeeds without having found its object is justified if and
only if it is settled.
-/
theorem loads_justified (hempty : s.keyagent.keyHash = ∅)
    (hnpm : ∀ npm ∈ L.npmHash, RegisterClean npm) :
    (∀ x, LoadReach L E cInitialize (Settled L) (s, .nothing) x → ∀ uri rv y, Settled L uri x →
      LoadCall L E cInitialize uri x rv y → Justified L uri rv y) ∧
    (∀ x, LoadReach L E cInitialize (fun _ _ => True) (s, .nothing) x → ∀ uri rv y,
      LoadCall L E cInitialize uri x rv y →
      (Justified L uri rv y ↔ (rv = ckrOk → y.2.found = false → Settled L uri x))) := by
  have key : ∀ {allow : Bytes → World W × Seen → Prop} {x},
      LoadReach L E cInitialize allow (s, .nothing) x → ∀ uri rv y,
      LoadCall L E cInitialize uri x rv y →
      (Justified L uri rv y ↔ (rv = ckrOk → y.2.found = false → Settled L uri x)) := by
    intro allow x hx uri rv y hc
    have hspec := hc.spec (hx.urls (.of_empty hempty) hnpm) hnpm
    constructor
    -- the key was in the table, so the call did not load it: an earlier call did
    · intro hj hrv hfound url hurl hkey
      rcases hj hrv with h | ⟨url', hurl', hmem⟩
      · simp [hfound] at h
      · rw [hurl, Option.some.injEq] at hurl'
        rw [← hurl', hspec.hit url hurl hkey] at hmem
        exact hmem
    · intro hs hrv
      rcases hspec.miss hrv with h | ⟨url, hurl, hmiss⟩
      · exact .inl h
      · by_cases hfound : y.2.found = true
        · exact .inl hfound
        · by_cases hkey : x.1.keyagent.keyHash.lookup (hashKey url) = none
          · exact .inr ⟨url, hurl, hmiss hkey⟩
          · have hmem := hs hrv (Bool.eq_false_iff.mpr hfound) url hurl hkey
            exact .inr ⟨url, hurl, hspec.loaded hmem⟩
  exact ⟨fun x hx uri rv y hs hc => (key hx uri rv y hc).mpr fun _ _ => hs,
    fun x hx uri rv y hc => key hx uri rv y hc⟩

end Runs

/-! ## Two loads of one key -/

/-- A library with the KMS module; its URIs name one key. -/
def kmsLibrary : Library where
  config := ⟨[], [], [], true, true⟩
  npmHash := [Kms.npm (lit "https://kbs")]
  sgxStm := ⟨lit "ECDSA", some (lit "PERSISTENT")⟩
  rsaPublicKeyParams := ckRsaPublicKeyParams
  p11KitUriParse _ := some
    { tokenLabel := lit "KMS", label := some (lit "key"), id := some (List.replicate 36 97),
      objectClass := some ckoPrivateKey, pinValue := some (lit "1234") }
  preLoadKeyfile := lit "NIL"

theorem registerClean_kms (serverUrl : Bytes) : RegisterClean (Kms.npm serverUrl) := by
  intro url e h
  simp only [Kms.npm, Kms.npmRegister] at h
  split at h
  · simp at h
  · exact (Prod.mk.inj h).2.symm

theorem registerClean_kmsLibrary : ∀ npm ∈ kmsLibrary.npmHash, RegisterClean npm := by
  intro npm hnpm
  rw [List.mem_singleton.mp hnpm]
  exact registerClean_kms _

/-- A KBS that hands out sessions and keys, an STM that loads keys or not, and no token. -/
def loadHandler (loads : Bool) (c : Call) (w : Unit) : Option (c.Ans × Unit) :=
  match c with
  | .generateUuid => some (lit "request", ())
  | .stm (.loadKey _ _ _) => some ((loads, none), ())
  | .ck .cGetSlotListCount => some ((ckrGeneralError, 0), ())
  | c => Kms.sessionHandler c w

/-- The surroundings with that KBS and that STM. -/
def loadStep (loads : Bool) : Step skcSig Unit := fun c w a w' => loadHandler loads c w = some (a, w')

/-- The URI of the key. -/
def kmsUri : Bytes := lit "pkcs11:type=private"

/-- A call, executed. -/
def runLoad (loads : Bool) (x : World Unit × Seen) : Option (CkRv × World Unit × Seen) :=
  (cOnDemandKeyLoad kmsLibrary .unknown Skc.outOfFuel kmsUri).run
    (observing (sysHandler (loadHandler loads) 0) Seen.note) (x.1, { x.2 with found := false })

theorem runLoad_call {loads : Bool} {x : World Unit × Seen} {r : CkRv × World Unit × Seen}
    (h : runLoad loads x = some r) :
    LoadCall kmsLibrary (loadStep loads) Skc.outOfFuel kmsUri x r.1 r.2 :=
  Prog.run_runs (observing_step sysHandler_answers) h

/-- The STM loads the key for the first call; the second finds it in the agent's table. -/
theorem loads_justified_kms : ∃ (y z : World Unit × Seen) (url : Bytes),
    LoadReach kmsLibrary (loadStep true) Skc.outOfFuel (Settled kmsLibrary) (sgxWorld, .nothing) y ∧
    callUrl kmsLibrary kmsUri = some url ∧ (y.1.keyagent.keyHash.lookup (hashKey url)).isSome ∧
    LoadCall kmsLibrary (loadStep true) Skc.outOfFuel kmsUri y ckrOk z ∧ z.2.found = false ∧
    y.2.loaded = [url] ∧ z.2.loaded = [url] ∧ Justified kmsLibrary kmsUri ckrOk z := by
  obtain ⟨⟨⟨rv, y⟩, rv', z⟩, hr, hv⟩ := Option.map_eq_some_iff.mp (show
    ((runLoad true (sgxWorld, .nothing)).bind fun r => (runLoad true r.2).map (r, ·)).map
      (fun r => ((callUrl kmsLibrary kmsUri).map fun url =>
          (r.1.2.1.keyagent.keyHash.lookup (hashKey url)).isSome,
        decide (r.1.2.2.loaded = (callUrl kmsLibrary kmsUri).toList),
        decide (r.2.2.2.loaded = r.1.2.2.loaded), r.2.1, r.2.2.2.found))
      = some (some true, true, true, ckrOk, false)
    by decide +kernel)
  obtain ⟨hkey, hv⟩ := Prod.mk.inj hv
  obtain ⟨hloaded, hv⟩ := Prod.mk.inj hv
  obtain ⟨hsame, hv⟩ := Prod.mk.inj hv
  obtain ⟨rfl, hfound⟩ := Prod.mk.inj hv
  obtain ⟨⟨rv₁, y₁⟩, hr₁, hr⟩ := Option.bind_eq_some_iff.mp hr
  obtain ⟨r₂, hr₂, he⟩ := Option.map_eq_some_iff.mp hr
  obtain ⟨he₁, rfl⟩ := Prod.mk.inj he
  obtain ⟨rfl, rfl⟩ := Prod.mk.inj he₁
  obtain ⟨url, hurl, hkey⟩ := Option.map_eq_some_iff.mp hkey
  have hloaded : y₁.2.loaded = [url] := by rw [of_decide_eq_true hloaded, hurl]; rfl
  -- there is no key before the first call, and that of the second was loaded
  have hfirst : Settled kmsLibrary kmsUri (sgxWorld, .nothing) := fun _ _ hkey => absurd rfl hkey
  have hsecond : Settled kmsLibrary kmsUri y₁ := by
    intro url' hurl' _
    obtain rfl : url = url' := Option.some.inj (hurl.symm.trans hurl')
    exact hloaded ▸ List.mem_singleton_self _
  have hreach : LoadReach kmsLibrary (loadStep true) Skc.outOfFuel (Settled kmsLibrary)
      (sgxWorld, .nothing) y₁ := .call .refl hfirst (runLoad_call hr₁)
  have hcall := runLoad_call hr₂
  exact ⟨y₁, z, url, hreach, hurl, hkey, hcall, hfound, hloaded,
    (of_decide_eq_true hsame).trans hloaded,
    (loads_justified (s := sgxWorld) rfl registerClean_kmsLibrary).1 y₁ hreach kmsUri ckrOk z hsecond
      hcall⟩

theorem not_loads_justified : ¬∀ (W : Type) (L : Library) (E : Step skcSig W)
    (cInitialize : Skc CkRv) (s : World W) (x : World W × Seen), s.keyagent.keyHash = ∅ →
    (∀ npm ∈ L.npmHash, RegisterClean npm) →
    LoadReach L E cInitialize (fun _ _ => True) (s, .nothing) x → ∀ uri rv y,
    LoadCall L E cInitialize uri x rv y → Justified L uri rv y := by
  intro h
  obtain ⟨⟨⟨rv, y⟩, rv', z⟩, hr, hv⟩ := Option.map_eq_some_iff.mp (show
    ((runLoad false (sgxWorld, .nothing)).bind fun r => (runLoad false r.2).map (r, ·)).map
      (fun r => (r.2.1, r.2.2.2.found, r.2.2.2.loaded)) = some (ckrOk, false, [])
    by decide +kernel)
  obtain ⟨⟨rv₁, y₁⟩, hr₁, hr⟩ := Option.bind_eq_some_iff.mp hr
  obtain ⟨r₂, hr₂, he⟩ := Option.map_eq_some_iff.mp hr
  obtain ⟨he₁, rfl⟩ := Prod.mk.inj he
  obtain ⟨rfl, hv⟩ := Prod.mk.inj hv
  obtain ⟨hfound, hloaded⟩ := Prod.mk.inj hv
  have hreach : LoadReach kmsLibrary (loadStep false) Skc.outOfFuel (fun _ _ => True)
      (sgxWorld, .nothing) y₁ := .call .refl trivial (runLoad_call hr₁)
  rcases h Unit kmsLibrary (loadStep false) Skc.outOfFuel sgxWorld y₁ rfl registerClean_kmsLibrary
    hreach _ _ _ (runLoad_call hr₂) rfl with hf | ⟨url, -, hmem⟩
  · exact absurd (hf.symm.trans hfound) (by decide)
  · rw [show z.2.loaded = [] from hloaded] at hmem
    simp at hmem

end SkcLibrary
