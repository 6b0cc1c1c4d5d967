import SkcLibrary.Keyagent.Rules

/-!
# Rules for a key load

A key load stores a request, has NPMs and security modules work on it, and removes it again.
`Searching` names what an assertion has to survive in order to survive the part of a load between
lock and unlock; a `Loading` assertion need not know whether the search has ended. While it goes on,
the only request is the one of the load: this is what a security module can rely on.

* `AgentView.sat_loadkey` — one rule for each function of a load
* `Searching.sat_loadkeyLocked` — the search among the NPMs, from what one of them does
* `Serving.sat_npm` — what one of them does, whatever its program
-/

namespace SkcLibrary

open Interaction

/-! ## Requests -/

namespace Keyagent

/-- No key is being loaded. -/
def NoRequests (k : Keyagent) : Prop := ∀ id, k.apimoduleLoadkeyHash.lookup id = none

/-- The only request, if there is one. -/
def OnlyRequest (requestId : Bytes) (moduleData : Option ApimoduleUriData) (k : Keyagent) : Prop :=
  ∀ id request, k.apimoduleLoadkeyHash.lookup id = some request →
    id = requestId ∧ request.moduleData = moduleData

/-- Other requests. -/
def withRequests (k : Keyagent) (requests : GHashTable Bytes KeyagentRequest) : Keyagent :=
  { k with apimoduleLoadkeyHash := requests }

variable {k k' : Keyagent} {requestId : Bytes} {moduleData : Option ApimoduleUriData}

theorem OnlyRequest.of_requests (h : k.OnlyRequest requestId moduleData)
    (hk : k'.apimoduleLoadkeyHash = k.apimoduleLoadkeyHash) :
    k'.OnlyRequest requestId moduleData := by
  intro id request hid
  rw [hk] at hid
  exact h id request hid

theorem OnlyRequest.setStmName (h : k.OnlyRequest requestId moduleData) (id label : Bytes) :
    (k.setStmName id label).OnlyRequest requestId moduleData := by
  intro id' request' hid
  rw [Keyagent.setStmName, GHashTable.lookup_update] at hid
  split at hid
  · obtain ⟨request, hr, rfl⟩ := Option.map_eq_some_iff.mp hid
    exact h id' request hr
  · exact h id' request' hid

theorem NoRequests.insert (h : k.NoRequests) {request : KeyagentRequest} :
    (k.withRequests (k.apimoduleLoadkeyHash.insert requestId request)).OnlyRequest requestId
      request.moduleData := by
  intro id request' hid
  rw [withRequests, GHashTable.lookup_insert_eq] at hid
  split at hid
  · next he => exact ⟨he, by rw [← Option.some.inj hid]⟩
  · rw [h id] at hid
    simp at hid

theorem OnlyRequest.erase (h : k.OnlyRequest requestId moduleData) :
    (k.withRequests (k.apimoduleLoadkeyHash.erase requestId)).NoRequests := by
  intro id
  rw [withRequests, GHashTable.lookup_erase_eq]
  split
  · rfl
  · next hne =>
    cases hid : k.apimoduleLoadkeyHash.lookup id with
    | none => rfl
    | some request => exact absurd (h id request hid).1 hne

end Keyagent

variable {σ : Type} {V : AgentView σ} {M : Modules} {url : Bytes}
  {moduleData : Option ApimoduleUriData} {X Y : σ → Prop} {s : σ}

/-! ## One rule for each function -/

namespace AgentView

variable {Q : Bool × Option GError → σ → Prop} {err : Option GError}

theorem sat_loadkeyStm {stm : StmOps} {requestId : Bytes}
    (herr : ∀ e, err = some e → Q (true, some e) s)
    (hnone : err = none → (V.ka s).keyHash.lookup (hashKey url) = none → Q (true, none) s)
    (hkey : ∀ key, err = none → (V.ka s).keyHash.lookup (hashKey url) = some key →
      Sat V.logic (keyagentStmLoadKey stm requestId key none) Q s) :
    Sat V.logic (loadkeyStm stm requestId url err) Q s := by
  unfold loadkeyStm
  cases err with
  | some e => exact sat_seq_pure.mpr (herr e rfl)
  | none =>
    dsimp only
    rw [sat_keyLookup]
    cases hlookup : (V.ka s).keyHash.lookup (hashKey url) with
    | none => exact sat_seq_pure.mpr (hnone rfl hlookup)
    | some key => exact hkey key rfl hlookup

/-- The request is stored before the NPM runs, and removed at the end. -/
theorem sat_loadkey {npm : KeyagentNpmReal} (hskip : Q (false, err) s)
    (hload : ∀ tmpError requestId t details, npm.register url = (true, tmpError) →
      V.step .generateUuid s requestId t → details.requestId = requestId → details.url = url →
      Sat V.logic (runNpm M.stm (npm.keyLoad details err))
        (fun r u => Sat V.logic (loadkeyStm M.stm requestId url tmpError)
          (fun r' v => Q (r'.1, gPropagateError r.2 r'.2) (V.put v
            ((V.ka v).withRequests ((V.ka v).apimoduleLoadkeyHash.erase requestId)))) u)
        (V.put t ((V.ka t).withRequests ((V.ka t).apimoduleLoadkeyHash.insert requestId
          { moduleData := moduleData, npmName := npm.label, stmName := none })))) :
    Sat V.logic (loadkey M npm url moduleData err) Q s := by
  unfold loadkey
  split
  · exact sat_seq_pure.mpr hskip
  · split
    · exact sat_seq_pure.mpr hskip
    · next tmpError hregister =>
      refine (sat_lift (c := .generateUuid)).mpr
        ⟨V.pre_of_agent trivial, fun requestId t ht => ?_⟩
      simp only [requestInsert, sat_modifyKeyagent, sat_keyagent]
      refine (hload tmpError requestId t _ hregister ht rfl rfl).bind ?_
      rintro ⟨_, err⟩ u hu
      refine hu.bind ?_
      rintro ⟨ret, tmpError⟩ v hv
      simp only [requestRemove, sat_modifyKeyagent]
      exact sat_seq_pure.mpr hv

theorem sat_loadkeyLocked (hhit : (V.ka s).keyHash.lookup (hashKey url) ≠ none → Q (true, err) s)
    (hmiss : (V.ka s).keyHash.lookup (hashKey url) = none →
      Sat V.logic (npmHashFind M url moduleData M.npmHash err)
        (fun r t => (r.1 = false → ∀ e, Q (false, some e) t) ∧
          (r.1 = true → Q (((V.ka t).keyHash.lookup (hashKey url)).isSome, r.2) t)) s) :
    Sat V.logic (loadkeyLocked M url moduleData err) Q s := by
  unfold loadkeyLocked
  rw [sat_keyLookup]
  cases hlookup : (V.ka s).keyHash.lookup (hashKey url) with
  | some key => exact sat_seq_pure.mpr (hhit (by rw [hlookup]; nofun))
  | none =>
    refine (hmiss hlookup).bind ?_
    rintro ⟨found, err⟩ t ⟨hfalse, htrue⟩
    cases found with
    | false => exact sat_seq_pure.mpr (hfalse rfl _)
    | true =>
      show Sat _ (keyagentKeyLookup url >>= _) _ t
      rw [sat_keyLookup]
      exact sat_seq_pure.mpr (htrue rfl)

theorem sat_loadkeyWithModuledata (hmissing : urlTokenMissing url = some true → Q (false, err) s)
    (hload : urlTokenMissing url = some false → V.pre .rwLockWriterLock s ∧
      ∀ a t, V.step .rwLockWriterLock s a t → Sat V.logic (loadkeyLocked M url moduleData err)
        (fun r u => V.pre .rwLockWriterUnlock u ∧
          ∀ a v, V.step .rwLockWriterUnlock u a v → Q r v) t) :
    Sat V.logic (keyagentLoadkeyWithModuledata M url moduleData err) Q s := by
  unfold keyagentLoadkeyWithModuledata
  refine sat_deref.mpr fun missing hurl => ?_
  cases missing with
  | true => exact sat_seq_pure.mpr (hmissing hurl)
  | false =>
    obtain ⟨hpre, hlock⟩ := hload hurl
    refine (sat_lift (c := .rwLockWriterLock)).mpr ⟨hpre, fun a t ht => ?_⟩
    refine (hlock a t ht).bind fun r u hu => ?_
    refine (sat_lift (c := .rwLockWriterUnlock)).mpr ⟨hu.1, fun a v hv => ?_⟩
    exact sat_seq_pure.mpr (hu.2 a v hv)

end AgentView

/-! ## The search among the NPMs -/

/--
What a load of `url` for `moduleData` keeps: `Z false` until an NPM ends the search, and `Z true` from
then on.
-/
structure Searching (V : AgentView σ) (M : Modules) (url : Bytes)
    (moduleData : Option ApimoduleUriData) (Z : Bool → σ → Prop) : Prop where
  uuid : ∀ {s a t}, Z false s → V.step .generateUuid s a t → Z false t
  request : ∀ {b s requests}, Z b s → Z b (V.put s ((V.ka s).withRequests requests))
  keyLoad : ∀ {npm details err s}, npm ∈ M.npmHash → details.url = url → Z false s →
    (V.ka s).OnlyRequest details.requestId moduleData →
    Sat V.logic (runNpm M.stm (npm.keyLoad details err))
      (fun _ t => Z false t ∧ (V.ka t).OnlyRequest details.requestId moduleData) s
  loadkeyStm : ∀ {npm requestId err s}, npm ∈ M.npmHash → npm.register url = (true, err) →
    Z false s → (V.ka s).OnlyRequest requestId moduleData →
    Sat V.logic (loadkeyStm M.stm requestId url err)
      (fun r t => Z r.1 t ∧ (V.ka t).OnlyRequest requestId moduleData) s

namespace Searching

variable {Z : Bool → σ → Prop}

theorem sat_loadkey (h : Searching V M url moduleData Z) {npm : KeyagentNpmReal}
    (hnpm : npm ∈ M.npmHash) {err : Option GError} (hs : Z false s)
    (hreq : (V.ka s).NoRequests) :
    Sat V.logic (loadkey M npm url moduleData err)
      (fun r t => Z r.1 t ∧ (V.ka t).NoRequests) s := by
  refine AgentView.sat_loadkey ⟨hs, hreq⟩ ?_
  intro tmpError requestId t details hregister ht hrequest hurl
  have hka : V.ka t = V.ka s := V.ka_step ht fun _ => nofun
  have hreqt : (V.ka t).NoRequests := by rw [hka]; exact hreq
  subst hrequest
  refine (h.keyLoad hnpm hurl (h.request (h.uuid hs ht)) ?_).mono ?_
  · rw [V.ka_put]
    exact hreqt.insert
  · rintro ⟨_, err⟩ u ⟨hu, huonly⟩
    refine (h.loadkeyStm hnpm hregister hu huonly).mono ?_
    rintro ⟨ret, tmpError⟩ v ⟨hv, hvonly⟩
    refine ⟨h.request hv, ?_⟩
    rw [V.ka_put]
    exact hvonly.erase

theorem sat_npmHashFind (h : Searching V M url moduleData Z) {npms : List KeyagentNpmReal}
    (hnpms : npms ⊆ M.npmHash) {err : Option GError} (hs : Z false s)
    (hreq : (V.ka s).NoRequests) :
    Sat V.logic (npmHashFind M url moduleData npms err)
      (fun r t => Z r.1 t ∧ (V.ka t).NoRequests) s := by
  induction npms generalizing s err with
  | nil => exact sat_seq_pure.mpr ⟨hs, hreq⟩
  | cons npm rest ih =>
    refine (h.sat_loadkey (hnpms List.mem_cons_self) hs hreq).bind ?_
    rintro ⟨ret, e⟩ t ⟨ht, hreqt⟩
    cases ret with
    | true => exact sat_seq_pure.mpr ⟨ht, hreqt⟩
    | false => exact ih (fun n hn => hnpms (List.mem_cons_of_mem _ hn)) ht hreqt

/-- **A load between lock and unlock.** If it succeeds the search has ended and there is a key. -/
theorem sat_loadkeyLocked (h : Searching V M url moduleData Z) {err : Option GError}
    (hhit : (V.ka s).keyHash.lookup (hashKey url) ≠ none → Z true s)
    (hmiss : (V.ka s).keyHash.lookup (hashKey url) = none → Z false s)
    (hreq : (V.ka s).NoRequests) :
    Sat V.logic (loadkeyLocked M url moduleData err)
      (fun r t => (∃ b, Z b t ∧ (r.1 = true → b = true)) ∧ (V.ka t).NoRequests ∧
        (r.1 = true → (V.ka t).keyHash.lookup (hashKey url) ≠ none)) s := by
  refine AgentView.sat_loadkeyLocked (fun hne => ⟨⟨true, hhit hne, fun _ => rfl⟩, hreq, fun _ => hne⟩)
    fun hnone => (h.sat_npmHashFind (List.Subset.refl _) (hmiss hnone) hreq).mono ?_
  rintro ⟨found, e⟩ t ⟨ht, hreqt⟩
  cases found with
  | false => exact ⟨fun _ _ => ⟨⟨false, ht, nofun⟩, hreqt, nofun⟩, nofun⟩
  | true =>
    exact ⟨nofun, fun _ => ⟨⟨true, ht, fun _ => rfl⟩, hreqt, Option.isSome_iff_ne_none.mp⟩⟩

end Searching

/--
What a load of `url` for `moduleData` keeps: `X` until an NPM ends the search, and `Y` from then on.
-/
structure Loading (V : AgentView σ) (M : Modules) (url : Bytes)
    (moduleData : Option ApimoduleUriData) (X Y : σ → Prop) : Prop where
  uuid : ∀ {s a t}, X s → V.step .generateUuid s a t → X t
  request : ∀ {s requests}, X s → X (V.put s ((V.ka s).withRequests requests))
  requestDone : ∀ {s requests}, Y s → Y (V.put s ((V.ka s).withRequests requests))
  done : ∀ {s}, X s → Y s
  keyLoad : ∀ {npm details err s}, npm ∈ M.npmHash → details.url = url → X s →
    (V.ka s).OnlyRequest details.requestId moduleData →
    Sat V.logic (runNpm M.stm (npm.keyLoad details err))
      (fun _ t => X t ∧ (V.ka t).OnlyRequest details.requestId moduleData) s
  loadkeyStm : ∀ {npm requestId err s}, npm ∈ M.npmHash → npm.register url = (true, err) → X s →
    (V.ka s).OnlyRequest requestId moduleData → Sat V.logic (loadkeyStm M.stm requestId url err)
      (fun r t => (if r.1 then Y t else X t) ∧ (V.ka t).OnlyRequest requestId moduleData) s

namespace Loading

theorem searching (h : Loading V M url moduleData X Y) :
    Searching V M url moduleData fun b s => if b then Y s else X s where
  uuid hs ht := h.uuid hs ht
  request := by
    intro b s requests hs
    cases b with
    | true => exact h.requestDone hs
    | false => exact h.request hs
  keyLoad hnpm hurl hs honly := h.keyLoad hnpm hurl hs honly
  loadkeyStm hnpm hregister hs honly := h.loadkeyStm hnpm hregister hs honly

/-- **A load between lock and unlock.** If it succeeds there is a key. -/
theorem sat_loadkeyLocked (h : Loading V M url moduleData X Y) {err : Option GError}
    (hhit : (V.ka s).keyHash.lookup (hashKey url) ≠ none → Y s)
    (hmiss : (V.ka s).keyHash.lookup (hashKey url) = none → X s) (hreq : (V.ka s).NoRequests) :
    Sat V.logic (loadkeyLocked M url moduleData err)
      (fun r t => Y t ∧ (V.ka t).NoRequests ∧
        (r.1 = true → (V.ka t).keyHash.lookup (hashKey url) ≠ none)) s := by
  refine (h.searching.sat_loadkeyLocked hhit hmiss hreq).mono fun r t ht => ?_
  obtain ⟨⟨b, hb, -⟩, hreqt, hkey⟩ := ht
  refine ⟨?_, hreqt, hkey⟩
  cases b with
  | true => exact hb
  | false => exact h.done hb

end Loading

/-- The STM's part of a load, from what the STM does. It is left out if there is nothing to load. -/
theorem sat_loadkeyStm {Z : Bool → σ → Prop} {stm : StmOps} {requestId : Bytes}
    {err : Option GError} (herr : ∀ {e s}, err = some e → Z false s → Z true s)
    (hnone : ∀ {s}, (V.ka s).keyHash.lookup (hashKey url) = none → Z false s → Z true s)
    (hload : ∀ {label details err s}, details.moduleData = moduleData → Z false s →
      Sat V.logic (stm.loadKey label details err) (fun r t => Z r.1 t ∧ V.ka t = V.ka s) s)
    (hs : Z false s) (honly : (V.ka s).OnlyRequest requestId moduleData) :
    Sat V.logic (loadkeyStm stm requestId url err)
      (fun r t => Z r.1 t ∧ (V.ka t).OnlyRequest requestId moduleData) s := by
  refine AgentView.sat_loadkeyStm (fun e he => ⟨herr he hs, honly⟩)
    (fun _ hmiss => ⟨hnone hmiss hs, honly⟩) fun key _ _ => ?_
  refine AgentView.sat_keyagentStmLoadKey (fun _ => ⟨hs, honly⟩) ?_
  intro r data lstm request current cdata keydata iv wrappedKey tagSize _ _ _ hrequest _ _ _ _
  refine (hload (honly _ _ hrequest).2 hs).mono fun _ t ht => ⟨ht.1, ?_⟩
  rw [ht.2]
  exact honly

/-! ## Any NPM -/

/-- The operations of an NPM in which no security module takes part. -/
def NpmCall.Own : NpmCall → Prop
  | .stmGetChallenge _ _ _ _ => False
  | .sessionCreate _ _ _ _ _ _ => False
  | _ => True

/-- What the agent's own calls keep, these operations keep. -/
theorem sat_npmOps_own {stm : StmOps} {requestId : Bytes}
    (hcall : ∀ {c : Call} {s a t}, c.Agent → (∀ f, c ≠ .modifyKeyagent f) → X s →
      V.step c s a t → X t)
    (hput : ∀ {s k}, X s → X (V.put s k)) {c : NpmCall} (hc : c.Own) (hs : X s)
    (honly : (V.ka s).OnlyRequest requestId moduleData) :
    Sat V.logic (npmOps stm c) (fun _ t => X t ∧ (V.ka t).OnlyRequest requestId moduleData) s := by
  have hlift : ∀ d : Call, d.Agent → (∀ f, d ≠ .modifyKeyagent f) →
      Sat V.logic (Prog.lift (S := skcSig) d)
        (fun _ t => X t ∧ (V.ka t).OnlyRequest requestId moduleData) s := by
    intro d hd hmod
    refine AgentView.sat_lift'.mpr ⟨V.pre_of_agent hd, fun a t ht => ⟨hcall hd hmod hs ht, ?_⟩⟩
    rw [V.ka_step ht hmod]
    exact honly
  have hquiet : ∀ {R : Keyagent → Keyagent → Prop} {s t}, V.Quiet R s t → X s → X t :=
    fun hq hx => hq.induction
      (fun {_ _ table _} hx hst => hcall (c := .insertRow table) trivial (fun _ => nofun) hx hst)
      (fun hx _ => hput hx) hx
  cases c with
  | sessionGetIds => exact AgentView.sat_sessionGetIds fun _ _ => ⟨hs, honly⟩
  | keyCreate id url type attrs sessionId error =>
    refine AgentView.sat_keyagentKeyCreateWithCacheid (fun _ _ => ⟨hs, honly⟩) ?_ ?_
    · exact fun key err' t _ ht => ⟨hquiet ht hs, honly.of_requests ht.cacheEq.requests⟩
    · intro a id r err' t _ _ _ _ ht
      refine ⟨hquiet ht (hput hs), ?_⟩
      have htk := ht.cacheEq.requests
      rw [V.ka_put] at htk
      exact honly.of_requests htk
  | httpsSend request => exact hlift _ trivial fun _ => nofun
  | uninitialised n => exact hlift _ trivial fun _ => nofun
  | fault reason => exact AgentView.sat_fault
  | stmGetChallenge id nonce name error => exact hc.elim
  | sessionCreate id name sessionId swk swkType error => exact hc.elim

/-- What the agent's own calls keep, and what `stm` keeps when it serves `moduleData`. -/
structure Serving (V : AgentView σ) (stm : StmOps) (moduleData : Option ApimoduleUriData)
    (X : σ → Prop) : Prop where
  call : ∀ {c s a t}, c.Agent → (∀ f, c ≠ .modifyKeyagent f) → X s → V.step c s a t → X t
  put : ∀ {s k}, X s → X (V.put s k)
  createChallenge : ∀ {label details err s}, details.moduleData = moduleData → X s →
    Sat V.logic (stm.createChallenge label details err) (fun _ t => X t ∧ V.ka t = V.ka s) s
  setSession : ∀ {label details err s}, details.moduleData = moduleData → X s →
    Sat V.logic (stm.setSession label details err) (fun _ t => X t ∧ V.ka t = V.ka s) s

namespace Serving

variable {stm : StmOps} {requestId : Bytes}

theorem quiet (h : Serving V stm moduleData X) {R : Keyagent → Keyagent → Prop} {t : σ}
    (hq : V.Quiet R s t) (hs : X s) : X t :=
  hq.induction (fun {_ _ table _} hx hst => h.call (c := .insertRow table) trivial (fun _ => nofun) hx hst)
    (fun hx _ => h.put hx) hs

/-- One operation of an NPM. -/
theorem sat_npmOps (h : Serving V stm moduleData X) (c : NpmCall) (hs : X s)
    (honly : (V.ka s).OnlyRequest requestId moduleData) :
    Sat V.logic (npmOps stm c) (fun _ t => X t ∧ (V.ka t).OnlyRequest requestId moduleData) s := by
  cases c with
  | stmGetChallenge id nonce name error =>
    refine AgentView.sat_keyagentStmGetChallenge (fun _ => ⟨hs, honly⟩)
      fun lstm request _ hrequest => ?_
    refine (h.createChallenge (honly _ _ hrequest).2 (h.put hs)).mono fun _ t ht => ⟨ht.1, ?_⟩
    rw [ht.2, V.ka_put]
    exact honly.setStmName _ _
  | sessionCreate id name sessionId swk swkType error =>
    refine AgentView.sat_sessionCreate_quiet (fun _ => ⟨hs, honly⟩) fun session err' t ht => ?_
    have htonly := honly.of_requests ht.keysFrom.requests
    refine AgentView.sat_keyagentStmSetSession (fun _ _ _ _ => ⟨h.quiet ht hs, htonly⟩)
      fun data lstm request _ _ hrequest => ?_
    refine (h.setSession (htonly _ _ hrequest).2 (h.put (h.quiet ht hs))).mono
      fun _ u hu => ⟨hu.1, ?_⟩
    rw [hu.2, V.ka_put]
    exact (htonly.setStmName _ _).of_requests rfl
  | sessionGetIds | keyCreate _ _ _ _ _ _ | httpsSend _ | uninitialised _ | fault _ =>
    exact sat_npmOps_own h.call h.put trivial hs honly

/-- **An NPM**, whatever its program. -/
theorem sat_npm (h : Serving V stm moduleData X) {α : Type} (p : Npm α) (hs : X s)
    (honly : (V.ka s).OnlyRequest requestId moduleData) :
    Sat V.logic (runNpm stm p)
      (fun _ t => X t ∧ (V.ka t).OnlyRequest requestId moduleData) s :=
  AgentView.sat_runNpm (J := fun t => X t ∧ (V.ka t).OnlyRequest requestId moduleData) p
    (fun c _ ht => h.sat_npmOps c ht.1 ht.2) ⟨hs, honly⟩

/-- A load by any NPMs. -/
theorem loading (h : Serving V M.stm moduleData X) (hdone : ∀ {s}, X s → Y s)
    (hput : ∀ {s k}, Y s → Y (V.put s k))
    (hload : ∀ {label details err s}, details.moduleData = moduleData → X s →
      Sat V.logic (M.stm.loadKey label details err)
        (fun r t => (if r.1 then Y t else X t) ∧ V.ka t = V.ka s) s) :
    Loading V M url moduleData X Y where
  uuid hs ht := h.call (c := .generateUuid) trivial (fun _ => nofun) hs ht
  request hs := h.put hs
  requestDone hs := hput hs
  done hs := hdone hs
  keyLoad _ _ hs honly := h.sat_npm _ hs honly
  loadkeyStm _ _ hs honly := sat_loadkeyStm (Z := fun b s => if b then Y s else X s)
    (fun _ h => hdone h) (fun _ h => hdone h) hload hs honly

end Serving

end SkcLibrary
