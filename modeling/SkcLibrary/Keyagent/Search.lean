import SkcLibrary.Keyagent.SessionCreate

/-!
# The search for an NPM

`g_hash_table_find` walks over the NPMs and stops where `_loadkey` returns `TRUE`. The result of
`_loadkey` is to say that an NPM was found; it is overwritten by that of the STM's load, so that a
load which fails there goes on to the next NPM, or is reported as a URL that nobody supports.

* `searched_once` — the loads that end at the first NPM that takes the URL
-/

namespace SkcLibrary

open Interaction

/-- The NPM gets to load the URL. -/
def KeyagentNpmReal.accepts (npm : KeyagentNpmReal) (url : Bytes) : Bool :=
  npm.initialized && (npm.register url).1

/-- The error of a URL that nobody supports. -/
def urlUnsupported : GError :=
  ⟨"keyagent-init", keyagentErrorNpmUrlUnsupported,
    lit "Warning: Error in NPM Register. URL is not supported\n"⟩

/-- A call of an NPM's `key_load`, and of the STM's load that follows. -/
structure LoadEvent where
  npm : KeyagentNpmReal
  /-- What `key_load` leaves in the error location. -/
  error : Option GError
  /-- What the STM's part returns, and its error. -/
  ret : Bool
  stmError : Option GError

/-- The error after the load. -/
def LoadEvent.left (ev : LoadEvent) : Option GError := gPropagateError ev.error ev.stmError

/-! ## The parts of `_loadkey` -/

/-- `_loadkey` from the request to `key_load`: the request id and the error that is left. -/
def loadkeyNpm (M : Modules) (npm : KeyagentNpmReal) (url : Bytes)
    (moduleData : Option ApimoduleUriData) (err : Option GError) : Skc (Bytes × Option GError) := do
  let requestId ← Prog.lift (S := skcSig) .generateUuid
  requestInsert requestId { moduleData := moduleData, npmName := npm.label, stmName := none }
  let k ← Skc.keyagent
  let (_, err) ← runNpm M.stm (npm.keyLoad
    { requestId := requestId, url := url
      stmNames := stmNames k.stmHash.values k.apimoduleEnabled
      sslOpts := M.config.sslOpts } err)
  pure (requestId, err)

theorem loadkey_of_not_accepts {M : Modules} {npm : KeyagentNpmReal} {url : Bytes}
    {moduleData : Option ApimoduleUriData} {err : Option GError} (h : npm.accepts url = false) :
    loadkey M npm url moduleData err = pure (false, err) := by
  unfold loadkey
  rw [KeyagentNpmReal.accepts, Bool.and_eq_false_iff] at h
  rcases h with h | h
  · rw [if_pos h]
  · split
    · rfl
    · rcases hreg : npm.register url with ⟨ret, tmpError⟩
      rw [hreg] at h
      obtain rfl : ret = false := h
      rfl

theorem loadkey_of_accepts {M : Modules} {npm : KeyagentNpmReal} {url : Bytes}
    {moduleData : Option ApimoduleUriData} {err : Option GError} (h : npm.accepts url = true) :
    loadkey M npm url moduleData err = loadkeyNpm M npm url moduleData err >>= fun a =>
      loadkeyStm M.stm a.1 url (npm.register url).2 >>= fun b =>
        requestRemove a.1 >>= fun _ => pure (b.1, gPropagateError a.2 b.2) := by
  rw [KeyagentNpmReal.accepts, Bool.and_eq_true] at h
  obtain ⟨hinit, hreg⟩ := h
  unfold loadkey loadkeyNpm
  rw [if_neg (by simp [hinit])]
  rcases hregister : npm.register url with ⟨ret, tmpError⟩
  rw [hregister] at hreg
  obtain rfl : ret = true := hreg
  simp only [bind_assoc, pure_bind]

/-! ## The walk -/

section

variable {W : Type} (E : Step skcSig W) (i : Nat) (M : Modules) (url : Bytes)
  (moduleData : Option ApimoduleUriData)

/-- An NPM is called, from one state to another. -/
def LoadsKey (npm : KeyagentNpmReal) (err : Option GError) (s : World W) (ev : LoadEvent)
    (t : World W) : Prop :=
  ev.npm = npm ∧ ∃ requestId u v,
    Runs (sysStep E i) (loadkeyNpm M npm url moduleData err) s (requestId, ev.error) u ∧
    Runs (sysStep E i) (loadkeyStm M.stm requestId url (npm.register url).2) u
      (ev.ret, ev.stmError) v ∧
    Runs (sysStep E i) (requestRemove requestId) v () t

/-- The calls of a search, in order, with what it returns and the error it leaves. -/
inductive SearchRun : List KeyagentNpmReal → Option GError → World W → List LoadEvent →
    Bool × Option GError → World W → Prop where
  | nil {err : Option GError} {s : World W} : SearchRun [] err s [] (false, err) s
  | skip {npm : KeyagentNpmReal} {rest : List KeyagentNpmReal} {err : Option GError} {s t : World W}
      {l : List LoadEvent} {r : Bool × Option GError} : npm.accepts url = false →
      SearchRun rest err s l r t → SearchRun (npm :: rest) err s l r t
  | stop {npm : KeyagentNpmReal} {rest : List KeyagentNpmReal} {err : Option GError} {s t : World W}
      {ev : LoadEvent} : npm.accepts url = true →
      LoadsKey E i M url moduleData npm err s ev t → ev.ret = true →
      SearchRun (npm :: rest) err s [ev] (true, ev.left) t
  | next {npm : KeyagentNpmReal} {rest : List KeyagentNpmReal} {err : Option GError}
      {s t u : World W} {ev : LoadEvent} {l : List LoadEvent} {r : Bool × Option GError} :
      npm.accepts url = true → LoadsKey E i M url moduleData npm err s ev t → ev.ret = false →
      SearchRun rest ev.left t l r u → SearchRun (npm :: rest) err s (ev :: l) r u

/-- What a load returns after the search. -/
def searchResult (url : Bytes) (found : Bool × Option GError) (t : World W) : Bool × Option GError :=
  if found.1 then ((t.keyagent.keyHash.lookup (hashKey url)).isSome, found.2)
  else (false, some urlUnsupported)

/-- A load of a URL that has no key yet. -/
def LoadRun (err : Option GError) (s : World W) (l : List LoadEvent) (r : Bool × Option GError)
    (t : World W) : Prop :=
  ∃ found u, s.rwlock = none ∧
    SearchRun E i M url moduleData M.npmHash err { s with rwlock := some i } l found u ∧
    r = searchResult url found u ∧ t = { u with rwlock := none }

end

section

variable {W : Type} {E : Step skcSig W} {i : Nat} {M : Modules} {url : Bytes}
  {moduleData : Option ApimoduleUriData} {s t : World W} {err : Option GError}

/-- Every run of the search is one of these. -/
theorem exists_searchRun {npms : List KeyagentNpmReal} {r : Bool × Option GError}
    (h : Runs (sysStep E i) (npmHashFind M url moduleData npms err) s r t) :
    ∃ l, SearchRun E i M url moduleData npms err s l r t := by
  -- induction on the NPMs that are left
  induction npms generalizing s err with
  | nil =>
    cases h
    exact ⟨[], .nil⟩
  | cons npm rest ih =>
    obtain ⟨⟨ret, err₁⟩, u, hu, hrest⟩ := Runs.bind_inv h
    cases hacc : npm.accepts url with
    | false =>
      rw [loadkey_of_not_accepts hacc] at hu
      cases hu
      obtain ⟨l, hl⟩ := ih hrest
      exact ⟨l, .skip hacc hl⟩
    | true =>
      rw [loadkey_of_accepts hacc] at hu
      obtain ⟨⟨requestId, e⟩, v, hv, hu⟩ := Runs.bind_inv hu
      obtain ⟨⟨b, tmpError⟩, w, hw, hu⟩ := Runs.bind_inv hu
      obtain ⟨_, x, hx, hu⟩ := Runs.bind_inv hu
      cases hu
      have hload : LoadsKey E i M url moduleData npm err s ⟨npm, e, b, tmpError⟩ u :=
        ⟨rfl, requestId, v, w, hv, hw, hx⟩
      cases b with
      | true =>
        cases hrest
        exact ⟨_, .stop hacc hload rfl⟩
      | false =>
        obtain ⟨l, hl⟩ := ih hrest
        exact ⟨_, .next hacc hload rfl hl⟩

/-- What a look-up finds. -/
theorem runs_keyLookup_inv {key : Option KeyagentKeyReal}
    (h : Runs (sysStep E i) (keyagentKeyLookup url) s key t) :
    t = s ∧ key = s.keyagent.keyHash.lookup (hashKey url) := by
  cases h with
  | step hget h =>
    obtain ⟨rfl, rfl⟩ := hget
    cases h
    exact ⟨rfl, rfl⟩

/-- Between lock and unlock there is the search. -/
theorem exists_lockedRun {r : Bool × Option GError}
    (hnew : s.keyagent.keyHash.lookup (hashKey url) = none)
    (h : Runs (sysStep E i) (loadkeyLocked M url moduleData err) s r t) :
    ∃ l found, SearchRun E i M url moduleData M.npmHash err s l found t ∧
      r = searchResult url found t := by
  obtain ⟨key, s₁, hkey, h⟩ := Runs.bind_inv h
  obtain ⟨rfl, rfl⟩ := runs_keyLookup_inv hkey
  rw [hnew] at h
  obtain ⟨⟨found, e⟩, u, hu, h⟩ := Runs.bind_inv h
  obtain ⟨l, hl⟩ := exists_searchRun hu
  cases found with
  | false =>
    cases h
    exact ⟨l, _, hl, rfl⟩
  | true =>
    obtain ⟨key, v, hkey, h⟩ := Runs.bind_inv h
    obtain ⟨rfl, rfl⟩ := runs_keyLookup_inv hkey
    cases h
    exact ⟨l, _, hl, rfl⟩

/-- Every run of a load is one of these. -/
theorem exists_loadRun {r : Bool × Option GError} (hurl : urlTokenMissing url = some false)
    (hnew : s.keyagent.keyHash.lookup (hashKey url) = none)
    (h : Runs (sysStep E i) (keyagentLoadkeyWithModuledata M url moduleData err) s r t) :
    ∃ l, LoadRun E i M url moduleData err s l r t := by
  unfold keyagentLoadkeyWithModuledata at h
  rw [hurl, Skc.deref_some, pure_bind, if_neg (by simp)] at h
  obtain ⟨_, s₁, hlock, h⟩ := Runs.bind_inv h
  obtain ⟨r₁, t₁, hbody, h⟩ := Runs.bind_inv h
  obtain ⟨_, t₂, hunlock, h⟩ := Runs.bind_inv h
  cases h
  cases hlock with
  | step hlock hret =>
    cases hret
    obtain ⟨hfree, rfl⟩ := hlock
    cases hunlock with
    | step hunlock hret =>
      cases hret
      obtain ⟨l, found, hl, rfl⟩ := exists_lockedRun (s := { s with rwlock := some i }) hnew hbody
      exact ⟨l, found, t₁, hfree, hl, rfl, hunlock⟩

/-- A load is a run of `_loadkey`. -/
theorem LoadsKey.runs {npm : KeyagentNpmReal} {ev : LoadEvent} (hacc : npm.accepts url = true)
    (h : LoadsKey E i M url moduleData npm err s ev t) :
    Runs (sysStep E i) (loadkey M npm url moduleData err) s (ev.ret, ev.left) t := by
  obtain ⟨-, requestId, u, v, hu, hv, ht⟩ := h
  rw [loadkey_of_accepts hacc]
  have hremove : Runs (sysStep E i) (requestRemove requestId >>= fun _ => pure (ev.ret, ev.left)) v
      (ev.ret, ev.left) t := ht.bind (.pure _ _)
  exact hu.bind (hv.bind hremove)

/-- A search is a run of `g_hash_table_find`. -/
theorem SearchRun.runs {npms : List KeyagentNpmReal} {l : List LoadEvent}
    {r : Bool × Option GError} (h : SearchRun E i M url moduleData npms err s l r t) :
    Runs (sysStep E i) (npmHashFind M url moduleData npms err) s r t := by
  induction h with
  | nil => exact .pure _ _
  | skip hacc _ ih =>
    unfold npmHashFind
    rw [loadkey_of_not_accepts hacc]
    exact ih
  | stop hacc hload hret =>
    refine (hload.runs hacc).bind ?_
    dsimp only
    rw [if_pos hret]
    exact .pure _ _
  | next hacc hload hret _ ih =>
    refine (hload.runs hacc).bind ?_
    dsimp only
    rw [if_neg (by simp [hret])]
    exact ih

/-- A key look-up always succeeds. -/
theorem runs_keyLookup : Runs (sysStep E i) (keyagentKeyLookup url) s
    (s.keyagent.keyHash.lookup (hashKey url)) s :=
  runs_keyagent (.pure _ _)

/-- The runs of a load are its searches. -/
theorem loadRun_iff {r : Bool × Option GError} (hurl : urlTokenMissing url = some false)
    (hnew : s.keyagent.keyHash.lookup (hashKey url) = none) :
    Runs (sysStep E i) (keyagentLoadkeyWithModuledata M url moduleData err) s r t ↔
      ∃ l, LoadRun E i M url moduleData err s l r t := by
  refine ⟨exists_loadRun hurl hnew, fun ⟨l, found, u, hfree, hsearch, hr, ht⟩ => ?_⟩
  unfold keyagentLoadkeyWithModuledata
  rw [hurl, Skc.deref_some, pure_bind, if_neg (by simp)]
  have hlock : Runs (sysStep E i) (Prog.lift (S := skcSig) .rwLockWriterLock) s ()
      { s with rwlock := some i } := .step ⟨hfree, rfl⟩ (.refl _ _)
  have hunlock : Runs (sysStep E i) (Prog.lift (S := skcSig) .rwLockWriterUnlock) u () t :=
    .step (show sysStep E i .rwLockWriterUnlock u () t from ht) (.refl _ _)
  refine hlock.bind (Runs.bind ?_ (hunlock.bind (.pure r t)))
  unfold loadkeyLocked
  refine runs_keyLookup.bind ?_
  dsimp only
  rw [hnew]
  refine hsearch.runs.bind ?_
  obtain ⟨b, e⟩ := found
  cases b with
  | false => exact hr ▸ .pure _ _
  | true => exact runs_keyLookup.bind (hr ▸ .pure _ _)

end

/-! ## One NPM -/

/-- `KEYAGENT_ERROR_NPM_URL_UNSUPPORTED` is reported. -/
def ReportsUnsupported (err : Option GError) : Prop :=
  ∃ message, err = some ⟨"keyagent-init", keyagentErrorNpmUrlUnsupported, message⟩

/-- One NPM at most has loaded the key, and what it came to is reported. -/
structure SearchedOnce (url : Bytes) (npms : List KeyagentNpmReal) (l : List LoadEvent)
    (r : Bool × Option GError) : Prop where
  /-- The first NPM that takes the URL is called, once, and no other. -/
  once : l.map (·.npm) = (npms.find? (·.accepts url)).toList
  unsupported : ReportsUnsupported r.2 ↔ npms.find? (·.accepts url) = none
  stmError : ∀ ev ∈ l, ev.ret = false → r.2 = ev.stmError

/-- The load ends the search, and does not itself report that the URL is unsupported. -/
def LoadEvent.Ends (ev : LoadEvent) : Prop := ev.ret = true ∧ ¬ReportsUnsupported ev.left

section

variable {W : Type} {E : Step skcSig W} {i : Nat} {M : Modules} {url : Bytes}
  {moduleData : Option ApimoduleUriData} {s t : World W} {err : Option GError}
  {npms : List KeyagentNpmReal} {l : List LoadEvent} {r : Bool × Option GError}

/-- A search without a load has met no NPM that takes the URL. -/
theorem SearchRun.nil_iff (h : SearchRun E i M url moduleData npms err s l r t) :
    l = [] ↔ npms.find? (·.accepts url) = none := by
  induction h with
  | nil => simp
  | skip hacc _ ih => simpa [hacc] using ih
  | stop hacc => simp [hacc]
  | next hacc => simp [hacc]

/-- The first load is that of the first NPM that takes the URL. -/
theorem SearchRun.head (h : SearchRun E i M url moduleData npms err s l r t) {ev : LoadEvent}
    {rest : List LoadEvent} (hl : l = ev :: rest) :
    npms.find? (·.accepts url) = some ev.npm := by
  induction h with
  | nil => simp at hl
  | skip hacc _ ih => simpa [hacc] using ih hl
  | stop hacc hload =>
    obtain ⟨rfl, -⟩ := List.cons.inj hl
    simp [hacc, hload.1]
  | next hacc hload =>
    obtain ⟨rfl, -⟩ := List.cons.inj hl
    simp [hacc, hload.1]

/-- Only a load that returns `TRUE` is the last one to be made because of its result. -/
theorem SearchRun.found_iff (h : SearchRun E i M url moduleData npms err s l r t) :
    r.1 = true ↔ ∃ ev ∈ l, ev.ret = true := by
  induction h with
  | nil => simp
  | skip _ _ ih => exact ih
  | stop _ _ hret => simp [hret]
  | next _ _ hret _ ih => simpa [hret] using ih

/-- A load that returns `TRUE` leaves its error to the caller. -/
theorem SearchRun.single (h : SearchRun E i M url moduleData npms err s l r t) {ev : LoadEvent}
    {rest : List LoadEvent} (hl : l = ev :: rest) (hret : ev.ret = true) :
    rest = [] ∧ r = (true, ev.left) := by
  induction h with
  | nil => simp at hl
  | skip _ _ ih => exact ih hl
  | stop =>
    obtain ⟨rfl, rfl⟩ := List.cons.inj hl
    exact ⟨rfl, rfl⟩
  | next _ _ hret' =>
    obtain ⟨rfl, -⟩ := List.cons.inj hl
    simp [hret'] at hret

/-- What a load reports when the search has found nothing. -/
theorem reportsUnsupported_of_not_found {found : Bool × Option GError} (hf : found.1 = false) :
    ReportsUnsupported (searchResult url found t).2 := by
  rw [searchResult, if_neg (by simp [hf])]
  exact ⟨_, rfl⟩

/-- The search goes wrong in a load that does not end it, and in no other. -/
theorem SearchRun.searchedOnce_iff {found : Bool × Option GError} {u : World W}
    (h : SearchRun E i M url moduleData npms err s l found t) :
    SearchedOnce url npms l (searchResult url found u) ↔ ∀ ev ∈ l, ev.Ends := by
  constructor
  · intro hone ev hev
    -- there is one load only, that of an NPM which takes the URL
    have hlen : l.length ≤ 1 := by
      rw [← List.length_map (f := (·.npm)), hone.once]
      exact Option.length_toList_le
    obtain rfl : l = [ev] := by
      match l, hlen, hev with
      | [a], _, hev => rw [List.mem_singleton.mp hev]
    have hsome := h.head rfl
    have hnot : ¬ReportsUnsupported (searchResult url found u).2 := by
      rw [hone.unsupported, hsome]
      simp
    have hfound : found.1 = true := by
      by_contra hf
      exact hnot (reportsUnsupported_of_not_found (by simpa using hf))
    have hret : ev.ret = true := by simpa using h.found_iff.mp hfound
    obtain ⟨-, rfl⟩ := h.single rfl hret
    exact ⟨hret, hnot⟩
  · intro hends
    cases l with
    | nil =>
      have hnone := h.nil_iff.mp rfl
      have hf : found.1 = false := by
        simpa using mt h.found_iff.mp (by simp)
      exact ⟨by simp [hnone], iff_of_true (reportsUnsupported_of_not_found hf) hnone, by simp⟩
    | cons ev rest =>
      obtain ⟨hret, hleft⟩ := hends ev List.mem_cons_self
      obtain ⟨rfl, rfl⟩ := h.single rfl hret
      have hsome := h.head rfl
      exact ⟨by simp [hsome], iff_of_false hleft (by simp [hsome]), by simp [hret]⟩

/--
**One NPM loads the key**, and its failure is reported as it is, if and only if the load ends the
search.
-/
theorem searched_once (hurl : urlTokenMissing url = some false)
    (hnew : s.keyagent.keyHash.lookup (hashKey url) = none)
    (h : Runs (sysStep E i) (keyagentLoadkeyWithModuledata M url moduleData err) s r t) :
    (∃ l, LoadRun E i M url moduleData err s l r t) ∧
      ∀ l, LoadRun E i M url moduleData err s l r t →
        (SearchedOnce url M.npmHash l r ↔ ∀ ev ∈ l, ev.Ends) := by
  refine ⟨(loadRun_iff hurl hnew).mp h, fun l hl => ?_⟩
  obtain ⟨found, u, -, hsearch, rfl, -⟩ := hl
  exact hsearch.searchedOnce_iff

end

/-! ### A key that the STM takes, and one that it refuses -/

/-- An NPM that brings a key for every URL. -/
def keyNpm : KeyagentNpmReal where
  label := lit "KMS"
  initialized := true
  register _ := (true, none)
  keyLoad d err := do
    let (_, err) ← Npm.op (.keyCreate d.requestId d.url .rsakey
      (some (AList.insert keyagentAttrKeydata (le32 0 ++ le32 0 ++ le32 0) ∅)) (some (lit "a")) err)
    pure (true, err)

/-- The agent's modules with that NPM. -/
def keyModules : Modules := ⟨⟨[], [], [], true, true⟩, [keyNpm], .unknown⟩

/-- An STM that answers every load in one way. -/
def loadingStm (answer : Bool × Option GError) : (c : Call) → Unit → Option (c.Ans × Unit)
  | .stm (.loadKey _ _ _), _ => some (answer, ())
  | .generateUuid, _ => some (lit "uuid", ())
  | _, _ => none

/-- The surroundings with that STM. -/
def loadingStep (answer : Bool × Option GError) : Step skcSig Unit := fun c w a w' =>
  loadingStm answer c w = some (a, w')

/-- A process with an STM that has a session. -/
def keyWorld : World Unit := ⟨sgxSessionAgent, ⟨∅, [], 0⟩, none, ()⟩

/-- Three NPMs: one that refuses every URL, and two that take it. -/
def threeNpms : Modules :=
  { keyModules with
    npmHash := [{ keyNpm with label := lit "A", register := fun _ => (false, none) }, keyNpm,
      { keyNpm with label := lit "B" }] }

/-- A load of the key with one NPM, and what its parts return. -/
def loadParts (url : Bytes) : Skc ((Bytes × Option GError) × Bool × Option GError) := do
  let a ← loadkeyNpm threeNpms keyNpm url none none
  let b ← loadkeyStm threeNpms.stm a.1 url (keyNpm.register url).2
  requestRemove a.1
  pure (a, b)

/-- The load of the NPM in the middle. -/
theorem exists_loadsKey : ∃ u : World Unit,
    LoadsKey (loadingStep (true, none)) 0 threeNpms (lit "KMS:1") none keyNpm none
      { keyWorld with rwlock := some 0 } ⟨keyNpm, none, true, none⟩ u ∧
    (u.keyagent.keyHash.lookup (hashKey (lit "KMS:1"))).isSome = true := by
  obtain ⟨⟨parts, u⟩, hr, hv⟩ := Option.map_eq_some_iff.mp (show
    ((loadParts (lit "KMS:1")).run (sysHandler (loadingStm (true, none)) 0)
      { keyWorld with rwlock := some 0 }).map (fun r => (r.1,
        (r.2.keyagent.keyHash.lookup (hashKey (lit "KMS:1"))).isSome))
      = some (((lit "uuid", none), true, none), true) by decide +kernel)
  obtain ⟨rfl, hkey⟩ := Prod.mk.inj hv
  have hrun := Prog.run_runs (R := sysStep (loadingStep (true, none)) 0) sysHandler_answers hr
  obtain ⟨a, v, hnpm, hrest⟩ := Runs.bind_inv hrun
  obtain ⟨b, w, hstm, hrest⟩ := Runs.bind_inv hrest
  obtain ⟨_, x, hremove, hend⟩ := Runs.bind_inv hrest
  cases hend
  exact ⟨u, ⟨rfl, lit "uuid", v, w, hnpm, hstm, hremove⟩, hkey⟩

theorem searched_once_accepted : ∃ (t : World Unit) (l : List LoadEvent),
    LoadRun (loadingStep (true, none)) 0 threeNpms (lit "KMS:1") none none keyWorld l
      (true, none) t ∧ l.map (·.npm) = [keyNpm] ∧
    SearchedOnce (lit "KMS:1") threeNpms.npmHash l (true, none) := by
  obtain ⟨u, hload, hkey⟩ := exists_loadsKey
  have hl : LoadRun (loadingStep (true, none)) 0 threeNpms (lit "KMS:1") none none keyWorld
      [⟨keyNpm, none, true, none⟩] (true, none) { u with rwlock := none } := by
    refine ⟨(true, none), u, rfl, .skip rfl (.stop rfl hload rfl), ?_, rfl⟩
    rw [searchResult, if_pos rfl, hkey]
  have hrun := (loadRun_iff (by decide) (by rfl)).mpr ⟨_, hl⟩
  refine ⟨_, _, hl, rfl, ((searched_once (by decide) (by rfl) hrun).2 _ hl).mpr fun ev hev => ?_⟩
  obtain rfl := List.mem_singleton.mp hev
  exact ⟨rfl, fun h => absurd h.choose_spec nofun⟩

/-- The STM's error is gone, and the URL is said to have no NPM. -/
theorem not_searched_once : ¬∀ (W : Type) (E : Step skcSig W) (i : Nat) (M : Modules) (url : Bytes)
    (moduleData : Option ApimoduleUriData) (s t : World W) (err : Option GError)
    (r : Bool × Option GError) (l : List LoadEvent), urlTokenMissing url = some false →
    s.keyagent.keyHash.lookup (hashKey url) = none →
    LoadRun E i M url moduleData err s l r t → SearchedOnce url M.npmHash l r := by
  intro h
  obtain ⟨⟨r, t⟩, hr, hv⟩ := Option.map_eq_some_iff.mp (show
    ((keyagentLoadkeyWithModuledata keyModules (lit "KMS:1") none none).run
      (sysHandler (loadingStm (false, some ⟨"stm", 1, []⟩)) 0) keyWorld).map (fun r => r.1)
      = some (false, some urlUnsupported) by decide +kernel)
  obtain rfl : r = (false, some urlUnsupported) := hv
  obtain ⟨l, hl⟩ := (loadRun_iff (E := loadingStep (false, some ⟨"stm", 1, []⟩)) (by decide)
    (by rfl)).mp (Prog.run_runs sysHandler_answers hr)
  have hone := h _ _ _ _ _ _ _ _ _ _ _ (by decide) (by rfl) hl
  have hnone := hone.unsupported.mp ⟨_, rfl⟩
  exact absurd hnone (by decide)

end SkcLibrary
