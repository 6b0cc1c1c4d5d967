import SkcLibrary.Apimodule.Deadlock
import SkcLibrary.Apimodule.TokenLabels
import SkcLibrary.Keyagent.Unknown
import SkcLibrary.Npm.KmsCalls

/-!
# Loads, one after the other

Threads load keys at the same time, and each load is many calls. What they leave in the agent is what loads
leave that a single thread runs one after the other, whatever the others answer: the lock makes a load one step.

`agentLoad` is the abstract level: the agent alone, over security modules, a KBS and a PKCS#11 module about
which nothing is known.

* `loads_serialized` — an interleaving of the threads of an application is a series of loads
* `threads_sessions_current` — what holds between loads, by the KMS module for one
-/

namespace SkcLibrary

open Interaction

variable {W : Type}

/-! ## The agent alone -/

/-- The agent of a single thread, with its variables. -/
def agentAlone (k : Keyagent) : World Unit := ⟨k, ⟨∅, [], 0⟩, none, ()⟩

/-- A load of the key that a URI names, with whatever has gone wrong before. -/
def agentLoad (L : Library) (load : Bytes × Option GError) : Skc (Bool × Option GError) :=
  match callData L load.1 with
  | none => pure (false, load.2)
  | some uriData =>
    keyagentLoadkeyWithModuledata (L.modules .unknown) (keyUrl uriData load.1) (some uriData) load.2

/-- The states between loads that are run one after the other. -/
abbrev LoadSeries (L : Library) := Serial (sysStep anyStep 0) (agentLoad L) fun _ _ => True

/-- The agent is as a series of loads leaves it that starts with `k`, if no load is going on. -/
def Serialized (L : Library) (k : Keyagent) (s : World W) : Prop :=
  s.rwlock = none → ∃ t, LoadSeries L (agentAlone k) t ∧ t.rwlock = none ∧ t.keyagent = s.keyagent

/-- `keyagent::rwlock`, with what it protects. -/
def agentMutex (L : Library) (k : Keyagent) : Mutex Nat (World W) where
  holder s := s.rwlock
  outside := ⟨fun s t => t.keyagent = s.keyagent, fun _ => rfl, fun h h' => h'.trans h⟩
  always := ⟨fun s t => Serialized L k s → Serialized L k t, fun _ => id, fun h h' hs => h' (h hs)⟩

/-- The setting of a thread. -/
abbrev agentLogic (L : Library) (k : Keyagent) (E : Step skcSig W) (i : Nat) :
    Logic skcSig (World W) := (agentMutex L k).logic i (sysStep E) fun _ _ _ => True

/-- What a thread knows that does not hold the lock. -/
def Outside (L : Library) (k : Keyagent) (i : Nat) (s : World W) : Prop :=
  s.rwlock ≠ some i ∧ Serialized L k s

/-- A thread that holds the lock sees the agent as the single thread does that loads the same key. -/
structure SeenAlone (i : Nat) (x : World W) (y : World Unit) : Prop where
  held : x.rwlock = some i
  alone : y.rwlock = some 0
  keyagent : y.keyagent = x.keyagent

section

variable {L : Library} {k : Keyagent} {E : Step skcSig W} {i : Nat} {stm : StmOps} {s t : World W}
  {x : World W} {y : World Unit} {α : Type} {p : Skc α}

theorem stable_outsideLock : Stable (agentLogic L k E i) (Outside L k i) :=
  Mutex.stable_outside (M := agentMutex L k) fun hs hr => hr.1 hs

theorem stable_seenAlone : Stable (agentLogic L k E i) (SeenAlone i · y) := by
  intro s t hs hr
  obtain ⟨ht, hka⟩ := hr.2.1 hs.held
  exact ⟨ht, hs.alone, hs.keyagent.trans hka.symm⟩

/-- A step of the thread that holds the lock. -/
theorem agentMutex_inside (hs : s.rwlock = some i) (ht : t.rwlock = s.rwlock) :
    (agentMutex L k).guar i s t := by
  rw [hs] at ht
  exact ⟨⟨fun _ hfree => absurd (ht.symm.trans hfree) nofun, fun _ _ => trivial⟩, .inside hs ht⟩

/-- A step on something else than the agent's variables. -/
theorem unguarded_outside {c : Call} (hc : ¬c.Guarded) :
    (agentLogic L k E i).Triple (Outside L k i) c fun _ => Outside L k i := by
  refine fun s hs => ⟨trivial, fun a t ht => ?_⟩
  have hlock : t.rwlock = s.rwlock := by
    refine sysStep_rwlock ht ?_ ?_ <;> rintro rfl <;> exact hc trivial
  have hka : t.keyagent = s.keyagent := by
    refine sysStep_keyagent ht ?_
    rintro f rfl
    exact hc trivial
  have hser : Serialized L k s → Serialized L k t := by
    rw [Serialized, Serialized, hlock, hka]
    exact id
  exact ⟨⟨⟨hser, fun _ _ => trivial⟩, .outside hs.1 hlock hka⟩, by rw [hlock]; exact hs.1, hser hs.2⟩

theorem unguarded_inside {c : Call} (hc : ¬c.Guarded) :
    (agentLogic L k E i).Triple (SeenAlone i · y) c fun _ => (SeenAlone i · y) := by
  refine fun s hs => ⟨trivial, fun a t ht => ?_⟩
  have hlock : t.rwlock = s.rwlock := by
    refine sysStep_rwlock ht ?_ ?_ <;> rintro rfl <;> exact hc trivial
  have hka : t.keyagent = s.keyagent := by
    refine sysStep_keyagent ht ?_
    rintro f rfl
    exact hc trivial
  exact ⟨agentMutex_inside hs.held hlock, hlock.trans hs.held, hs.alone, hs.keyagent.trans hka.symm⟩

/-- A thread that holds the lock and asks for it waits for ever. -/
theorem lock_inside {Q : Unit → World W → Prop} :
    (agentLogic L k E i).Triple (SeenAlone i · y) .rwLockWriterLock Q :=
  fun _ hs => ⟨trivial, fun _ _ ht => absurd (hs.held.symm.trans ht.1) nofun⟩

/-- A function of the api module, run with the lock. -/
theorem sat_untilLock {P : Call → Prop} (hP : ∀ c, P c → ¬c.Guarded)
    (hp : p.IssuesUntil (fun c : Call => c = .rwLockWriterLock) P) (hx : SeenAlone i x y) :
    Sat (agentLogic L k E i) p (fun _ x' => SeenAlone i x' y) x := by
  refine Sat.of_issuesUntil hp stable_seenAlone (fun c hc => ?_)
    (fun c hc => unguarded_inside (hP c hc)) hx
  subst hc
  exact lock_inside

/-- What is asked of a security module that is called with the lock. -/
def FreeStm (stm : StmOps) : Prop :=
  ∀ d : StmCall, (stm.handler (.stm d)).IssuesUntil (fun c : Call => c = .rwLockWriterLock)
    fun c : Call => ¬c.Guarded

/-- A step of the agent on its own variables, done by both. -/
theorem SeenAlone.step (hx : SeenAlone i x y) {c : Call} (hc : c.Agent) {a : c.Ans} {x' : World W}
    (hs : sysStep E i c x a x') : ∃ y', sysStep anyStep 0 c y a y' ∧ SeenAlone i x' y' := by
  obtain ⟨hheld, halone, hka⟩ := hx
  cases c with
  | getKeyagent =>
    obtain ⟨rfl, rfl⟩ := hs
    exact ⟨y, ⟨hka.symm, rfl⟩, hheld, halone, hka⟩
  | modifyKeyagent f =>
    obtain rfl : x' = _ := hs
    exact ⟨{ y with keyagent := f y.keyagent }, rfl, hheld, halone, congrArg f hka⟩
  | foreachSession =>
    obtain ⟨hl, rfl⟩ := hs
    exact ⟨y, ⟨by rw [hka]; exact hl, rfl⟩, hheld, halone, hka⟩
  | fault reason => exact a.elim
  | generateUuid | uninitialised n | httpsSend request | insertRow table =>
    obtain ⟨w, -, rfl⟩ := hs
    exact ⟨y, ⟨(), trivial, rfl⟩, hheld, halone, hka⟩
  | _ => exact hc.elim

/-- What a load does, the same load does in the agent alone. -/
theorem sat_handler (hstm : FreeStm stm) {c : Call} (hc : c.OfLoad) (hx : SeenAlone i x y) :
    Sat (agentLogic L k E i) (stm.handler c)
      (fun a x' => ∃ y', sysStep anyStep 0 c y a y' ∧ SeenAlone i x' y') x := by
  rcases hc with hc | ⟨d, rfl⟩
  · rw [Becomes.handler_agent hc]
    refine Sat.call stable_seenAlone (fun x hx => ⟨trivial, fun a x' hx' => ?_⟩) (fun a x' hx' => ?_)
      (R := fun a x' => ∃ y', sysStep anyStep 0 c y a y' ∧ SeenAlone i x' y') hx
    · obtain ⟨y', hy', hx''⟩ := hx.step hc hx'
      refine ⟨agentMutex_inside hx.held (hx''.held.trans hx.held.symm), y', hy', hx''⟩
    · obtain ⟨y', hy', hx''⟩ := hx'
      exact Sat.pure fun z hz => ⟨y', hy', stable_seenAlone _ _ hx'' hz⟩
  -- nothing is known of the security module of the agent alone
  · refine (sat_untilLock (fun _ h => h) (hstm d) hx).mono fun a x' hx' => ?_
    exact ⟨y, ⟨(), y.apimodule, trivial, rfl⟩, hx'⟩

/-- A load between lock and unlock. -/
theorem sat_loadkeyLocked_alone (hstm : FreeStm stm) (L : Library) {url : Bytes}
    {moduleData : Option ApimoduleUriData} {err : Option GError} (hx : SeenAlone i x y) :
    Sat (agentLogic L k E i) (loadkeyLocked (L.modules stm) url moduleData err)
      (fun r x' => ∃ y', Runs (sysStep anyStep 0)
        (loadkeyLocked (L.modules .unknown) url moduleData err) y r y' ∧ SeenAlone i x' y') x := by
  have h : Becomes stm (loadkeyLocked (L.modules .unknown) url moduleData err)
      (loadkeyLocked (L.modules stm) url moduleData err) := .loadkeyLocked _ _ _
  rw [← h.interp]
  exact Sat.interp_runs (fun _ => stable_seenAlone) (fun _ _ _ => sat_handler hstm) h.issues hx

/-! ## A thread -/

/-- A function of the api module, run without the lock. -/
theorem maintains_unguarded {P : Call → Prop} (hP : ∀ c, P c → ¬c.Guarded) (hp : p.Issues P) :
    Maintains (agentLogic L k E i) (Outside L k i) p :=
  .of_issues stable_outsideLock (fun c hc => unguarded_outside (hP c hc)) hp

theorem maintains_fault {p : Option α} {reason : String} :
    Maintains (agentLogic L k E i) (Outside L k i) (Skc.deref p reason) :=
  maintains_unguarded (P := fun c => ¬c.Guarded) (fun _ h => h) (Skc.issues_deref id)

/-- The load of the agent alone, from what it does with the lock. -/
theorem runs_agentLoad {uri : Bytes} {uriData : ApimoduleUriData} {err : Option GError}
    {r : Bool × Option GError} {y' : World Unit} (huri : callData L uri = some uriData)
    (hmissing : urlTokenMissing (keyUrl uriData uri) = some false) (hy : y.rwlock = none)
    (h : Runs (sysStep anyStep 0)
      (loadkeyLocked (L.modules .unknown) (keyUrl uriData uri) (some uriData) err)
      { y with rwlock := some 0 } r y') :
    Runs (sysStep anyStep 0) (agentLoad L (uri, err)) y r { y' with rwlock := none } := by
  have hload : agentLoad L (uri, err) = keyagentLoadkeyWithModuledata (L.modules .unknown)
      (keyUrl uriData uri) (some uriData) err := by
    simp only [agentLoad, huri]
  rw [hload, keyagentLoadkeyWithModuledata, hmissing, Skc.deref_some, pure_bind,
    if_neg Bool.false_ne_true, Prog.lift_bind]
  refine Exec.step (show sysStep anyStep 0 .rwLockWriterLock y () _ from ⟨hy, rfl⟩) ?_
  refine Runs.bind h ?_
  rw [Prog.lift_bind]
  exact .step (show sysStep anyStep 0 .rwLockWriterUnlock y' () _ from rfl) (.refl _ _)

/-- **The agent is asked for a key.** With the lock the load is one of the series. -/
theorem maintains_keyagentLoadkey (hstm : FreeStm stm) {uri : Bytes} {uriData : ApimoduleUriData}
    (huri : callData L uri = some uriData) (err : Option GError) :
    Maintains (agentLogic L k E i) (Outside L k i)
      (keyagentLoadkeyWithModuledata (L.modules stm) (keyUrl uriData uri) (some uriData) err) := by
  unfold keyagentLoadkeyWithModuledata
  cases hmissing : urlTokenMissing (keyUrl uriData uri) with
  | none =>
    rw [Skc.deref_none, Skc.fault_bind]
    exact maintains_unguarded (P := fun c => ¬c.Guarded) (fun _ h => h) (Skc.issues_fault id)
  | some missing =>
    rw [Skc.deref_some, pure_bind]
    cases missing with
    | true => exact .pure stable_outsideLock _
    | false =>
      intro s hs
      -- the series up to here, with the lock taken there too
      refine Sat.call (P := Outside L k i) (R := fun _ x => ∃ t, LoadSeries L (agentAlone k) t ∧
        t.rwlock = none ∧ SeenAlone i x { t with rwlock := some 0 }) stable_outsideLock
        (fun s hs => ⟨trivial, fun _ x hx => ?_⟩) (fun _ x hx => ?_) hs
      · obtain ⟨hfree, rfl⟩ := hx
        obtain ⟨t, ht, halone, hka⟩ := hs.2 hfree
        exact ⟨⟨⟨fun _ => nofun, fun _ _ => trivial⟩, .acquire hfree rfl⟩, t, ht, halone, rfl, rfl, hka⟩
      · obtain ⟨t, ht, halone, hx⟩ := hx
        refine (sat_loadkeyLocked_alone hstm L hx).bind ?_
        rintro r x' ⟨y', hruns, hx'⟩
        have hseries : LoadSeries L (agentAlone k) { y' with rwlock := none } :=
          ht.run trivial (runs_agentLoad huri hmissing halone hruns)
        refine Sat.call stable_seenAlone (fun x hx => ⟨trivial, fun _ z hz => ?_⟩)
          (fun _ z hz => Sat.pure fun z' hz' => stable_outsideLock _ _ hz hz') hx'
        obtain rfl : z = { x with rwlock := none } := hz
        have hser : Serialized L k { x with rwlock := none } :=
          fun _ => ⟨_, hseries, rfl, hx.keyagent⟩
        exact ⟨⟨⟨fun _ => hser, fun _ _ => trivial⟩, .release hx.held rfl⟩, nofun, hser⟩

/-- The security module of the library needs no lock, and asks for none that it gets. -/
theorem freeStm_stmOps {cInit : Skc CkRv} (hinit : UntilLock cInit) (L : Library) :
    FreeStm (L.stmOps cInit) := by
  have hfree : ∀ c : Call, SwkCall c → ¬c.Guarded := fun _ => SwkCall.not_guarded
  intro d
  cases d with
  | createChallenge label details err =>
    exact (stmCreateChallenge_untilLock hinit L.sgxStm details err).mono fun c hc =>
      hfree c (hc.swkCall c)
  | setSession label details err =>
    exact (apimoduleSetWrappingKey_issues (P := fun c : Call => ¬c.Guarded) id (fun _ => id)
      (fun _ _ _ => id) (fun _ _ _ _ => id) _ _).until
  | loadKey label details err =>
    exact (apimoduleLoadKey_issues (P := fun c : Call => ¬c.Guarded) id (fun _ => id)
      (fun _ _ _ _ _ _ => id) _ _).until

theorem bindClosed_outside :
    Prog.BindClosed fun _ (p : Skc _) => Maintains (agentLogic L k E i) (Outside L k i) p :=
  Maintains.bindClosed stable_outsideLock

/-- **`C_OnDemand_KeyLoad`** -/
theorem maintains_cOnDemandKeyLoad {cInit : Skc CkRv} (hinit : UntilLock cInit) (uri : Bytes) :
    Maintains (agentLogic L k E i) (Outside L k i)
      (cOnDemandKeyLoad L (L.stmOps cInit) cInit uri) := by
  have hfree : ∀ c : Call, ApimoduleCall c → ¬c.Guarded := fun c hc => (hc.swkCall c).not_guarded
  have htoken : ∀ {β : Type} {p : Skc β}, p.Issues TokenCall →
      Maintains (agentLogic L k E i) (Outside L k i) p :=
    maintains_unguarded fun c hc => hfree c (hc.apimoduleCall c)
  have hload : ∀ uriData err, callData L uri = some uriData →
      Maintains (agentLogic L k E i) (Outside L k i)
        (onDemandLoadkey L (L.stmOps cInit) uriData uri err) := fun uriData err huri =>
    onDemandLoadkey_closed bindClosed_outside
      (maintains_keyagentLoadkey (freeStm_stmOps hinit L) huri err) fun _ => maintains_fault
  unfold cOnDemandKeyLoad
  split
  · exact .pure stable_outsideLock _
  · next uriData huri =>
    refine (htoken (lookupOrInitToken_issues _ _ _)).bind fun r => ?_
    obtain ⟨atoken, err⟩ := r
    cases atoken with
    | none => exact hload uriData err huri
    | some atoken =>
      refine (htoken (readToken_issues atoken)).bind fun token => ?_
      split
      · exact .pure stable_outsideLock _
      · refine Maintains.bind (maintains_unguarded (fun c hc => hfree c (hc.apimoduleCall c))
          (apimoduleFindobject_issues _ _)) fun r => ?_
        dsimp only
        split
        · exact .pure stable_outsideLock _
        · exact hload uriData err huri

/-- **`C_Initialize`**, which loads keys too. -/
theorem maintains_cInitialize_outside (fuel : Nat) :
    Maintains (agentLogic L k E i) (Outside L k i) (cInitialize L fuel) := by
  have hlift : ∀ c : Call, ¬c.Guarded →
      Maintains (agentLogic L k E i) (Outside L k i) (Prog.lift (S := skcSig) c) := fun c hc =>
    maintains_unguarded (P := fun c => ¬c.Guarded) (fun _ h => h) ⟨hc, fun _ => trivial⟩
  refine (InitializeClosed.cInitialize_closed
    (C := fun _ p => UntilLock p ∧ Maintains (agentLogic L k E i) (Outside L k i) p)
    { pure := fun a => ⟨trivial, .pure stable_outsideLock a⟩
      bind := fun h hf => ⟨h.1.bind fun a => (hf a).1, h.2.bind fun a => (hf a).2⟩
      cInitialize := ⟨.inr ⟨trivial, fun _ => trivial⟩, hlift _ id⟩
      atomicIntAdd := ⟨.inr ⟨trivial, fun _ => trivial⟩, hlift _ id⟩
      readLines := fun _ => ⟨.inr ⟨trivial, fun _ => trivial⟩, hlift _ id⟩
      criticalError := fun _ => ⟨(Skc.issues_deref trivial).until, maintains_fault⟩
      outOfFuel := ⟨.inr ⟨trivial, fun a => a.elim⟩,
        maintains_unguarded (P := fun c => ¬c.Guarded) (fun _ h => h) ⟨id, fun a => a.elim⟩⟩ }
    (fun hinit uri => ?_) fuel).2
  exact ⟨cOnDemandKeyLoad_untilLock hinit.1 L _ uri, maintains_cOnDemandKeyLoad hinit.1 uri⟩

theorem maintains_application_outside (calls : List EntryPoint) :
    Maintains (agentLogic L k E i) (Outside L k i) (application L calls) := by
  induction calls with
  | nil => exact .pure stable_outsideLock ()
  | cons call calls ih =>
    refine Maintains.bind ?_ fun _ => ih
    cases call with
    | cInitialize => exact maintains_cInitialize_outside 2
    | cFinalize =>
      exact maintains_unguarded (P := fun c => ¬c.Guarded) (fun _ h => h) ⟨id, fun _ => trivial⟩
    | onDemand uri => exact maintains_cOnDemandKeyLoad (cInitialize_untilLock L 1) uri

/-- What every step keeps, a run of all threads keeps. -/
theorem serialized_reach {calls : Nat → List EntryPoint} (hlock : s.rwlock = none)
    {q : Pool Nat skcSig (World W) Unit}
    (hr : Pool.Reach (sysStep E) ⟨fun i => application L (calls i), s⟩ q) :
    Serialized L s.keyagent q.state := by
  have hstart : Serialized L s.keyagent s := fun _ => ⟨_, .refl, rfl, rfl⟩
  have hall : ∀ i, Sat (agentLogic L s.keyagent E i) (application L (calls i))
      (fun _ t => Outside L s.keyagent i t) s := fun i =>
    maintains_application_outside (calls i) s ⟨by rw [hlock]; nofun, hstart⟩
  exact Mutex.always_reach hall hr hstart

/--
**Loads are one step.** Whatever the threads of an application call, and however they are interleaved: when
no load is going on the agent is as a series of loads leaves it that a single thread runs one after the other.
-/
theorem loads_serialized {calls : Nat → List EntryPoint} (hlock : s.rwlock = none)
    {q : Pool Nat skcSig (World W) Unit}
    (hr : Pool.Reach (sysStep E) ⟨fun i => application L (calls i), s⟩ q)
    (hfree : q.state.rwlock = none) :
    ∃ t, LoadSeries L (agentAlone s.keyagent) t ∧ t.keyagent = q.state.keyagent := by
  obtain ⟨t, ht, -, hka⟩ := serialized_reach hlock hr hfree
  exact ⟨t, ht, hka⟩

end

/-- Two threads load a key each, both of them create the token. -/
theorem loads_serialized_two : ∃ q : Pool Nat skcSig (World TokenStore) Unit,
    Pool.Reach (sysStep tokenStoreStep)
      ⟨fun i => application kmsLibrary (twoApplications i), tokenStoreWorld none⟩ q ∧
    q.state.rwlock = none ∧ q.state.keyagent.keyHash.entries.length = 2 ∧
    ∃ t, LoadSeries kmsLibrary (agentAlone (tokenStoreWorld none).keyagent) t ∧
      t.keyagent = q.state.keyagent := by
  obtain ⟨q, hq, hv⟩ := Option.map_eq_some_iff.mp (show
    (Pool.schedule (sysHandler tokenStoreHandler) [(1, 5), (0, 150), (1, 140)]
      ⟨fun i => application kmsLibrary (twoApplications i), tokenStoreWorld none⟩).map
      (fun q => (q.state.rwlock, q.state.keyagent.keyHash.entries.length)) = some (none, 2)
    by decide +kernel)
  obtain ⟨hfree, hkeys⟩ := Prod.mk.inj hv
  have hr : Pool.Reach (sysStep tokenStoreStep) _ q :=
    Pool.schedule_reach (fun _ => sysHandler_answers) hq
  exact ⟨q, hr, hfree, hkeys, loads_serialized rfl hr hfree⟩

/-! ## The tables between loads -/

/-- An NPM that names no other request than the one it is called for when it brings a session. -/
def NamesOwnRequest (requestId : Bytes) : NpmCall → Prop
  | .sessionCreate id _ _ _ _ _ => id = requestId
  | _ => True

/-- The request of a load is registered, and no other one is. -/
structure Registered (requestId : Bytes) (moduleData : Option ApimoduleUriData) (k : Keyagent) :
    Prop where
  only : k.OnlyRequest requestId moduleData
  registered : k.apimoduleLoadkeyHash.lookup requestId ≠ none

/-- What holds while the load of a request goes on. -/
structure TablesDuring (requestId : Bytes) (moduleData : Option ApimoduleUriData) (k : Keyagent) :
    Prop extends TablesInv k, Registered requestId moduleData k

section

variable {requestId : Bytes} {moduleData : Option ApimoduleUriData} {k k' : Keyagent}
  {s : World Unit}

theorem Registered.of_requests (h : Registered requestId moduleData k)
    (hk : k'.apimoduleLoadkeyHash = k.apimoduleLoadkeyHash) :
    Registered requestId moduleData k' :=
  ⟨h.only.of_requests hk, by rw [hk]; exact h.registered⟩

theorem Registered.setStmName (h : Registered requestId moduleData k) (id label : Bytes) :
    Registered requestId moduleData (k.setStmName id label) := by
  refine ⟨h.only.setStmName id label, ?_⟩
  rw [Keyagent.setStmName, GHashTable.lookup_update]
  split
  · rw [ne_eq, Option.map_eq_none_iff]
    next hid => exact hid ▸ h.registered
  · exact h.registered

/-- An unknown security module leaves the agent's variables alone. -/
theorem sat_unknown_stm {d : StmCall} {J : Keyagent → Prop} (h : J s.keyagent) :
    Sat (seqView anyStep).logic (Prog.lift (S := skcSig) (.stm d)) (fun _ t => J t.keyagent) s := by
  refine AgentView.sat_lift'.mpr ⟨trivial, fun a t ht => ?_⟩
  have hka : t.keyagent = s.keyagent := (seqView anyStep).ka_step ht fun _ => nofun
  exact hka ▸ h

/-- A session that is created leaves the request registered. -/
theorem sat_sessionCreate_registered (hs : Registered requestId moduleData s.keyagent)
    {id label sessionId swk swkType : Bytes} {cacheId : Int} {error : Option GError} :
    Sat (seqView anyStep).logic
      (keyagentSessionCreate .unknown id label sessionId swk swkType cacheId error)
      (fun _ t => Registered requestId moduleData t.keyagent) s := by
  refine AgentView.sat_sessionCreate_quiet (fun _ => hs) fun session err' t ht => ?_
  have htk : Registered requestId moduleData t.keyagent := hs.of_requests ht.keysFrom.requests
  refine AgentView.sat_keyagentStmSetSession (fun _ _ _ _ => htk) fun data lstm request _ _ _ => ?_
  exact sat_unknown_stm (d := .setSession _ _ _) ((htk.setStmName _ _).of_requests rfl)

/-- A key that is created leaves the request registered. -/
theorem sat_keyCreate_registered (hs : Registered requestId moduleData s.keyagent) {url : Bytes}
    {type : KeyagentKeytype} {attrs : Option KAttributes} {sessionId : Option Bytes}
    {cacheId : Int} {error : Option GError} :
    Sat (seqView anyStep).logic
      (keyagentKeyCreateWithCacheid url type attrs sessionId cacheId error)
      (fun _ t => Registered requestId moduleData t.keyagent) s := by
  refine AgentView.sat_keyagentKeyCreateWithCacheid (fun _ _ => hs) ?_ ?_
  · intro key err' t _ ht
    exact hs.of_requests ht.cacheEq.requests
  · intro a id r err' t _ _ _ _ ht
    exact hs.of_requests ht.cacheEq.requests

/-- One operation of an NPM that names its own request. -/
theorem sat_npmOps_tables (hs : TablesDuring requestId moduleData s.keyagent) {c : NpmCall}
    (hc : NamesOwnRequest requestId c) :
    Sat (seqView anyStep).logic (npmOps .unknown c)
      (fun _ t => TablesDuring requestId moduleData t.keyagent) s := by
  have hlift : ∀ d : Call, (∀ f, d ≠ .modifyKeyagent f) →
      Sat (seqView anyStep).logic (Prog.lift (S := skcSig) d)
        (fun _ t => TablesDuring requestId moduleData t.keyagent) s := by
    intro d hd
    refine AgentView.sat_lift'.mpr ⟨trivial, fun a t ht => ?_⟩
    have hka : t.keyagent = s.keyagent := (seqView anyStep).ka_step ht hd
    exact hka ▸ hs
  cases c with
  | sessionGetIds => exact AgentView.sat_sessionGetIds fun _ _ => hs
  | stmGetChallenge id nonce name error =>
    refine AgentView.sat_keyagentStmGetChallenge (fun _ => hs) fun lstm request _ _ => ?_
    refine sat_unknown_stm (d := .createChallenge _ _ _) ?_
    exact ⟨⟨hs.noHeapKeys, hs.current⟩, hs.toRegistered.setStmName _ _⟩
  | sessionCreate id name sessionId swk swkType error =>
    obtain rfl : id = requestId := hc
    refine ((sat_sessionCreate_tables hs.toTablesInv hs.registered).and
      (sat_sessionCreate_registered hs.toRegistered)).mono fun _ t ht => ⟨ht.1, ht.2⟩
  | keyCreate id url type attrs sessionId error =>
    exact ((sat_keyCreate_tables hs.toTablesInv).and
      (sat_keyCreate_registered hs.toRegistered)).mono fun _ t ht => ⟨ht.1, ht.2⟩
  | httpsSend request => exact hlift _ fun _ => nofun
  | uninitialised n => exact hlift _ fun _ => nofun
  | fault reason => exact AgentView.sat_fault

/-- What the operations of an NPM keep that meet a condition, the NPM keeps that issues no others. -/
theorem sat_runNpm_issues {α : Type} {J : World Unit → Prop} {P : NpmCall → Prop} {p : Npm α}
    (hp : p.Issues P)
    (hop : ∀ {c t}, P c → J t → Sat (seqView anyStep).logic (npmOps .unknown c) (fun _ u => J u) t)
    (hs : J s) : Sat (seqView anyStep).logic (runNpm .unknown p) (fun _ t => J t) s := by
  induction p generalizing s with
  | ret a => exact sat_seq_pure.mpr hs
  | call c k ih => exact (hop hp.1 hs).bind fun a t ht => ih a (hp.2 a) ht

/-- What is asked of the NPMs of a library. -/
def NamesOwnRequests (npms : List KeyagentNpmReal) : Prop :=
  ∀ npm ∈ npms, ∀ details err, (npm.keyLoad details err).Issues (NamesOwnRequest details.requestId)

/-- The tables are in order and no load is registered. -/
structure TablesAside (k : Keyagent) : Prop extends TablesInv k where
  noRequests : k.NoRequests

theorem TablesAside.insert (h : TablesAside k) (requestId : Bytes) (request : KeyagentRequest) :
    TablesDuring requestId request.moduleData
      (k.withRequests (k.apimoduleLoadkeyHash.insert requestId request)) where
  noHeapKeys := h.noHeapKeys
  current := h.current
  only := h.noRequests.insert
  registered := by
    rw [Keyagent.withRequests, GHashTable.lookup_insert_eq, if_pos rfl]
    exact Option.some_ne_none _

theorem sat_loadkey_tables {L : Library} (hnpm : NamesOwnRequests L.npmHash)
    (hs : TablesAside s.keyagent) {npm : KeyagentNpmReal} (hmem : npm ∈ L.npmHash) {url : Bytes}
    {err : Option GError} :
    Sat (seqView anyStep).logic (loadkey (L.modules .unknown) npm url moduleData err)
      (fun _ t => TablesAside t.keyagent) s := by
  refine AgentView.sat_loadkey hs fun tmpError requestId t details _ ht hid _ => ?_
  have hka : t.keyagent = s.keyagent := (seqView anyStep).ka_step ht fun _ => nofun
  subst hid
  have hinsert := (hka ▸ hs : TablesAside t.keyagent).insert details.requestId
    { moduleData := moduleData, npmName := npm.label, stmName := none }
  refine (sat_runNpm_issues (J := fun u => TablesDuring details.requestId moduleData u.keyagent)
    (hnpm npm hmem details err) (fun hc hu => sat_npmOps_tables hu hc) hinsert).mono fun r u hu => ?_
  refine (sat_loadkeyStm (Z := fun (_ : Bool) (v : World Unit) => TablesInv v.keyagent)
    (fun _ h => h) (fun _ h => h)
    (fun {label details err v} _ hv => ?_) hu.toTablesInv hu.only).mono fun r' v hv => ?_
  · refine AgentView.sat_lift'.mpr ⟨trivial, fun a w hw => ?_⟩
    have hkw : w.keyagent = v.keyagent := (seqView anyStep).ka_step hw fun _ => nofun
    exact ⟨hkw ▸ hv, hkw⟩
  · exact ⟨⟨hv.1.noHeapKeys, hv.1.current⟩, hv.2.erase⟩

theorem sat_npmHashFind_tables {L : Library} (hnpm : NamesOwnRequests L.npmHash)
    {npms : List KeyagentNpmReal} (hnpms : npms ⊆ L.npmHash) {url : Bytes} {err : Option GError}
    (hs : TablesAside s.keyagent) :
    Sat (seqView anyStep).logic (npmHashFind (L.modules .unknown) url moduleData npms err)
      (fun _ t => TablesAside t.keyagent) s := by
  induction npms generalizing s err with
  | nil => exact sat_seq_pure.mpr hs
  | cons npm rest ih =>
    refine (sat_loadkey_tables hnpm hs (hnpms List.mem_cons_self)).bind ?_
    rintro ⟨ret, e⟩ t ht
    cases ret with
    | true => exact sat_seq_pure.mpr ht
    | false => exact ih (fun n hn => hnpms (List.mem_cons_of_mem _ hn)) ht

/-- **A load of the agent alone.** -/
theorem sat_agentLoad_tables {L : Library} (hnpm : NamesOwnRequests L.npmHash)
    (load : Bytes × Option GError) (hs : TablesAside s.keyagent) :
    Sat (seqView anyStep).logic (agentLoad L load) (fun _ t => TablesAside t.keyagent) s := by
  unfold agentLoad
  split
  · exact sat_seq_pure.mpr hs
  · refine AgentView.sat_loadkeyWithModuledata (fun _ => hs) fun _ => ⟨trivial, fun _ t ht => ?_⟩
    have hkt : t.keyagent = s.keyagent := (seqView anyStep).ka_step ht fun _ => nofun
    refine (AgentView.sat_loadkeyLocked (Q := fun _ u => TablesAside u.keyagent)
      (fun _ => hkt ▸ hs) fun _ => ?_).mono fun r u hu => ⟨trivial, fun _ v hv => ?_⟩
    · refine (sat_npmHashFind_tables hnpm (List.Subset.refl _) (hkt ▸ hs)).mono fun r u hu => ?_
      exact ⟨fun _ _ => hu, fun _ => hu⟩
    · have hkv : v.keyagent = u.keyagent := (seqView anyStep).ka_step hv fun _ => nofun
      exact hkv ▸ hu

theorem LoadSeries.tables {L : Library} (hnpm : NamesOwnRequests L.npmHash) {t : World Unit}
    (h : LoadSeries L s t) (hs : TablesAside s.keyagent) : TablesAside t.keyagent :=
  h.invariant (fun hu _ hr => (sat_agentLoad_tables hnpm _ hu).runs hr) hs

end

/--
**The tables, whatever the threads do.** When no load is going on, every session of `session_hash` is the
current one of its STM, no two of them name the same STM, and no request is left behind.
-/
theorem threads_sessions_current {L : Library} (hnpm : NamesOwnRequests L.npmHash)
    {E : Step skcSig W} {s : World W} {calls : Nat → List EntryPoint} (hlock : s.rwlock = none)
    (hempty : EmptyTables s.keyagent) (hreq : s.keyagent.NoRequests)
    {q : Pool Nat skcSig (World W) Unit}
    (hr : Pool.Reach (sysStep E) ⟨fun i => application L (calls i), s⟩ q)
    (hfree : q.state.rwlock = none) :
    SessionsCurrent q.state.keyagent ∧ q.state.keyagent.NoRequests ∧
      (q.state.keyagent.storedSessions.map (·.name)).Nodup := by
  obtain ⟨t, ht, -, hka⟩ := serialized_reach hlock hr hfree
  have hstart : TablesAside (agentAlone s.keyagent).keyagent := ⟨.of_empty hempty, hreq⟩
  have hq : TablesAside q.state.keyagent := hka ▸ ht.tables hnpm hstart
  exact ⟨hq.current, hq.noRequests, hq.current.names_nodup⟩

/-- The KMS module keeps to the request of its load. -/
theorem namesOwnRequests_kms (serverUrl : Bytes) : NamesOwnRequests [Kms.npm serverUrl] := by
  intro npm hnpm details err
  rw [List.mem_singleton] at hnpm
  subst hnpm
  refine (Kms.npmLoadkey_asksFor serverUrl details 2 err).mono fun c hc => ?_
  cases c with
  | sessionCreate requestId name sessionId swk swkType error => exact hc
  | _ => trivial

/-- Two threads, one session. -/
theorem threads_sessions_current_two : ∃ q : Pool Nat skcSig (World TokenStore) Unit,
    Pool.Reach (sysStep tokenStoreStep)
      ⟨fun i => application kmsLibrary (twoApplications i), tokenStoreWorld none⟩ q ∧
    q.state.keyagent.sessionHash.values = [0] ∧ SessionsCurrent q.state.keyagent := by
  obtain ⟨q, hq, hv⟩ := Option.map_eq_some_iff.mp (show
    (Pool.schedule (sysHandler tokenStoreHandler) [(1, 5), (0, 150), (1, 140)]
      ⟨fun i => application kmsLibrary (twoApplications i), tokenStoreWorld none⟩).map
      (fun q => (q.state.rwlock, q.state.keyagent.sessionHash.values)) = some (none, [0])
    by decide +kernel)
  obtain ⟨hfree, hvalues⟩ := Prod.mk.inj hv
  have hr : Pool.Reach (sysStep tokenStoreStep) _ q :=
    Pool.schedule_reach (fun _ => sysHandler_answers) hq
  refine ⟨q, hr, hvalues, (threads_sessions_current (namesOwnRequests_kms _) rfl ⟨rfl, rfl⟩ ?_ hr
    hfree).1⟩
  intro id
  exact AList.lookup_empty id

end SkcLibrary
