import SkcLibrary.Apimodule.TokenInit
import SkcLibrary.Apimodule.Maintain

/-!
# Creating a token

`apimodule_createtoken` takes the number of slots, less one, for the id of a slot: "Last token is
uninitialized.. use it". PKCS#11 numbers its slots as it likes.

* `free_slot_iff` — the tokens that are initialised in a free slot
-/

namespace SkcLibrary

open Interaction

variable {W : Type}

/-! ## Slots -/

/-- The slots of a PKCS#11 module in the order of `C_GetSlotList`, with the labels of the tokens that are
initialised. -/
abbrev SlotTable := List (Nat × Option Bytes)

/-- A module whose slots are a part of its state. Looking at them does not change them. -/
structure SlotStore (E : Step skcSig W) (table : W → SlotTable) : Prop where
  count : ∀ {w a w'}, E (.ck .cGetSlotListCount) w a w' →
    table w' = table w ∧ (a.1 = ckrOk → a.2 = (table w).length)
  list : ∀ {n w a w'}, E (.ck (.cGetSlotList n)) w a w' →
    table w' = table w ∧ (a.1 = ckrOk → a.2 = (table w).map Prod.fst)
  info : ∀ {slot w a w'}, E (.ck (.cGetTokenInfo slot)) w a w' → table w' = table w

/-- The slot is in the list, and no token in it is initialised. -/
def FreeSlot (t : SlotTable) (slot : Nat) : Prop :=
  slot ∈ t.map Prod.fst ∧ ∀ label, (slot, some label) ∉ t

/-- The id behind which the count of the slots comes is that of a slot, and no token in it is
initialised. -/
structure LastFree (t : SlotTable) : Prop where
  listed : ∃ entry ∈ t, entry.1 + 1 = t.length
  empty : ∀ entry ∈ t, entry.1 + 1 = t.length → entry.2 = none

theorem freeSlot_iff {t : SlotTable} {slot : Nat} (h : slot + 1 = t.length) :
    FreeSlot t slot ↔ LastFree t := by
  constructor
  · rintro ⟨hmem, hfree⟩
    obtain ⟨⟨slot', label⟩, hentry, rfl⟩ := List.mem_map.mp hmem
    refine ⟨⟨_, hentry, h⟩, fun entry hentry hlast => ?_⟩
    obtain ⟨slot'', label'⟩ := entry
    have hsame : slot'' = slot' := by
      have hlast : slot'' + 1 = t.length := hlast
      omega
    cases label' with
    | none => rfl
    | some label' => exact absurd (hsame ▸ hentry) (hfree label')
  · intro hlast
    obtain ⟨⟨slot', label⟩, hentry, hlen⟩ := hlast.listed
    have hsame : slot' = slot := by
      have hlen : slot' + 1 = t.length := hlen
      omega
    refine ⟨List.mem_map.mpr ⟨_, hentry, hsame⟩, fun label hmem => ?_⟩
    exact absurd (hlast.empty _ hmem h) nofun

/-! ## Every call of `C_InitToken` -/

/-- `C_InitToken` is called for the slot before the count. -/
def InitsLast (table : W → SlotTable) : Call → World W → Prop
  | .ck (.cInitToken slot _ _), s => slot + 1 = (table s.env).length
  | _, _ => True

/-- The setting of the functions below; nothing is kept. -/
abbrev slotLogic (E : Step skcSig W) (table : W → SlotTable) : Logic skcSig (World W) :=
  .seq (sysStep E 0) (InitsLast table)

section

variable {E : Step skcSig W} {table : W → SlotTable}

theorem inits_other {c : Call} (hc : ∀ slot pin label, c ≠ .ck (.cInitToken slot pin label)) :
    (slotLogic E table).Triple (fun _ => True) c fun _ _ => True := by
  refine fun s _ => ⟨?_, fun _ _ _ => ⟨trivial, trivial⟩⟩
  show InitsLast table c s
  unfold InitsLast
  split
  · exact absurd rfl (hc _ _ _)
  · trivial

theorem inits_calls : KeptByCalls (slotLogic E table) fun _ => True where
  stable := stable_seq
  call c hc := inits_other (by rintro slot pin label rfl; exact hc)

theorem sat_createtoken_last (h : SlotStore E table) (uriData : ApimoduleUriData) (s : World W) :
    Sat (slotLogic E table) (apimoduleCreatetoken uriData) (fun _ _ => True) s := by
  have hlogin : ∀ session, (createtokenLogin uriData session).Issues PlainCall := fun _ =>
    createtokenLogin_issues (fun _ => trivial) trivial trivial
  rw [apimoduleCreatetoken, Skc.ck_bind]
  refine sat_seq_call.mpr ⟨trivial, fun a t ⟨w, hw, ht⟩ => ?_⟩
  obtain ⟨hsame, hcount⟩ := h.count hw
  obtain ⟨rv, nslots⟩ := a
  dsimp only
  split
  · exact sat_seq_pure.mpr trivial
  · next hok =>
    obtain ⟨hrv, hnslots⟩ := not_or.mp hok
    have hlen : nslots = (table s.env).length := hcount (not_not.mp hrv)
    rw [Skc.ck_bind]
    refine sat_seq_call.mpr ⟨?_, fun rv u _ => ?_⟩
    -- nothing was added between the count and the call, so the last slot is the new one
    · show nslots - 1 + 1 = (table t.env).length
      rw [ht, hsame, ← hlen]
      omega
    · split
      · exact sat_seq_pure.mpr trivial
      · refine (inits_calls.ck (c := .cOpenSession (nslots - 1)) trivial u trivial).bind ?_
        rintro ⟨rv, session⟩ v -
        dsimp only
        split
        · exact sat_seq_pure.mpr trivial
        · refine (inits_calls.plain (fun _ h => h) (hlogin session) v trivial).bind ?_
          exact fun _ _ _ => sat_seq_pure.mpr trivial

/-- However deep `C_Initialize` is nested. -/
theorem createsTokens_last (h : SlotStore E table) {cInit : Skc CkRv}
    (hinit : Maintains (slotLogic E table) (fun _ => True) cInit) :
    CreatesTokens (slotLogic E table) (fun _ => True) (fun _ => True) cInit where
  calls := inits_calls
  ready := ⟨stable_seq, fun c hc => (inits_calls.call c hc).conseq (fun _ _ => trivial)
    fun _ _ _ => ⟨trivial, trivial⟩⟩
  createtoken uriData s _ := (sat_createtoken_last h uriData s).mono fun _ _ _ =>
    ⟨trivial, fun _ => trivial⟩
  cInitialize s _ _ := hinit s trivial

theorem maintains_cInitialize_last (h : SlotStore E table) (L : Library) (fuel : Nat) :
    Maintains (slotLogic E table) (fun _ => True) (cInitialize L fuel) := by
  have hcall : ∀ c : Call, (∀ slot pin label, c ≠ .ck (.cInitToken slot pin label)) →
      Maintains (slotLogic E table) (fun _ => True) (Prog.lift (S := skcSig) c) := by
    intro c hc
    exact .of_issues (P := fun d : Call => d = c) stable_seq
      (fun d hd => hd ▸ inits_other hc) ⟨rfl, fun _ => trivial⟩
  refine InitializeClosed.cInitialize_closed
    (C := fun _ p => Maintains (slotLogic E table) (fun _ => True) p)
    { Maintains.bindClosed stable_seq with
      cInitialize := hcall (.ck .cInitialize) fun _ _ _ => nofun
      atomicIntAdd := hcall .atomicIntAdd fun _ _ _ => nofun
      readLines := fun filename => hcall (.readLines filename) fun _ _ _ => nofun
      criticalError := fun error => inits_calls.deref error _
      outOfFuel := .of_issues (P := fun d : Call => d = .outOfFuel) stable_seq
        (fun d hd => hd ▸ inits_other fun _ _ _ => nofun) ⟨rfl, fun a => a.elim⟩ }
    (fun hinit uri => ?_) fuel
  exact maintains_onDemand inits_calls (createsTokens_last h hinit)
    (inits_other fun _ _ _ => nofun) (inits_other fun _ _ _ => nofun) L uri

/--
**`C_InitToken`.** Whenever it is called on the way through `init_apimodule_token`, it is called for a free
slot if and only if there is a slot with the id before the count and it is free.
-/
theorem free_slot_iff (h : SlotStore E table) {L : Library} {fuel : Nat}
    {uriData : ApimoduleUriData} {create : Bool} {err : Option GError} {s t : World W} {slot : Nat}
    {pin label : Bytes} {k : CkRv → Skc (Option TokenRef × Option GError)}
    (hrun : Exec (sysStep E 0) (initApimoduleToken (cInitialize L fuel) uriData create err) s
      (.call (S := skcSig) (.ck (.cInitToken slot pin label)) k) t) :
    FreeSlot (table t.env) slot ↔ LastFree (table t.env) := by
  have hcreates := createsTokens_last h (maintains_cInitialize_last h L fuel)
  have hlast := (hcreates.initApimoduleToken uriData create err s trivial).issued hrun
  exact freeSlot_iff hlast

end

/-! ## Slots in another order -/

/-- A module that answers from its slots. The label of a token that is not initialised is blank. -/
def slotTableHandler (c : Call) (w : SlotTable) : Option (c.Ans × SlotTable) :=
  match c with
  | .calloc _ => some (true, w)
  | .ck .cGetSlotListCount => some ((ckrOk, w.length), w)
  | .ck (.cGetSlotList _) => some ((ckrOk, w.map Prod.fst), w)
  | .ck (.cGetTokenInfo slot) =>
    some ((ckrOk, ((w.lookup slot).join).getD (List.replicate 32 32)), w)
  | _ => none

/-- The surroundings with that module. -/
def slotTableStep : Step skcSig SlotTable := fun c w a w' => slotTableHandler c w = some (a, w')

theorem slotStore_slotTable : SlotStore slotTableStep id where
  count {w a w'} h := by
    obtain ⟨rfl, rfl⟩ := Prod.mk.inj (Option.some.inj h)
    exact ⟨rfl, fun _ => rfl⟩
  list {n w a w'} h := by
    obtain ⟨rfl, rfl⟩ := Prod.mk.inj (Option.some.inj h)
    exact ⟨rfl, fun _ => rfl⟩
  info {slot w a w'} h := (Prod.mk.inj (Option.some.inj h)).2.symm

/-- The slot that a program is about to initialise. -/
def initTokenSlot {α : Type} (p : Skc α) : Option Nat :=
  match p with
  | .call (Call.ck (CkCall.cInitToken slot _ _)) _ => some slot
  | _ => none

/-- A library that preloads nothing, in a process that has no token cached. -/
def slotTableWorld (t : SlotTable) : World SlotTable := ⟨sgxAgent, ⟨∅, [], 1⟩, none, t⟩

/-- The first calls of `init_apimodule_token`, executed. -/
def stepsInit (L : Library) (n : Nat) (t : SlotTable) :
    Option (Skc (Option TokenRef × Option GError) × World SlotTable) :=
  (initApimoduleToken (cInitialize L 1) kmsUriData true none).steps (sysHandler slotTableHandler 0) n
    (slotTableWorld t)

theorem stepsInit_exec {L : Library} {n : Nat} {t : SlotTable} {slot : Nat} {t' : SlotTable}
    (h : (stepsInit L n t).map (fun r => (initTokenSlot r.1, r.2.env)) = some (some slot, t')) :
    ∃ (pin label : Bytes) (k : CkRv → Skc (Option TokenRef × Option GError)) (u : World SlotTable),
      Exec (sysStep slotTableStep 0) (initApimoduleToken (cInitialize L 1) kmsUriData true none)
        (slotTableWorld t) (.call (S := skcSig) (.ck (.cInitToken slot pin label)) k) u ∧
      u.env = t' := by
  obtain ⟨⟨p, u⟩, hp, hv⟩ := Option.map_eq_some_iff.mp h
  obtain ⟨hslot, rfl⟩ := Prod.mk.inj hv
  have hexec := Prog.steps_exec (R := sysStep slotTableStep 0) sysHandler_answers hp
  simp only [initTokenSlot] at hslot
  split at hslot
  · next slot' pin label k =>
    obtain rfl := Option.some.inj hslot
    exact ⟨pin, label, k, u, hexec, rfl⟩
  · cases hslot

/-- Some library; nothing of it is used before the token is created. -/
def slotLibrary : Library where
  config := ⟨[], [], [], true, true⟩
  npmHash := []
  sgxStm := ⟨lit "ECDSA", some (lit "PERSISTENT")⟩
  rsaPublicKeyParams := ckRsaPublicKeyParams
  p11KitUriParse _ := none
  preLoadKeyfile := lit "NIL"

theorem free_slot_in_order : ∃ (slot : Nat) (pin label : Bytes)
    (k : CkRv → Skc (Option TokenRef × Option GError)) (t : World SlotTable),
    Exec (sysStep slotTableStep 0)
      (initApimoduleToken (cInitialize slotLibrary 1) kmsUriData true none)
      (slotTableWorld [(0, some (lit "OTHER")), (1, none)])
      (.call (S := skcSig) (.ck (.cInitToken slot pin label)) k) t ∧
    FreeSlot t.env slot := by
  obtain ⟨pin, label, k, t, hexec, ht⟩ := stepsInit_exec (show
    (stepsInit slotLibrary 6 [(0, some (lit "OTHER")), (1, none)]).map
      (fun r => (initTokenSlot r.1, r.2.env)) = some (some 1, [(0, some (lit "OTHER")), (1, none)])
    by decide +kernel)
  refine ⟨1, pin, label, k, t, hexec, (free_slot_iff slotStore_slotTable hexec).mpr ?_⟩
  rw [id, ht]
  exact ⟨⟨(1, none), by simp, rfl⟩, by simp⟩

/-- The slot of another token has the id before the count. -/
theorem not_free_slot : ¬∀ (W : Type) (E : Step skcSig W) (table : W → SlotTable) (L : Library)
    (fuel : Nat) (uriData : ApimoduleUriData) (create : Bool) (err : Option GError) (s t : World W)
    (slot : Nat) (pin label : Bytes) (k : CkRv → Skc (Option TokenRef × Option GError)),
    SlotStore E table → ((table s.env).map Prod.fst).Nodup →
    Exec (sysStep E 0) (initApimoduleToken (cInitialize L fuel) uriData create err) s
      (.call (S := skcSig) (.ck (.cInitToken slot pin label)) k) t → FreeSlot (table t.env) slot := by
  intro h
  obtain ⟨pin, label, k, t, hexec, ht⟩ := stepsInit_exec (show
    (stepsInit slotLibrary 6 [(0, none), (1, some (lit "OTHER"))]).map
      (fun r => (initTokenSlot r.1, r.2.env)) = some (some 1, [(0, none), (1, some (lit "OTHER"))])
    by decide +kernel)
  have hfree := h SlotTable slotTableStep id slotLibrary 1 kmsUriData true none _ t 1 pin label k
    slotStore_slotTable (by decide) hexec
  rw [id, ht] at hfree
  exact hfree.2 (lit "OTHER") (by simp)

end SkcLibrary
