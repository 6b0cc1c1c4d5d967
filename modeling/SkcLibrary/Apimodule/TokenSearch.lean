import SkcLibrary.Apimodule.Rules
import SkcLibrary.Keyagent.Tables

/-!
# The search for a token

`apimodule_findtoken` over a PKCS#11 module that answers: its slots are a list, and each has its own
token info or fails to have it read.

The label of a slot is cut to the length of the requested one before the two are compared, so a label
that goes on after it is taken for it. The return code is that of the last slot that was looked at.

* `token_found_iff` — the searches that find the slot with the label
-/

namespace SkcLibrary

open Interaction

variable {W : Type}

/-! ## The module -/

/-- `CKR_TOKEN_NOT_RECOGNIZED` -/
def ckrTokenNotRecognized : CkRv := 0xE1

/-- A module with at least one slot; `tokenInfo` is what `C_GetTokenInfo` answers for a slot. -/
structure AnswersSlots (E : Step skcSig W) (slots : List Nat) (tokenInfo : Nat → CkRv × Bytes) :
    Prop where
  count : ∀ {w a w'}, E (.ck .cGetSlotListCount) w a w' → a.1 = ckrOk ∧ a.2 ≠ 0
  calloc : ∀ {n w a w'}, E (.calloc n) w a w' → a = true
  list : ∀ {n w a w'}, E (.ck (.cGetSlotList n)) w a w' → a = (ckrOk, slots)
  info : ∀ {slot w a w'}, E (.ck (.cGetTokenInfo slot)) w a w' → a = tokenInfo slot
  nonempty : slots ≠ []

/-- A label as it was before it was padded. -/
def trimmedLabel (label : Bytes) : Bytes := label.rdropWhile (· = 32)

/-- The token info was read and has the label. -/
def HasLabel (label : Bytes) (info : CkRv × Bytes) : Prop :=
  info.1 = ckrOk ∧ trimmedLabel info.2 = label

/-- The token info was read and its label begins with the given one. -/
def BeginsWithLabel (label : Bytes) (info : CkRv × Bytes) : Prop :=
  info.1 = ckrOk ∧ label <+: trimmedLabel info.2

instance (label : Bytes) (info : CkRv × Bytes) : Decidable (HasLabel label info) :=
  inferInstanceAs (Decidable (_ ∧ _))

instance (label : Bytes) (info : CkRv × Bytes) : Decidable (BeginsWithLabel label info) :=
  inferInstanceAs (Decidable (_ ∧ _))

/-- The token info is that of a token which `apimodule_findtoken` reports. -/
def TokenReported (label : Bytes) (info : CkRv × Bytes) : Prop :=
  trimmedLabel info.2 ≠ [] ∧ BeginsWithLabel label info

instance (label : Bytes) (info : CkRv × Bytes) : Decidable (TokenReported label info) :=
  inferInstanceAs (Decidable (_ ∧ _))

/-- The first slot in the list whose token has the label, and no error. -/
def TokenFound (label : Bytes) (slots : List Nat) (tokenInfo : Nat → CkRv × Bytes)
    (result : CkRv × Option Nat) : Prop :=
  result.1 = ckrOk ∧ result.2 = slots.find? fun slot => HasLabel label (tokenInfo slot)

/--
The first label that begins with the requested one ends with it, and where none begins with it the last
slot in the list can be read.
-/
structure Searchable (label : Bytes) (slots : List Nat) (tokenInfo : Nat → CkRv × Bytes) : Prop where
  nonempty : label ≠ []
  whole : ∀ slot, slots.find? (fun slot => BeginsWithLabel label (tokenInfo slot)) = some slot →
    HasLabel label (tokenInfo slot)
  last : slots.find? (fun slot => BeginsWithLabel label (tokenInfo slot)) = none →
    ∀ slot, slots.getLast? = some slot → (tokenInfo slot).1 = ckrOk

/-! ## Labels -/

theorem HasLabel.begins {label : Bytes} {info : CkRv × Bytes} (h : HasLabel label info) :
    BeginsWithLabel label info := by
  refine ⟨h.1, ?_⟩
  exact h.2.symm ▸ List.prefix_refl label

theorem apimoduleUtf8ToChar_eq (label : Bytes) : apimoduleUtf8ToChar label =
    if trimmedLabel label = [] then none else some (trimmedLabel label) := rfl

/-- What the loop compares. -/
theorem take_eq_iff (label trimmed : Bytes) :
    trimmed.take label.length = label ↔ label <+: trimmed := by
  rw [List.prefix_iff_eq_take]
  exact eq_comm

/-- A narrower search finds the same if the wider one finds something it would have found. -/
theorem find?_eq_iff_of_imp {α : Type} {p q : α → Bool} (hpq : ∀ a, p a → q a) (l : List α) :
    l.find? q = l.find? p ↔ ∀ a, l.find? q = some a → p a := by
  constructor
  · intro h a ha
    rw [h] at ha
    exact List.find?_some ha
  · intro h
    cases hq : l.find? q with
    | none =>
      refine (List.find?_eq_none.mpr fun a ha hp => ?_).symm
      exact List.find?_eq_none.mp hq a ha (hpq a hp)
    | some a =>
      obtain ⟨-, before, after, hl, hbefore⟩ := List.find?_eq_some_iff_append.mp hq
      refine (List.find?_eq_some_iff_append.mpr ⟨h a hq, before, after, hl, fun b hb => ?_⟩).symm
      have hb' := hbefore b hb
      cases hp : p b with
      | false => rfl
      | true => rw [hpq b hp] at hb'; exact absurd hb' (by decide)

/-! ## The loop -/

/-- The loop ends with a slot whose token it reports, and goes on after another one. -/
theorem findtokenLoop_cons (label : Bytes) (slot : Nat) (rest : List Nat) (rv : CkRv) :
    findtokenLoop label (slot :: rest) rv = .call (S := skcSig) (.ck (.cGetTokenInfo slot)) fun a =>
      if TokenReported label a then pure (ckrOk, some slot) else findtokenLoop label rest a.1 := by
  rw [findtokenLoop, Skc.ck_bind]
  refine congrArg (Prog.call (S := skcSig) _) (funext fun a => ?_)
  obtain ⟨rv', info⟩ := a
  simp only [apimoduleUtf8ToChar_eq, TokenReported, BeginsWithLabel]
  by_cases hrv : rv' = ckrOk
  · by_cases hnil : trimmedLabel info = []
    · simp [hrv, hnil]
    · simp [hrv, hnil, take_eq_iff]
  · simp [hrv]

/-- The first slot with the label as the loop sees it. -/
def firstMatch (label : Bytes) (tokenInfo : Nat → CkRv × Bytes) (slots : List Nat) : Option Nat :=
  slots.find? fun slot => trimmedLabel (tokenInfo slot).2 ≠ [] ∧ BeginsWithLabel label (tokenInfo slot)

theorem firstMatch_cons (label : Bytes) (tokenInfo : Nat → CkRv × Bytes) (slot : Nat) (rest : List Nat) :
    firstMatch label tokenInfo (slot :: rest) =
      if TokenReported label (tokenInfo slot) then some slot else firstMatch label tokenInfo rest := by
  rw [firstMatch, List.find?_cons]
  by_cases hreported : TokenReported label (tokenInfo slot)
  · rw [if_pos hreported, decide_eq_true (show _ ∧ _ from hreported)]
  · rw [if_neg hreported, decide_eq_false (show ¬(_ ∧ _) from hreported)]
    rfl

/-- The return code of the last slot. -/
def lastRv (tokenInfo : Nat → CkRv × Bytes) (slots : List Nat) (rv : CkRv) : CkRv :=
  slots.getLast?.elim rv fun slot => (tokenInfo slot).1

theorem lastRv_cons (tokenInfo : Nat → CkRv × Bytes) (slot : Nat) (rest : List Nat) (rv : CkRv) :
    lastRv tokenInfo (slot :: rest) rv = lastRv tokenInfo rest (tokenInfo slot).1 := by
  unfold lastRv
  cases rest with
  | nil => rfl
  | cons next rest => rw [List.getLast?_cons_cons, List.getLast?_cons]; rfl

section

variable {E : Step skcSig W} {slots : List Nat} {tokenInfo : Nat → CkRv × Bytes} {label : Bytes}
  {s : World W}

/-- What the loop returns. -/
theorem sat_findtokenLoop (h : AnswersSlots E slots tokenInfo) (rest : List Nat) (rv : CkRv) :
    Sat (.seq (sysStep E 0) fun _ _ => True) (findtokenLoop label rest rv)
      (fun r _ => r = match firstMatch label tokenInfo rest with
        | some slot => (ckrOk, some slot)
        | none => (lastRv tokenInfo rest rv, none)) s := by
  -- induction on the slots that are left; `rv` is what the loop returns if none of them matches
  induction rest generalizing rv s with
  | nil => exact sat_seq_pure.mpr rfl
  | cons slot rest ih =>
    rw [findtokenLoop_cons]
    refine sat_seq_call.mpr ⟨trivial, fun a t ⟨w, hw, ht⟩ => ?_⟩
    obtain rfl := h.info hw
    rw [firstMatch_cons, lastRv_cons]
    by_cases hreported : TokenReported label (tokenInfo slot)
    · rw [if_pos hreported, if_pos hreported]
      exact sat_seq_pure.mpr rfl
    · rw [if_neg hreported, if_neg hreported]
      exact ih _

/-- What `apimodule_findtoken` returns. -/
theorem sat_findtoken (h : AnswersSlots E slots tokenInfo) {data : ApimoduleUriData} :
    Sat (.seq (sysStep E 0) fun _ _ => True) (apimoduleFindtoken data)
      (fun r _ => r = match firstMatch data.tokenLabel tokenInfo slots with
        | some slot => (ckrOk, some slot)
        | none => (lastRv tokenInfo slots ckrOk, none)) s := by
  rw [apimoduleFindtoken, Skc.ck_bind]
  refine sat_seq_call.mpr ⟨trivial, fun a t ⟨w, hw, ht⟩ => ?_⟩
  obtain ⟨hrv, hnslots⟩ := h.count hw
  obtain ⟨rv, nslots⟩ := a
  dsimp only at hrv hnslots ⊢
  rw [if_neg (not_or.mpr ⟨not_not.mpr hrv, hnslots⟩), Prog.lift_bind]
  refine sat_seq_call.mpr ⟨trivial, fun b t ⟨w, hw, ht⟩ => ?_⟩
  obtain rfl := h.calloc hw
  rw [if_pos rfl, Skc.ck_bind]
  refine sat_seq_call.mpr ⟨trivial, fun c t ⟨w, hw, ht⟩ => ?_⟩
  obtain rfl := h.list hw
  dsimp only
  rw [if_neg (not_or.mpr ⟨not_not.mpr rfl, h.nonempty⟩)]
  exact sat_findtokenLoop h slots ckrOk

theorem firstMatch_eq (hlabel : label ≠ []) :
    firstMatch label tokenInfo slots =
      slots.find? fun slot => BeginsWithLabel label (tokenInfo slot) := by
  unfold firstMatch
  congr 1
  funext slot
  refine decide_eq_decide.mpr ⟨fun h => h.2, fun h => ⟨fun hnil => hlabel ?_, h⟩⟩
  have hprefix := h.2
  rw [hnil] at hprefix
  exact List.prefix_nil.mp hprefix

/-- Without a label no search comes out right. -/
theorem not_tokenFound_nil (hslots : slots ≠ []) :
    ¬TokenFound [] slots tokenInfo (match firstMatch [] tokenInfo slots with
      | some slot => (ckrOk, some slot)
      | none => (lastRv tokenInfo slots ckrOk, none)) := by
  rintro ⟨hrv, hfound⟩
  cases hmatch : firstMatch [] tokenInfo slots with
  | some slot =>
    simp only [hmatch] at hfound
    have hlabel := List.find?_some hfound.symm
    have hother := List.find?_some hmatch
    exact (of_decide_eq_true hother).1 (of_decide_eq_true hlabel).2
  | none =>
    simp only [hmatch] at hrv hfound
    have hlast : slots.getLast? = some (slots.getLast hslots) := List.getLast?_eq_some_getLast hslots
    have hmem : slots.getLast hslots ∈ slots := List.getLast_mem hslots
    rw [lastRv, hlast] at hrv
    have hno := List.find?_eq_none.mp hmatch _ hmem
    have hno' := List.find?_eq_none.mp hfound.symm _ hmem
    simp only [decide_eq_true_eq] at hno hno'
    by_cases hnil : trimmedLabel (tokenInfo (slots.getLast hslots)).2 = []
    · exact hno' ⟨hrv, hnil⟩
    · exact hno ⟨hnil, hrv, List.nil_prefix⟩

/--
**The search.** It finds the first slot with the label, without an error, if and only if no label that
goes on after the requested one comes first, and the last slot can be read or is not reached.
-/
theorem token_found_iff {data : ApimoduleUriData} {t : World W} {result : CkRv × Option Nat}
    (h : AnswersSlots E slots tokenInfo)
    (hrun : Runs (sysStep E 0) (apimoduleFindtoken data) s result t) :
    TokenFound data.tokenLabel slots tokenInfo result ↔
      Searchable data.tokenLabel slots tokenInfo := by
  rw [(sat_findtoken h).runs hrun]
  by_cases hlabel : data.tokenLabel = []
  · rw [hlabel]
    exact iff_of_false (not_tokenFound_nil h.nonempty) fun hs => hs.nonempty rfl
  · rw [firstMatch_eq hlabel]
    -- a slot with the label begins with it, so the search can stop at an earlier one only
    have hnarrow := find?_eq_iff_of_imp
      (p := fun slot => decide (HasLabel data.tokenLabel (tokenInfo slot)))
      (q := fun slot => decide (BeginsWithLabel data.tokenLabel (tokenInfo slot)))
      (fun slot hp => decide_eq_true (of_decide_eq_true hp).begins) slots
    constructor
    · rintro ⟨hrv, hfound⟩
      refine ⟨hlabel, fun slot hslot => ?_, fun hnone slot hlast => ?_⟩
      · simp only [hslot] at hfound
        have hlabel := List.find?_some hfound.symm
        exact of_decide_eq_true hlabel
      · simp only [hnone, lastRv, hlast] at hrv
        exact hrv
    · intro hs
      have hsame := hnarrow.mpr fun slot hslot => decide_eq_true (hs.whole slot hslot)
      cases hbegins : slots.find? fun slot => decide (BeginsWithLabel data.tokenLabel (tokenInfo slot)) with
      | some slot => exact ⟨rfl, hbegins.symm.trans hsame⟩
      | none =>
        refine ⟨?_, hbegins.symm.trans hsame⟩
        have hlast := List.getLast?_eq_some_getLast h.nonempty
        rw [lastRv, hlast]
        exact hs.last hbegins _ hlast

end

/-! ## A slot without a token -/

/-- What is asked for in the runs below. -/
def kmsUriData : ApimoduleUriData where
  tokenLabel := lit "KMS"
  keyLabel := lit "key"
  keyId := List.replicate 36 97
  pin := lit "1234"
  type := ckoPrivateKey

/-- A module whose slots have the given token infos; where there is none it is not recognised. -/
def slotsHandler (infos : List (Option Bytes)) (c : Call) (w : Unit) : Option (c.Ans × Unit) :=
  match c with
  | .calloc _ => some (true, w)
  | .ck .cGetSlotListCount => some ((ckrOk, infos.length), w)
  | .ck (.cGetSlotList _) => some ((ckrOk, List.range infos.length), w)
  | .ck (.cGetTokenInfo slot) => some (slotInfo infos slot, w)
  | _ => none
where
  slotInfo (infos : List (Option Bytes)) (slot : Nat) : CkRv × Bytes :=
    (infos[slot]?.join).elim (ckrTokenNotRecognized, []) (ckrOk, ·)

/-- The surroundings with that module. -/
def slotsStep (infos : List (Option Bytes)) : Step skcSig Unit := fun c w a w' =>
  slotsHandler infos c w = some (a, w')

theorem answersSlots_slotsStep {infos : List (Option Bytes)} (h : infos ≠ []) :
    AnswersSlots (slotsStep infos) (List.range infos.length) (slotsHandler.slotInfo infos) where
  count {w a w'} ha := by
    obtain ⟨rfl, -⟩ := Prod.mk.inj (Option.some.inj ha)
    exact ⟨rfl, fun hlen => h (List.length_eq_zero_iff.mp hlen)⟩
  calloc {n w a w'} ha := (Prod.mk.inj (Option.some.inj ha)).1.symm
  list {n w a w'} ha := (Prod.mk.inj (Option.some.inj ha)).1.symm
  info {slot w a w'} ha := (Prod.mk.inj (Option.some.inj ha)).1.symm
  nonempty := fun hlen => h (by simpa using congrArg List.length hlen)

/-- A search, executed. -/
def runFindtoken (infos : List (Option Bytes)) : Option ((CkRv × Option Nat) × World Unit) :=
  (apimoduleFindtoken kmsUriData).run (sysHandler (slotsHandler infos) 0) sgxWorld

theorem runFindtoken_runs {infos : List (Option Bytes)} {r : (CkRv × Option Nat) × World Unit}
    (h : runFindtoken infos = some r) :
    Runs (sysStep (slotsStep infos) 0) (apimoduleFindtoken kmsUriData) sgxWorld r.1 r.2 :=
  Prog.run_runs sysHandler_answers h

theorem token_found_behind : ∃ r t,
    Runs (sysStep (slotsStep [none, some (lit "KMS  "), none]) 0) (apimoduleFindtoken kmsUriData)
      sgxWorld r t ∧
    TokenFound (lit "KMS") [0, 1, 2] (slotsHandler.slotInfo [none, some (lit "KMS  "), none]) r := by
  obtain ⟨r, hr, -⟩ := Option.map_eq_some_iff.mp (show
    (runFindtoken [none, some (lit "KMS  "), none]).map (·.1) = some (ckrOk, some 1) by decide +kernel)
  refine ⟨_, _, runFindtoken_runs hr, ?_⟩
  refine (token_found_iff (answersSlots_slotsStep (by decide)) (runFindtoken_runs hr)).mpr ?_
  refine ⟨by decide, fun slot hslot => ?_, fun hnone => ?_⟩
  · have hone : slot = 1 := Option.some.inj (hslot.symm.trans (by decide +kernel))
    subst hone
    decide +kernel
  · exact absurd hnone (by decide +kernel)

/-- One slot, and no token in it. -/
theorem not_token_found : ¬∀ (W : Type) (E : Step skcSig W) (slots : List Nat)
    (tokenInfo : Nat → CkRv × Bytes) (data : ApimoduleUriData) (s t : World W)
    (result : CkRv × Option Nat), data.tokenLabel ≠ [] → AnswersSlots E slots tokenInfo →
    Runs (sysStep E 0) (apimoduleFindtoken data) s result t →
    TokenFound data.tokenLabel slots tokenInfo result := by
  intro h
  obtain ⟨r, hr, hv⟩ := Option.map_eq_some_iff.mp (show
    (runFindtoken [none]).map (·.1) = some (ckrTokenNotRecognized, none) by decide +kernel)
  have hfound := h Unit (slotsStep [none]) [0] _ kmsUriData sgxWorld r.2 r.1 (by decide)
    (answersSlots_slotsStep (by decide)) (runFindtoken_runs hr)
  have hrv : r.1.1 = ckrOk := hfound.1
  rw [hv] at hrv
  exact absurd hrv (by decide)

-- A label that goes on after the requested one is taken for it.
example : (runFindtoken [some (lit "KMS-old"), some (lit "KMS")]).map (·.1) = some (ckrOk, some 0) := by
  decide +kernel

end SkcLibrary
