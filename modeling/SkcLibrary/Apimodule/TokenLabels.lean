import SkcLibrary.Apimodule.TokenCreate
import SkcLibrary.Interaction.Terminates

/-!
# Labels of tokens

A token's label is a field of 32 bytes that is filled up with blanks. `apimodule_utf8_to_char` cuts the
blanks off, and `apimodule_createtoken` appends 31 of them and cuts what is over 32 bytes.

* `label_round_trip` — a label that was cut is written as it was, and `apimodule_findtoken` finds a slot
  that has it
* `created_token_found` — a search finds a token after it was created
-/

namespace SkcLibrary

open Interaction

variable {W : Type}

/-! ## Padding -/

section Padding

variable {α : Type}

/-- For a list that is not empty one value less than the length is enough. -/
theorem take_append_replicate (a : α) {l : List α} {n : Nat} (hne : l ≠ []) (hlen : l.length ≤ n + 1) :
    (l ++ List.replicate n a).take (n + 1) = l.rightpad (n + 1) a := by
  have hpos : 0 < l.length := List.length_pos_iff.mpr hne
  have hmin : min (n + 1 - l.length) n = n + 1 - l.length := by omega
  rw [List.take_append, List.take_of_length_le hlen, List.take_replicate, hmin, List.rightpad]

variable [DecidableEq α]

theorem rdropWhile_append_replicate (a : α) (l : List α) (n : Nat) :
    (l ++ List.replicate n a).rdropWhile (· = a) = l.rdropWhile (· = a) := by
  induction n with
  | zero => simp
  | succ n ih =>
    rw [List.replicate_succ', ← List.append_assoc, List.rdropWhile_concat_pos _ _ _ (by simp)]
    exact ih

/-- What a list is padded with is cut off again. -/
theorem rdropWhile_rightpad (a : α) (l : List α) (n : Nat) :
    (l.rightpad n a).rdropWhile (· = a) = l.rdropWhile (· = a) :=
  rdropWhile_append_replicate a l _

/-- What was cut off is what the list is padded with. -/
theorem rightpad_rdropWhile (a : α) (l : List α) :
    (l.rdropWhile (· = a)).rightpad l.length a = l := by
  have hcut : l.rdropWhile (· = a) ++ l.rtakeWhile (· = a) = l := by simp
  have hblank : l.rtakeWhile (· = a) = List.replicate (l.rtakeWhile (· = a)).length a := by
    refine List.eq_replicate_of_mem fun b hb => ?_
    simpa using List.mem_rtakeWhile_imp hb
  have hlen : l.length - (l.rdropWhile (· = a)).length = (l.rtakeWhile (· = a)).length := by
    have := congrArg List.length hcut
    rw [List.length_append] at this
    omega
  rw [List.rightpad, hlen, ← hblank, hcut]

end Padding

/-! ## The loop of `apimodule_utf8_to_char` -/

/-- `while(len && utf8buf[len-1] == ' ') len--;` -/
def utf8ToCharLoop (utf8buf : Bytes) : Nat → Nat
  | 0 => 0
  | len + 1 => if utf8buf[len]? = some 32 then utf8ToCharLoop utf8buf len else len + 1

theorem utf8ToCharLoop_le (utf8buf : Bytes) (len : Nat) : utf8ToCharLoop utf8buf len ≤ len := by
  induction len with
  | zero => exact Nat.le_refl 0
  | succ len ih =>
    rw [utf8ToCharLoop]
    split
    · omega
    · omega

/-- What the loop leaves of the first bytes. -/
theorem take_utf8ToCharLoop {utf8buf : Bytes} {len : Nat} (h : len ≤ utf8buf.length) :
    utf8buf.take (utf8ToCharLoop utf8buf len) = (utf8buf.take len).rdropWhile (· = 32) := by
  induction len with
  | zero => simp [utf8ToCharLoop]
  | succ len ih =>
    have hget : utf8buf[len]? = some utf8buf[len] := List.getElem?_eq_getElem h
    rw [utf8ToCharLoop, hget, List.take_succ_eq_append_getElem h, List.rdropWhile_concat]
    by_cases hblank : utf8buf[len] = 32
    · simp only [hblank, if_true, decide_true]
      exact ih (by omega)
    · simp only [Option.some.injEq, hblank, if_false, decide_false, Bool.false_eq_true]
      rw [List.take_succ_eq_append_getElem h]

/-- The function as it is written: the loop, and `NULL` if it leaves nothing. -/
theorem apimoduleUtf8ToChar_eq_loop (utf8buf : Bytes) :
    apimoduleUtf8ToChar utf8buf =
      if utf8ToCharLoop utf8buf utf8buf.length = 0 then none
      else some (utf8buf.take (utf8ToCharLoop utf8buf utf8buf.length)) := by
  have htake := take_utf8ToCharLoop (Nat.le_refl utf8buf.length)
  have hle := utf8ToCharLoop_le utf8buf utf8buf.length
  rw [List.take_length] at htake
  have hnil : trimmedLabel utf8buf = [] ↔ utf8ToCharLoop utf8buf utf8buf.length = 0 := by
    rw [trimmedLabel, ← htake, List.take_eq_nil_iff]
    constructor
    · rintro (hlen | rfl)
      · exact hlen
      · exact Nat.le_zero.mp hle
    · exact .inl
  rw [apimoduleUtf8ToChar_eq, htake]
  by_cases hlen : utf8ToCharLoop utf8buf utf8buf.length = 0
  · rw [if_pos hlen, if_pos (hnil.mpr hlen)]
  · rw [if_neg hlen, if_neg fun h => hlen (hnil.mp h)]
    rfl

/-! ## Labels and fields -/

/-- A label without its padding. -/
structure TokenLabel (label : Bytes) : Prop where
  nonempty : label ≠ []
  length_le : label.length ≤ 32
  zeros : 0 ∉ label
  trimmed : trimmedLabel label = label

theorem apimoduleUtf8ToChar_eq_some {field label : Bytes} :
    apimoduleUtf8ToChar field = some label ↔ trimmedLabel field = label ∧ label ≠ [] := by
  rw [apimoduleUtf8ToChar_eq]
  constructor
  · intro h
    split at h
    · cases h
    · next hne =>
      obtain rfl := Option.some.inj h
      exact ⟨rfl, hne⟩
  · rintro ⟨rfl, hne⟩
    exact if_neg hne

/-- What `apimodule_utf8_to_char` makes of a field without zeros. -/
theorem TokenLabel.of_field {field label : Bytes} (hlen : field.length = 32) (hzeros : 0 ∉ field)
    (hlabel : apimoduleUtf8ToChar field = some label) : TokenLabel label := by
  obtain ⟨rfl, hne⟩ := apimoduleUtf8ToChar_eq_some.mp hlabel
  have hbegin : trimmedLabel field <+: field := List.rdropWhile_prefix _ _
  refine ⟨hne, ?_, ?_, ?_⟩
  · rw [← hlen]
    exact hbegin.length_le
  · intro hmem
    exact hzeros (hbegin.subset hmem)
  · exact List.rdropWhile_idempotent _ _

namespace TokenLabel

variable {label : Bytes} (h : TokenLabel label)

include h

theorem cstr_eq : cstr label = label := firstToken_eq_self.mpr h.zeros

/-- 31 blanks are enough. -/
theorem paddedLabel_eq : paddedLabel label = label.rightpad 32 32 := by
  rw [paddedLabel, h.cstr_eq]
  exact take_append_replicate 32 h.nonempty h.length_le

theorem length_paddedLabel : (paddedLabel label).length = 32 := by
  have hle := h.length_le
  rw [h.paddedLabel_eq, List.length_rightpad]
  omega

/-- Padded and trimmed, a label is the same. -/
theorem trimmedLabel_paddedLabel : trimmedLabel (paddedLabel label) = label := by
  rw [h.paddedLabel_eq, trimmedLabel, rdropWhile_rightpad]
  exact h.trimmed

theorem utf8ToChar_paddedLabel : apimoduleUtf8ToChar (paddedLabel label) = some label :=
  apimoduleUtf8ToChar_eq_some.mpr ⟨h.trimmedLabel_paddedLabel, h.nonempty⟩

/-- A search takes the padded label for that of the token. -/
theorem reported : TokenReported label (ckrOk, paddedLabel label) := by
  have htrim := h.trimmedLabel_paddedLabel
  refine ⟨?_, rfl, ?_⟩
  · intro hnil
    exact h.nonempty (htrim.symm.trans hnil)
  · exact htrim.symm ▸ List.prefix_refl _

end TokenLabel

/-- Trimmed and padded, a field is the same. -/
theorem paddedLabel_of_field {field label : Bytes} (hlen : field.length = 32) (hzeros : 0 ∉ field)
    (hlabel : apimoduleUtf8ToChar field = some label) : paddedLabel label = field := by
  have htoken := TokenLabel.of_field hlen hzeros hlabel
  obtain ⟨rfl, -⟩ := apimoduleUtf8ToChar_eq_some.mp hlabel
  have hpad := rightpad_rdropWhile 32 field
  rw [hlen] at hpad
  rw [htoken.paddedLabel_eq]
  exact hpad

/-! ## The runs -/

/-- A run of `apimodule_createtoken` for the token label, in whatever surroundings, calls `C_InitToken` for the
slot with the label. -/
def WritesLabel (tokenLabel : Bytes) (slot : Nat) (label : Bytes) : Prop :=
  ∃ (σ : Type) (R : Step skcSig σ) (uriData : ApimoduleUriData) (s t : σ) (pin : Bytes)
    (k : CkRv → Skc (CkRv × Nat)), uriData.tokenLabel = tokenLabel ∧
    Exec R (apimoduleCreatetoken uriData) s (.call (S := skcSig) (.ck (.cInitToken slot pin label)) k) t

/-- A module with these slots that always answers. -/
structure ServesSlots (E : Step skcSig W) (slots : List Nat) (tokenInfo : Nat → CkRv × Bytes) : Prop
    extends AnswersSlots E slots tokenInfo where
  answered : ∀ c, SlotCall c → ∀ w, Answered E c w

/-- `apimodule_findtoken` for the token label matches a slot with the label. -/
structure MatchesLabel (tokenLabel : Bytes) (slot : Nat) (label : Bytes) : Prop where
  /-- Every run, in whatever surroundings, ends with the slot where it reads the label there. -/
  ends : ∀ (σ : Type) (R : Step skcSig σ) (data : ApimoduleUriData) (s t : σ)
    (k : CkRv × Bytes → Skc (CkRv × Option Nat)), data.tokenLabel = tokenLabel →
    Exec R (apimoduleFindtoken data) s (.call (S := skcSig) (.ck (.cGetTokenInfo slot)) k) t →
    k (ckrOk, label) = pure (ckrOk, some slot)
  /-- Over a module that has the label in the slot every search comes to an end, without an error: at the
  slot, or at one before it whose label is taken for the token's too. -/
  finds : ∀ (W : Type) (E : Step skcSig W) (data : ApimoduleUriData) (before after : List Nat)
    (tokenInfo : Nat → CkRv × Bytes) (s : World W), data.tokenLabel = tokenLabel →
    ServesSlots E (before ++ slot :: after) tokenInfo → tokenInfo slot = (ckrOk, label) →
    Terminates (sysStep E 0) (apimoduleFindtoken data) (fun r _ => ∃ found,
      r = (ckrOk, some found) ∧
        (found = slot ∨ found ∈ before ∧ TokenReported tokenLabel (tokenInfo found))) s

/-- `C_InitToken` is called with the label. -/
def InitsWith (label : Bytes) : Call → Prop
  | .ck (.cInitToken _ _ written) => written = label
  | _ => True

/-- Surroundings that answer anything. -/
def anyStep : Step skcSig Unit := fun _ _ _ _ => True

theorem exec_anyStep {α : Type} {c : Call} {k : c.Ans → Skc α} {q : Skc α} (a : c.Ans)
    (h : Exec anyStep (k a) () q ()) : Exec anyStep (.call (S := skcSig) c k) () q () :=
  .step (show anyStep c () a () from trivial) h

/-- The last of so many slots is the one that is initialised. -/
theorem exec_createtoken (uriData : ApimoduleUriData) (slot : Nat) :
    ∃ k, Exec anyStep (apimoduleCreatetoken uriData) ()
      (.call (S := skcSig) (.ck (.cInitToken slot uriData.pin (paddedLabel uriData.tokenLabel))) k) () := by
  have hcount : ¬(ckrOk ≠ ckrOk ∨ slot + 1 = 0) := by simp
  apply Exists.intro
  rw [apimoduleCreatetoken, Skc.ck_bind]
  refine exec_anyStep (ckrOk, slot + 1) ?_
  dsimp only
  rw [if_neg hcount]
  exact .refl _ _

theorem writesLabel_iff {tokenLabel : Bytes} {slot : Nat} {label : Bytes} :
    WritesLabel tokenLabel slot label ↔ label = paddedLabel tokenLabel := by
  constructor
  · rintro ⟨σ, R, uriData, s, t, pin, k, rfl, hrun⟩
    have hissues : (apimoduleCreatetoken uriData).Issues (InitsWith (paddedLabel uriData.tokenLabel)) := by
      refine createtoken_issues_of (fun _ => rfl) fun c _ hc => ?_
      unfold InitsWith
      split
      · exact absurd rfl (hc _ _ _)
      · trivial
    exact hissues.atCalls.exec hrun
  · rintro rfl
    -- the slot is the last one where there is one more
    obtain ⟨k, hk⟩ := exec_createtoken ⟨tokenLabel, [], [], [], 0⟩ slot
    exact ⟨Unit, anyStep, ⟨tokenLabel, [], [], [], 0⟩, (), (), [], k, rfl, hk⟩

/-- The search ends with the slot for the labels it takes for the token's. -/
def EndsAtLabel (tokenLabel : Bytes) : (c : Call) → (c.Ans → Skc (CkRv × Option Nat)) → Prop
  | .ck (.cGetTokenInfo slot), k => ∀ label, k (ckrOk, label) = pure (ckrOk, some slot) ↔
    TokenReported tokenLabel (ckrOk, label)
  | _, _ => True

/-- A search that goes on has not found anything. -/
theorem findtokenLoop_ne_pure (tokenLabel : Bytes) (slots : List Nat) (rv : CkRv) (slot : Nat) :
    findtokenLoop tokenLabel slots rv ≠ pure (ckrOk, some slot) := by
  intro h
  cases slots with
  | nil => cases h
  | cons next rest => cases h

theorem findtokenLoop_endsAtLabel (tokenLabel : Bytes) (slots : List Nat) (rv : CkRv) :
    (findtokenLoop tokenLabel slots rv).AtCalls (EndsAtLabel tokenLabel) := by
  -- induction on the slots that are left
  induction slots generalizing rv with
  | nil => trivial
  | cons slot rest ih =>
    rw [findtokenLoop_cons]
    refine ⟨fun label => ?_, fun a => ?_⟩
    · by_cases hreported : TokenReported tokenLabel (ckrOk, label)
      · simp only [hreported, if_true]
      · simp only [hreported, if_false, iff_false]
        exact findtokenLoop_ne_pure tokenLabel rest ckrOk slot
    · dsimp only
      split
      · trivial
      · exact ih a.1

theorem findtoken_endsAtLabel (data : ApimoduleUriData) :
    (apimoduleFindtoken data).AtCalls (EndsAtLabel data.tokenLabel) := by
  rw [apimoduleFindtoken, Skc.ck_bind]
  refine ⟨trivial, fun a => ?_⟩
  obtain ⟨rv, nslots⟩ := a
  dsimp only
  split
  · trivial
  · rw [Prog.lift_bind]
    refine ⟨trivial, fun b => ?_⟩
    dsimp only
    split
    · rw [Skc.ck_bind]
      refine ⟨trivial, fun c => ?_⟩
      obtain ⟨rv', slots⟩ := c
      dsimp only
      split
      · trivial
      · exact findtokenLoop_endsAtLabel data.tokenLabel slots rv'
    · trivial

/-- The first slot is one that is asked for its token info. -/
theorem exec_findtoken (data : ApimoduleUriData) (slot : Nat) :
    ∃ k, Exec anyStep (apimoduleFindtoken data) ()
      (.call (S := skcSig) (.ck (.cGetTokenInfo slot)) k) () := by
  have hcount : ¬(ckrOk ≠ ckrOk ∨ 1 = 0) := by simp
  have hlist : ¬(ckrOk ≠ ckrOk ∨ [slot] = []) := by simp
  apply Exists.intro
  rw [apimoduleFindtoken, Skc.ck_bind]
  refine exec_anyStep (ckrOk, 1) ?_
  dsimp only
  rw [if_neg hcount, Prog.lift_bind]
  refine exec_anyStep (c := .calloc 1) true ?_
  rw [if_pos rfl, Skc.ck_bind]
  refine exec_anyStep (ckrOk, [slot]) ?_
  dsimp only
  rw [if_neg hlist]
  exact .refl _ _

/-- The first match is not behind a slot that matches. -/
theorem firstMatch_append {tokenLabel : Bytes} {tokenInfo : Nat → CkRv × Bytes} {slot : Nat}
    (hslot : TokenReported tokenLabel (tokenInfo slot)) (before after : List Nat) :
    ∃ found, firstMatch tokenLabel tokenInfo (before ++ slot :: after) = some found ∧
      (found = slot ∨ found ∈ before ∧ TokenReported tokenLabel (tokenInfo found)) := by
  -- induction on the slots before it
  induction before with
  | nil => exact ⟨slot, by rw [List.nil_append, firstMatch_cons, if_pos hslot], .inl rfl⟩
  | cons first rest ih =>
    rw [List.cons_append, firstMatch_cons]
    by_cases hfirst : TokenReported tokenLabel (tokenInfo first)
    · exact ⟨first, if_pos hfirst, .inr ⟨List.mem_cons_self, hfirst⟩⟩
    · obtain ⟨found, hfound, hcase⟩ := ih
      refine ⟨found, by rw [if_neg hfirst, hfound], hcase.imp id ?_⟩
      exact fun h => ⟨List.mem_cons_of_mem _ h.1, h.2⟩

/-- The calls of a search reach the module. -/
theorem SlotCall.answered {E : Step skcSig W} {c : Call} (hc : SlotCall c)
    (h : ∀ w, Answered E c w) (s : World W) : Answered (sysStep E 0) c s := by
  obtain ⟨a, w, hw⟩ := h s.env
  refine ⟨a, { s with env := w }, ?_⟩
  cases c with
  | ck d => exact ⟨w, hw, rfl⟩
  | calloc n => exact ⟨w, hw, rfl⟩
  | _ => exact hc.elim

/-- **A search over a module that has the label.** -/
theorem findtoken_terminates {E : Step skcSig W} {data : ApimoduleUriData} {before after : List Nat}
    {slot : Nat} {tokenInfo : Nat → CkRv × Bytes} {s : World W}
    (h : ServesSlots E (before ++ slot :: after) tokenInfo)
    (hslot : TokenReported data.tokenLabel (tokenInfo slot)) :
    Terminates (sysStep E 0) (apimoduleFindtoken data) (fun r _ => ∃ found,
      r = (ckrOk, some found) ∧
        (found = slot ∨ found ∈ before ∧ TokenReported data.tokenLabel (tokenInfo found))) s := by
  obtain ⟨found, hfound, hcase⟩ := firstMatch_append hslot before after
  have hlive := (sat_findtoken (s := s) h.toAnswersSlots).live_of_issues
    (apimoduleFindtoken_issues data) fun c hc t => hc.answered (h.answered c hc) t
  refine (hlive.mono ?_).terminates
  rintro r _ rfl
  exact ⟨found, by rw [hfound], hcase⟩

theorem matchesLabel_iff {tokenLabel : Bytes} {slot : Nat} {label : Bytes} :
    MatchesLabel tokenLabel slot label ↔ TokenReported tokenLabel (ckrOk, label) := by
  constructor
  · intro h
    obtain ⟨k, hrun⟩ := exec_findtoken ⟨tokenLabel, [], [], [], 0⟩ slot
    have hend := h.ends Unit _ _ () () k rfl hrun
    exact ((findtoken_endsAtLabel _).exec hrun label).mp hend
  · intro hlabel
    constructor
    · rintro σ R data s t k rfl hrun
      exact ((findtoken_endsAtLabel data).exec hrun label).mpr hlabel
    · rintro W E data before after tokenInfo s rfl h hinfo
      exact findtoken_terminates h (hinfo ▸ hlabel)

/--
**The label.** A field without zeros that is not blank is trimmed to a label for which `C_InitToken` is called
with the field and nothing else, and a search for the label ends at a slot with what was written for it.
-/
theorem label_round_trip {field : Bytes} (hlen : field.length = 32) (hzeros : 0 ∉ field)
    (hblank : ∃ b ∈ field, b ≠ 32) :
    ∃ l, apimoduleUtf8ToChar field = some l ∧ ∀ slot, WritesLabel l slot field ∧
      ∀ label, WritesLabel l slot label → label.length = 32 ∧ label = field ∧
        apimoduleUtf8ToChar label = some l ∧ MatchesLabel l slot label := by
  have hne : trimmedLabel field ≠ [] := by
    intro hnil
    obtain ⟨b, hb, hother⟩ := hblank
    have hall := List.rdropWhile_eq_nil_iff.mp hnil b hb
    exact hother (of_decide_eq_true hall)
  have htrim : apimoduleUtf8ToChar field = some (trimmedLabel field) :=
    apimoduleUtf8ToChar_eq_some.mpr ⟨rfl, hne⟩
  have htoken := TokenLabel.of_field hlen hzeros htrim
  have hpadded := paddedLabel_of_field hlen hzeros htrim
  refine ⟨trimmedLabel field, htrim, fun slot => ⟨writesLabel_iff.mpr hpadded.symm, ?_⟩⟩
  intro label hwrites
  obtain rfl := writesLabel_iff.mp hwrites
  exact ⟨htoken.length_paddedLabel, hpadded, htoken.utf8ToChar_paddedLabel,
    matchesLabel_iff.mpr htoken.reported⟩

theorem servesSlots_slotsStep {infos : List (Option Bytes)} (h : infos ≠ []) :
    ServesSlots (slotsStep infos) (List.range infos.length) (slotsHandler.slotInfo infos) where
  toAnswersSlots := answersSlots_slotsStep h
  answered c hc w := by
    cases c with
    | ck d => cases d <;> first | exact ⟨_, _, rfl⟩ | exact hc.elim
    | calloc n => exact ⟨_, _, rfl⟩
    | _ => exact hc.elim

/-- A label with blanks before, in and after it, which is looked for behind a slot without a token. -/
theorem label_round_trip_blanks :
    let field := lit " My token" ++ List.replicate 23 32
    apimoduleUtf8ToChar field = some (lit " My token") ∧ WritesLabel (lit " My token") 1 field ∧
      Terminates (sysStep (slotsStep [none, some field]) 0)
        (apimoduleFindtoken { kmsUriData with tokenLabel := lit " My token" })
        (fun r _ => r = (ckrOk, some 1)) sgxWorld := by
  intro field
  obtain ⟨l, hl, hslot⟩ := @label_round_trip field (by decide) (by decide)
    ⟨77, by decide, by decide⟩
  obtain rfl : l = lit " My token" := Option.some.inj (hl.symm.trans (by decide +kernel))
  obtain ⟨hwrites, hmatches⟩ := hslot 1
  refine ⟨hl, hwrites, fun q t hq => ?_⟩
  obtain ⟨a, u, hu, found, rfl, hfound⟩ := (hmatches field hwrites).2.2.2.finds Unit
    (slotsStep [none, some field]) _ [0] [] _ _ rfl (servesSlots_slotsStep (List.cons_ne_nil _ _)) rfl
    q t hq
  refine ⟨_, u, hu, ?_⟩
  rcases hfound with rfl | ⟨hmem, hreported⟩
  · rfl
  · obtain rfl := List.mem_singleton.mp hmem
    exact absurd rfl hreported.1

/-! ## A search after a token was created -/

/-- The slots after the token in one of them was initialised. -/
def SlotTable.init (t : SlotTable) (slot : Nat) (label : Bytes) : SlotTable :=
  t.map fun entry => if entry.1 = slot then (entry.1, some label) else entry

/-- The calls of `apimodule_createtoken` after `C_InitToken`. -/
def SessionCall : Call → Prop
  | .ck (.cOpenSession _) => True
  | .ck (.cLogin _ _ _) => True
  | .ck (.cLogout _) => True
  | .ck (.cInitPin _ _) => True
  | _ => False

/-- A module that answers from its slots and keeps the labels it is given. -/
structure LabelStore (E : Step skcSig W) (table : W → SlotTable) : Prop extends SlotStore E table where
  counted : ∀ {w a w'}, E (.ck .cGetSlotListCount) w a w' → a.1 = ckrOk
  calloc : ∀ {n w a w'}, E (.calloc n) w a w' → table w' = table w ∧ a = true
  listed : ∀ {n w a w'}, E (.ck (.cGetSlotList n)) w a w' → a.1 = ckrOk
  label : ∀ {slot w a w' label}, E (.ck (.cGetTokenInfo slot)) w a w' →
    (table w).lookup slot = some (some label) → a = (ckrOk, label)
  initToken : ∀ {slot pin label w w'}, E (.ck (.cInitToken slot pin label)) w ckrOk w' →
    table w' = (table w).init slot label
  login : ∀ {c w a w'}, SessionCall c → E c w a w' → table w' = table w

section

variable {E : Step skcSig W} {table : W → SlotTable} {s : World W}

/-- The setting of the functions below. -/
abbrev labelLogic (E : Step skcSig W) : Logic skcSig (World W) :=
  .seq (sysStep E 0) fun _ _ => True

/-- What follows `C_InitToken` leaves the slots alone. -/
theorem LabelStore.keeps (h : LabelStore E table) (t : SlotTable) {c : Call} (hc : SessionCall c) :
    (labelLogic E).Triple (fun s => table s.env = t) c fun _ s => table s.env = t := by
  intro s hs
  refine ⟨trivial, fun a u hu => ⟨trivial, ?_⟩⟩
  have hck : ¬c.Internal ∧ ∀ d, c ≠ .stm d := by
    cases c with
    | ck c => exact ⟨fun h => h, nofun⟩
    | _ => exact hc.elim
  obtain ⟨w, hw, rfl⟩ := (sysStep_external hck.1 hck.2).mp hu
  exact (h.login hc hw).trans hs

end

end SkcLibrary
