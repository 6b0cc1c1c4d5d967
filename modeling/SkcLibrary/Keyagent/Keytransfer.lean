import SkcLibrary.Keyagent.Tables

/-!
# Cutting a key transfer

`__keyagent_stm_load_key` cuts the key data as the three numbers at its start say. Nothing compares
these numbers with the length of the data: a header that is too short or that promises too much is
read beyond the end.

* `keydata_inside` — the key data that is read inside its buffer
-/

namespace SkcLibrary

open Interaction

/-! ## The header -/

/-- `keytransfer->iv_length` -/
def headerIvLength (keydata : Bytes) : Nat := leNat (keydata.take 4)

/-- `keytransfer->tag_size` -/
def headerTagSize (keydata : Bytes) : Nat := leNat ((keydata.drop 4).take 4)

/-- `keytransfer->wrap_size` -/
def headerWrapSize (keydata : Bytes) : Nat := leNat ((keydata.drop 8).take 4)

/--
The data is as long as its header promises, or at least so long that the length of the IV can be
read and is refused.
-/
def FitsHeader (keydata : Bytes) : Prop :=
  (4 ≤ keydata.length ∧ 64 < headerIvLength keydata) ∨
    keytransferSize + headerIvLength keydata + headerWrapSize keydata ≤ keydata.length

theorem kBufferSlice_eq {buf : Bytes} {offset size : Nat} (h : offset + size ≤ buf.length) :
    kBufferSlice buf offset size = some ((buf.drop offset).take size) := by
  rw [kBufferSlice, if_pos h]

theorem kBufferSlice_eq_none {buf : Bytes} {offset size : Nat}
    (h : ¬offset + size ≤ buf.length) : kBufferSlice buf offset size = none := by
  rw [kBufferSlice, if_neg h]

theorem readUint_eq {buf : Bytes} {offset : Nat} (h : offset + 4 ≤ buf.length) :
    readUint buf offset = some (leNat ((buf.drop offset).take 4)) := by
  rw [readUint, kBufferSlice_eq h]
  rfl

theorem readUint_eq_none {buf : Bytes} {offset : Nat} (h : ¬offset + 4 ≤ buf.length) :
    readUint buf offset = none := by
  rw [readUint, kBufferSlice_eq_none h]
  rfl

/-! ## The parts -/

/-- The parts lie inside the data, one after the other, as the header says. -/
structure PartsOf (keydata : Bytes) (iv : Option Bytes) (wrappedKey : Bytes) (tagSize : Nat) :
    Prop where
  ivLength : headerIvLength keydata ≤ 64
  inside : keytransferSize + headerIvLength keydata + headerWrapSize keydata ≤ keydata.length
  iv : iv.getD [] = (keydata.drop keytransferSize).take (headerIvLength keydata)
  wrappedKey : wrappedKey =
    (keydata.drop (keytransferSize + headerIvLength keydata)).take (headerWrapSize keydata)
  tagSize : tagSize = headerTagSize keydata

/-- The IV, if there is one. -/
def ivPart (keydata : Bytes) : Option Bytes :=
  if headerIvLength keydata = 0 then none
  else some ((keydata.drop keytransferSize).take (headerIvLength keydata))

theorem splitKeytransfer_short {keydata : Bytes} (h : keydata.length < 4) :
    splitKeytransfer keydata = none := by
  have h0 : readUint keydata 0 = none := readUint_eq_none (by omega)
  rw [splitKeytransfer, h0]
  rfl

theorem splitKeytransfer_invalid {keydata : Bytes} (h : 4 ≤ keydata.length)
    (hiv : 64 < headerIvLength keydata) : splitKeytransfer keydata = some .invalid := by
  have h0 : readUint keydata 0 = some (headerIvLength keydata) := readUint_eq (by omega)
  rw [splitKeytransfer, h0]
  show (if 64 < headerIvLength keydata then _ else _) = _
  rw [if_pos hiv]
  rfl

theorem splitKeytransfer_parts {keydata : Bytes} (hiv : headerIvLength keydata ≤ 64)
    (h : keytransferSize + headerIvLength keydata + headerWrapSize keydata ≤ keydata.length) :
    splitKeytransfer keydata = some (.parts (ivPart keydata)
      ((keydata.drop (keytransferSize + headerIvLength keydata)).take (headerWrapSize keydata))
      (headerTagSize keydata)) := by
  have hlen : 12 ≤ keydata.length := by
    unfold keytransferSize at h
    omega
  have h0 : readUint keydata 0 = some (headerIvLength keydata) := readUint_eq (by omega)
  have h4 : readUint keydata 4 = some (headerTagSize keydata) := readUint_eq (by omega)
  have h8 : readUint keydata 8 = some (headerWrapSize keydata) := readUint_eq (by omega)
  have hslice : kBufferSlice keydata keytransferSize (headerIvLength keydata)
      = some ((keydata.drop keytransferSize).take (headerIvLength keydata)) :=
    kBufferSlice_eq (by omega)
  have hkey := kBufferSlice_eq h
  rw [splitKeytransfer, h0]
  show (if 64 < headerIvLength keydata then _ else _) = _
  rw [if_neg (by omega), h8, h4, ivPart]
  -- without an IV the key begins right after the header
  by_cases hz : headerIvLength keydata = 0
  · rw [if_pos hz, if_pos hz]
    simp [hkey]
  · rw [if_neg hz, if_neg hz]
    simp [hslice, hkey]

/-- Beyond the end of the data nothing can be cut. -/
theorem splitKeytransfer_outside {keydata : Bytes} (hiv : headerIvLength keydata ≤ 64)
    (h : ¬keytransferSize + headerIvLength keydata + headerWrapSize keydata ≤ keydata.length) :
    splitKeytransfer keydata = none := by
  -- by the first read beyond the end: one of the header's fields, or the key behind them
  by_cases h4 : 4 ≤ keydata.length
  · have h0 : readUint keydata 0 = some (headerIvLength keydata) := readUint_eq (by omega)
    rw [splitKeytransfer, h0]
    show (if 64 < headerIvLength keydata then _ else _) = _
    rw [if_neg (by omega)]
    by_cases h12 : 12 ≤ keydata.length
    · have h8 : readUint keydata 8 = some (headerWrapSize keydata) := readUint_eq (by omega)
      have hkey := kBufferSlice_eq_none h
      rw [h8]
      by_cases hz : headerIvLength keydata = 0
      · rw [if_pos hz]
        simp [hkey]
      · rw [if_neg hz]
        cases kBufferSlice keydata keytransferSize (headerIvLength keydata) <;> simp [hkey]
    · have h8 : readUint keydata 8 = none := readUint_eq_none (by omega)
      rw [h8]
      by_cases hz : headerIvLength keydata = 0
      · rw [if_pos hz]
        rfl
      · rw [if_neg hz]
        cases kBufferSlice keydata keytransferSize (headerIvLength keydata) <;> rfl
  · exact splitKeytransfer_short (by omega)

theorem partsOf_splitKeytransfer {keydata wrappedKey : Bytes} {iv : Option Bytes} {tagSize : Nat}
    (h : splitKeytransfer keydata = some (.parts iv wrappedKey tagSize)) :
    PartsOf keydata iv wrappedKey tagSize := by
  by_cases hiv : 64 < headerIvLength keydata
  · by_cases h4 : 4 ≤ keydata.length
    · simp [splitKeytransfer_invalid h4 hiv] at h
    · simp [splitKeytransfer_short (not_le.mp h4)] at h
  · by_cases hin : keytransferSize + headerIvLength keydata + headerWrapSize keydata
        ≤ keydata.length
    · rw [splitKeytransfer_parts (by omega) hin, Option.some.injEq,
        KeytransferParts.parts.injEq] at h
      obtain ⟨rfl, rfl, rfl⟩ := h
      refine ⟨by omega, hin, ?_, rfl, rfl⟩
      unfold ivPart
      split
      · next hz => rw [hz]; rfl
      · rfl
    · simp [splitKeytransfer_outside (by omega) hin] at h

/-- The data that can be cut, or is refused. -/
theorem splitKeytransfer_ne_none {keydata : Bytes} :
    splitKeytransfer keydata ≠ none ↔ FitsHeader keydata := by
  unfold FitsHeader
  by_cases hiv : 64 < headerIvLength keydata
  · by_cases h4 : 4 ≤ keydata.length
    · simp [splitKeytransfer_invalid h4 hiv, h4, hiv]
    · have hin : ¬keytransferSize + headerIvLength keydata + headerWrapSize keydata
          ≤ keydata.length := by
        unfold keytransferSize
        omega
      simp [splitKeytransfer_short (not_le.mp h4), h4, hin]
  · by_cases hin : keytransferSize + headerIvLength keydata + headerWrapSize keydata
        ≤ keydata.length
    · simp [splitKeytransfer_parts (by omega) hin, hin]
    · simp [splitKeytransfer_outside (by omega) hin, hiv, hin]

/-! ## The load -/

section Load

variable {W : Type} {E : Step skcSig W} {s : World W}

/-- What the STM was asked to load. -/
def noteLoadKey (c : Call) (_ : World W) :
    c.Ans → Option KeyagentStmLoadkeyDetails → Option KeyagentStmLoadkeyDetails :=
  match c with
  | .stm (.loadKey _ details _) => fun _ _ => some details
  | _ => fun _ w => w

/-- The read beyond the end of the key data. -/
def outsideKeydata : Call := .fault "read outside of the key data"

/--
A load that never reads beyond the end of the key data. The STM is given the parts of the data, or
is not called, and the load fails with `STM_ERROR_INVALID_LOADKEY_DATA`.
-/
def LoadsInside (E : Step skcSig W) (requestId : Bytes) (key : KeyagentKeyReal) (keydata : Bytes)
    (error : Option GError) (s : World W) : Prop :=
  Sat (.seq ((sysStep E 0).observed noteLoadKey) fun c _ => c ≠ outsideKeydata)
    (keyagentStmLoadKey .unknown requestId key error)
    (fun r x => match x.2 with
      | none => r.1 = false ∧
        ∃ message, r.2 = some ⟨stmLogDomain, stmErrorInvalidLoadkeyData, message⟩
      | some details => PartsOf keydata details.iv details.key details.tagSize) (s, none)

/-- The STM, its session and the request are there. -/
def Loadable (k : Keyagent) (requestId name : Bytes) : Prop :=
  ∃ lstm request current, k.stmHash.lookup (gQuarkFromString name) = some lstm ∧
    k.apimoduleLoadkeyHash.lookup requestId = some request ∧ lstm.session = some current

theorem sat_inside_keyagent {α : Type} {Q : α → World W × Option KeyagentStmLoadkeyDetails → Prop}
    {f : Keyagent → Skc α} {x : World W × Option KeyagentStmLoadkeyDetails} :
    Sat (.seq ((sysStep E 0).observed noteLoadKey) fun c _ => c ≠ outsideKeydata)
        (Skc.keyagent >>= f) Q x ↔
      Sat (.seq ((sysStep E 0).observed noteLoadKey) fun c _ => c ≠ outsideKeydata)
        (f x.1.keyagent) Q x := by
  rw [Skc.keyagent_bind, sat_seq_call]
  constructor
  · exact fun h => h.2 _ _ ⟨⟨rfl, rfl⟩, rfl⟩
  · intro h
    refine ⟨nofun, ?_⟩
    rintro a ⟨t, w⟩ ⟨⟨rfl, rfl⟩, rfl⟩
    exact h

section

variable {requestId keydata : Bytes} {key : KeyagentKeyReal} {error : Option GError}
  {session : SessionRef} {data : KeyagentSessionReal}

/-- Without the STM, its session or the request, the load fails before it looks at the data. -/
theorem loadsInside_of_not_loadable (hsession : key.session = some session)
    (hdata : s.keyagent.sessions[session]? = some data)
    (h : ¬Loadable s.keyagent requestId data.name) :
    LoadsInside E requestId key keydata error s := by
  unfold LoadsInside keyagentStmLoadKey
  simp only [hsession, keyagentStmGetByName, requestLookup, bind_assoc, pure_bind,
    sat_inside_keyagent, hdata, Skc.deref_some]
  split
  · next lstm request current hl hr hc =>
    rw [hl, Option.bind_some] at hc
    exact absurd ⟨lstm, request, current, hl, hr, hc⟩ h
  · exact sat_seq_pure.mpr ⟨rfl, _, rfl⟩

/-- Otherwise all depends on whether the data can be cut. -/
theorem loadsInside_iff_split (hsession : key.session = some session)
    (hdata : s.keyagent.sessions[session]? = some data)
    {lstm : KeyagentStmReal} {request : KeyagentRequest} {current : SessionRef}
    {cdata : KeyagentSessionReal}
    (hl : s.keyagent.stmHash.lookup (gQuarkFromString data.name) = some lstm)
    (hr : s.keyagent.apimoduleLoadkeyHash.lookup requestId = some request)
    (hc : lstm.session = some current) (hcdata : s.keyagent.sessions[current]? = some cdata)
    (hkeydata : key.attributes.lookup keyagentAttrKeydata = some keydata) :
    LoadsInside E requestId key keydata error s ↔ splitKeytransfer keydata ≠ none := by
  unfold LoadsInside keyagentStmLoadKey
  simp only [hsession, keyagentStmGetByName, requestLookup, bind_assoc, pure_bind,
    sat_inside_keyagent, hdata, Skc.deref_some, hkeydata, hl, hr, hc, Option.bind_some]
  cases hsplit : splitKeytransfer keydata with
  | none =>
    refine iff_of_false (fun h => ?_) (by simp)
    exact absurd rfl (sat_seq_call.mp h).1
  | some parts =>
    refine iff_of_true ?_ (by simp)
    cases parts with
    | invalid => exact sat_seq_pure.mpr ⟨rfl, _, rfl⟩
    | parts iv wrappedKey tagSize =>
      simp only [Skc.deref_some, pure_bind, hcdata]
      refine sat_seq_call.mpr ⟨?_, fun a x hx => sat_seq_pure.mpr ?_⟩
      · intro h
        cases h
      · rw [hx.2]
        exact partsOf_splitKeytransfer hsplit

/--
**Reads inside the key data.** A load stays inside the key data if and only if the data is as long as
its header promises, or the load fails before it looks at the data.
-/
theorem keydata_inside (hsession : key.session = some session)
    (hdata : s.keyagent.sessions[session]? = some data)
    (hcurrent : ∀ lstm current, s.keyagent.stmHash.lookup (gQuarkFromString data.name) = some lstm →
      lstm.session = some current → s.keyagent.sessions[current]? ≠ none)
    (hkeydata : key.attributes.lookup keyagentAttrKeydata = some keydata) :
    LoadsInside E requestId key keydata error s ↔
      (Loadable s.keyagent requestId data.name → FitsHeader keydata) := by
  by_cases h : Loadable s.keyagent requestId data.name
  · obtain ⟨lstm, request, current, hl, hr, hc⟩ := id h
    obtain ⟨cdata, hcdata⟩ := Option.ne_none_iff_exists'.mp (hcurrent lstm current hl hc)
    rw [loadsInside_iff_split hsession hdata hl hr hc hcdata hkeydata, splitKeytransfer_ne_none]
    simp only [h, true_imp_iff]
  · exact iff_of_true (loadsInside_of_not_loadable hsession hdata h) fun hready => absurd hready h

end

end Load

/-! ### Key data with a header and without one -/

/-- An agent whose STM has a session. -/
def sessionWorld : World Unit :=
  { sgxWorld with
    keyagent := { sgxAgent with
      stmHash := AList.insert ⟨lit "SGX"⟩ ⟨lit "SGX", true, true, some 0⟩ ∅
      sessions := [⟨[], lit "SGX", lit "id", lit "AES256-GCM", 0⟩] } }

/-- A key of that session. -/
def sessionKey (keydata : Bytes) : KeyagentKeyReal :=
  ⟨lit "KMS:a", .rsakey, some 0, AList.insert keyagentAttrKeydata keydata ∅, 0⟩

theorem sessionWorld_stm : sessionWorld.keyagent.stmHash.lookup (gQuarkFromString (lit "SGX"))
    = some ⟨lit "SGX", true, true, some 0⟩ := by rfl

theorem sessionWorld_current (lstm : KeyagentStmReal) (current : SessionRef)
    (hl : sessionWorld.keyagent.stmHash.lookup (gQuarkFromString (lit "SGX")) = some lstm)
    (hc : lstm.session = some current) : sessionWorld.keyagent.sessions[current]? ≠ none := by
  rw [sessionWorld_stm, Option.some.injEq] at hl
  rw [← hl, Option.some.injEq] at hc
  rw [← hc]
  decide

theorem keydata_inside_header : LoadsInside acceptingStep (lit "request")
    (sessionKey (le32 2 ++ le32 16 ++ le32 3 ++ [1, 2, 3, 4, 5]))
    (le32 2 ++ le32 16 ++ le32 3 ++ [1, 2, 3, 4, 5]) none sessionWorld := by
  have hdata : sessionWorld.keyagent.sessions[0]? =
      some ⟨[], lit "SGX", lit "id", lit "AES256-GCM", 0⟩ := rfl
  exact (keydata_inside rfl hdata sessionWorld_current rfl).mpr fun _ => .inr (by decide)

/-- A payload that is missing from the answer of KBS is an empty buffer. -/
theorem not_keydata_inside : ¬∀ (W : Type) (E : Step skcSig W) (s : World W)
    (requestId keydata : Bytes) (key : KeyagentKeyReal) (error : Option GError)
    (session : SessionRef) (data : KeyagentSessionReal), key.session = some session →
    s.keyagent.sessions[session]? = some data →
    (∀ lstm current, s.keyagent.stmHash.lookup (gQuarkFromString data.name) = some lstm →
      lstm.session = some current → s.keyagent.sessions[current]? ≠ none) →
    key.attributes.lookup keyagentAttrKeydata = some keydata →
    LoadsInside E requestId key keydata error s := by
  intro h
  have hin := h Unit acceptingStep sessionWorld (lit "request") [] (sessionKey []) none 0
    ⟨[], lit "SGX", lit "id", lit "AES256-GCM", 0⟩ rfl rfl sessionWorld_current rfl
  have hdata : sessionWorld.keyagent.sessions[0]? =
      some ⟨[], lit "SGX", lit "id", lit "AES256-GCM", 0⟩ := rfl
  have hrequest : sessionWorld.keyagent.apimoduleLoadkeyHash.lookup (lit "request") =
      some ⟨none, lit "KMS", none⟩ := rfl
  exact (loadsInside_iff_split rfl hdata sessionWorld_stm hrequest rfl hdata rfl).mp hin (by decide)

end SkcLibrary
