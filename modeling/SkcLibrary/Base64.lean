import SkcLibrary.GLib

/-!
# Base64

What `g_base64_encode` writes, `g_base64_decode` reads back: `gBase64Decode_gBase64Encode`. Four
characters make one step of the decoder, which keeps the bits of the steps before in its accumulator.
-/

namespace SkcLibrary

/-! ## Characters -/

theorem base64Rank_base64Char {r : Nat} (h : r < 64) : base64Rank (base64Char r) = some r := by
  have hall : ∀ r : Fin 64, base64Rank (base64Char r) = some r.val := by decide
  exact hall ⟨r, h⟩

theorem base64Char_ne {r : Nat} (h : r < 64) : base64Char r ≠ 61 ∧ base64Char r ≠ 0 := by
  have hall : ∀ r : Fin 64, base64Char r ≠ 61 ∧ base64Char r ≠ 0 := by decide
  exact hall ⟨r, h⟩

/-- The text is a C string. -/
theorem cstr_gBase64Encode (s : Bytes) : cstr (gBase64Encode s) = gBase64Encode s := by
  refine List.takeWhile_eq_self_iff.mpr ?_
  fun_induction gBase64Encode s with
  | case1 => simp
  | case2 a =>
    have ha := a.toNat_lt
    have h₁ := base64Char_ne (r := a.toNat / 4) (by omega)
    have h₂ := base64Char_ne (r := a.toNat % 4 * 16) (by omega)
    simp [h₁.2, h₂.2]
  | case3 a b =>
    have ha := a.toNat_lt
    have hb := b.toNat_lt
    have h₁ := base64Char_ne (r := a.toNat / 4) (by omega)
    have h₂ := base64Char_ne (r := a.toNat % 4 * 16 + b.toNat / 16) (by omega)
    have h₃ := base64Char_ne (r := b.toNat % 16 * 4) (by omega)
    simp [h₁.2, h₂.2, h₃.2]
  | case4 a b c rest ih =>
    have ha := a.toNat_lt
    have hb := b.toNat_lt
    have hc := c.toNat_lt
    have h₁ := base64Char_ne (r := a.toNat / 4) (by omega)
    have h₂ := base64Char_ne (r := a.toNat % 4 * 16 + b.toNat / 16) (by omega)
    have h₃ := base64Char_ne (r := b.toNat % 16 * 4 + c.toNat / 64) (by omega)
    have h₄ := base64Char_ne (r := c.toNat % 64) (by omega)
    simpa [h₁.2, h₂.2, h₃.2, h₄.2] using ih

/-! ## Four characters -/

theorem uInt8_ofNat_eq {n : Nat} {b : UInt8} (h : n % 256 = b.toNat) : UInt8.ofNat n = b := by
  rw [← UInt8.toNat_inj]
  simpa using h

/-- Four characters give up to three bytes, whatever the accumulator has from before. -/
theorem gBase64DecodeStep_group {c₁ c₂ c₃ c₄ a b c : UInt8} {r₁ r₂ r₃ r₄ : Nat}
    (h₁ : base64Rank c₁ = some r₁) (h₂ : base64Rank c₂ = some r₂) (h₃ : base64Rank c₃ = some r₃)
    (h₄ : base64Rank c₄ = some r₄) (ha : a.toNat = r₁ * 4 + r₂ / 16)
    (hb : b.toNat = r₂ % 16 * 16 + r₃ / 4) (hc : c.toNat = r₃ % 4 * 64 + r₄) (hr₃ : r₃ < 64)
    (hr₄ : r₄ < 64) (rest : Bytes) (v : Nat) (last : UInt8 × UInt8) :
    ∃ v', gBase64DecodeStep (c₁ :: c₂ :: c₃ :: c₄ :: rest) v 0 last
      = a :: (if c₃ ≠ 61 then [b] else []) ++ (if c₄ ≠ 61 then [c] else [])
        ++ gBase64DecodeStep rest v' 0 (c₄, c₃) := by
  refine ⟨((((v * 64 + r₁) % 2 ^ 32 * 64 + r₂) % 2 ^ 32 * 64 + r₃) % 2 ^ 32 * 64 + r₄) % 2 ^ 32, ?_⟩
  have ha' : UInt8.ofNat (((((v * 64 + r₁) % 2 ^ 32 * 64 + r₂) % 2 ^ 32 * 64 + r₃) % 2 ^ 32 * 64 + r₄)
      % 2 ^ 32 / 2 ^ 16) = a := by
    have hlt := a.toNat_lt
    exact uInt8_ofNat_eq (by omega)
  have hb' : UInt8.ofNat (((((v * 64 + r₁) % 2 ^ 32 * 64 + r₂) % 2 ^ 32 * 64 + r₃) % 2 ^ 32 * 64 + r₄)
      % 2 ^ 32 / 2 ^ 8) = b := by
    have hlt := b.toNat_lt
    exact uInt8_ofNat_eq (by omega)
  have hc' : UInt8.ofNat (((((v * 64 + r₁) % 2 ^ 32 * 64 + r₂) % 2 ^ 32 * 64 + r₃) % 2 ^ 32 * 64 + r₄)
      % 2 ^ 32) = c := by
    have hlt := c.toNat_lt
    exact uInt8_ofNat_eq (by omega)
  simp only [gBase64DecodeStep, h₁, h₂, h₃, h₄, ha', hb', hc']
  rfl

/-! ## Texts -/

theorem gBase64DecodeStep_gBase64Encode (s : Bytes) (v : Nat) (last : UInt8 × UInt8) :
    gBase64DecodeStep (gBase64Encode s) v 0 last = s := by
  fun_induction gBase64Encode s generalizing v last with
  | case1 => rfl
  | case2 a =>
    have ha := a.toNat_lt
    -- padding counts as zero bits
    have hpad : base64Rank 61 = some 0 := by decide
    obtain ⟨v', hv'⟩ := gBase64DecodeStep_group (a := a) (b := 0) (c := 0)
      (base64Rank_base64Char (r := a.toNat / 4) (by omega))
      (base64Rank_base64Char (r := a.toNat % 4 * 16) (by omega)) hpad hpad (by omega) (by simp) rfl
      (by omega) (by omega) [] v last
    rw [hv']
    simp [gBase64DecodeStep]
  | case3 a b =>
    have ha := a.toNat_lt
    have hb := b.toNat_lt
    have h₃ := base64Char_ne (r := b.toNat % 16 * 4) (by omega)
    have hpad : base64Rank 61 = some 0 := by decide
    obtain ⟨v', hv'⟩ := gBase64DecodeStep_group (a := a) (b := b) (c := 0)
      (base64Rank_base64Char (r := a.toNat / 4) (by omega))
      (base64Rank_base64Char (r := a.toNat % 4 * 16 + b.toNat / 16) (by omega))
      (base64Rank_base64Char (r := b.toNat % 16 * 4) (by omega)) hpad (by omega) (by omega) (by simp)
      (by omega) (by omega) [] v last
    rw [hv']
    simp [gBase64DecodeStep, h₃.1]
  | case4 a b c rest ih =>
    have ha := a.toNat_lt
    have hb := b.toNat_lt
    have hc := c.toNat_lt
    have h₃ := base64Char_ne (r := b.toNat % 16 * 4 + c.toNat / 64) (by omega)
    have h₄ := base64Char_ne (r := c.toNat % 64) (by omega)
    obtain ⟨v', hv'⟩ := gBase64DecodeStep_group (a := a) (b := b) (c := c)
      (base64Rank_base64Char (r := a.toNat / 4) (by omega))
      (base64Rank_base64Char (r := a.toNat % 4 * 16 + b.toNat / 16) (by omega))
      (base64Rank_base64Char (r := b.toNat % 16 * 4 + c.toNat / 64) (by omega))
      (base64Rank_base64Char (r := c.toNat % 64) (by omega)) (by omega) (by omega) (by omega)
      (by omega) (by omega) (gBase64Encode rest) v last
    rw [hv', ih]
    simp [h₃.1, h₄.1]

theorem gBase64Decode_gBase64Encode (s : Bytes) : gBase64Decode (gBase64Encode s) = s :=
  gBase64DecodeStep_gBase64Encode s 0 (0, 0)

/-- What is read from a document. -/
theorem gBase64Decode_cstr_gBase64Encode (s : Bytes) :
    gBase64Decode (cstr (gBase64Encode s)) = s := by
  rw [cstr_gBase64Encode, gBase64Decode_gBase64Encode]

end SkcLibrary
