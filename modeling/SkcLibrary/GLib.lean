import Mathlib.Algebra.Group.Nat.Defs
import Mathlib.Data.List.AList
import Mathlib.Data.List.DropRight
import Mathlib.Data.List.TakeWhile

/-!
# The parts of C and GLib the library uses

C strings are lists of bytes without their terminator, and a `GString` is a list of bytes that
may hold zeros; `cstr` is what a `char *` consumer sees of it. `NULL` is `none`.

* strings: `gStrsplit`, `gStrjoin`, `gStrstrip`, `gBase64Decode`, `gBase64Encode`
* `GQuark`, `Gpointer` and `GHashTable`
* `GError` and the three ways an error location is written
-/

namespace SkcLibrary

abbrev Bytes := List UInt8

/-- The bytes of a string literal. -/
def lit (s : String) : Bytes := s.toList.map fun c => UInt8.ofNat c.toNat

/-- What a consumer of `char *` sees: everything before the first zero. -/
def cstr (s : Bytes) : Bytes := s.takeWhile (· ≠ 0)

@[simp] theorem cstr_cstr (s : Bytes) : cstr (cstr s) = cstr s := List.takeWhile_idem

/-- `%d` -/
def fmtInt (n : Int) : Bytes := lit (toString n)

/-! ## Strings -/

/--
`g_strsplit (s, delim, -1)` for a delimiter of one byte. The empty string splits into no
token at all.
-/
def gStrsplit (s : Bytes) (delim : UInt8) : List Bytes :=
  if s = [] then [] else s.splitOn delim

/-- What stands before the first delimiter. -/
def firstToken (delim : UInt8) (s : Bytes) : Bytes := s.takeWhile (· ≠ delim)

theorem firstToken_eq_self {delim : UInt8} {s : Bytes} : firstToken delim s = s ↔ delim ∉ s := by
  rw [firstToken, List.takeWhile_eq_self_iff]
  constructor
  · exact fun h hm => of_decide_eq_true (h delim hm) rfl
  · exact fun h b hb => decide_eq_true fun he => h (he ▸ hb)

theorem firstToken_append {delim : UInt8} {s : Bytes} (h : delim ∉ s) (t : Bytes) :
    firstToken delim (s ++ t) = s ++ firstToken delim t :=
  List.takeWhile_append_of_pos fun _ hb => decide_eq_true fun he => h (he ▸ hb)

theorem length_firstToken_le (delim : UInt8) (s : Bytes) : (firstToken delim s).length ≤ s.length :=
  (List.takeWhile_sublist _).length_le

theorem exists_splitOn_eq (s : Bytes) (delim : UInt8) :
    ∃ rest, s.splitOn delim = firstToken delim s :: rest := by
  by_cases h : delim ∈ s
  · obtain ⟨pre, post, rfl, hpre⟩ := List.eq_append_cons_of_mem h
    refine ⟨post.splitOn delim, ?_⟩
    rw [List.splitOn_append_cons_self_of_not_mem hpre, firstToken_append hpre]
    simp [firstToken]
  · exact ⟨[], by rw [List.splitOn_eq_singleton h, firstToken_eq_self.mpr h]⟩

/-- A token without the delimiter is split off whole. -/
theorem gStrsplit_append {s : Bytes} {delim : UInt8} (h : delim ∉ s) (t : Bytes) :
    gStrsplit (s ++ delim :: t) delim = s :: t.splitOn delim := by
  rw [gStrsplit, if_neg (by simp), List.splitOn_append_cons_self_of_not_mem h]

/-- `g_strjoin` and `g_strjoinv` with a separator of one byte. -/
def gStrjoin (sep : UInt8) (l : List Bytes) : Bytes := [sep].intercalate l

theorem gStrjoin_cons (sep : UInt8) (s : Bytes) {l : List Bytes} (h : l ≠ []) :
    gStrjoin sep (s :: l) = s ++ sep :: gStrjoin sep l := by
  simp [gStrjoin, List.intercalate_cons_of_ne_nil h]

theorem gStrjoin_snoc (sep : UInt8) (s : Bytes) {l : List Bytes} (h : l ≠ []) :
    gStrjoin sep (l ++ [s]) = gStrjoin sep l ++ sep :: s := by
  induction l with
  | nil => exact absurd rfl h
  | cons s' l ih =>
    rw [List.cons_append, gStrjoin_cons sep s' (by simp)]
    by_cases hl : l = []
    · simp [hl, gStrjoin]
    · rw [ih hl, gStrjoin_cons sep s' hl, List.append_assoc, List.cons_append]

theorem length_le_gStrjoin (sep : UInt8) {s : Bytes} {l : List Bytes} (h : s ∈ l) :
    s.length ≤ (gStrjoin sep l).length := by
  induction l with
  | nil => simp at h
  | cons s' l ih =>
    by_cases hl : l = []
    · have hs : s = s' := by simpa [hl] using h
      simp [hl, hs, gStrjoin]
    · rw [gStrjoin_cons sep s' hl, List.length_append, List.length_cons]
      obtain rfl | h := List.mem_cons.mp h
      · omega
      · have := ih h
        omega

/--
`v[i]` of a `NULL`-terminated vector of strings: `some none` is the terminator, `none` is a
read behind it.
-/
def gStrv (v : List Bytes) (i : Nat) : Option (Option Bytes) :=
  if i < v.length then some v[i]? else if i = v.length then some none else none

/-- `g_ascii_isspace`; the vertical tab is not one. -/
def gAsciiIsspace (c : UInt8) : Bool :=
  c == 9 || c == 10 || c == 12 || c == 13 || c == 32

/-- `g_strstrip` -/
def gStrstrip (s : Bytes) : Bytes :=
  ((s.dropWhile gAsciiIsspace).reverse.dropWhile gAsciiIsspace).reverse

theorem gStrstrip_eq (s : Bytes) :
    gStrstrip s = (s.dropWhile gAsciiIsspace).rdropWhile gAsciiIsspace := rfl

theorem length_gStrstrip_le (s : Bytes) : (gStrstrip s).length ≤ s.length :=
  (List.rdropWhile_prefix _ _).length_le.trans (List.dropWhile_sublist _).length_le

/-- There is no white space at either end. -/
def Trimmed (s : Bytes) : Prop :=
  (∀ b, s.head? = some b → gAsciiIsspace b = false) ∧
    ∀ b, s.getLast? = some b → gAsciiIsspace b = false

theorem gStrstrip_eq_self {s : Bytes} : gStrstrip s = s ↔ Trimmed s := by
  have hhead : s.dropWhile gAsciiIsspace = s ↔
      ∀ b, s.head? = some b → gAsciiIsspace b = false := by
    cases s with
    | nil => simp
    | cons b s => simp [List.dropWhile_eq_self_iff]
  have hlast : s.rdropWhile gAsciiIsspace = s ↔
      ∀ b, s.getLast? = some b → gAsciiIsspace b = false := by
    rw [List.rdropWhile_eq_self_iff]
    constructor
    · intro h b hb
      have hne : s ≠ [] := by
        rintro rfl
        simp at hb
      rw [List.getLast?_eq_some_getLast hne, Option.some.injEq] at hb
      simpa [hb] using h hne
    · intro h hne
      simpa using h _ (List.getLast?_eq_some_getLast hne)
  rw [gStrstrip_eq, Trimmed, ← hhead, ← hlast]
  constructor
  · intro h
    -- if stripping both ends changes nothing, stripping the first does not either
    have hdrop : s.dropWhile gAsciiIsspace = s := by
      refine (List.dropWhile_sublist _).eq_of_length_le ?_
      calc s.length = ((s.dropWhile gAsciiIsspace).rdropWhile gAsciiIsspace).length := by rw [h]
        _ ≤ (s.dropWhile gAsciiIsspace).length := (List.rdropWhile_prefix _ _).length_le
    rw [hdrop] at h
    exact ⟨hdrop, h⟩
  · rintro ⟨hdrop, hr⟩
    rw [hdrop, hr]

/-- The end of a header line is white space. -/
theorem gStrstrip_crlf (s : Bytes) : gStrstrip (s ++ [13, 10]) = gStrstrip s := by
  rw [gStrstrip_eq, gStrstrip_eq, List.dropWhile_append]
  split
  · next h =>
    rw [List.isEmpty_iff.mp h]
    rfl
  · have hend : s.dropWhile gAsciiIsspace ++ [13, 10]
        = s.dropWhile gAsciiIsspace ++ [13] ++ [10] := by simp
    rw [hend, List.rdropWhile_concat_pos _ _ _ (by decide),
      List.rdropWhile_concat_pos _ _ _ (by decide)]

/-- `g_strrstr (s, needle) != NULL` -/
def gStrContains (s needle : Bytes) : Bool := s.tails.any needle.isPrefixOf

/-- `mime_base64_rank` of GLib: the padding character has rank 0, `none` is skipped. -/
def base64Rank (c : UInt8) : Option Nat :=
  let n := c.toNat
  if 65 ≤ n ∧ n ≤ 90 then some (n - 65)
  else if 97 ≤ n ∧ n ≤ 122 then some (n - 71)
  else if 48 ≤ n ∧ n ≤ 57 then some (n + 4)
  else if n = 43 then some 62
  else if n = 47 then some 63
  else if n = 61 then some 0
  else none

/-- The loop of `g_base64_decode_step`: `v` collects the ranks, `last` the last two characters. -/
def gBase64DecodeStep : Bytes → Nat → Nat → UInt8 × UInt8 → Bytes
  | [], _, _, _ => []
  | c :: rest, v, i, last =>
    match base64Rank c with
    | none => gBase64DecodeStep rest v i last
    | some r =>
      let last' := (c, last.1)
      let v' := (v * 64 + r) % 2 ^ 32
      if i + 1 = 4 then
        UInt8.ofNat (v' / 2 ^ 16)
          :: (if last'.2 ≠ 61 then [UInt8.ofNat (v' / 2 ^ 8)] else [])
          ++ (if last'.1 ≠ 61 then [UInt8.ofNat v'] else [])
          ++ gBase64DecodeStep rest v' 0 last'
      else gBase64DecodeStep rest v' (i + 1) last'

/-- `g_base64_decode` -/
def gBase64Decode (s : Bytes) : Bytes := gBase64DecodeStep s 0 0 (0, 0)

/-- The character of a six-bit rank. -/
def base64Char (r : Nat) : UInt8 :=
  if r < 26 then UInt8.ofNat (r + 65)
  else if r < 52 then UInt8.ofNat (r + 71)
  else if r < 62 then UInt8.ofNat (r - 4)
  else if r = 62 then 43 else 47

/-- `g_base64_encode` -/
def gBase64Encode : Bytes → Bytes
  | [] => []
  | [a] => [base64Char (a.toNat / 4), base64Char (a.toNat % 4 * 16), 61, 61]
  | [a, b] =>
    [base64Char (a.toNat / 4), base64Char (a.toNat % 4 * 16 + b.toNat / 16),
      base64Char (b.toNat % 16 * 4), 61]
  | a :: b :: c :: rest =>
    base64Char (a.toNat / 4) :: base64Char (a.toNat % 4 * 16 + b.toNat / 16)
      :: base64Char (b.toNat % 16 * 4 + c.toNat / 64) :: base64Char (c.toNat % 64)
      :: gBase64Encode rest

/-! ## Integers in memory -/

/-- The little-endian value of a run of bytes. -/
def leNat : Bytes → Nat
  | [] => 0
  | b :: rest => b.toNat + 256 * leNat rest

/-- The four bytes of a `guint32` in memory. -/
def le32 (n : Nat) : Bytes :=
  [UInt8.ofNat n, UInt8.ofNat (n / 2 ^ 8), UInt8.ofNat (n / 2 ^ 16), UInt8.ofNat (n / 2 ^ 24)]

/-! ## Quarks and hash tables -/

/--
A non-zero `GQuark`. Quarks are interned strings: two of them are equal exactly when the strings
are, so the string stands for the number.
-/
structure GQuark where
  string : Bytes
  deriving DecidableEq

/-- `g_quark_from_string` of a string that is not `NULL`. -/
def gQuarkFromString (s : Bytes) : GQuark := ⟨s⟩

/--
A key of a `g_direct_hash` table: a small integer cast to a pointer, or a pointer into the heap.
The two never coincide.
-/
inductive Gpointer where
  | gintToPointer (q : GQuark)
  | heap (string : Bytes)
  deriving DecidableEq

/-- A `GHashTable`. Keys are distinct; the order of the entries is the order of iteration. -/
abbrev GHashTable (K V : Type) := AList fun _ : K => V

namespace GHashTable

variable {K V : Type}

/-- The values of a table, in the order of iteration. -/
def values (t : GHashTable K V) : List V := t.entries.map fun e => e.2

theorem mem_values [DecidableEq K] {t : GHashTable K V} {v : V} :
    v ∈ t.values ↔ ∃ k, t.lookup k = some v := by
  simp only [values, List.mem_map]
  constructor
  · rintro ⟨⟨k, w⟩, hm, rfl⟩
    exact ⟨k, AList.mem_lookup_iff.mpr hm⟩
  · rintro ⟨k, hk⟩
    exact ⟨⟨k, v⟩, AList.mem_lookup_iff.mp hk, rfl⟩

theorem lookup_insert_eq [DecidableEq K] (t : GHashTable K V) (k k' : K) (v : V) :
    AList.lookup k' (t.insert k v) = if k' = k then some v else t.lookup k' := by
  split
  · next h => rw [h, AList.lookup_insert]
  · next h => exact AList.lookup_insert_ne h

theorem lookup_erase_eq [DecidableEq K] (t : GHashTable K V) (k k' : K) :
    AList.lookup k' (t.erase k) = if k' = k then none else t.lookup k' := by
  split
  · next h => rw [h, AList.lookup_erase]
  · next h => exact AList.lookup_erase_ne h

/-- A value changed in place, through a pointer to it. -/
def update [DecidableEq K] (t : GHashTable K V) (k : K) (f : V → V) : GHashTable K V where
  entries := t.entries.map fun e => if e.1 = k then ⟨e.1, f e.2⟩ else e
  nodupKeys := by
    have hkeys : (t.entries.map fun e => if e.1 = k then ⟨e.1, f e.2⟩ else e).keys
        = t.entries.keys := by
      simp only [List.keys, List.map_map]
      refine List.map_congr_left fun e _ => ?_
      simp only [Function.comp]
      split <;> rfl
    rw [List.NodupKeys, hkeys]
    exact t.nodupKeys

theorem lookup_update [DecidableEq K] (t : GHashTable K V) (k k' : K) (f : V → V) :
    AList.lookup k' (t.update k f) =
      if k' = k then (t.lookup k').map f else t.lookup k' := by
  obtain ⟨l, hl⟩ := t
  simp only [AList.lookup, update]
  clear hl
  induction l with
  | nil => simp
  | cons e l ih =>
    obtain ⟨x, v⟩ := e
    rw [List.map_cons]
    by_cases hk : k' = x
    · subst hk
      by_cases hx : k' = k
      · rw [if_pos hx, if_pos hx, List.dlookup_cons_eq, List.dlookup_cons_eq]; rfl
      · rw [if_neg hx, if_neg hx, List.dlookup_cons_eq, List.dlookup_cons_eq]
    · rw [List.dlookup_cons_ne l (⟨x, v⟩ : Sigma fun _ => V) hk, ← ih]
      refine List.dlookup_cons_ne _ _ ?_
      split <;> exact hk

end GHashTable

/-! ## Errors -/

/-- A `GError`. -/
structure GError where
  domain : String
  code : Int
  message : Bytes
  deriving DecidableEq

/-- `g_set_error`: an error that is already there stays, with a warning. -/
def gSetError (err : Option GError) (domain : String) (code : Int) (message : Bytes) :
    Option GError :=
  match err with
  | some e => some e
  | none => some ⟨domain, code, message⟩

/-- `k_set_error`: the location is cleared first, so the newest error wins. -/
def kSetError (_err : Option GError) (domain : String) (code : Int) (message : Bytes) :
    Option GError :=
  some ⟨domain, code, message⟩

/-- `g_propagate_error`: an error that is already there stays, with a warning. -/
def gPropagateError (dest src : Option GError) : Option GError :=
  match dest with
  | some e => some e
  | none => src

section

variable {err dest src : Option GError} {domain : String} {code : Int} {message : Bytes}

@[simp] theorem gSetError_isSome : (gSetError err domain code message).isSome = true := by
  cases err <;> rfl

@[simp] theorem kSetError_isSome : (kSetError err domain code message).isSome = true := rfl

@[simp] theorem gPropagateError_isSome :
    (gPropagateError dest src).isSome = (dest.isSome || src.isSome) := by
  cases dest <;> simp [gPropagateError]

end

end SkcLibrary
