import SkcLibrary.Keyagent.CacheReload

/-!
# Which cached keys are deleted at start-up

`__keyagent_cache_loadkeys` goes over the rows of `keys` and deletes those it cannot load. Only the row of
an RSA key gets a verdict of its own; any other row is left with the verdict on the row before it, and the
first with `FALSE`.

The rows with a given type and attributes in two databases are therefore treated alike if they are of RSA
keys, or if what stands before them happens to be.

* `same_fate` — when two databases agree on a row
-/

namespace SkcLibrary

open Interaction

namespace CacheDb

variable {db : CacheDb}

/-! ## The row before -/

/-- The key data of the row is stored. -/
def HasKeydata (db : CacheDb) (row : KeyRow) : Prop :=
  ∃ a ∈ db.keyAttributes, a.keyId = row.id ∧ a.attrName = lit "KEYDATA"

theorem loadkeyAttr_isSome {row : KeyRow} :
    (db.loadkeyAttr row.id (lit "KEYDATA")).isSome = true ↔ db.HasKeydata row := by
  rw [loadkeyAttr, Option.isSome_map, List.find?_isSome]
  simp only [HasKeydata, decide_eq_true_eq]

/-- The rows of RSA keys. -/
def rsaRows (rows : List KeyRow) : List KeyRow :=
  rows.filter (·.keyType = KeyagentKeytype.rsakey.toInt)

/-- The verdict with which the loop leaves some rows, if it starts with `ret`. -/
def verdictAfter (db : CacheDb) (rows : List KeyRow) (ret : Bool) : Bool :=
  match (rsaRows rows).getLast? with
  | none => ret
  | some rsa => (db.loadkeyAttr rsa.id (lit "KEYDATA")).isSome

theorem verdictAfter_cons {row : KeyRow} {rest : List KeyRow} {ret : Bool} :
    db.verdictAfter (row :: rest) ret = db.verdictAfter rest (db.rowLoads row ret) := by
  unfold verdictAfter rowLoads rsaRows
  by_cases htype : row.keyType = KeyagentKeytype.rsakey.toInt
  · rw [List.filter_cons_of_pos (by simpa using htype), List.getLast?_cons, if_pos htype]
    cases (rest.filter (·.keyType = KeyagentKeytype.rsakey.toInt)).getLast? with
    | none => rfl
    | some rsa => rfl
  · rw [List.filter_cons_of_neg (by simpa using htype), if_neg htype]

theorem refusedIds_append {rows rows' : List KeyRow} {ret : Bool} :
    db.refusedIds (rows ++ rows') ret =
      db.refusedIds rows ret ++ db.refusedIds rows' (db.verdictAfter rows ret) := by
  induction rows generalizing ret with
  | nil => rfl
  | cons row rest ih =>
    rw [List.cons_append, refusedIds, refusedIds, ih, verdictAfter_cons, List.append_assoc]

/-- The rows that `SELECT` returns before a row. -/
def rowsBefore (db : CacheDb) (row : KeyRow) : List KeyRow :=
  db.keys.takeWhile (·.id ≠ row.id)

theorem exists_keys_eq {row : KeyRow} (hrow : row ∈ db.keys) (hnodup : (db.keys.map (·.id)).Nodup) :
    ∃ rest, db.keys = db.rowsBefore row ++ row :: rest := by
  obtain ⟨before, rest, hkeys⟩ := List.append_of_mem hrow
  rw [hkeys, List.map_append, List.map_cons] at hnodup
  have hbefore : ∀ r ∈ before, decide (r.id ≠ row.id) = true := by
    intro r hr
    have hne := (List.nodup_append.mp hnodup).2.2 r.id (List.mem_map_of_mem hr) row.id
      List.mem_cons_self
    simpa using hne
  refine ⟨rest, ?_⟩
  rw [rowsBefore, hkeys, List.takeWhile_append_of_pos hbefore,
    List.takeWhile_cons_of_neg (by simp), List.append_nil]

/-- Just the verdict on a row puts its id on the list. -/
theorem mem_refusedIds_iff {row : KeyRow} (hrow : row ∈ db.keys)
    (hnodup : (db.keys.map (·.id)).Nodup) :
    row.id ∈ db.refusedIds db.keys false ↔
      db.rowLoads row (db.verdictAfter (db.rowsBefore row) false) = false := by
  obtain ⟨rest, hkeys⟩ := exists_keys_eq hrow hnodup
  have hbefore : ∀ ret, row.id ∉ db.refusedIds (db.rowsBefore row) ret := by
    intro ret hmem
    obtain ⟨row', hrow', hid, -⟩ := mem_refusedIds hmem
    have := List.mem_takeWhile_imp hrow'
    simp [hid] at this
  have hafter : ∀ ret, row.id ∉ db.refusedIds rest ret := by
    intro ret hmem
    obtain ⟨row', hrow', hid, -⟩ := mem_refusedIds hmem
    rw [hkeys, List.map_append, List.map_cons] at hnodup
    have hnot := (List.nodup_cons.mp (List.nodup_append.mp hnodup).2.1).1
    exact hnot (hid ▸ List.mem_map_of_mem hrow')
  conv_lhs => rw [hkeys, refusedIds_append, refusedIds]
  rw [List.mem_append, List.mem_append]
  cases db.rowLoads row (db.verdictAfter (db.rowsBefore row) false) with
  | true => simp [hbefore, hafter]
  | false => simp

/-- What is not there is not brought back. -/
theorem mem_keys_of_deleteAll {ids : List Int} {row : KeyRow} (h : row ∈ (db.deleteAll ids).keys) :
    row ∈ db.keys := by
  induction ids generalizing db with
  | nil => exact h
  | cons id rest ih => exact (List.mem_filter.mp (ih h)).1

/-- A row is gone after the deletions just if its id was on the list. -/
theorem mem_keys_deleteAll_iff {ids : List Int} {row : KeyRow} (hrow : row ∈ db.keys) :
    row ∈ (db.deleteAll ids).keys ↔ row.id ∉ ids := by
  constructor
  · intro hmem
    induction ids generalizing db with
    | nil => exact List.not_mem_nil
    | cons id rest ih =>
      have hkept : row ∈ (db.deleteKeyAndAttrs id).keys := mem_keys_of_deleteAll hmem
      rw [List.mem_cons, not_or]
      refine ⟨?_, ih hkept hmem⟩
      simpa using (List.mem_filter.mp hkept).2
  · intro hid
    exact mem_keys_deleteAll hid hrow

/-- The nearest RSA key before the row has its key data. -/
def FollowsLoaded (db : CacheDb) (row : KeyRow) : Prop :=
  ∃ rsa, (rsaRows (db.rowsBefore row)).getLast? = some rsa ∧ db.HasKeydata rsa

theorem verdictAfter_rowsBefore {row : KeyRow} :
    db.verdictAfter (db.rowsBefore row) false = true ↔ db.FollowsLoaded row := by
  unfold verdictAfter FollowsLoaded
  cases (rsaRows (db.rowsBefore row)).getLast? with
  | none => simp
  | some rsa => simp [loadkeyAttr_isSome]

end CacheDb

/-! ## Two databases -/

/-- The rows have one type and the same attribute rows. -/
structure SameKey (db₁ : CacheDb) (row₁ : KeyRow) (db₂ : CacheDb) (row₂ : KeyRow) : Prop where
  type : row₁.keyType = row₂.keyType
  attributes : ∀ name value,
    (∃ a ∈ db₁.keyAttributes, a.keyId = row₁.id ∧ a.attrName = name ∧ a.attrValue = value) ↔
      ∃ a ∈ db₂.keyAttributes, a.keyId = row₂.id ∧ a.attrName = name ∧ a.attrValue = value

/-- They have their key data, or lack it, together. -/
theorem SameKey.hasKeydata {db₁ db₂ : CacheDb} {row₁ row₂ : KeyRow} (h : SameKey db₁ row₁ db₂ row₂) :
    db₁.HasKeydata row₁ ↔ db₂.HasKeydata row₂ := by
  constructor
  · rintro ⟨a, ha, hid, hname⟩
    obtain ⟨a', ha', hid', hname', -⟩ := (h.attributes _ _).mp ⟨a, ha, hid, hname, rfl⟩
    exact ⟨a', ha', hid', hname'⟩
  · rintro ⟨a, ha, hid, hname⟩
    obtain ⟨a', ha', hid', hname', -⟩ := (h.attributes _ _).mpr ⟨a, ha, hid, hname, rfl⟩
    exact ⟨a', ha', hid', hname'⟩

variable {W : Type} {E : Step skcSig W} {s s₁ s₂ t t₁ t₂ : World W}

/-- The row is still in the database. -/
def Kept (t : World W) (row : KeyRow) : Prop :=
  ∃ db, t.keyagent.localcache.connection = some db ∧ row ∈ db.keys

/-- The fate of a row. -/
theorem kept_iff {db : CacheDb} {row : KeyRow} {ret : Bool}
    (hdb : s.keyagent.localcache.connection = some db) (hnodup : (db.keys.map (·.id)).Nodup)
    (hrow : row ∈ db.keys) (hrun : Runs (sysStep E 0) keyagentCacheLoadkeys s ret t) :
    Kept t row ↔ if row.keyType = KeyagentKeytype.rsakey.toInt then db.HasKeydata row
      else db.FollowsLoaded row := by
  have ht := seqView_runs (AgentView.sat_cacheLoadkeys (V := seqView E) hdb) hrun
  have hkept : Kept t row ↔ row ∈ (db.deleteAll (db.refusedIds db.keys false)).keys := by
    constructor
    · rintro ⟨db', hdb', hmem⟩
      obtain rfl := Option.some.inj (ht.symm.trans hdb')
      exact hmem
    · exact fun hmem => ⟨_, ht, hmem⟩
  rw [hkept, CacheDb.mem_keys_deleteAll_iff hrow, CacheDb.mem_refusedIds_iff hrow hnodup,
    Bool.not_eq_false, CacheDb.rowLoads]
  split
  · exact CacheDb.loadkeyAttr_isSome
  · exact CacheDb.verdictAfter_rowsBefore

/--
**The fate of a row.** Two databases that have a row with the same type and attributes treat it alike if
and only if it is of an RSA key, or it follows a loaded RSA key in both or in neither.
-/
theorem same_fate {db₁ db₂ : CacheDb} {row₁ row₂ : KeyRow} {ret₁ ret₂ : Bool}
    (hdb₁ : s₁.keyagent.localcache.connection = some db₁)
    (hdb₂ : s₂.keyagent.localcache.connection = some db₂)
    (hnodup₁ : (db₁.keys.map (·.id)).Nodup) (hnodup₂ : (db₂.keys.map (·.id)).Nodup)
    (hrow₁ : row₁ ∈ db₁.keys) (hrow₂ : row₂ ∈ db₂.keys) (hsame : SameKey db₁ row₁ db₂ row₂)
    (hrun₁ : Runs (sysStep E 0) keyagentCacheLoadkeys s₁ ret₁ t₁)
    (hrun₂ : Runs (sysStep E 0) keyagentCacheLoadkeys s₂ ret₂ t₂) :
    (Kept t₁ row₁ ↔ Kept t₂ row₂) ↔ row₁.keyType = KeyagentKeytype.rsakey.toInt ∨
      (db₁.FollowsLoaded row₁ ↔ db₂.FollowsLoaded row₂) := by
  rw [kept_iff hdb₁ hnodup₁ hrow₁ hrun₁, kept_iff hdb₂ hnodup₂ hrow₂ hrun₂, ← hsame.type]
  by_cases htype : row₁.keyType = KeyagentKeytype.rsakey.toInt
  · rw [if_pos htype, if_pos htype]
    exact iff_of_true hsame.hasKeydata (Or.inl htype)
  · rw [if_neg htype, if_neg htype]
    exact (or_iff_right htype).symm

/-! ### An AES key with an RSA key in front of it and without -/

/-- A database with these rows, and the key data of the first key. -/
def rowsDb (rows : List KeyRow) : CacheDb := ⟨[], rows, [⟨1, 1, lit "KEYDATA", [1, 2, 3]⟩], 1, 9, 9⟩

/-- An agent whose cache has these rows. -/
def rowsWorld (rows : List KeyRow) : World Unit :=
  { sgxWorld with
    keyagent := { sgxAgent with localcache := ⟨true, true, 0, some (rowsDb rows), none⟩ } }

/-- The row of an RSA key. -/
def rsaRow : KeyRow := ⟨1, [0, 0], lit "a", KeyagentKeytype.rsakey.toInt, lit "KMS:1"⟩

/-- The row of an AES key. -/
def aesRow : KeyRow := ⟨2, [0, 0], lit "a", KeyagentKeytype.aeskey.toInt, lit "KMS:2"⟩

theorem exists_loaded (rows : List KeyRow) (h : (keyagentCacheLoadkeys.run
    (sysHandler cachingHandler 0) (rowsWorld rows)).map Prod.fst = some true) :
    ∃ t, Runs (sysStep cachingStep 0) keyagentCacheLoadkeys (rowsWorld rows) true t := by
  obtain ⟨⟨a, t⟩, hr, rfl⟩ := Option.map_eq_some_iff.mp h
  exact ⟨t, Prog.run_runs sysHandler_answers hr⟩

theorem rowsWorld_connection (rows : List KeyRow) :
    (rowsWorld rows).keyagent.localcache.connection = some (rowsDb rows) := rfl

theorem sameKey_rowsDb (rows₁ rows₂ : List KeyRow) (row : KeyRow) :
    SameKey (rowsDb rows₁) row (rowsDb rows₂) row := ⟨rfl, fun _ _ => Iff.rfl⟩

theorem same_fate_swapped : ∃ t₁ t₂ : World Unit,
    Runs (sysStep cachingStep 0) keyagentCacheLoadkeys (rowsWorld [aesRow, rsaRow]) true t₁ ∧
    Runs (sysStep cachingStep 0) keyagentCacheLoadkeys (rowsWorld [rsaRow, aesRow]) true t₂ ∧
    (Kept t₁ rsaRow ↔ Kept t₂ rsaRow) := by
  obtain ⟨t₁, hrun₁⟩ := exists_loaded [aesRow, rsaRow] (by decide +kernel)
  obtain ⟨t₂, hrun₂⟩ := exists_loaded [rsaRow, aesRow] (by decide +kernel)
  refine ⟨t₁, t₂, hrun₁, hrun₂, ?_⟩
  exact (same_fate rfl rfl (by decide) (by decide) (List.mem_cons_of_mem _ List.mem_cons_self)
    List.mem_cons_self (sameKey_rowsDb _ _ _) hrun₁ hrun₂).mpr (Or.inl rfl)

/-- The rows come in another order. -/
theorem not_same_fate : ¬∀ (W : Type) (E : Step skcSig W) (s₁ s₂ t₁ t₂ : World W)
    (db₁ db₂ : CacheDb) (row : KeyRow) (ret₁ ret₂ : Bool),
    s₁.keyagent.localcache.connection = some db₁ → s₂.keyagent.localcache.connection = some db₂ →
    (db₁.keys.map (·.id)).Nodup → (db₂.keys.map (·.id)).Nodup → db₁.keys.Perm db₂.keys →
    row ∈ db₁.keys → row ∈ db₂.keys → SameKey db₁ row db₂ row →
    Runs (sysStep E 0) keyagentCacheLoadkeys s₁ ret₁ t₁ →
    Runs (sysStep E 0) keyagentCacheLoadkeys s₂ ret₂ t₂ → (Kept t₁ row ↔ Kept t₂ row) := by
  intro h
  obtain ⟨t₁, hrun₁⟩ := exists_loaded [aesRow, rsaRow] (by decide +kernel)
  obtain ⟨t₂, hrun₂⟩ := exists_loaded [rsaRow, aesRow] (by decide +kernel)
  have hmem₁ : aesRow ∈ [aesRow, rsaRow] := List.mem_cons_self
  have hmem₂ : aesRow ∈ [rsaRow, aesRow] := List.mem_cons_of_mem _ List.mem_cons_self
  have hsame := h Unit cachingStep _ _ t₁ t₂ (rowsDb [aesRow, rsaRow]) (rowsDb [rsaRow, aesRow]) aesRow
    true true rfl rfl (by decide) (by decide) (.swap _ _ _) hmem₁ hmem₂ (sameKey_rowsDb _ _ _)
    hrun₁ hrun₂
  have hkept : Kept t₂ aesRow :=
    (kept_iff (rowsWorld_connection _) (by decide) hmem₂ hrun₂).mpr
      ⟨rsaRow, by rfl, _, List.mem_cons_self, rfl, rfl⟩
  have hfollows : (rowsDb [aesRow, rsaRow]).FollowsLoaded aesRow :=
    (kept_iff (rowsWorld_connection _) (by decide) hmem₁ hrun₁).mp (hsame.mpr hkept)
  obtain ⟨rsa, hrsa, -⟩ := hfollows
  exact absurd hrsa (by nofun)

end SkcLibrary
