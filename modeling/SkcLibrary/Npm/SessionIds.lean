import SkcLibrary.Npm.KmsRuns
import SkcLibrary.Keyagent.SessionCreate

/-!
# Session ids on their way to KBS and back

The agent tells KBS its sessions as `label:id`, and KBS names the session of a key the same way, in a
`Session-Id` header. `__npm_loadkey` takes what stands between the second and the third `:` of that
header and trims it.

* `session_id_kept` — the ids that come back
-/

namespace SkcLibrary

open Interaction

namespace Kms

/-- The header that names a session by its entry in the list. -/
def sessionIdHeader (entry : Bytes) : Bytes := lit "Session-Id: " ++ entry ++ lit "\r\n"

/-- The second token of a label that holds a `:`, and of any other the first one of the id. -/
def namedId (name id : Bytes) : Bytes :=
  if 58 ∈ name then firstToken 58 (name.dropWhile (· ≠ 58)).tail else firstToken 58 id

/-- The other headers do not count. -/
theorem sessionIdTokens_eq (pre : List Bytes) {post : List Bytes} {header : Bytes}
    (hheader : isSessionIdHeader header = true)
    (hpost : ∀ h ∈ post, isSessionIdHeader h = false) :
    sessionIdTokens (pre ++ header :: post) = some (gStrsplit header 58) := by
  have hnil : post.filter isSessionIdHeader = [] := by
    rw [List.filter_eq_nil_iff]
    intro h hm
    simp [hpost h hm]
  rw [sessionIdTokens, List.filter_append, List.filter_cons_of_pos hheader, hnil]
  simp

theorem isSessionIdHeader_sessionIdHeader (entry : Bytes) :
    isSessionIdHeader (sessionIdHeader entry) = true := by
  have h : lit "Session-Id: " = lit "Session-Id:" ++ [32] := by decide
  rw [isSessionIdHeader, sessionIdHeader, h]
  simp

/-- The third token of the header. -/
theorem gStrv_sessionIdHeader (name id : Bytes) :
    ∃ token, gStrv (gStrsplit (sessionIdHeader (name ++ lit ":" ++ id)) 58) 2 = some (some token) ∧
      gStrstrip token = gStrstrip (namedId name id) := by
  have hcolon : lit ":" = [58] := by decide
  have hcrlf : lit "\r\n" = [13, 10] := by decide
  have hprefix : lit "Session-Id: " = lit "Session-Id" ++ [58, 32] := by decide
  have hsep : (58 : UInt8) ∉ lit "Session-Id" := by decide
  have hheader : sessionIdHeader (name ++ lit ":" ++ id)
      = lit "Session-Id" ++ 58 :: ((32 :: name) ++ 58 :: (id ++ [13, 10])) := by
    rw [sessionIdHeader, hcolon, hcrlf, hprefix]
    simp
  rw [hheader, gStrsplit_append hsep, List.splitOn_append_cons_self]
  by_cases hname : 58 ∈ name
  · -- the label has two tokens at least
    obtain ⟨a, b, rfl, ha⟩ := List.eq_append_cons_of_mem hname
    have ha' : (58 : UInt8) ∉ 32 :: a := by simp [ha]
    obtain ⟨rest, hrest⟩ := exists_splitOn_eq b 58
    refine ⟨firstToken 58 b, ?_, ?_⟩
    · rw [show 32 :: (a ++ 58 :: b) = (32 :: a) ++ 58 :: b from rfl,
        List.splitOn_append_cons_self_of_not_mem ha', hrest]
      simp [gStrv]
    · rw [namedId, if_pos hname, List.dropWhile_append_of_pos]
      · simp
      · exact fun x hx => decide_eq_true fun he => ha (he ▸ hx)
  · have hname' : (58 : UInt8) ∉ 32 :: name := by simp [hname]
    obtain ⟨rest, hrest⟩ := exists_splitOn_eq (id ++ [13, 10]) 58
    refine ⟨firstToken 58 (id ++ [13, 10]), ?_, ?_⟩
    · rw [List.splitOn_eq_singleton hname', hrest]
      simp [gStrv]
    · rw [namedId, if_neg hname]
      by_cases hid : 58 ∈ id
      · obtain ⟨a, b, rfl, ha⟩ := List.eq_append_cons_of_mem hid
        rw [List.append_assoc, firstToken_append ha, firstToken_append ha]
        simp [firstToken]
      · rw [firstToken_append hid, firstToken_eq_self.mpr hid]
        exact gStrstrip_crlf id

/--
Neither the label nor the id holds a `:`, and the id has no white space at its ends; or the second
token of the label happens to be the id.
-/
def EntryReadable (name id : Bytes) : Prop :=
  if 58 ∈ name then gStrstrip (firstToken 58 (name.dropWhile (· ≠ 58)).tail) = id
  else 58 ∉ id ∧ Trimmed id

theorem gStrstrip_namedId {name id : Bytes} :
    gStrstrip (namedId name id) = id ↔ EntryReadable name id := by
  unfold namedId EntryReadable
  split
  · rfl
  · constructor
    · intro h
      have hfirst : firstToken 58 id = id := by
        refine (List.takeWhile_sublist _).eq_of_length_le ?_
        calc id.length = (gStrstrip (firstToken 58 id)).length := by rw [h]
          _ ≤ (firstToken 58 id).length := length_gStrstrip_le _
      rw [hfirst] at h
      exact ⟨firstToken_eq_self.mp hfirst, gStrstrip_eq_self.mp h⟩
    · rintro ⟨hid, htrim⟩
      rw [firstToken_eq_self.mpr hid, gStrstrip_eq_self.mpr htrim]

/-- The program begins with a `key_create` for the session with the given id. -/
def CreatesKeyOf {α : Type} (id : Bytes) (p : Npm α) : Prop :=
  ∃ requestId url type attrs err f,
    p = .call (S := npmSig) (.keyCreate requestId url type attrs (some id) err) f

theorem createsKeyOf_createKey {details : KeyagentKeyloadDetails} {res : HttpResponse}
    {transfer : KeyTransfer} {tokens : List Bytes} {token id : Bytes} {err : Option GError}
    (hparse : parseKeyTransfer res.body = .ok transfer)
    (htokens : sessionIdTokens res.headers = some tokens)
    (htoken : gStrv tokens 2 = some (some token)) :
    CreatesKeyOf id (createKey details res err) ↔ gStrstrip token = id := by
  have hcreate : createKey details res err =
      .call (S := npmSig) (.keyCreate details.requestId details.url transfer.keytype
        (some transfer.attrs) (some (gStrstrip token)) err)
        fun r => pure (r.1.isSome, r.2) := by
    simp only [createKey, hparse, htokens, htoken, Npm.deref_some, pure_bind]
    rfl
  rw [CreatesKeyOf, hcreate]
  constructor
  · rintro ⟨requestId, url, type, attrs, err, f, h⟩
    injection h with hc _
    injection hc with _ _ _ _ hid _
    exact Option.some.inj hid
  · rintro rfl
    exact ⟨_, _, _, _, _, _, rfl⟩

/-- An answer that names the session of an entry is understood if the id survives the tokens. -/
theorem createKey_sessionIdHeader {details : KeyagentKeyloadDetails} {res : HttpResponse}
    {transfer : KeyTransfer} {pre post : List Bytes} {name id : Bytes} {err : Option GError}
    (hparse : parseKeyTransfer res.body = .ok transfer)
    (hheaders : res.headers = pre ++ sessionIdHeader (name ++ lit ":" ++ id) :: post)
    (hpost : ∀ h ∈ post, isSessionIdHeader h = false) :
    CreatesKeyOf id (createKey details res err) ↔ EntryReadable name id := by
  obtain ⟨token, htoken, hstrip⟩ := gStrv_sessionIdHeader name id
  have htokens := sessionIdTokens_eq pre
    (isSessionIdHeader_sessionIdHeader (name ++ lit ":" ++ id)) hpost
  rw [createsKeyOf_createKey hparse (hheaders ▸ htokens) htoken, hstrip, gStrstrip_namedId]

end Kms

/-! ## The session that was created -/

section

variable {W : Type} {E : Step skcSig W} {s t u : World W}

/-- A session that was created is in the table, under its id, and in the list for KBS. -/
theorem sessionCreate_found (hs : TablesInv s.keyagent)
    {requestId label sessionId swk swkType : Bytes} {cacheId : Int} {error err : Option GError}
    (h : Runs (sysStep E 0)
      (keyagentSessionCreate .unknown requestId label sessionId swk swkType cacheId error) s
      (true, err) t) :
    TablesInv t.keyagent ∧ ∃ r data, t.keyagent.sessionHash.lookup (hashKey sessionId) = some r ∧
      t.keyagent.sessions[r]? = some data ∧ data.sessionId = sessionId := by
  have hcases := seqView_runs (sat_sessionCreate_cases hs) h
  rcases hcases with ⟨e, he, -⟩ | ⟨ht, hne⟩
  · simp at he
  · obtain ⟨r, hr⟩ := Option.ne_none_iff_exists'.mp hne
    obtain ⟨data, -, hd, hp, -⟩ := ht.current _ r hr
    exact ⟨ht, r, data, hr, hd, (hashKey_injective hp).symm⟩

/-- The list for KBS holds the entry of every session of the table. -/
theorem sessionGetIds_entry (ht : TablesInv t.keyagent) {p : Gpointer} {r : SessionRef}
    {data : KeyagentSessionReal} (hr : t.keyagent.sessionHash.lookup p = some r)
    (hd : t.keyagent.sessions[r]? = some data) {ids : Option Bytes}
    (h : Runs (sysStep E 0) keyagentSessionGetIds t ids u) :
    ∃ l : List KeyagentSessionReal, data ∈ l ∧
      ids = some (gStrjoin 44 (l.map KeyagentSessionReal.entry)) := by
  refine seqView_runs (Q := fun ids _ => ∃ l : List KeyagentSessionReal, data ∈ l ∧
    ids = some (gStrjoin 44 (l.map KeyagentSessionReal.entry))) ?_ h
  refine AgentView.sat_sessionGetIds (V := seqView E) fun l hl => ?_
  have hmem : r ∈ l := hl.mem_iff.mpr (GHashTable.mem_values.mpr ⟨p, hr⟩)
  have hdata : data ∈ l.filterMap (t.keyagent.sessions[·]?) := List.mem_filterMap.mpr ⟨r, hmem, hd⟩
  have hlist : l.foldl (getSessionIds t.keyagent.sessions) []
      = gStrjoin 44 ((l.filterMap (t.keyagent.sessions[·]?)).map KeyagentSessionReal.entry) :=
    (foldl_getSessionIds (fun r hr => ht.current.valid (hl.mem_iff.mp hr)) []).trans (foldl_entry _)
  have hne : l.foldl (getSessionIds t.keyagent.sessions) [] ≠ [] := by
    intro hnil
    have hlen := length_le_gStrjoin 44 (List.mem_map_of_mem (f := KeyagentSessionReal.entry) hdata)
    rw [← hlist, hnil] at hlen
    exact data.entry_ne_nil (List.length_eq_zero_iff.mp (Nat.le_zero.mp hlen))
  exact ⟨_, hdata, (if_neg hne).trans (congrArg some hlist)⟩

/--
**Session ids.** A session that was created is told to KBS by its entry; an answer that names the
entry leads to a key of that session if and only if neither the label nor the id holds a `:` and the
id has no white space at its ends. Of a label with a `:` the second token is taken for the id.
-/
theorem session_id_kept (hs : EmptyTables s.keyagent) (ht : TableReach E RequestRegistered s t)
    {requestId label sessionId swk swkType : Bytes} {cacheId : Int} {error err : Option GError}
    (hu : Runs (sysStep E 0)
      (keyagentSessionCreate .unknown requestId label sessionId swk swkType cacheId error) t
      (true, err) u) :
    ∃ r data, u.keyagent.sessionHash.lookup (hashKey sessionId) = some r ∧
      u.keyagent.sessions[r]? = some data ∧ data.sessionId = sessionId ∧
      (∀ ids v, Runs (sysStep E 0) keyagentSessionGetIds u ids v →
        ∃ l : List KeyagentSessionReal, data ∈ l ∧
          ids = some (gStrjoin 44 (l.map KeyagentSessionReal.entry))) ∧
      ∀ details res transfer pre post err, Kms.parseKeyTransfer res.body = .ok transfer →
        res.headers = pre ++ Kms.sessionIdHeader data.entry :: post →
        (∀ h ∈ post, Kms.isSessionIdHeader h = false) →
        (Kms.CreatesKeyOf sessionId (Kms.createKey details res err) ↔
          Kms.EntryReadable data.name sessionId) := by
  obtain ⟨hinv, r, data, hr, hd, hid⟩ := sessionCreate_found (ht.tablesInv (.of_empty hs)) hu
  refine ⟨r, data, hr, hd, hid, fun ids v hv => sessionGetIds_entry hinv hr hd hv, ?_⟩
  intro details res transfer pre post err hparse hheaders hpost
  rw [KeyagentSessionReal.entry, hid] at hheaders
  exact Kms.createKey_sessionIdHeader hparse hheaders hpost

end

/-! ### A plain id and one with a colon -/

/-- An answer with a key of the session with the given entry. -/
def keyOfEntry (entry : Bytes) : HttpResponse :=
  ⟨200, [lit "Server: kbs", Kms.sessionIdHeader entry], Kms.keyDocument⟩

theorem session_id_kept_plain : ∃ (u : World Unit) (r : SessionRef) (data : KeyagentSessionReal),
    Runs (sysStep acceptingStep 0) (createNamed (lit "a") (lit "AES256-GCM")) sgxWorld (true, none)
      u ∧
    u.keyagent.sessionHash.lookup (hashKey (lit "a")) = some r ∧
    u.keyagent.sessions[r]? = some data ∧
    ∀ details, Kms.CreatesKeyOf (lit "a") (Kms.createKey details (keyOfEntry data.entry) none) := by
  obtain ⟨⟨a, u⟩, hr, hv⟩ := Option.map_eq_some_iff.mp (show
    ((createNamed (lit "a") (lit "AES256-GCM")).run (sysHandler acceptingStm 0) sgxWorld).map
      (fun r => (r.1, storedAs r.2.keyagent (lit "a") (·.name))) = some ((true, none), some (lit "SGX"))
    by decide +kernel)
  obtain ⟨rfl, hname⟩ := Prod.mk.inj hv
  have hruns := Prog.run_runs sysHandler_answers hr
  obtain ⟨r, data, hlookup, hd, -, -, hkey⟩ := session_id_kept ⟨rfl, rfl⟩ .refl hruns
  obtain ⟨transfer, hparse⟩ : ∃ transfer, Kms.parseKeyTransfer Kms.keyDocument = .ok transfer :=
    ⟨_, rfl⟩
  refine ⟨u, r, data, hruns, hlookup, hd, fun details => ?_⟩
  refine (hkey details (keyOfEntry data.entry) transfer [lit "Server: kbs"] [] none hparse rfl
    nofun).mpr ?_
  rw [storedAs_eq hlookup hd, Option.some.injEq] at hname
  rw [hname, Kms.EntryReadable, if_neg (by decide)]
  refine ⟨by decide, ?_, ?_⟩
  · exact fun b hb => Option.some.inj hb ▸ by decide
  · exact fun b hb => Option.some.inj hb ▸ by decide

theorem not_session_id_kept : ¬∀ (W : Type) (E : Step skcSig W) (s t u : World W)
    (requestId label sessionId swk swkType : Bytes) (cacheId : Int) (error err : Option GError),
    EmptyTables s.keyagent → TableReach E RequestRegistered s t →
    Runs (sysStep E 0)
      (keyagentSessionCreate .unknown requestId label sessionId swk swkType cacheId error) t
      (true, err) u →
    ∀ r data details res transfer pre post err,
      u.keyagent.sessionHash.lookup (hashKey sessionId) = some r →
      u.keyagent.sessions[r]? = some data → Kms.parseKeyTransfer res.body = .ok transfer →
      res.headers = pre ++ Kms.sessionIdHeader data.entry :: post →
      (∀ h ∈ post, Kms.isSessionIdHeader h = false) →
      Kms.CreatesKeyOf sessionId (Kms.createKey details res err) := by
  intro h
  obtain ⟨⟨a, u⟩, hr, hv⟩ := Option.map_eq_some_iff.mp (show
    ((createNamed (lit "a:b") (lit "AES256-GCM")).run (sysHandler acceptingStm 0) sgxWorld).map
      (fun r => (r.1, storedAs r.2.keyagent (lit "a:b") (·.name))) = some ((true, none), some (lit "SGX"))
    by decide +kernel)
  obtain ⟨rfl, hname⟩ := Prod.mk.inj hv
  have hruns := Prog.run_runs sysHandler_answers hr
  have hs : EmptyTables sgxWorld.keyagent := ⟨rfl, rfl⟩
  obtain ⟨-, r, data, hlookup, hd, hid⟩ := sessionCreate_found (.of_empty hs) hruns
  obtain ⟨transfer, hparse⟩ : ∃ transfer, Kms.parseKeyTransfer Kms.keyDocument = .ok transfer :=
    ⟨_, rfl⟩
  have hkey := h Unit acceptingStep sgxWorld sgxWorld u _ _ _ _ _ _ _ _ hs .refl hruns r data
    ⟨[], [], [], ⟨[], [], [], [], [], true⟩⟩ (keyOfEntry data.entry) transfer [lit "Server: kbs"] []
    none hlookup hd hparse rfl nofun
  rw [storedAs_eq hlookup hd, Option.some.injEq] at hname
  have hheaders : (keyOfEntry data.entry).headers = [lit "Server: kbs"]
      ++ Kms.sessionIdHeader (data.name ++ lit ":" ++ lit "a:b") :: [] := by
    rw [← hid]
    rfl
  have hread := (Kms.createKey_sessionIdHeader hparse hheaders nofun).mp hkey
  rw [hname, Kms.EntryReadable, if_neg (by decide)] at hread
  exact absurd hread.1 (by decide)

end SkcLibrary
