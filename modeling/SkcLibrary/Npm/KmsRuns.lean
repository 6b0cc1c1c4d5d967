import SkcLibrary.Keyagent.Tables
import SkcLibrary.Npm.Dialogue

/-!
# Runs of the KMS module

`npm_key_load` follows the automaton of `SkcLibrary.Npm.Dialogue`, whatever KBS and the STM
answer, as long as the STM brings a challenge when it says so and KBS's challenge fits the nonce.

* `key_load_dialogue` — the order of the requests, and what the result says
-/

namespace SkcLibrary.Kms

open Interaction

variable {W : Type}

/-! ## The module's operations -/

/-- The agent's side of an operation, from its start to its end. -/
def callbackStep (E : Step skcSig W) : Step npmSig (World W) := fun c s a t =>
  Runs (sysStep E 0) (npmOps .unknown c) s a t

/-- The challenge without its dashes fits the nonce. -/
def FitsNonce (sessionId : Bytes) : Prop :=
  ((gBase64Decode sessionId).filter (· ≠ 45)).length ≤ nonceLength

/--
What is asked of the answers: a challenge when the STM says there is one, and nothing from KBS that
does not fit the nonce.
-/
def FairAnswer (c : NpmCall) : World W → c.Ans → Prop := fun _ =>
  match c with
  | .stmGetChallenge _ _ _ _ => fun a => a.1 = true → a.2.1 ≠ none
  | .httpsSend _ => fun res => ∀ req, parseChallenge res.body = .ok req → FitsNonce req.sessionId
  | _ => fun _ => True

/-- The operations of the module, with their history. -/
def kmsStep (E : Step skcSig W) : Step npmSig (World W × List (Event (World W))) :=
  ((callbackStep E).restrict FairAnswer).observed Occ.log

/-! ## What the operations do to the agent -/

section Callbacks

variable {E : Step skcSig W} {s t : World W}

/-- Every session of the table is listed, under its id. -/
theorem sat_sessionGetIds_entries (hs : TablesInv s.keyagent) :
    Sat (seqView E).logic keyagentSessionGetIds (fun ids t => t = s ∧
      ∀ id, s.keyagent.sessionHash.lookup (hashKey id) ≠ none →
        ∃ l, ids = some l ∧ HasEntry id l) s := by
  refine AgentView.sat_sessionGetIds (V := seqView E) fun l hl => ⟨rfl, fun id hid => ?_⟩
  obtain ⟨r, hr⟩ := Option.ne_none_iff_exists'.mp hid
  obtain ⟨data, -, hd, hp, -⟩ := hs.current _ r hr
  have hmem : r ∈ l := hl.mem_iff.mpr (GHashTable.mem_values.mpr ⟨_, hr⟩)
  have hentry : data.name ++ lit ":" ++ id ∈
      (l.filterMap (s.keyagent.sessions[·]?)).map KeyagentSessionReal.entry := by
    rw [hashKey_injective hp]
    exact List.mem_map_of_mem (List.mem_filterMap.mpr ⟨r, hmem, hd⟩)
  have hids : l.foldl (getSessionIds s.keyagent.sessions) [] = gStrjoin 44
      ((l.filterMap (s.keyagent.sessions[·]?)).map KeyagentSessionReal.entry) := by
    rw [foldl_getSessionIds fun r hr => hs.current.valid (hl.mem_iff.mp hr), foldl_entry]
  have hne : l.foldl (getSessionIds s.keyagent.sessions) [] ≠ [] := by
    intro h
    have hlen := length_le_gStrjoin 44 hentry
    rw [← hids, h] at hlen
    simp [lit] at hlen
  exact ⟨_, if_neg hne, _, data.name, hids, hentry⟩

theorem sat_stmGetChallenge_tables (hs : TablesInv s.keyagent) {requestId nonce name : Bytes}
    {error : Option GError} :
    Sat (seqView E).logic (keyagentStmGetChallenge .unknown requestId nonce name error)
      (fun _ t => TablesInv t.keyagent) s := by
  refine AgentView.sat_keyagentStmGetChallenge (fun _ => hs) fun lstm request _ _ => ?_
  refine sat_seq_call.mpr ⟨trivial, fun a t ht => sat_seq_pure.mpr ?_⟩
  have hk : t.keyagent = s.keyagent.setStmName requestId lstm.label :=
    (seqView E).ka_step ht fun _ => nofun
  rw [hk]
  exact ⟨hs.noHeapKeys, hs.current⟩

/-- What is not an operation of the agent leaves its variables alone. -/
theorem lift_keyagent {c : Call} {a : c.Ans}
    (h : Runs (sysStep E 0) (Prog.lift (S := skcSig) c) s a t) (hc : ∀ f, c ≠ .modifyKeyagent f) :
    t.keyagent = s.keyagent := by
  cases h with
  | step hs hr =>
    cases hr with
    | refl => exact sysStep_keyagent hs hc

/-- A session that was created is in the table. -/
theorem callback_sessionCreate (hs : TablesInv s.keyagent)
    {requestId name id swk swkType : Bytes} {e e' : Option GError}
    (h : callbackStep E (.sessionCreate requestId name id swk swkType e) s (true, e') t) :
    TablesInv t.keyagent ∧ t.keyagent.sessionHash.lookup (hashKey id) ≠ none := by
  obtain ⟨e, he, -⟩ | ht := (sat_sessionCreate_cases hs).runs h
  · simp at he
  · exact ht

end Callbacks

/-! ## Nothing is read or written out of bounds -/

theorem stripDashes_ne_none {l nonce : Bytes} {j : Nat}
    (h : j + (l.filter (· ≠ 45)).length ≤ nonce.length) : stripDashes l j nonce ≠ none := by
  induction l generalizing j nonce with
  | nil => simp [stripDashes]
  | cons b rest ih =>
    unfold stripDashes
    by_cases hb : b = 45
    · rw [if_neg (by simpa using hb)]
      exact ih (by simpa [hb] using h)
    · rw [List.filter_cons_of_pos (by simpa using hb), List.length_cons] at h
      rw [if_pos hb, if_pos (by omega)]
      exact ih (by rw [List.length_set]; omega)

theorem length_gStrsplit {s s' : Bytes} {delim : UInt8} :
    2 ≤ (gStrsplit (s ++ delim :: s') delim).length := by
  rw [gStrsplit, if_neg (by simp), List.splitOn_append_cons_self, List.length_append]
  have h : 0 < (s.splitOn delim).length := List.length_pos_iff.mpr (List.splitOn_ne_nil _ _)
  have h' : 0 < (s'.splitOn delim).length := List.length_pos_iff.mpr (List.splitOn_ne_nil _ _)
  omega

/-- The header has its colon, so there is something behind it. -/
theorem gStrv_sessionIdTokens {headers : List Bytes} {tokens : List Bytes}
    (h : sessionIdTokens headers = some tokens) : gStrv tokens 2 ≠ none := by
  obtain ⟨header, hlast, rfl⟩ := Option.map_eq_some_iff.mp h
  have hcolon : ∃ s s', header = s ++ 58 :: s' := by
    have hid := (List.mem_filter.mp (List.mem_of_getLast? hlast)).2
    rw [isSessionIdHeader, Bool.or_eq_true] at hid
    rcases hid with hid | hid
    · obtain ⟨rest, rfl⟩ := List.isPrefixOf_iff_prefix.mp hid
      exact ⟨lit "Session-Id", rest, rfl⟩
    · obtain ⟨rest, rfl⟩ := List.isPrefixOf_iff_prefix.mp hid
      exact ⟨lit "session-id", rest, rfl⟩
  obtain ⟨s, s', rfl⟩ := hcolon
  have hlen : 2 ≤ (gStrsplit (s ++ 58 :: s') 58).length := length_gStrsplit
  unfold gStrv
  split
  · simp
  · rw [if_pos (by omega)]
    simp

/-! ## The module follows the dialogue -/

section Follows

variable {E : Step skcSig W} {x : World W × List (Event (World W))}

/-- Every operation continues a dialogue, and none is a memory error. -/
def Issued (c : NpmCall) (x : World W × List (Event (World W))) : Prop :=
  (∀ reason, c ≠ .fault reason) ∧ ∃ p, Dialogue x.2 p

/-- The module alone with the agent. -/
abbrev kmsLogic (E : Step skcSig W) : Logic npmSig (World W × List (Event (World W))) :=
  .seq (kmsStep E) Issued

/-- The dialogue stands at a phase, and the agent's tables are in order. -/
structure At (p : Phase) (x : World W × List (Event (World W))) : Prop where
  dialogue : Dialogue x.2 p
  tables : TablesInv x.1.keyagent

/-- The verdict is whether a key was created. -/
def Over (r : Bool × Option GError) (x : World W × List (Event (World W))) : Prop :=
  ∃ p, Dialogue x.2 p ∧ (r.1 = true ↔ p = .keyed true)

/-- The verdict is whether there is a session, which is in the table then. -/
def Started (tries : Nat) (r : Bool × Option GError) (x : World W × List (Event (World W))) :
    Prop :=
  if r.1 = true then
    ∃ id, At (.idle tries (some id)) x ∧ x.1.keyagent.sessionHash.lookup (hashKey id) ≠ none
  else ∃ p, Dialogue x.2 p ∧ p ≠ .keyed true

/-- One operation of the module. -/
theorem sat_op {α : Type} {c : NpmCall} {f : c.Ans → Npm α}
    {Q : α → World W × List (Event (World W)) → Prop} {p : Phase} (hx : At p x)
    (hc : ∀ reason, c ≠ .fault reason)
    (h : ∀ a t, callbackStep E c x.1 a t → FairAnswer c x.1 a →
      Sat (kmsLogic E) (f a) Q (t, x.2 ++ [⟨x.1, c, a⟩])) :
    Sat (kmsLogic E) (Npm.op c >>= f) Q x := by
  refine sat_seq_call.mpr ⟨⟨hc, p, hx.dialogue⟩, fun a y hy => ?_⟩
  obtain ⟨t, g⟩ := y
  obtain ⟨⟨ht, hfair⟩, rfl⟩ := hy
  exact h a t ht hfair

theorem sat_deref_some {α β : Type} {o : Option β} {reason : String} {f : β → Npm α}
    {Q : α → World W × List (Event (World W)) → Prop} (ho : o ≠ none)
    (h : ∀ b, o = some b → Sat (kmsLogic E) (f b) Q x) :
    Sat (kmsLogic E) (Npm.deref o reason >>= f) Q x := by
  obtain ⟨b, rfl⟩ := Option.ne_none_iff_exists'.mp ho
  exact h b rfl

theorem sat_createKey {n : Nat} (hx : At (.asked n) x) {details : KeyagentKeyloadDetails}
    {res : HttpResponse} {err : Option GError} :
    Sat (kmsLogic E) (createKey details res err) Over x := by
  have hno : ∀ e, Over (false, e) x := fun e => ⟨_, hx.dialogue, by simp⟩
  unfold createKey
  split
  · exact sat_seq_pure.mpr (hno _)
  · split
    · exact sat_seq_pure.mpr (hno _)
    · next tokens htokens =>
      refine sat_deref_some (gStrv_sessionIdTokens htokens) fun b _ => ?_
      split
      · exact sat_seq_pure.mpr (hno _)
      · refine sat_op hx (fun _ => nofun) fun a t _ _ => sat_seq_pure.mpr ?_
        exact ⟨_, hx.dialogue.snoc .key, by simp⟩

theorem sat_createSession {n : Nat} (hx : At (.answered n) x) {details : KeyagentKeyloadDetails}
    {req : ChallengeRequest} {data : Json} {err : Option GError} :
    Sat (kmsLogic E) (createSession details req data err) (Started n) x := by
  unfold createSession
  split
  · exact sat_seq_pure.mpr (by exact ⟨_, hx.dialogue, nofun⟩)
  · refine sat_op hx (fun _ => nofun) fun a t ht _ => ?_
    obtain ⟨ret, e⟩ := a
    cases ret with
    | true =>
      obtain ⟨htables, hin⟩ := callback_sessionCreate hx.tables ht
      refine sat_seq_pure.mpr ?_
      exact ⟨_, ⟨hx.dialogue.snoc .create, htables⟩, hin⟩
    | false =>
      dsimp only
      split
      · exact sat_seq_pure.mpr (by exact ⟨_, hx.dialogue.snoc .refuse, nofun⟩)
      · exact sat_seq_pure.mpr (by exact ⟨_, hx.dialogue.snoc .refuse, nofun⟩)

theorem sat_postChallenge {n : Nat} (hx : At (.quoted n) x) {details : KeyagentKeyloadDetails}
    {req : ChallengeRequest} {challenge : Bytes} {err : Option GError} :
    Sat (kmsLogic E) (postChallenge details req challenge err) (Started n) x := by
  unfold postChallenge
  refine sat_op hx (fun _ => nofun) fun res t ht _ => ?_
  have hx' : At (.answered n) (t, x.2 ++ [⟨x.1, _, res⟩]) :=
    ⟨hx.dialogue.snoc (.answer nofun), by rw [lift_keyagent ht fun _ => nofun]; exact hx.tables⟩
  split
  · exact sat_seq_pure.mpr (by exact ⟨_, hx'.dialogue, nofun⟩)
  · split
    · exact sat_seq_pure.mpr (by exact ⟨_, hx'.dialogue, nofun⟩)
    · exact sat_createSession hx'

theorem sat_startSession {n : Nat} (hx : At (.asked n) x) {details : KeyagentKeyloadDetails}
    {res : HttpResponse} {err : Option GError}
    (hfit : ∀ req, parseChallenge res.body = .ok req → FitsNonce req.sessionId) :
    Sat (kmsLogic E) (startSession details res.body err) (Started n) x := by
  unfold startSession
  split
  · exact sat_seq_pure.mpr (by exact ⟨_, hx.dialogue, nofun⟩)
  · next req hreq =>
    split
    · exact sat_seq_pure.mpr (by exact ⟨_, hx.dialogue, nofun⟩)
    · refine sat_op hx (fun _ => nofun) fun nonce t ht _ => ?_
      have hx₁ : At (.prepared n) (t, x.2 ++ [⟨x.1, .uninitialised nonceLength, nonce⟩]) := by
        refine ⟨hx.dialogue.snoc .prepare, ?_⟩
        rw [lift_keyagent ht fun _ => nofun]
        exact hx.tables
      -- the challenge without its dashes fits the nonce, so nothing is written beyond its end
      refine sat_deref_some ?_ fun filled _ => ?_
      · refine stripDashes_ne_none ?_
        rw [nonce.2, Nat.zero_add]
        exact hfit req hreq
      · refine sat_op hx₁ (fun _ => nofun) fun a u hu hchallenge => ?_
        obtain ⟨ret, challenge, e⟩ := a
        have hx₂ : At (.quoted n) (u, _ ++ [⟨t, .stmGetChallenge details.requestId filled
            req.challengeType err, (ret, challenge, e)⟩]) :=
          ⟨hx₁.dialogue.snoc .quote, (sat_stmGetChallenge_tables hx₁.tables).runs hu⟩
        cases ret with
        | false => exact sat_seq_pure.mpr (by exact ⟨_, hx₂.dialogue, nofun⟩)
        | true => exact sat_deref_some (hchallenge rfl) fun b _ => sat_postChallenge hx₂

/-- The recursion: each try begins with no session, or with the one the last try created. -/
theorem sat_npmLoadkey {serverUrl : Bytes} {details : KeyagentKeyloadDetails} {tries : Nat}
    {c : Option Bytes} {err : Option GError} (hx : At (.idle tries c) x)
    (hc : ∀ id, c = some id → x.1.keyagent.sessionHash.lookup (hashKey id) ≠ none) :
    Sat (kmsLogic E) (npmLoadkey serverUrl details tries err) Over x := by
  -- induction on the tries; `c` is the session that the last round created
  induction tries generalizing x c err with
  | zero => exact sat_seq_pure.mpr ⟨_, hx.dialogue, by simp⟩
  | succ tries ih =>
    unfold npmLoadkey
    simp only
    split
    · exact sat_seq_pure.mpr ⟨_, hx.dialogue, by simp⟩
    · refine sat_op hx (fun _ => nofun) fun ids t ht _ => ?_
      obtain ⟨rfl, hids⟩ := (sat_sessionGetIds_entries hx.tables).runs ht
      have hx₁ : At (.listed tries c ids) (x.1, x.2 ++ [⟨x.1, .sessionGetIds, ids⟩]) :=
        ⟨hx.dialogue.snoc (.list fun id hid => hids id (hc id hid)), hx.tables⟩
      refine sat_op hx₁ (fun _ => nofun) fun res t ht hfit => ?_
      have hx₂ : At (.asked tries) (t, x.2 ++ [⟨x.1, .sessionGetIds, ids⟩] ++ [⟨x.1, .httpsSend
          (transferRequest serverUrl details ((gStrsplit details.url 58).getD 1 []) ids), res⟩]) := by
        refine ⟨hx₁.dialogue.snoc (.ask rfl fun l hl hne => ?_), ?_⟩
        · simp [transferRequest, hl, hne]
        · rw [lift_keyagent ht fun _ => nofun]
          exact hx.tables
      have hno : ∀ e, Over (false, e) (t, _) := fun e => ⟨_, hx₂.dialogue, by simp⟩
      split
      · exact sat_seq_pure.mpr (hno _)
      · split
        · split
          · exact sat_seq_pure.mpr (hno _)
          · split
            · refine (sat_startSession hx₂ hfit).bind fun r y hy => ?_
              obtain ⟨started, e⟩ := r
              cases started with
              | true =>
                obtain ⟨id, hy, hin⟩ := hy
                refine ih hy fun id' hid' => ?_
                rw [← Option.some.inj hid']
                exact hin
              | false =>
                obtain ⟨p, hp, hne⟩ := hy
                exact sat_seq_pure.mpr ⟨p, hp, by simp [hne]⟩
            · exact sat_seq_pure.mpr (hno _)
        · split
          · exact sat_createKey hx₂
          · exact sat_seq_pure.mpr (hno _)

/-- What a history of the module says about its order. -/
structure Ordered (h : List (Event (World W))) : Prop where
  /-- Transfers and answers alternate, a transfer first, and there are two of each at most. -/
  requests : httpKinds h <+: [.get, .post, .get, .post]
  /-- No run is longer. -/
  length : h.length ≤ 12
  /-- A second transfer comes right after a session that was created, and names it. -/
  second : ∀ h₁ o h₂, h = h₁ ++ o :: h₂ → httpKind o = some .get →
    (∃ o' ∈ h₁, httpKind o' = some .get) →
    ∃ h₀ s s' s'' requestId name id swk type e e' ids req res,
      h₁ = h₀ ++ [⟨s, .sessionCreate requestId name id swk type e, (true, e')⟩,
        ⟨s', .sessionGetIds, some ids⟩] ∧
      o = ⟨s'', .httpsSend req, res⟩ ∧ lit "Session-Id: " ++ ids ∈ req.headers ∧ HasEntry id ids
  /-- A key is created once, and nothing is done after that. -/
  last : ∀ h₁ o h₂, h = h₁ ++ o :: h₂ → IsKeyCreate o → h₂ = []

theorem Ordered.of_dialogue {h : List (Event (World W))} {p : Phase} (hd : Dialogue h p) :
    Ordered h where
  requests := hd.http_prefix.1
  length := hd.http_prefix.2
  second _ _ _ hh := (hh ▸ hd).second_transfer
  last _ _ _ hh := (hh ▸ hd).keyCreate_last

/--
**The order of a key load.** Wherever a run of `npm_key_load` stands, its history is in order and
it does not stand at a memory error; once it has returned, its verdict is whether a key was created.
-/
theorem key_load_dialogue {s₀ s t : World W} {serverUrl : Bytes}
    {details : KeyagentKeyloadDetails} {err : Option GError} {q : Npm (Bool × Option GError)}
    {h : List (Event (World W))} (hs₀ : EmptyTables s₀.keyagent)
    (hs : TableReach E RequestRegistered s₀ s)
    (hr : Exec (kmsStep E) (npmKeyLoad serverUrl details err) (s, []) q (t, h)) :
    Ordered h ∧ (∀ reason k, q ≠ .call (S := npmSig) (.fault reason) k) ∧
    (∀ ret err', q = pure (ret, err') → (ret = true ↔ ∃ o ∈ h, CreatedKey o)) := by
  have hat : At (.idle 2 none) (s, ([] : List (Event (World W)))) :=
    ⟨.start, hs.tablesInv (.of_empty hs₀)⟩
  have hq : Sat (kmsLogic E) q Over (t, h) := (sat_npmLoadkey hat nofun).exec hr
  cases q with
  | ret r =>
    obtain ⟨p, hd, hp⟩ := sat_seq_pure.mp hq
    refine ⟨.of_dialogue hd, nofun, fun ret err' hret => ?_⟩
    rw [← hd.keyed_iff, ← hp, (Prog.ret.inj hret : r = (ret, err'))]
  | call c k =>
    obtain ⟨hc, p, hd⟩ := (sat_seq_call.mp hq).1
    refine ⟨.of_dialogue hd, fun reason k' hcall => ?_, nofun⟩
    injection hcall with hop _
    exact hc reason hop

end Follows

/-! ## A load that needs a session -/

/-- A challenge for SGX. -/
def challengeDocument : Json :=
  .object [(lit "status", .string (lit "failure")),
    (lit "faults", .array [.object [(lit "type", .string (lit "not-authorized"))]]),
    (lit "challenge", .string (lit "YWFh")), (lit "challenge_type", .string (lit "SGX")),
    (lit "link", .object [(lit "challenge-replyto", .object
      [(lit "href", .string (lit "https://kbs/session")), (lit "method", .string (lit "post"))])])]

/-- A session: the protected swk and its type. -/
def sessionDocument : Json :=
  .object [(lit "status", .string (lit "success")), (lit "data", .object
    [(lit "type", .string (lit "AES256-GCM")), (lit "swk", .string (lit "c3dr"))])]

/-- A key: an IV of one byte and a wrapped key of one byte. -/
def keyDocument : Json :=
  .object [(lit "data", .object [(lit "id", .string (lit "1")),
    (lit "algorithm", .string (lit "RSA")),
    (lit "payload", .string (gBase64Encode [1, 0, 0, 0, 0, 0, 0, 0, 1, 0, 0, 0, 7, 8]))])]

/-- A KBS that hands a key to whoever has a session. -/
def sessionKbs (req : HttpRequest) : HttpResponse :=
  if req.postdata.isSome then ⟨201, [], sessionDocument⟩
  else if req.headers.any (lit "Session-Id:").isPrefixOf then
    ⟨200, [lit "Session-Id:SGX:aaa"], keyDocument⟩
  else ⟨401, [], challengeDocument⟩

/-- That KBS, and an STM that accepts everything. -/
def sessionHandler : (c : Call) → Unit → Option (c.Ans × Unit) := fun c _ =>
  match c with
  | .httpsSend req => some (sessionKbs req, ())
  | .uninitialised n => some (zeroBytes n, ())
  | .stm (.createChallenge _ _ err) => some ((true, some [], err), ())
  | .stm (.setSession _ _ err) => some ((true, err), ())
  | .stm (.loadKey _ _ err) => some ((true, err), ())
  | _ => none

/-- The surroundings of that handler. -/
def sessionStep : Step skcSig Unit := fun c w a w' => sessionHandler c w = some (a, w')

/-- The module's operations, one after the other, with their history. -/
def kmsHandler (c : NpmCall) (x : World Unit × List (Event (World Unit))) :
    Option (c.Ans × World Unit × List (Event (World Unit))) :=
  ((npmOps .unknown c).run (sysHandler sessionHandler 0) x.1).map fun r =>
    (r.1, r.2, x.2 ++ [⟨x.1, c, r.1⟩])

theorem fitsNonce_sessionKbs {r : HttpRequest} {req : ChallengeRequest}
    (h : parseChallenge (sessionKbs r).body = .ok req) : FitsNonce req.sessionId := by
  have hno : (∀ e : ChallengeRequest, parseChallenge sessionDocument ≠ .ok e) ∧
      ∀ e : ChallengeRequest, parseChallenge keyDocument ≠ .ok e := ⟨nofun, nofun⟩
  unfold sessionKbs at h
  split at h
  · exact absurd h (hno.1 req)
  · split at h
    · exact absurd h (hno.2 req)
    · have hreq : req = ⟨lit "https://kbs/session", lit "post", lit "SGX", lit "YWFh"⟩ :=
        (Except.ok.inj h).symm
      rw [hreq, FitsNonce]
      decide

/-- The STM's challenge reaches the module. -/
theorem sat_stmGetChallenge_session {s : World Unit} {requestId nonce name : Bytes}
    {error : Option GError} :
    Sat (seqView sessionStep).logic (keyagentStmGetChallenge .unknown requestId nonce name error)
      (fun a _ => a.1 = true → a.2.1 ≠ none) s := by
  refine AgentView.sat_keyagentStmGetChallenge (fun _ => nofun) fun lstm request _ _ => ?_
  refine sat_seq_call.mpr ⟨trivial, fun a t ht => sat_seq_pure.mpr fun _ => ?_⟩
  obtain ⟨w, -, hw, -⟩ := ht
  rw [← (Prod.mk.inj (Option.some.inj hw)).1]
  nofun

theorem kmsHandler_step (c : NpmCall) (x : World Unit × List (Event (World Unit))) (a : c.Ans)
    (y : World Unit × List (Event (World Unit))) (h : kmsHandler c x = some (a, y)) :
    kmsStep sessionStep c x a y := by
  obtain ⟨⟨b, t⟩, hr, he⟩ := Option.map_eq_some_iff.mp h
  obtain ⟨rfl, rfl⟩ := Prod.mk.inj he
  have hruns : callbackStep sessionStep c x.1 b t := Prog.run_runs sysHandler_answers hr
  refine ⟨⟨hruns, ?_⟩, rfl⟩
  cases c with
  | stmGetChallenge requestId nonce name error => exact sat_stmGetChallenge_session.runs hruns
  | httpsSend req =>
    cases hruns with
    | step hs hrest =>
      cases hrest with
      | refl =>
        obtain ⟨w, hw, -⟩ := (sysStep_external (c := .httpsSend _) id fun _ => nofun).mp hs
        intro r hparse
        rw [← (Prod.mk.inj (Option.some.inj hw)).1] at hparse
        exact fitsNonce_sessionKbs hparse
  | _ => exact True.intro

theorem emptyTables_sgxWorld : EmptyTables sgxWorld.keyagent := ⟨rfl, rfl⟩

theorem key_load_dialogue_session : ∃ (t : World Unit) (h : List (Event (World Unit))),
    Runs (kmsStep sessionStep) (npmKeyLoad (lit "https://kbs")
      ⟨lit "request", lit "KMS:1", lit "SGX", ⟨[], [], [], [], [], true⟩⟩ none) (sgxWorld, [])
      (true, none) (t, h) ∧ Ordered h ∧ ∃ o ∈ h, CreatedKey o := by
  obtain ⟨⟨ret, t, h⟩, hr, hv⟩ := Option.map_eq_some_iff.mp (show
    ((npmKeyLoad (lit "https://kbs")
      ⟨lit "request", lit "KMS:1", lit "SGX", ⟨[], [], [], [], [], true⟩⟩ none).run kmsHandler
      (sgxWorld, [])).map (fun r => r.1) = some (true, none) by decide +kernel)
  obtain rfl : ret = (true, none) := hv
  have hruns := Prog.run_runs kmsHandler_step hr
  obtain ⟨hord, -, hret⟩ := key_load_dialogue emptyTables_sgxWorld .refl hruns
  exact ⟨t, h, hruns, hord, (hret true none rfl).mp rfl⟩

end SkcLibrary.Kms
