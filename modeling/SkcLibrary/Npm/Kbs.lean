import SkcLibrary.Base64
import SkcLibrary.Npm.SessionIds
import SkcLibrary.Keyagent.Keytransfer
import SkcLibrary.Apimodule.Quotes

/-!
# A key broker

The other side of a key transfer, as the KMS module takes it to be: KBS hands out a key to whoever
names a session that it has, wrapped with the swk of that session, and challenges everybody else; who
answers a challenge has a session, and gets its swk protected for the key that the answer quotes.

KBS is not a part of the library. `Kbs` fixes what it may choose for itself, and `Kbs.serve` what it
answers, reading requests and writing documents by their format alone.
-/

namespace SkcLibrary

open Interaction

/-! ## The server -/

/-- A key that KBS has. -/
structure KbsKey where
  id : Bytes
  algorithm : Bytes
  secret : Bytes

/-- A secret that was wrapped. -/
structure WrappedKey where
  iv : Bytes
  wrappedKey : Bytes
  tagSize : Nat

/-- What is up to KBS. -/
structure Kbs where
  serverUrl : Bytes
  /-- The key at a URL. -/
  keys : (url : Bytes) → Option KbsKey
  /-- The id of the `n`-th session. -/
  sessionId : Nat → Bytes
  /-- Where the answer to a challenge goes. -/
  replyTo : Bytes
  /-- The swk of a session, and its type. -/
  swk : (sessionId : Bytes) → Bytes
  swkType : (sessionId : Bytes) → Bytes
  /-- A secret for the holder of the private key that a quote is about. -/
  protect : (quote secret : Bytes) → Bytes
  /-- A secret for the holder of a swk. -/
  wrap : (swk secret : Bytes) → WrappedKey

/-- What changes at KBS: the sessions it has, and how many challenges it has sent. -/
structure KbsState where
  sessions : List Bytes
  issued : Nat

/-- `keyagent_keytransfer_t`, with the IV and the wrapped key behind it. -/
def WrappedKey.keytransfer (w : WrappedKey) : Bytes :=
  le32 w.iv.length ++ le32 w.tagSize ++ le32 w.wrappedKey.length ++ w.iv ++ w.wrappedKey

/-- The parts have sizes that a key transfer can state, and there is an IV. -/
structure WrappedKey.Proper (w : WrappedKey) : Prop where
  iv : w.iv ≠ []
  ivLength : w.iv.length ≤ 64
  wrapSize : w.wrappedKey.length < 2 ^ 32
  tagSize : w.tagSize < 2 ^ 32

namespace Kbs

def notAuthorized (K : Kbs) (label sessionId : Bytes) : Json :=
  .object [(lit "status", .string (lit "failure")),
    (lit "faults", .array [.object [(lit "type", .string (lit "not-authorized"))]]),
    (lit "link", .object [(lit "challenge-replyto",
      .object [(lit "href", .string K.replyTo), (lit "method", .string (lit "post"))])]),
    (lit "challenge_type", .string label),
    (lit "challenge", .string (gBase64Encode sessionId))]

def sessionCreated (K : Kbs) (quote sessionId : Bytes) : Json :=
  .object [(lit "status", .string (lit "success")), (lit "data",
    .object [(lit "swk", .string (gBase64Encode (K.protect quote (K.swk sessionId)))),
      (lit "type", .string (K.swkType sessionId))])]

def keyDocument (K : Kbs) (key : KbsKey) (sessionId : Bytes) : Json :=
  .object [(lit "data", .object [(lit "id", .string key.id),
    (lit "algorithm", .string key.algorithm),
    (lit "payload", .string (gBase64Encode (K.wrap (K.swk sessionId) key.secret).keytransfer))])]

/-- What follows a name in the first header that begins with it. -/
def headerValue (name : Bytes) (headers : List Bytes) : Bytes :=
  ((headers.find? name.isPrefixOf).map (·.drop name.length)).getD []

/-- `label:id` -/
def readEntry (entry : Bytes) : Bytes × Bytes :=
  (firstToken 58 entry, (entry.dropWhile (· ≠ 58)).tail)

/-- The sessions that a request names. -/
def offered (headers : List Bytes) : List (Bytes × Bytes) :=
  (gStrsplit (headerValue (lit "Session-Id: ") headers) 44).map readEntry

/-- The security module that is asked for a challenge. -/
def accepted (headers : List Bytes) : Bytes :=
  (gStrsplit (headerValue (lit "Accept-Challenge: ") headers) 44).headD []

/-- The first session of a request that KBS has. -/
def granted (headers : List Bytes) (state : KbsState) : Option (Bytes × Bytes) :=
  (offered headers).find? fun entry => state.sessions.any (· = entry.2)

/-- The answer to a request, and what KBS has then. -/
def serve (K : Kbs) (request : HttpRequest) (state : KbsState) : HttpResponse × KbsState :=
  match request.postdata with
  | some document =>
    match (document.member (lit "challenge")).bind Json.asString,
      (document.member (lit "quote")).bind Json.asString with
    | some challenge, some quote =>
      (⟨201, [], K.sessionCreated (gBase64Decode quote) (gBase64Decode challenge)⟩,
        { state with sessions := gBase64Decode challenge :: state.sessions })
    | _, _ => (⟨400, [], .null⟩, state)
  | none =>
    match granted request.headers state with
    | some (label, id) =>
      match K.keys request.url with
      | some key =>
        (⟨200, [Kms.sessionIdHeader (label ++ lit ":" ++ id)], K.keyDocument key id⟩, state)
      | none => (⟨404, [], .null⟩, state)
    | none =>
      (⟨401, [], K.notAuthorized (accepted request.headers) (K.sessionId state.issued)⟩,
        { state with issued := state.issued + 1 })

/-! ## Texts that survive the headers -/

/-- A label can stand in the list of labels, and in an entry. -/
structure TidyLabel (label : Bytes) : Prop where
  ne_nil : label ≠ []
  text : cstr label = label
  comma : 44 ∉ label
  colon : 58 ∉ label

/-- An id can stand in an entry, and comes back from it. -/
structure TidyId (id : Bytes) : Prop where
  comma : 44 ∉ id
  colon : 58 ∉ id
  trimmed : Trimmed id

/-- What the library asks of KBS's own choices. -/
structure Proper (K : Kbs) : Prop where
  ids : ∀ n, TidyId (K.sessionId n)
  texts : ∀ n, cstr (K.sessionId n) = K.sessionId n
  fits : ∀ n, Kms.FitsNonce (gBase64Encode (K.sessionId n))
  swkTypes : ∀ id, keyagentSessionLookupSwktype (cstr (K.swkType id)) ≠ none
  wrapped : ∀ {url key}, K.keys url = some key → ∀ id, (K.wrap (K.swk id) key.secret).Proper

theorem readEntry_entry {name id : Bytes} (h : 58 ∉ name) :
    readEntry (name ++ lit ":" ++ id) = (name, id) := by
  have hcolon : lit ":" = [58] := by decide
  have hdrop : (name ++ 58 :: id).dropWhile (· ≠ 58) = 58 :: id := by
    rw [List.dropWhile_append_of_pos]
    · simp
    · exact fun b hb => decide_eq_true fun he => h (he ▸ hb)
  rw [readEntry, hcolon, List.append_assoc, List.singleton_append, firstToken_append h, hdrop]
  simp [firstToken]

/-- What was joined is split again. -/
theorem gStrsplit_gStrjoin {l : List Bytes} {sep : UInt8} (hsep : ∀ s ∈ l, sep ∉ s)
    (hne : ∀ s ∈ l, s ≠ []) : gStrsplit (gStrjoin sep l) sep = l := by
  by_cases hl : l = []
  · rw [hl]
    rfl
  · have hjoin : gStrjoin sep l ≠ [] := by
      intro h
      obtain ⟨s, rest, rfl⟩ := List.exists_cons_of_ne_nil hl
      have hlen := length_le_gStrjoin sep (List.mem_cons_self (a := s) (l := rest))
      rw [h] at hlen
      exact hne s List.mem_cons_self (List.length_eq_zero_iff.mp (Nat.le_zero.mp hlen))
    rw [gStrsplit, if_neg hjoin, gStrjoin, List.splitOn_intercalate sep hsep hl]

/-! ## What the module sends -/

section Sent

variable {serverUrl keyId : Bytes} {details : KeyagentKeyloadDetails} {ids : Option Bytes}

/-- The labels of a request for a key. -/
theorem headerValue_acceptChallenge :
    headerValue (lit "Accept-Challenge: ") (Kms.transferRequest serverUrl details keyId ids).headers
      = details.stmNames := by
  obtain ⟨rest, hrest⟩ : ∃ rest, (Kms.transferRequest serverUrl details keyId ids).headers
      = Kms.jsonHeaders ++ (lit "Accept-Challenge: " ++ details.stmNames) :: rest :=
    ⟨_, List.append_assoc _ _ _⟩
  have hname : (lit "Accept-Challenge: ").isPrefixOf (lit "Accept-Challenge: " ++ details.stmNames)
      = true := List.isPrefixOf_iff_prefix.mpr (List.prefix_append _ _)
  have hjson : Kms.jsonHeaders.find? (lit "Accept-Challenge: ").isPrefixOf = none := by decide
  rw [headerValue, hrest, List.find?_append, hjson]
  simp [hname]

/-- The sessions of a request for a key. -/
theorem headerValue_sessionId (hids : ids ≠ some []) :
    headerValue (lit "Session-Id: ") (Kms.transferRequest serverUrl details keyId ids).headers
      = ids.getD [] := by
  have hjson : Kms.jsonHeaders.find? (lit "Session-Id: ").isPrefixOf = none := by decide
  have hnames : (lit "Session-Id: ").isPrefixOf (lit "Accept-Challenge: " ++ details.stmNames)
      = false := rfl
  have hskip : ∀ rest, (Kms.jsonHeaders ++ [lit "Accept-Challenge: " ++ details.stmNames]
      ++ rest).find? (lit "Session-Id: ").isPrefixOf = rest.find? (lit "Session-Id: ").isPrefixOf := by
    intro rest
    rw [List.append_assoc, List.find?_append, hjson]
    simp [hnames]
  cases ids with
  | none => exact congrArg (fun h => (h.map (·.drop (lit "Session-Id: ").length)).getD []) (hskip [])
  | some l =>
    have hl : l ≠ [] := fun h => hids (h ▸ rfl)
    have hname : (lit "Session-Id: ").isPrefixOf (lit "Session-Id: " ++ l) = true :=
      List.isPrefixOf_iff_prefix.mpr (List.prefix_append _ _)
    have hheaders : (Kms.transferRequest serverUrl details keyId (some l)).headers
        = Kms.jsonHeaders ++ [lit "Accept-Challenge: " ++ details.stmNames]
          ++ [lit "Session-Id: " ++ l] := congrArg (Kms.jsonHeaders ++ _ ++ ·) (if_neg hl)
    rw [headerValue, hheaders, hskip]
    simp [hname]

/-- The sessions that are told to KBS are read back. -/
theorem offered_transferRequest {l : List KeyagentSessionReal}
    (hids : ids = if gStrjoin 44 (l.map KeyagentSessionReal.entry) = [] then none
      else some (gStrjoin 44 (l.map KeyagentSessionReal.entry)))
    (hl : ∀ s ∈ l, TidyLabel s.name ∧ TidyId s.sessionId) :
    offered (Kms.transferRequest serverUrl details keyId ids).headers
      = l.map fun s => (s.name, s.sessionId) := by
  have hne : ids ≠ some [] := by
    rw [hids]
    split
    · nofun
    · next h => exact fun he => h (Option.some.inj he)
  have hvalue : ids.getD [] = gStrjoin 44 (l.map KeyagentSessionReal.entry) := by
    rw [hids]
    split
    · next h => exact h.symm
    · rfl
  have hcomma : ∀ e ∈ l.map KeyagentSessionReal.entry, (44 : UInt8) ∉ e := by
    intro e he
    obtain ⟨s, hs, rfl⟩ := List.mem_map.mp he
    have hcolon : lit ":" = [58] := by decide
    simp [KeyagentSessionReal.entry, hcolon, (hl s hs).1.comma, (hl s hs).2.comma]
  have hsplit : gStrsplit (gStrjoin 44 (l.map KeyagentSessionReal.entry)) 44
      = l.map KeyagentSessionReal.entry := by
    refine gStrsplit_gStrjoin hcomma fun e he => ?_
    obtain ⟨s, -, rfl⟩ := List.mem_map.mp he
    exact s.entry_ne_nil
  rw [offered, headerValue_sessionId hne, hvalue, hsplit, List.map_map]
  refine List.map_congr_left fun s hs => ?_
  exact readEntry_entry (hl s hs).1.colon

end Sent

/-- The labels of the modules that may take part, joined. -/
theorem stmNames_eq {stms : List KeyagentStmReal} (check : Bool) (h : ∀ stm ∈ stms, stm.label ≠ []) :
    stmNames stms check
      = gStrjoin 44 ((stms.filter fun stm => !check || stm.apimodule).map (·.label)) := by
  induction stms using List.reverseRecOn with
  | nil => rfl
  | append_singleton l stm ih =>
    have hl := ih fun s hs => h s (List.mem_append_left _ hs)
    have hcomma : lit "," = [44] := by decide
    rw [stmNames, List.foldl_append, List.foldl_cons, List.foldl_nil, ← stmNames, hl,
      List.filter_append, List.map_append]
    cases hon : (!check || stm.apimodule) with
    | false => simp_all
    | true =>
      have hoff : (check && !stm.apimodule) = false := by
        cases check <;> simp_all
      by_cases hnil : (l.filter fun stm => !check || stm.apimodule) = []
      · simp [hoff, hon, hnil, gStrjoin]
      · have hjoin : gStrjoin 44 ((l.filter fun stm => !check || stm.apimodule).map (·.label)) ≠ [] := by
          intro he
          obtain ⟨s, hs⟩ := List.exists_mem_of_ne_nil _ hnil
          have hlen := length_le_gStrjoin 44 (List.mem_map_of_mem (f := (·.label)) hs)
          rw [he] at hlen
          exact h s (List.mem_append_left _ (List.mem_of_mem_filter hs))
            (List.length_eq_zero_iff.mp (Nat.le_zero.mp hlen))
        have hsingle : ([stm].filter fun stm => !check || stm.apimodule) = [stm] := by simp [hon]
        rw [hsingle, List.map_singleton, gStrjoin_snoc 44 _ (by simpa using hnil), if_neg hjoin, hoff]
        simp [hcomma]

/-- KBS asks a module that may take part. -/
theorem accepted_transferRequest (serverUrl keyId : Bytes) (ids : Option Bytes)
    {details : KeyagentKeyloadDetails} {stms : List KeyagentStmReal} {check : Bool}
    (hnames : details.stmNames = stmNames stms check) (hl : ∀ stm ∈ stms, TidyLabel stm.label)
    (hon : ∃ stm ∈ stms, check = true → stm.apimodule = true) :
    ∃ stm ∈ stms, accepted (Kms.transferRequest serverUrl details keyId ids).headers = stm.label := by
  obtain ⟨stm, hstm, hcheck⟩ := hon
  have hmem : stm ∈ stms.filter fun stm => !check || stm.apimodule := by
    refine List.mem_filter.mpr ⟨hstm, ?_⟩
    cases check <;> simp_all
  obtain ⟨first, rest, hfirst⟩ := List.exists_cons_of_ne_nil (List.ne_nil_of_mem hmem)
  have hfirstMem : first ∈ stms :=
    List.mem_of_mem_filter (p := fun stm => !check || stm.apimodule) (hfirst ▸ List.mem_cons_self)
  refine ⟨first, hfirstMem, ?_⟩
  have htidy : ∀ s ∈ (stms.filter fun stm => !check || stm.apimodule).map (·.label), TidyLabel s := by
    intro s hs
    obtain ⟨stm, hstm, rfl⟩ := List.mem_map.mp hs
    exact hl stm (List.mem_of_mem_filter hstm)
  rw [accepted, headerValue_acceptChallenge, hnames, stmNames_eq check fun s hs => (hl s hs).ne_nil,
    gStrsplit_gStrjoin (fun s hs => (htidy s hs).comma) fun s hs => (htidy s hs).ne_nil, hfirst]
  rfl

/-! ## What the module reads -/

section Read

variable {K : Kbs}

theorem parseFault_notAuthorized {label sessionId : Bytes} :
    Kms.parseFault (K.notAuthorized label sessionId) = .ok (lit "failure", lit "not-authorized") :=
  rfl

theorem parseChallenge_notAuthorized {label sessionId : Bytes} :
    Kms.parseChallenge (K.notAuthorized label sessionId)
      = .ok ⟨cstr K.replyTo, cstr (lit "post"), cstr label, gBase64Encode sessionId⟩ := by
  have hparse : Kms.parseChallenge (K.notAuthorized label sessionId) = .ok
      ⟨cstr K.replyTo, cstr (lit "post"), cstr label, cstr (gBase64Encode sessionId)⟩ := rfl
  rw [hparse, cstr_gBase64Encode]

theorem parseSession_sessionCreated {quote id : Bytes} :
    Kms.parseSession (K.sessionCreated quote id)
      = .ok (K.protect quote (K.swk id), cstr (K.swkType id)) := by
  have hparse : Kms.parseSession (K.sessionCreated quote id) = .ok
      (gBase64Decode (cstr (gBase64Encode (K.protect quote (K.swk id)))), cstr (K.swkType id)) := rfl
  rw [hparse, gBase64Decode_cstr_gBase64Encode]

/-- A session that KBS has gets the key. -/
theorem serve_granted {request : HttpRequest} {state : KbsState} {label id : Bytes} {key : KbsKey}
    (hpost : request.postdata = none) (hgranted : granted request.headers state = some (label, id))
    (hkey : K.keys request.url = some key) :
    K.serve request state
      = (⟨200, [Kms.sessionIdHeader (label ++ lit ":" ++ id)], K.keyDocument key id⟩, state) := by
  simp only [serve, hpost, hgranted, hkey]

/-- Without one there is a challenge. -/
theorem serve_notAuthorized {request : HttpRequest} {state : KbsState}
    (hpost : request.postdata = none) (hgranted : granted request.headers state = none) :
    K.serve request state
      = (⟨401, [], K.notAuthorized (accepted request.headers) (K.sessionId state.issued)⟩,
        { state with issued := state.issued + 1 }) := by
  simp only [serve, hpost, hgranted]

/-- KBS has one of the sessions that it is told of, or none. -/
theorem granted_cases {headers : List Bytes} (state : KbsState) {l : List KeyagentSessionReal}
    (h : offered headers = l.map fun d => (d.name, d.sessionId)) :
    (∃ d ∈ l, granted headers state = some (d.name, d.sessionId)) ∨
      (granted headers state = none ∧ ∀ d ∈ l, d.sessionId ∉ state.sessions) := by
  rw [granted, h]
  cases hf : (l.map fun d => (d.name, d.sessionId)).find? fun entry =>
      state.sessions.any (· = entry.2) with
  | some entry =>
    obtain ⟨d, hd, rfl⟩ := List.mem_map.mp (List.mem_of_find?_eq_some hf)
    exact .inl ⟨d, hd, rfl⟩
  | none =>
    refine .inr ⟨rfl, fun d hd hin => ?_⟩
    have hnot := List.find?_eq_none.mp hf _ (List.mem_map_of_mem hd)
    exact hnot (List.any_eq_true.mpr ⟨_, hin, decide_eq_true rfl⟩)

/-- The answer to a challenge gets a session. -/
theorem serve_sessionData {url label method sessionId challenge : Bytes} {headers : List Bytes}
    {sslOpts : KeyagentSslOpts} {state : KbsState} :
    K.serve ⟨url, headers, some (Kms.sessionData ⟨url, method, label, gBase64Encode sessionId⟩
        challenge), sslOpts⟩ state
      = (⟨201, [], K.sessionCreated challenge sessionId⟩,
        { state with sessions := sessionId :: state.sessions }) := by
  have hserve : K.serve ⟨url, headers, some (Kms.sessionData ⟨url, method, label,
        gBase64Encode sessionId⟩ challenge), sslOpts⟩ state
      = (⟨201, [], K.sessionCreated (gBase64Decode (gBase64Encode challenge))
          (gBase64Decode (gBase64Encode sessionId))⟩,
        { state with sessions := gBase64Decode (gBase64Encode sessionId) :: state.sessions }) := rfl
  rw [hserve, gBase64Decode_gBase64Encode, gBase64Decode_gBase64Encode]

end Read

end Kbs

/-- The type that the module makes of an algorithm. -/
def KbsKey.keytype (key : KbsKey) : KeyagentKeytype :=
  if cstr key.algorithm = lit "RSA" then .rsakey
  else if cstr key.algorithm = lit "AES" then .aeskey
  else .invalidkey

/-- What the module makes of a key that comes for a session. -/
theorem parseKeyTransfer_keyDocument {K : Kbs} {key : KbsKey} {id : Bytes} :
    Kms.parseKeyTransfer (K.keyDocument key id) = .ok ⟨key.keytype, AList.insert keyagentAttrKeydata
      (K.wrap (K.swk id) key.secret).keytransfer ∅⟩ := by
  have hparse : Kms.parseKeyTransfer (K.keyDocument key id) = .ok ⟨key.keytype,
      AList.insert keyagentAttrKeydata (gBase64Decode (cstr (gBase64Encode
        (K.wrap (K.swk id) key.secret).keytransfer))) ∅⟩ := rfl
  rw [hparse, gBase64Decode_cstr_gBase64Encode]

/-- A key transfer that was put together is cut into its parts. -/
theorem WrappedKey.Proper.splitKeytransfer {w : WrappedKey} (h : w.Proper) :
    splitKeytransfer w.keytransfer = some (.parts (some w.iv) w.wrappedKey w.tagSize) := by
  have hdrop : w.keytransfer.drop keytransferSize = w.iv ++ w.wrappedKey := by
    simp [keytransfer, le32, keytransferSize]
  have hivLength : headerIvLength w.keytransfer = w.iv.length := by
    have htake : w.keytransfer.take 4 = le32 w.iv.length := by
      simp [keytransfer, le32]
    have hiv := h.ivLength
    rw [headerIvLength, htake, leNat_le32, Nat.mod_eq_of_lt (by omega)]
  have htagSize : headerTagSize w.keytransfer = w.tagSize := by
    have htake : (w.keytransfer.drop 4).take 4 = le32 w.tagSize := by
      simp [keytransfer, le32]
    rw [headerTagSize, htake, leNat_le32, Nat.mod_eq_of_lt h.tagSize]
  have hwrapSize : headerWrapSize w.keytransfer = w.wrappedKey.length := by
    have htake : (w.keytransfer.drop 8).take 4 = le32 w.wrappedKey.length := by
      simp [keytransfer, le32]
    rw [headerWrapSize, htake, leNat_le32, Nat.mod_eq_of_lt h.wrapSize]
  have hpart : ivPart w.keytransfer = some w.iv := by
    have hpos : w.iv.length ≠ 0 := by simpa using h.iv
    rw [ivPart, hivLength, if_neg hpos, hdrop]
    simp
  have hle : headerIvLength w.keytransfer ≤ 64 := hivLength ▸ h.ivLength
  rw [splitKeytransfer_parts hle, hpart, hivLength, hwrapSize, htagSize, ← List.drop_drop, hdrop]
  · simp
  · rw [hivLength, hwrapSize]
    simp [keytransfer, length_le32, keytransferSize]
    omega

end SkcLibrary
