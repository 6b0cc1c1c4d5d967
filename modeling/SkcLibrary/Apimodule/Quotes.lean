import SkcLibrary.Apimodule.TokenSearch

/-!
# The challenge made of a quote

`sgx_get_challenge` asks `C_WrapKey` for the size of a quote, and then for the quote. A quote starts with
a `CK_RSA_PUBLIC_KEY_PARAMS`, which holds the lengths of the exponent and of the modulus; the challenge
starts with the same lengths and the length of the quote, of 32 bits each, and goes on like the quote.

Neither the length of the quote nor what it says of its own parts is looked at. A quote that is shorter
than a `CK_RSA_PUBLIC_KEY_PARAMS` makes the number of bytes to copy wrap around.

* `quote_exact` — the quotes the function treats as it should, whatever the layout of that structure
-/

namespace SkcLibrary

open Interaction

variable {W : Type}

/-! ## Numbers of 32 bits -/

theorem length_le32 (n : Nat) : (le32 n).length = 4 := rfl

/-- What is read back from 32 bits. -/
theorem leNat_le32 (n : Nat) : leNat (le32 n) = n % 2 ^ 32 := by
  simp only [le32, leNat, UInt8.toNat_ofNat', Nat.mul_zero, Nat.add_zero]
  omega

/-! ## Quotes -/

/-- What `C_WrapKey` has answered: the size of the buffer, and as many of its bytes as it says. -/
structure Quote where
  bufferLen : Nat
  bytes : Bytes
  deriving DecidableEq

namespace Quote

/-- `rsaPublicKeyParams->ulExponentLen`, of the structure at the start of the quote. -/
def exponentLen (params : CkRsaPublicKeyParams) (q : Quote) : Nat :=
  params.ulExponentLen (q.bytes.take params.size)

/-- `rsaPublicKeyParams->ulModulusLen` -/
def modulusLen (params : CkRsaPublicKeyParams) (q : Quote) : Nat :=
  params.ulModulusLen (q.bytes.take params.size)

/-- The quote fits its buffer, and the two parts of the key fit the quote. -/
structure WellFormed (params : CkRsaPublicKeyParams) (q : Quote) : Prop where
  buffer : q.bytes.length ≤ q.bufferLen % 2 ^ 32
  size : params.size ≤ q.bytes.length
  exponentLen : q.exponentLen params < 2 ^ 32
  modulusLen : q.modulusLen params < 2 ^ 32
  inside : q.exponentLen params + q.modulusLen params ≤ q.bytes.length - params.size

end Quote

/--
The challenge for a quote: the three lengths, none of them cut, and what follows the first two in the quote;
and the parts of the key lie in it.
-/
structure ExactChallenge (params : CkRsaPublicKeyParams) (q : Quote) (challenge : Bytes) : Prop where
  size : params.size ≤ q.bytes.length
  inside : q.exponentLen params + q.modulusLen params ≤ q.bytes.length - params.size
  length : challenge.length = 12 + (q.bytes.length - params.size)
  exponentLen : leNat (challenge.take 4) = q.exponentLen params
  modulusLen : leNat ((challenge.drop 4).take 4) = q.modulusLen params
  quoteSize : leNat ((challenge.drop 8).take 4) = q.bytes.length
  rest : challenge.drop 12 = q.bytes.drop params.size

theorem quoteChallenge_eq_some {params : CkRsaPublicKeyParams} {q : Quote} {challenge : Bytes} :
    quoteChallenge params q.bufferLen q.bytes = some challenge ↔
      (params.size ≤ q.bytes.length ∧ q.bytes.length ≤ q.bufferLen % 2 ^ 32) ∧
      challenge = le32 (q.exponentLen params) ++ (le32 (q.modulusLen params) ++
        (le32 q.bytes.length ++ q.bytes.drop params.size)) := by
  rw [quoteChallenge_eq, Quote.exponentLen, Quote.modulusLen, params.exponentLen_inside,
    params.modulusLen_inside]
  split
  · next h =>
    rw [Option.some.injEq, and_iff_right h, List.append_assoc, List.append_assoc]
    exact eq_comm
  · next h => exact iff_of_false nofun fun hq => h hq.1

/-- A header and what follows it, taken apart. -/
theorem header_parts (a b c : Nat) (rest : Bytes) :
    let challenge := le32 a ++ (le32 b ++ (le32 c ++ rest))
    challenge.take 4 = le32 a ∧ (challenge.drop 4).take 4 = le32 b ∧
      (challenge.drop 8).take 4 = le32 c ∧ challenge.drop 12 = rest := ⟨rfl, rfl, rfl, rfl⟩

/-- Of the quotes that are read inside their buffer, the well-formed ones give the challenge they should. -/
theorem exactChallenge_iff {params : CkRsaPublicKeyParams} {q : Quote} {challenge : Bytes}
    (h : quoteChallenge params q.bufferLen q.bytes = some challenge) :
    ExactChallenge params q challenge ↔ q.WellFormed params := by
  obtain ⟨⟨hsize, hbuffer⟩, rfl⟩ := quoteChallenge_eq_some.mp h
  obtain ⟨hexponent, hmodulus, hlength, hrest⟩ := header_parts (q.exponentLen params)
    (q.modulusLen params) q.bytes.length (q.bytes.drop params.size)
  have hquote : q.bytes.length < 2 ^ 32 := by omega
  constructor
  · intro hexact
    refine ⟨hbuffer, hsize, ?_, ?_, hexact.inside⟩
    · have := hexact.exponentLen
      rw [hexponent, leNat_le32] at this
      omega
    · have := hexact.modulusLen
      rw [hmodulus, leNat_le32] at this
      omega
  · intro hwell
    refine ⟨hsize, hwell.inside, ?_, ?_, ?_, ?_, hrest⟩
    · simp only [List.length_append, length_le32, List.length_drop]
      omega
    · rw [hexponent, leNat_le32, Nat.mod_eq_of_lt hwell.exponentLen]
    · rw [hmodulus, leNat_le32, Nat.mod_eq_of_lt hwell.modulusLen]
    · rw [hlength, leNat_le32, Nat.mod_eq_of_lt hquote]

/-- No other quote is well-formed. -/
theorem not_wellFormed_of_none {params : CkRsaPublicKeyParams} {q : Quote}
    (h : quoteChallenge params q.bufferLen q.bytes = none) : ¬q.WellFormed params := by
  intro hwell
  rw [quoteChallenge_eq, if_pos ⟨hwell.size, hwell.buffer⟩] at h
  exact Option.some_ne_none _ h

/-! ## The quote of a run -/

/-- One more call of the library. -/
def noteQuote (c : Call) (_ : World W) : c.Ans → Quote → Quote :=
  match c with
  | .ck (.cWrapKeySize _ _ _ _) => fun a q => { q with bufferLen := a.2 }
  | .ck (.cWrapKey _ _ _ _ _) => fun a q => { q with bytes := a.2 }
  | _ => fun _ q => q

/-- The surroundings of the library, and the last quote. -/
def quoteStep (E : Step skcSig W) : Step skcSig (World W × Quote) :=
  (sysStep E 0).observed noteQuote

/-- Bytes are read or written outside of the quote. -/
def outsideQuote : Call := .fault "access outside of the quote"

/-- The challenge that a call has left in the token of its URI. -/
def TokenChallenge (details : KeyagentApimoduleGetChallengeDetails) (s : World W) (challenge : Bytes) :
    Prop :=
  ∃ data atoken token, details.moduleData = some data ∧
    s.apimodule.apimoduleTokenHash.lookup (cstr data.tokenLabel) = some atoken ∧
    s.apimodule.tokens[atoken]? = some token ∧ token.challenge = some challenge

section

variable {E : Step skcSig W} {params : CkRsaPublicKeyParams} {α : Type}
  {Q : α → World W × Quote → Prop} {x : World W × Quote}

/-- Only a quote that is not well-formed is left. -/
def QuotePre (params : CkRsaPublicKeyParams) (c : Call) (y : World W × Quote) : Prop :=
  c = outsideQuote → ¬y.2.WellFormed params

theorem sat_readToken_quote {atoken : TokenRef} {f : ApimoduleToken → Skc α}
    (h : ∀ token, x.1.apimodule.tokens[atoken]? = some token →
      Sat (.seq (quoteStep E) (QuotePre params)) (f token) Q x) :
    Sat (.seq (quoteStep E) (QuotePre params)) (readToken atoken >>= f) Q x := by
  rw [readToken, bind_assoc, Skc.apimodule_bind]
  refine sat_seq_call.mpr ⟨nofun, fun m y hy => ?_⟩
  obtain ⟨⟨hm, hs⟩, hq⟩ := hy
  obtain rfl : y = x := Prod.ext hs hq
  obtain rfl : m = y.1.apimodule := hm
  cases htoken : y.1.apimodule.tokens[atoken]? with
  | none => exact sat_seq_call.mpr ⟨fun hc => absurd (Call.fault.inj hc) (by decide), nofun⟩
  | some token => exact h token htoken

theorem sat_writeToken_quote {atoken : TokenRef} {g : ApimoduleToken → ApimoduleToken} {f : Unit → Skc α}
    (h : Sat (.seq (quoteStep E) (QuotePre params)) (f ())
      Q ({ x.1 with apimodule := x.1.apimodule.mapToken atoken g }, x.2)) :
    Sat (.seq (quoteStep E) (QuotePre params)) (writeToken atoken g >>= f) Q x := by
  refine sat_seq_call.mpr ⟨nofun, fun _ y hy => ?_⟩
  obtain rfl : y = ({ x.1 with apimodule := x.1.apimodule.mapToken atoken g }, x.2) :=
    Prod.ext hy.1 hy.2
  exact h

theorem sat_ck_quote {c : CkCall} {f : c.Ans → Skc α}
    (h : ∀ a y, y.1.apimodule = x.1.apimodule → y.2 = noteQuote (.ck c) x.1 a x.2 →
      Sat (.seq (quoteStep E) (QuotePre params)) (f a) Q y) :
    Sat (.seq (quoteStep E) (QuotePre params)) (Skc.ck c >>= f) Q x := by
  rw [Skc.ck_bind]
  refine sat_seq_call.mpr ⟨nofun, fun a y hy => ?_⟩
  obtain ⟨⟨w, -, hs⟩, hq⟩ := hy
  exact h a y (by rw [hs]) hq

/-- A call that returns `TRUE` has left a challenge, which is as it should be just if the quote is. -/
def ChallengeMade (params : CkRsaPublicKeyParams) (details : KeyagentApimoduleGetChallengeDetails)
    (y : World W × Quote) : Prop :=
  ∃ challenge, TokenChallenge details y.1 challenge ∧
    (ExactChallenge params y.2 challenge ↔ y.2.WellFormed params)

theorem sat_exportQuote {details : KeyagentApimoduleGetChallengeDetails} {data : ApimoduleUriData}
    {atoken : TokenRef} (policy : Int) (nonce : Bytes) (err : Option GError)
    (hdata : details.moduleData = some data)
    (hatoken : x.1.apimodule.apimoduleTokenHash.lookup (cstr data.tokenLabel) = some atoken) :
    Sat (.seq (quoteStep E) (QuotePre params)) (exportQuote params atoken policy nonce err)
      (fun result y => result.1 = true → ChallengeMade params details y) x := by
  unfold exportQuote
  refine sat_readToken_quote fun token _ => sat_ck_quote fun a y hy hyq => ?_
  obtain ⟨rv, quoteLen⟩ := a
  dsimp only
  split
  · exact sat_seq_pure.mpr nofun
  · refine sat_readToken_quote fun token' htoken' => sat_ck_quote fun b z hz hzq => ?_
    obtain ⟨rv', bytes⟩ := b
    dsimp only
    have hquote : z.2 = ⟨quoteLen, bytes⟩ := by
      rw [hzq, hyq]
      rfl
    split
    · exact sat_seq_pure.mpr nofun
    -- a quote that does not split is a fault, and then it is not well formed
    · cases hchallenge : quoteChallenge params quoteLen bytes with
      | none =>
        refine sat_seq_call.mpr ⟨fun _ => ?_, nofun⟩
        rw [hquote]
        exact not_wellFormed_of_none hchallenge
      | some challenge =>
        rw [Skc.deref_some, pure_bind]
        refine sat_writeToken_quote (sat_seq_pure.mpr fun _ => ?_)
        refine ⟨challenge, ⟨data, atoken, { token' with challenge := some challenge }, hdata, ?_, ?_,
          rfl⟩, ?_⟩
        · show z.1.apimodule.apimoduleTokenHash.lookup _ = _
          rw [hz, hy, hatoken]
        · show (z.1.apimodule.tokens.modify atoken _)[atoken]? = _
          rw [hz, List.getElem?_modify_eq, htoken']
          rfl
        · rw [hquote]
          exact exactChallenge_iff (q := ⟨quoteLen, bytes⟩) hchallenge

theorem sat_generateRsaKeypair_quote {atoken : TokenRef} {label id : Bytes} {f : CkRv → Skc α}
    (h : ∀ rv y, y.1.apimodule.apimoduleTokenHash = x.1.apimodule.apimoduleTokenHash →
      Sat (.seq (quoteStep E) (QuotePre params)) (f rv) Q y) :
    Sat (.seq (quoteStep E) (QuotePre params)) (generateRsaKeypair atoken label id >>= f) Q x := by
  unfold generateRsaKeypair
  simp only [bind_assoc]
  refine sat_writeToken_quote (sat_readToken_quote fun token _ => sat_ck_quote fun a y hy _ => ?_)
  obtain ⟨rv, publicKey, privateKey⟩ := a
  dsimp only
  have hhash : y.1.apimodule.apimoduleTokenHash = x.1.apimodule.apimoduleTokenHash := by
    rw [hy]
    rfl
  split
  · rw [bind_assoc]
    exact sat_writeToken_quote (h _ _ hhash)
  · exact h _ _ hhash

theorem sat_sgxGetChallenge (details : KeyagentApimoduleGetChallengeDetails)
    (request : KeyagentSgxChallengeRequest) (err : Option GError) :
    Sat (.seq (quoteStep E) (QuotePre params)) (sgxGetChallenge params details request err)
      (fun result y => result.1 = true → ChallengeMade params details y) x := by
  unfold sgxGetChallenge
  split
  · exact sat_seq_pure.mpr nofun
  · cases hdata : details.moduleData with
    | none => exact sat_seq_pure.mpr nofun
    | some data =>
      dsimp only
      rw [lookupApimoduleToken, bind_assoc, Skc.apimodule_bind]
      refine sat_seq_call.mpr ⟨nofun, fun m y hy => ?_⟩
      obtain ⟨⟨rfl, hs⟩, hq⟩ := hy
      obtain rfl : y = x := Prod.ext hs hq
      rw [pure_bind]
      cases hatoken : y.1.apimodule.apimoduleTokenHash.lookup (cstr data.tokenLabel) with
      | none => exact sat_seq_pure.mpr nofun
      | some atoken =>
        refine sat_generateRsaKeypair_quote fun rv z hz => ?_
        split
        · exact sat_seq_pure.mpr nofun
        · exact sat_exportQuote _ _ _ hdata (by rw [hz, hatoken])

/--
**Challenges of quotes.** A call that returns `TRUE` leaves a challenge, and this is the one for the quote
just if the quote is well-formed; and if a call gets outside of a quote, that quote is not.
-/
theorem quote_exact (E : Step skcSig W) (params : CkRsaPublicKeyParams) (x : World W × Quote)
    (details : KeyagentApimoduleGetChallengeDetails) (request : KeyagentSgxChallengeRequest)
    (err : Option GError) :
    (∀ err' y, Runs (quoteStep E) (sgxGetChallenge params details request err) x (true, err') y →
      ∃ challenge, TokenChallenge details y.1 challenge ∧
        (ExactChallenge params y.2 challenge ↔ y.2.WellFormed params)) ∧
    ∀ k y, Exec (quoteStep E) (sgxGetChallenge params details request err) x (.call outsideQuote k) y →
      ¬y.2.WellFormed params := by
  constructor
  · intro err' y hrun
    exact (sat_sgxGetChallenge details request err).runs hrun rfl
  · intro k y hexec
    exact (sat_sgxGetChallenge details request err).issued hexec rfl

end

/-! ## Quotes of a PKCS#11 module -/

/-- A module that answers with the given quote. -/
def quoteHandler (q : Quote) (c : Call) (w : Unit) : Option (c.Ans × Unit) :=
  match c with
  | .ck (.cGenerateKeyPair _ _ _) => some ((ckrOk, 1, 2), w)
  | .ck (.cWrapKeySize _ _ _ _) => some ((ckrOk, q.bufferLen), w)
  | .ck (.cWrapKey _ _ _ _ _) => some ((ckrOk, q.bytes), w)
  | _ => none

/-- The surroundings with that module. -/
def quoteEnv (q : Quote) : Step skcSig Unit := fun c w a w' => quoteHandler q c w = some (a, w')

theorem quoteHandler_step {q : Quote} (c : skcSig.Op) (x : World Unit × Quote) (a : skcSig.Ans c)
    (y : World Unit × Quote)
    (h : observing (S := skcSig) (sysHandler (quoteHandler q) 0) noteQuote c x = some (a, y)) :
    quoteStep (quoteEnv q) c x a y :=
  observing_step sysHandler_answers c x a y h

/-- A process with a token, which has not asked for a quote. -/
def quoteWorld : World Unit × Quote :=
  (⟨sgxAgent, ⟨AList.insert (lit "KMS") 0 ∅, [allocApimoduleToken (lit "KMS") (lit "1234")], 1⟩,
    none, ()⟩, ⟨0, []⟩)

/-- What is asked of that token. -/
def quoteDetails : KeyagentApimoduleGetChallengeDetails where
  label := lit "SGX"
  nonce := []
  moduleData := some kmsUriData

/-- A call that gets the quote. -/
def runGetChallenge (q : Quote) : Option ((Bool × Option GError) × World Unit × Quote) :=
  (sgxGetChallenge ckRsaPublicKeyParams quoteDetails ⟨0, [], lit "ECDSA"⟩ none).run
    (observing (sysHandler (quoteHandler q) 0) noteQuote) quoteWorld

/-- A quote of a key with an exponent of three bytes and a modulus of two. -/
def wholeQuote : Quote := ⟨24, [3, 0, 0, 0, 0, 0, 0, 0, 2, 0, 0, 0, 0, 0, 0, 0, 1, 0, 1, 7, 7, 9, 9, 9]⟩

/-- The same, cut off after the two lengths. -/
def cutQuote : Quote := ⟨16, [3, 0, 0, 0, 0, 0, 0, 0, 2, 0, 0, 0, 0, 0, 0, 0]⟩

theorem quote_exact_whole : ∃ (y : World Unit × Quote) (challenge : Bytes),
    Runs (quoteStep (quoteEnv wholeQuote))
      (sgxGetChallenge ckRsaPublicKeyParams quoteDetails ⟨0, [], lit "ECDSA"⟩ none)
      quoteWorld (true, none) y ∧ TokenChallenge quoteDetails y.1 challenge ∧
    ExactChallenge ckRsaPublicKeyParams wholeQuote challenge := by
  obtain ⟨r, hr, hv⟩ := Option.map_eq_some_iff.mp (show
    (runGetChallenge wholeQuote).map (fun r => (r.1, r.2.2)) = some ((true, none), wholeQuote)
    by decide +kernel)
  obtain ⟨hresult, hquote⟩ := Prod.mk.inj hv
  have hrun := Prog.run_runs quoteHandler_step hr
  rw [hresult] at hrun
  obtain ⟨challenge, hchallenge, hexact⟩ := (quote_exact _ _ _ _ _ _).1 none r.2 hrun
  rw [hquote] at hexact
  refine ⟨r.2, challenge, hrun, hchallenge, hexact.mpr ?_⟩
  constructor <;> decide

/-- The quote is cut off. -/
theorem not_quote_exact : ¬∀ (W : Type) (E : Step skcSig W) (params : CkRsaPublicKeyParams)
    (x y : World W × Quote) (details : KeyagentApimoduleGetChallengeDetails)
    (request : KeyagentSgxChallengeRequest) (err err' : Option GError),
    Runs (quoteStep E) (sgxGetChallenge params details request err) x (true, err') y →
    ∃ challenge, TokenChallenge details y.1 challenge ∧ ExactChallenge params y.2 challenge := by
  intro h
  obtain ⟨r, hr, hv⟩ := Option.map_eq_some_iff.mp (show
    (runGetChallenge cutQuote).map (fun r => (r.1, r.2.2)) = some ((true, none), cutQuote)
    by decide +kernel)
  obtain ⟨hresult, hquote⟩ := Prod.mk.inj hv
  have hrun := Prog.run_runs quoteHandler_step hr
  rw [hresult] at hrun
  obtain ⟨challenge, -, hexact⟩ := h Unit _ _ _ _ _ _ _ _ hrun
  have hinside := hexact.inside
  rw [hquote] at hinside
  exact absurd hinside (by decide)

-- A quote shorter than the structure: the copy would be of nearly 2 ^ 32 bytes.
example : runGetChallenge ⟨8, List.replicate 8 0⟩ = none := by decide +kernel

end SkcLibrary
