import SkcLibrary.Apimodule.Deadlock
import SkcLibrary.Keyagent.Closed
import SkcLibrary.Npm.Curl
import SkcLibrary.Npm.KmsCalls

/-!
# How KBS is asked

Whatever the threads of an application do: with which options libcurl is asked to perform their requests.

* `requests_secured` — the certificates, the verification of the server, and where keys are asked for
-/

namespace SkcLibrary

open Interaction

/-- Every request that is sent has the property; nothing is asked of other calls. -/
def Sends (P : HttpRequest → Prop) : Call → Prop
  | .httpsSend request => P request
  | _ => True

section

variable {P : HttpRequest → Prop} {cInit : Skc CkRv}

theorem ApimoduleCall.sends (c : Call) (h : ApimoduleCall c) : Sends P c := by
  cases c <;> first | exact trivial | exact h.elim

theorem Call.Own.sends (c : Call) (h : c.Own) : Sends P c := by
  cases c <;> first | exact trivial | exact h.elim

theorem apimodule_sends {α : Type} {p : Skc α} (hp : p.Issues ApimoduleCall) : p.Issues (Sends P) :=
  hp.mono ApimoduleCall.sends

theorem readToken_sends (atoken : TokenRef) : (readToken atoken).Issues (Sends P) :=
  apimodule_sends ((readToken_issues atoken).mono TokenCall.apimoduleCall)

theorem lookupOrInitToken_sends (hinit : cInit.Issues (Sends P)) (uriData : ApimoduleUriData)
    (create : Bool) (err : Option GError) :
    (lookupOrInitToken cInit uriData create err).Issues (Sends P) := by
  refine lookupOrInitToken_closed Prog.issues_bindClosed ⟨trivial, fun _ => trivial⟩ ?_
  refine initApimoduleToken_closed Prog.issues_bindClosed ?_
    (fun _ _ => apimodule_sends ((openToken_issues _ _ _).mono TokenCall.apimoduleCall))
    fun _ => ⟨trivial, fun _ => trivial⟩
  exact ensureToken_closed Prog.issues_bindClosed
    (apimodule_sends ((apimoduleFindtoken_issues _).mono SlotCall.apimoduleCall))
    (apimodule_sends ((createtoken_issues _).mono CreateCall.apimoduleCall))
    (fun _ => ⟨trivial, fun _ => trivial⟩) (fun _ => ⟨trivial, fun _ => trivial⟩)
    ⟨trivial, fun _ => trivial⟩ fun _ => hinit

/-- The agent with the security module of the library. -/
theorem agentClosed_sends (L : Library) (hinit : cInit.Issues (Sends P)) :
    AgentClosed (fun _ p => p.Issues (Sends P)) (L.stmOps cInit) where
  toBindClosed := Prog.issues_bindClosed
  own hp := hp.mono Call.Own.sends
  generateUuid := ⟨trivial, fun _ => trivial⟩
  createChallenge _ _ _ := by
    refine stmCreateChallenge_closed Prog.issues_bindClosed (fun _ => Skc.issues_deref trivial)
      fun request => ?_
    exact apimoduleGetChallenge_closed Prog.issues_bindClosed
      (fun _ _ => lookupOrInitToken_sends hinit _ _ _)
      (fun _ => apimodule_sends ((sgxGetChallenge_issues _ _ _).mono ChallengeCall.apimoduleCall))
      readToken_sends fun _ => Skc.issues_deref trivial
  setSession _ _ _ := apimoduleSetWrappingKey_issues trivial (fun _ => trivial)
    (fun _ _ _ => trivial) (fun _ _ _ _ => trivial) _ _
  loadKey _ _ _ := apimoduleLoadKey_issues trivial (fun _ => trivial) (fun _ _ _ _ _ _ => trivial) _ _

/-- The same of an NPM. -/
def NpmSends (P : HttpRequest → Prop) : NpmCall → Prop
  | .httpsSend request => P request
  | _ => True

/-- What the NPMs of a library send that are handed the TLS options of its agent. -/
def NpmsSend (P : HttpRequest → Prop) (config : KeyagentConfig) (npms : List KeyagentNpmReal) : Prop :=
  ∀ npm ∈ npms, ∀ details err, details.sslOpts = config.sslOpts →
    (npm.keyLoad details err).Issues (NpmSends P)

variable {L : Library} (hnpm : NpmsSend P L.config L.npmHash)

include hnpm

theorem cOnDemandKeyLoad_sends (hinit : cInit.Issues (Sends P)) (uri : Bytes) :
    (cOnDemandKeyLoad L (L.stmOps cInit) cInit uri).Issues (Sends P) := by
  refine cOnDemandKeyLoad_closed Prog.issues_bindClosed
    (fun _ _ => lookupOrInitToken_sends hinit _ _ _) readToken_sends
    (fun _ _ => apimodule_sends ((apimoduleFindobject_issues _ _).mono ObjectCall.apimoduleCall))
    fun uriData err => ?_
  refine onDemandLoadkey_closed Prog.issues_bindClosed ?_ fun _ => Skc.issues_deref trivial
  have h : AgentClosed (fun _ p => p.Issues (Sends P)) (L.modules (L.stmOps cInit)).stm :=
    agentClosed_sends L hinit
  refine h.loadkeyWithModuledata (fun npm hmem details err _ hopts => ?_) ⟨trivial, fun _ => trivial⟩
    ⟨trivial, fun _ => trivial⟩ err
  exact h.runNpm (hnpm npm hmem details err hopts) (fun request hP => ⟨hP, fun _ => trivial⟩)
    fun _ => ⟨trivial, fun _ => trivial⟩

theorem cInitialize_sends (fuel : Nat) : (cInitialize L fuel).Issues (Sends P) := by
  refine InitializeClosed.cInitialize_closed (C := fun _ p => p.Issues (Sends P))
    { Prog.issues_bindClosed with
      cInitialize := ⟨trivial, fun _ => trivial⟩
      atomicIntAdd := ⟨trivial, fun _ => trivial⟩
      readLines := fun _ => ⟨trivial, fun _ => trivial⟩
      criticalError := fun _ => Skc.issues_deref trivial
      outOfFuel := ⟨trivial, fun a => a.elim⟩ } ?_ fuel
  exact fun hinit uri => cOnDemandKeyLoad_sends hnpm hinit uri

theorem application_sends (calls : List EntryPoint) : (application L calls).Issues (Sends P) := by
  induction calls with
  | nil => trivial
  | cons call calls ih =>
    refine Prog.Issues.bind ?_ fun _ => ih
    cases call with
    | cInitialize => exact cInitialize_sends hnpm 2
    | cFinalize => exact ⟨trivial, fun _ => trivial⟩
    | onDemand uri => exact cOnDemandKeyLoad_sends hnpm (cInitialize_sends hnpm 1) uri

end

/-! ## The requests of the KMS module -/

/-- A request with the TLS options of the agent; keys are asked for at the given server. -/
def FromAgent (config : KeyagentConfig) (serverUrl : Bytes) (request : HttpRequest) : Prop :=
  request.sslOpts = config.sslOpts ∧
    (request.postdata = none → (serverUrl ++ lit "/v1/keys/").isPrefixOf request.url)

theorem npmsSend_kms {config : KeyagentConfig} {serverUrl : Bytes} {npms : List KeyagentNpmReal}
    (hnpm : ∀ npm ∈ npms, npm = Kms.npm serverUrl) :
    NpmsSend (FromAgent config serverUrl) config npms := by
  intro npm hmem details err hopts
  rw [hnpm npm hmem]
  refine (Kms.npmLoadkey_asksFor serverUrl details 2 err).mono fun c hc => ?_
  cases c with
  | httpsSend request => exact ⟨hc.1.trans hopts, hc.2⟩
  | _ => trivial

/-! ## What libcurl is told -/

/-- The arguments for `skc_https_send`; `text` is how jsoncpp writes a document. -/
def HttpRequest.args (request : HttpRequest) (text : Json → Bytes) (verbose : Bool) : HttpsArgs where
  url := request.url
  headers := request.headers
  postdata := request.postdata.map text
  responseHeaders := request.postdata.isNone
  sslOpts := some request.sslOpts.toSslOpts
  userpwd := none
  verbose := verbose

/-- The value that counts: the one an option was last set to. -/
def inEffect (options : List (CurlOption × CurlValue)) (option : CurlOption) : Option CurlValue :=
  ((options.filter (·.1 = option)).getLast?).map (·.2)

section

variable {l l' : List (CurlOption × CurlValue)} {option : CurlOption}

@[simp] theorem inEffect_nil : inEffect [] option = none := rfl

theorem inEffect_append : inEffect (l ++ l') option = (inEffect l' option).or (inEffect l option) := by
  simp [inEffect, List.filter_append, List.getLast?_append, Option.map_or]

theorem inEffect_cons (o : CurlOption × CurlValue) : inEffect (o :: l) option =
    (inEffect l option).or (if o.1 = option then some o.2 else none) := by
  rw [← List.singleton_append, inEffect_append]
  congr 1
  by_cases ho : o.1 = option <;> simp [inEffect, ho]

theorem inEffect_ite {c : Prop} [Decidable c] :
    inEffect (if c then l else l') option = if c then inEffect l option else inEffect l' option :=
  apply_ite (inEffect · option) c l l'

theorem inEffect_stringOption (o : CurlOption) (value : Option Bytes) :
    inEffect (stringOption o value) option =
      if o = option then value.map fun s => .string (cstr s) else none := by
  cases value with
  | none => simp [stringOption]
  | some s => simp [stringOption, inEffect_cons]

end

/-- The options for TLS are those of the agent's configuration. -/
structure Secured (config : KeyagentConfig) (options : List (CurlOption × CurlValue)) : Prop where
  verifyPeer : inEffect options .sslVerifyPeer = some (.long (if config.sslVerify then 1 else 0))
  caInfo : inEffect options .caInfo = some (.string (cstr config.cacert))
  sslCert : inEffect options .sslCert = some (.string (cstr config.cert))
  sslKey : inEffect options .sslKey = some (.string (cstr config.certkey))
  sslKeyType : inEffect options .sslKeyType =
    some (.string (if config.keyformatPem then lit "PEM" else lit "ENG"))
  sslEngine : inEffect options .sslEngine =
    if config.keyformatPem then none else some (.string (lit "pkcs11"))

section

variable {config : KeyagentConfig} {request : HttpRequest} {text : Json → Bytes} {verbose : Bool}

/-- What is read off the options of a request. -/
theorem secured_args (h : request.sslOpts = config.sslOpts) :
    Secured config (curlOptions (request.args text verbose)) := by
  have hpem : cstr (lit "PEM") = lit "PEM" := by decide
  have heng : cstr (lit "ENG") = lit "ENG" := by decide
  have hne : lit "PEM" ≠ lit "ENG" := by decide
  cases hk : config.keyformatPem <;> constructor <;>
    simp [curlOptions, HttpRequest.args, h, sslOptions, KeyagentSslOpts.toSslOpts,
      KeyagentConfig.sslOpts, verifyPeer, hk, inEffect_append, inEffect_cons, inEffect_ite,
      inEffect_stringOption, hpem, heng, hne]

theorem inEffect_url :
    inEffect (curlOptions (request.args text verbose)) .url = some (.string (cstr request.url)) := by
  cases verbose <;>
    simp [curlOptions, HttpRequest.args, sslOptions, inEffect_append, inEffect_cons, inEffect_ite,
      inEffect_stringOption]

end

/--
**Requests.** Whatever the threads do and whatever libcurl answers: when it is asked to perform a request of a
load, the certificates and the verification of the server are as configured, the url is that of the request,
and a request without a body goes to the configured server.
-/
theorem requests_secured {L : Library} {serverUrl : Bytes}
    (hnpm : ∀ npm ∈ L.npmHash, npm = Kms.npm serverUrl) {W V : Type} {E : Step skcSig W} {s : World W}
    {calls : Nat → List EntryPoint} {q : Pool Nat skcSig (World W) Unit}
    (hr : Pool.Reach (sysStep E) ⟨fun i => application L (calls i), s⟩ q) {i : Nat}
    {request : HttpRequest} {k : HttpResponse → Skc Unit}
    (hc : q.threads i = .call (S := skcSig) (.httpsSend request) k) {C : Step curlSig V}
    {text : Json → Bytes} {verbose : Bool} {x y : V × List (CurlOption × CurlValue)}
    {m : List CurlCallback → Curl HttpsResult}
    (hexec : Exec (C.observed curlNote) (skcHttpsSend (request.args text verbose)) x
      (.call (S := curlSig) .easyPerform m) y) :
    Secured L.config y.2 ∧ inEffect y.2 .url = some (.string (cstr request.url)) ∧
      (request.postdata = none → (serverUrl ++ lit "/v1/keys/").isPrefixOf request.url) := by
  have hsends : ∀ j, (application L (calls j)).IssuesUntil (fun _ => False)
      (Sends (FromAgent L.config serverUrl)) :=
    fun j => (application_sends (npmsSend_kms hnpm) (calls j)).until
  have hi := (Pool.stopped_reach (I := fun _ => True) False.elim (fun _ _ _ => trivial) hsends trivial
    hr).2.1 i
  rw [hc] at hi
  obtain ⟨hopts, hurl⟩ := (hi.resolve_left id).1
  have hset : y.2 = curlOptions (request.args text verbose) := sat_skcHttpsSend.issued hexec rfl
  rw [hset]
  exact ⟨secured_args hopts, inEffect_url, hurl⟩

/-! ## A request of the second of two threads -/

/-- A library that verifies the server, with its certificates. -/
def securedLibrary : Library :=
  { kmsLibrary with config := ⟨lit "/root/cert.pem", lit "/root/key.pem", lit "/root/ca.pem", true, true⟩ }

/-- libcurl, without an answer from the server. -/
def curlHandler (c : CurlCall) (w : Unit) : Option (c.Ans × Unit) :=
  match c with
  | .easyInit => some (true, w)
  | .easySetopt _ _ => some (true, w)
  | .easyPerform => some ([], w)
  | .getinfoResponseCode => some (some 0, w)
  | .easyCleanup => some ((), w)

/-- The request that a program is about to send. -/
def nextRequest (p : Skc Unit) : Option HttpRequest :=
  match p with
  | .call (.httpsSend request) _ => some request
  | _ => none

/-- It is about to be performed. -/
def performs (p : Curl HttpsResult) : Bool :=
  match p with
  | .call .easyPerform _ => true
  | _ => false

theorem exists_of_nextRequest {p : Skc Unit} {request : HttpRequest} (h : nextRequest p = some request) :
    ∃ k, p = .call (S := skcSig) (.httpsSend request) k := by
  unfold nextRequest at h
  split at h
  · exact ⟨_, by rw [Option.some.inj h]⟩
  · simp at h

theorem exists_of_performs {p : Curl HttpsResult} (h : performs p = true) :
    ∃ m, p = .call (S := curlSig) .easyPerform m := by
  unfold performs at h
  split at h
  · exact ⟨_, rfl⟩
  · exact absurd h Bool.false_ne_true

/-- The first request of a load, when libcurl performs it. -/
theorem requests_secured_load : ∃ (q : Pool Nat skcSig (World TokenStore) Unit) (request : HttpRequest)
    (k : HttpResponse → Skc Unit) (m : List CurlCallback → Curl HttpsResult)
    (y : Unit × List (CurlOption × CurlValue)),
    Pool.Reach (sysStep tokenStoreStep)
      ⟨fun i => application securedLibrary (twoApplications i),
        tokenStoreWorld (some (lit "1234"))⟩ q ∧
    q.threads 0 = .call (S := skcSig) (.httpsSend request) k ∧
    Exec (Step.observed (fun c w a w' => curlHandler c w = some (a, w')) curlNote)
      (skcHttpsSend (request.args (fun _ => []) false)) ((), [])
      (.call (S := curlSig) .easyPerform m) y ∧
    Secured securedLibrary.config y.2 := by
  obtain ⟨q, hq, hv⟩ := Option.bind_eq_some_iff.mp (show
    ((Pool.schedule (sysHandler tokenStoreHandler) [(0, 24)]
      ⟨fun i => application securedLibrary (twoApplications i),
        tokenStoreWorld (some (lit "1234"))⟩).bind fun q =>
      (nextRequest (q.threads 0)).bind fun request =>
        ((skcHttpsSend (request.args (fun _ => []) false)).steps (observing curlHandler curlNote) 13
          ((), [])).map fun r => performs r.1) = some true
    by decide +kernel)
  obtain ⟨request, hrequest, hv⟩ := Option.bind_eq_some_iff.mp hv
  obtain ⟨⟨p, y⟩, hsteps, hperforms⟩ := Option.map_eq_some_iff.mp hv
  obtain ⟨k, hk⟩ := exists_of_nextRequest hrequest
  obtain ⟨m, rfl⟩ := exists_of_performs hperforms
  have hreach : Pool.Reach (sysStep tokenStoreStep) _ q :=
    Pool.schedule_reach (fun _ => sysHandler_answers) hq
  have hexec : Exec (Step.observed (fun c w a w' => curlHandler c w = some (a, w')) curlNote)
      (skcHttpsSend (request.args (fun _ => []) false)) ((), [])
      (.call (S := curlSig) .easyPerform m) y :=
    Prog.steps_exec (observing_step fun _ _ _ _ h => h) hsteps
  exact ⟨q, request, k, m, y, hreach, hk, hexec,
    (requests_secured (fun _ h => List.mem_singleton.mp h) hreach hk hexec).1⟩

end SkcLibrary
