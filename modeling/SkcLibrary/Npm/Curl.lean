import SkcLibrary.Npm.Interface

/-!
# Requests (`utils/curl.cpp`)

`skc_https_send` as a program over libcurl. It sets one option after the other and gives up at the first one
that is refused.

* `sat_skcHttpsSend` — the options that are set when the request is performed
-/

namespace SkcLibrary

open Interaction

/-! ## libcurl -/

/-- The options that are set. -/
inductive CurlOption where
  | url
  | verbose
  | sslVersion
  | sslCertType
  | sslCert
  | sslKeyType
  | sslKey
  | caInfo
  | keyPasswd
  | sslEngine
  | sslEngineDefault
  | sslVerifyPeer
  | postFields
  | httpHeader
  | writeFunction
  | writeData
  | userPwd
  | headerFunction
  | headerData
  deriving DecidableEq

/-- What they are set to. -/
inductive CurlValue where
  | long (n : Int)
  | string (s : Bytes)
  | slist (l : List Bytes)
  /-- A function, or the data it is given. -/
  | pointer
  deriving DecidableEq

/-- What libcurl calls while a request is performed. -/
inductive CurlCallback where
  /-- `__get_response_header` -/
  | header (line : Bytes)
  /-- `__write_byte_array` -/
  | data (contents : Bytes)

/-- The functions of libcurl, as far as they are called here. -/
inductive CurlCall where
  | easyInit
  | easySetopt (option : CurlOption) (value : CurlValue)
  | easyPerform
  | getinfoResponseCode
  | easyCleanup

/-- Whether there is a handle, whether it is `CURLE_OK`, and what the others bring. -/
abbrev CurlCall.Ans : CurlCall → Type
  | .easyInit => Bool
  | .easySetopt _ _ => Bool
  | .easyPerform => List CurlCallback
  | .getinfoResponseCode => Option Int
  | .easyCleanup => Unit

abbrev curlSig : Sig := ⟨CurlCall, CurlCall.Ans⟩

/-- The monad of `skc_https_send`. -/
abbrev Curl (α : Type) := Prog curlSig α

/-! ## `skc_https_send` -/

/-- `keyagent_ssl_opts`, with the fields the agent leaves `NULL`. -/
structure SslOpts where
  certfile : Option Bytes
  caCertfile : Option Bytes
  certtype : Option Bytes
  keyname : Option Bytes
  keytype : Option Bytes
  keyPassword : Option Bytes
  sslVerify : Bool
  sslVersion : Int

/-- What `_loadkey` leaves in a `details.ssl_opts` that it has cleared. -/
def KeyagentSslOpts.toSslOpts (opts : KeyagentSslOpts) : SslOpts where
  certfile := some opts.certfile
  caCertfile := some opts.caCertfile
  certtype := some opts.certtype
  keyname := some opts.keyname
  keytype := some opts.keytype
  keyPassword := none
  sslVerify := opts.sslVerify
  sslVersion := 0

/-- The arguments of `skc_https_send`. -/
structure HttpsArgs where
  url : Bytes
  headers : List Bytes
  postdata : Option Bytes
  /-- `response_headers != NULL` -/
  responseHeaders : Bool
  sslOpts : Option SslOpts
  userpwd : Option Bytes
  verbose : Bool

/-- What it brings back: the status, the header lines and the body. -/
structure HttpsResult where
  status : Int
  headers : List Bytes
  body : Bytes

/-- `SETOPT`: the function returns -1 if the option is refused. -/
def setopt (option : CurlOption) (value : CurlValue) : ExceptT Int Curl Unit := do
  let ok ← ExceptT.lift (Prog.lift (S := curlSig) (.easySetopt option value))
  if ok then pure () else throw (-1)

/-- `if(c)` in front of `SETOPT`s. -/
def setoptIf (c : Prop) [Decidable c] (m : ExceptT Int Curl Unit) : ExceptT Int Curl Unit :=
  if c then m else pure ()

/-- `if(value)SETOPT(curl, option, value)` -/
def setoptString (option : CurlOption) (value : Option Bytes) : ExceptT Int Curl Unit :=
  value.forM fun s => setopt option (.string (cstr s))

/-- `verify` -/
def verifyPeer (sslOpts : Option SslOpts) : Int :=
  match sslOpts with
  | some opts => if opts.sslVerify then 1 else 0
  | none => 0

/-- The block `if(ssl_opts)`. -/
def setSslOpts (opts : SslOpts) : ExceptT Int Curl Unit := do
  setoptIf (opts.sslVersion ≠ 0) (setopt .sslVersion (.long opts.sslVersion))
  setoptString .sslCertType opts.certtype
  setoptString .sslCert opts.certfile
  setoptString .sslKeyType opts.keytype
  setoptString .sslKey opts.keyname
  setoptString .caInfo opts.caCertfile
  setoptString .keyPasswd opts.keyPassword
  setoptIf (cstr <$> opts.keytype = some (lit "ENG")) do
    setopt .sslEngine (.string (lit "pkcs11"))
    setopt .sslEngineDefault (.long 1)
  setopt .sslVerifyPeer (.long (verifyPeer (some opts)))

/-- The block `if(userpwd)`. -/
def setUserpwd (sslOpts : Option SslOpts) (userpwd : Bytes) : ExceptT Int Curl Unit := do
  setopt .userPwd (.string (cstr userpwd))
  setopt .sslVerifyPeer (.long (verifyPeer sslOpts))

/-- Everything that is set before the request is performed. -/
def setOptions (args : HttpsArgs) : ExceptT Int Curl Unit := do
  setopt .url (.string (cstr args.url))
  setoptIf args.verbose (setopt .verbose (.long 1))
  args.sslOpts.forM setSslOpts
  setoptString .postFields args.postdata
  setopt .httpHeader (.slist (args.headers.map cstr))
  setopt .writeFunction .pointer
  setopt .writeData .pointer
  args.userpwd.forM (setUserpwd args.sslOpts)
  setoptIf args.responseHeaders do
    setopt .headerFunction .pointer
    setopt .headerData .pointer

/-- `__get_response_header`: nothing is collected without `response_headers`. -/
def responseHeaders (args : HttpsArgs) (callbacks : List CurlCallback) : List Bytes :=
  callbacks.filterMap fun
    | .header line => if args.responseHeaders then some (cstr line) else none
    | .data _ => none

/-- `__write_byte_array` -/
def returnData (callbacks : List CurlCallback) : Bytes :=
  callbacks.flatMap fun
    | .header _ => []
    | .data contents => contents

/-- `skc_https_send` -/
def skcHttpsSend (args : HttpsArgs) : Curl HttpsResult := do
  if ← Prog.lift (S := curlSig) .easyInit then
    match ← (setOptions args).run with
    | .error status => pure ⟨status, [], []⟩
    | .ok () =>
      let callbacks ← Prog.lift (S := curlSig) .easyPerform
      let status ← Prog.lift (S := curlSig) .getinfoResponseCode
      Prog.lift (S := curlSig) .easyCleanup
      pure ⟨status.getD (-1), responseHeaders args callbacks, returnData callbacks⟩
  else pure ⟨-1, [], []⟩

/-! ## The options of a request -/

/-- `option` and the string it is set to, if there is one. -/
def stringOption (option : CurlOption) (value : Option Bytes) : List (CurlOption × CurlValue) :=
  value.elim [] fun s => [(option, .string (cstr s))]

/-- What the block `if(ssl_opts)` sets. -/
def sslOptions (opts : SslOpts) : List (CurlOption × CurlValue) :=
  (if opts.sslVersion ≠ 0 then [(.sslVersion, .long opts.sslVersion)] else []) ++
    (stringOption .sslCertType opts.certtype ++ (stringOption .sslCert opts.certfile ++
    (stringOption .sslKeyType opts.keytype ++ (stringOption .sslKey opts.keyname ++
    (stringOption .caInfo opts.caCertfile ++ (stringOption .keyPasswd opts.keyPassword ++
    ((if cstr <$> opts.keytype = some (lit "ENG") then
      [(.sslEngine, .string (lit "pkcs11")), (.sslEngineDefault, .long 1)] else []) ++
    [(.sslVerifyPeer, .long (verifyPeer (some opts)))])))))))

/-- What `skc_https_send` sets, in its order. -/
def curlOptions (args : HttpsArgs) : List (CurlOption × CurlValue) :=
  [(.url, .string (cstr args.url))] ++ ((if args.verbose then [(.verbose, .long 1)] else []) ++
    (args.sslOpts.elim [] sslOptions ++ (stringOption .postFields args.postdata ++
    ([(.httpHeader, .slist (args.headers.map cstr))] ++ ([(.writeFunction, .pointer)] ++
    ([(.writeData, .pointer)] ++
    (args.userpwd.elim [] (fun userpwd => [(.userPwd, .string (cstr userpwd)),
      (.sslVerifyPeer, .long (verifyPeer args.sslOpts))]) ++
    if args.responseHeaders then [(.headerFunction, .pointer), (.headerData, .pointer)] else [])))))))

/-- One option after the other. -/
def setAll (options : List (CurlOption × CurlValue)) : ExceptT Int Curl Unit :=
  options.forM fun o => setopt o.1 o.2

/-- A part of the function sets these options, and does nothing else. -/
def Sets (m : ExceptT Int Curl Unit) (options : List (CurlOption × CurlValue)) : Prop :=
  m = setAll options

namespace Sets

variable {m m' : ExceptT Int Curl Unit} {l l' : List (CurlOption × CurlValue)}

theorem setopt (option : CurlOption) (value : CurlValue) :
    Sets (setopt option value) [(option, value)] := by
  simp [Sets, setAll]

theorem bind (h : Sets m l) (h' : Sets m' l') : Sets (do m; m') (l ++ l') := by
  rw [Sets, h, h']
  exact List.forM_append.symm

theorem setoptIf {c : Prop} [Decidable c] (h : Sets m l) :
    Sets (setoptIf c m) (if c then l else []) := by
  unfold SkcLibrary.setoptIf
  split
  · exact h
  · rfl

theorem forM {α : Type} {f : α → ExceptT Int Curl Unit} {g : α → List (CurlOption × CurlValue)}
    (h : ∀ a, Sets (f a) (g a)) (x : Option α) : Sets (x.forM f) (x.elim [] g) := by
  cases x with
  | none => rfl
  | some a => exact h a

theorem setoptString (option : CurlOption) (value : Option Bytes) :
    Sets (setoptString option value) (stringOption option value) :=
  forM (fun _ => setopt _ _) value

theorem setSslOpts (opts : SslOpts) : Sets (setSslOpts opts) (sslOptions opts) :=
  bind (setoptIf (setopt _ _)) <| bind (setoptString _ _) <| bind (setoptString _ _) <|
    bind (setoptString _ _) <| bind (setoptString _ _) <| bind (setoptString _ _) <|
    bind (setoptString _ _) <| bind (setoptIf (bind (setopt _ _) (setopt _ _))) (setopt _ _)

/-- The source and the list of options. -/
theorem setOptions (args : HttpsArgs) : Sets (setOptions args) (curlOptions args) :=
  bind (setopt _ _) <| bind (setoptIf (setopt _ _)) <| bind (forM setSslOpts _) <|
    bind (setoptString _ _) <|
    bind (setopt _ _) <| bind (setopt _ _) <| bind (setopt _ _) <|
    bind (forM (fun _ => bind (setopt _ _) (setopt _ _)) _) <|
    setoptIf (bind (setopt _ _) (setopt _ _))

end Sets

/-! ## Runs -/

/-- The options that a handle has, after one more call. -/
def curlNote {W : Type} (c : CurlCall) (_ : W) : c.Ans → List (CurlOption × CurlValue) →
    List (CurlOption × CurlValue) :=
  match c with
  | .easyInit => fun _ _ => []
  | .easySetopt option value => fun ok set => if ok then set ++ [(option, value)] else set
  | _ => fun _ set => set

section

variable {W : Type} {E : Step curlSig W} {args : HttpsArgs} {x : W × List (CurlOption × CurlValue)}

/-- The request is performed with the options that `args` asks for. -/
abbrev curlLogic (E : Step curlSig W) (args : HttpsArgs) :
    Logic curlSig (W × List (CurlOption × CurlValue)) :=
  .seq (E.observed curlNote) fun c x => c = .easyPerform → x.2 = curlOptions args

theorem sat_setopt {option : CurlOption} {value : CurlValue} :
    Sat (curlLogic E args) (setopt option value).run
      (fun r y => (r = .ok () ∧ y.2 = x.2 ++ [(option, value)]) ∨ r = .error (-1)) x := by
  refine sat_seq_call.mpr ⟨nofun, fun ok y hy => ?_⟩
  have hset : y.2 = if ok then x.2 ++ [(option, value)] else x.2 := hy.2
  cases ok with
  | true => exact sat_seq_pure.mpr (.inl ⟨rfl, hset⟩)
  | false => exact sat_seq_pure.mpr (.inr rfl)

theorem sat_setAll {l : List (CurlOption × CurlValue)} :
    Sat (curlLogic E args) (setAll l).run
      (fun r y => (r = .ok () ∧ y.2 = x.2 ++ l) ∨ r = .error (-1)) x := by
  induction l generalizing x with
  | nil => exact sat_seq_pure.mpr (.inl ⟨rfl, (List.append_nil _).symm⟩)
  | cons o l ih =>
    rw [show setAll (o :: l) = (do setopt o.1 o.2; setAll l) from rfl, ExceptT.run_bind]
    refine sat_setopt.bind ?_
    rintro r y (⟨rfl, hy⟩ | rfl)
    · refine ih.mono fun r z hz => hz.imp_left fun h => ⟨h.1, ?_⟩
      rw [h.2, hy, List.append_assoc]
      rfl
    · exact sat_seq_pure.mpr (.inr rfl)

/-- **What a request is performed with.** -/
theorem sat_skcHttpsSend : Sat (curlLogic E args) (skcHttpsSend args) (fun _ _ => True) x := by
  refine sat_seq_call.mpr ⟨nofun, fun handle y hy => ?_⟩
  have hset : y.2 = [] := hy.2
  cases handle with
  | false => exact sat_seq_pure.mpr trivial
  | true =>
    have hall : Sat (curlLogic E args) (setOptions args).run
        (fun r z => (r = .ok () ∧ z.2 = y.2 ++ curlOptions args) ∨ r = .error (-1)) y := by
      rw [Sets.setOptions args]
      exact sat_setAll
    refine hall.bind ?_
    rintro r z (⟨rfl, hz⟩ | rfl)
    · refine sat_seq_call.mpr ⟨fun _ => by rw [hz, hset, List.nil_append], fun _ _ _ => ?_⟩
      refine sat_seq_call.mpr ⟨nofun, fun _ _ _ => sat_seq_call.mpr ⟨nofun, fun _ _ _ => ?_⟩⟩
      exact sat_seq_pure.mpr trivial
    · exact sat_seq_pure.mpr trivial

end

end SkcLibrary
