import SkcLibrary.Keyagent.Startup

/-!
# Start-up of the library

`apimodule_init`, `apimodule_load_module` and `C_GetFunctionList` of
`api-module/pkcs11/src/pkcs11-apimodule.cpp`.

Success is reported in four ways here, and `apimodule_init` turns one into the other: a `CK_RV` it
keeps in an `int`, a `gboolean`, a `NULL`, an error. `keyagent_init` looks at the error only,
`apimodule_init` reads an error that `keyagent_apimodule_register` never sets and then returns `FALSE`,
which is `CKR_OK`.

* `starts_up_iff` — the start-ups that are reported as what they are
-/

namespace SkcLibrary

/-! ## What is found -/

/-- The PKCS#11 module behind the library. -/
structure Pkcs11Module where
  /-- `g_module_open` -/
  opens : Bool
  /-- What its `C_GetFunctionList` returns, if it has one. -/
  cGetFunctionList : Option CkRv

/-- All that the start-up of the library finds. -/
structure ApimoduleStartup where
  /-- `g_getenv ("SKC_PKCS11_APIMODULE_CONF")` -/
  apimoduleConf : Option Bytes
  /-- `SKC_CONF_PATH` -/
  skcConfPath : Bytes
  pkcs11Module : Bytes → Pkcs11Module
  /-- What the agent finds; its `key_config_openfile` reads the library's own file too. -/
  agent : Startup

/-- What start-up leaves behind in a process. -/
structure ApimoduleProcess where
  /-- What `keyagent_init` remembers. -/
  once : Option KeyagentOnce
  /-- `func_list` is set. -/
  funcList : Bool
  mode : Option Bytes
  loadableModule : Option Bytes
  preLoadKeyfile : Option Bytes
  /-- `apimodule_prepare_child` is called in every child process. -/
  atfork : Bool
  /-- The static `rv` of `C_GetFunctionList`, once it has been set. -/
  rv : Option CkRv

/-- Nobody has called `C_GetFunctionList` yet; the agent may have been started by somebody else. -/
def ApimoduleProcess.fresh (once : Option KeyagentOnce) : ApimoduleProcess where
  once := once
  funcList := false
  mode := none
  loadableModule := none
  preLoadKeyfile := none
  atfork := false
  rv := none

/-! ## The code -/

/-- `apimodule_load_module` -/
def apimoduleLoadModule (module : Pkcs11Module) : CkRv :=
  if module.opens = false then ckrGeneralError
  else
    match module.cGetFunctionList with
    | none => ckrGeneralError
    | some rv => rv

/-- What becomes of a `CK_RV` in the `int rv` of `apimodule_init`. -/
def ckRvOfInt (rv : CkRv) : CkRv :=
  (((BitVec.ofNat 64 rv).setWidth 32).signExtend 64).toNat

/-- What `apimodule_init` reads from the configuration. -/
structure ApimoduleConfig where
  keyagentConf : Bytes
  mode : Bytes
  module : Bytes
  preloadKeys : Bytes

/-- The name of the configuration file. -/
def configFilename (env : ApimoduleStartup) : Bytes :=
  env.apimoduleConf.getD (env.skcConfPath ++ lit "/pkcs11-apimodule.ini")

/-- The part of `apimodule_init` that reads the configuration. -/
def readApimoduleConfig (env : ApimoduleStartup) : Except GError ApimoduleConfig := do
  let config ← env.agent.openfile (configFilename env)
  let keyagentConf ← config.getString (lit "core") (lit "keyagent_conf")
  let mode ← config.getString (lit "core") (lit "mode")
  let module ← config.getString mode (lit "module")
  pure ⟨keyagentConf, mode, module,
    config.getStringOptional (lit "core") (lit "preload_keys") (lit "NIL")⟩

/-- The end of `apimodule_init`: the agent is started and told the mode. -/
def apimoduleStartAgent (env : ApimoduleStartup) (config : ApimoduleConfig) (rv : CkRv)
    (process : ApimoduleProcess) : Option (CkRv × ApimoduleProcess) := do
  let (ret, error, once) ← keyagentInit process.once env.agent (some config.keyagentConf)
  let process := { process with once := some once }
  if ret = false then
    -- `k_critical_error (error)`
    error.map fun _ => (ckrGeneralError, process)
  else if keyagentApimoduleRegister once (some config.mode) = false then
    -- `error->message`, and then `return FALSE`
    error.map fun _ => (ckrOk, process)
  else pure (rv, process)

/-- `apimodule_init` -/
def apimoduleInit (env : ApimoduleStartup) (process : ApimoduleProcess) :
    Option (CkRv × ApimoduleProcess) :=
  match readApimoduleConfig env with
  | .error _ => some (ckrGeneralError, process)
  | .ok config =>
    let rv := ckRvOfInt (apimoduleLoadModule (env.pkcs11Module config.module))
    let process := { process with
      mode := some config.mode
      loadableModule := some config.module
      preLoadKeyfile := some config.preloadKeys }
    if rv ≠ ckrOk then some (rv, process)
    else apimoduleStartAgent env config rv { process with funcList := true }

/-- `C_GetFunctionList` -/
def cGetFunctionList (env : ApimoduleStartup) (process : ApimoduleProcess) :
    Option (CkRv × ApimoduleProcess) :=
  match process.rv with
  | some rv => some (rv, process)
  | none => do
    let (rv, process) ← apimoduleInit env process
    some (rv, { process with rv := some rv, atfork := process.mode = some (lit "SGX") })

/-- An application that calls `C_GetFunctionList` again and again. -/
def cGetFunctionLists (env : ApimoduleStartup) :
    Nat → ApimoduleProcess → Option (List CkRv × ApimoduleProcess)
  | 0, process => some ([], process)
  | n + 1, process => do
    let (rv, process) ← cGetFunctionList env process
    let (rvs, process) ← cGetFunctionLists env n process
    some (rv :: rvs, process)

/-! ## What is promised -/

/-- Every step of start-up has succeeded. -/
def Started (env : ApimoduleStartup) (process : ApimoduleProcess) : Prop :=
  ∃ config once, readApimoduleConfig env = .ok config ∧ process.once = some once ∧
    apimoduleLoadModule (env.pkcs11Module config.module) = ckrOk ∧ once.ret = true ∧
    keyagentApimoduleRegister once (some config.mode) = true

/--
No call of `apimodule_init` or of `C_GetFunctionList` reads from an error that is not there, and none
returns `CKR_OK` if a step has failed.
-/
structure StartsUp (env : ApimoduleStartup) (once : Option KeyagentOnce) : Prop where
  apimoduleInit : ∃ rv process, apimoduleInit env (.fresh once) = some (rv, process) ∧
    (rv = ckrOk → Started env process)
  cGetFunctionList : ∀ n, ∃ rvs process,
    cGetFunctionLists env n (.fresh once) = some (rvs, process) ∧
    (ckrOk ∈ rvs → Started env process)

/--
Where the module that the configuration names is taken to be loaded, the agent that has been started
has left an error or has not failed, and the agent that is started now says what goes wrong with it.
-/
def SaysWhatFails (env : ApimoduleStartup) (once : Option KeyagentOnce) : Prop :=
  ∀ config, readApimoduleConfig env = .ok config →
    ckRvOfInt (apimoduleLoadModule (env.pkcs11Module config.module)) = ckrOk →
    match once with
    | some once => once.error = none →
        apimoduleLoadModule (env.pkcs11Module config.module) = ckrOk ∧ once.ret = true ∧
        config.mode ∈ once.stms
    | none => StartupSaysWhy env.agent (some config.keyagentConf)
        (apimoduleLoadModule (env.pkcs11Module config.module) = ckrOk) config.mode

/-! ## Proofs -/

/-- The agent as `apimodule_init` finds or starts it. -/
def agentOnce (env : ApimoduleStartup) (once : Option KeyagentOnce) (config : ApimoduleConfig) :
    Option KeyagentOnce :=
  once.elim (doKeyagentInit env.agent (some config.keyagentConf)) some

theorem saysWhatFails_iff {env : ApimoduleStartup} {once : Option KeyagentOnce} :
    SaysWhatFails env once ↔ ∀ config, readApimoduleConfig env = .ok config →
      ckRvOfInt (apimoduleLoadModule (env.pkcs11Module config.module)) = ckrOk →
      Reported (agentOnce env once config)
        (apimoduleLoadModule (env.pkcs11Module config.module) = ckrOk) config.mode := by
  unfold SaysWhatFails agentOnce
  refine forall_congr' fun config => imp_congr_right fun _ => imp_congr_right fun _ => ?_
  cases once with
  | none => exact reported_doKeyagentInit_iff.symm
  | some once =>
    constructor
    · intro h
      exact ⟨once, rfl, h⟩
    · rintro ⟨once', hsame, h⟩
      obtain rfl := Option.some.inj hsame
      exact h

/-- The agent has been started: what `apimodule_init` makes of it. -/
theorem apimoduleStartAgent_iff {env : ApimoduleStartup} {config : ApimoduleConfig}
    {process : ApimoduleProcess} (hread : readApimoduleConfig env = .ok config) :
    (∃ rv process', apimoduleStartAgent env config ckrOk process = some (rv, process') ∧
      (rv = ckrOk → Started env process')) ↔
    Reported (agentOnce env process.once config)
      (apimoduleLoadModule (env.pkcs11Module config.module) = ckrOk) config.mode := by
  unfold apimoduleStartAgent keyagentInit
  change (∃ rv process', (((agentOnce env process.once config).bind _).bind _ = _) ∧ _) ↔ _
  cases agentOnce env process.once config with
  | none =>
    refine iff_of_false ?_ not_reported_none
    rintro ⟨rv, process', h, -⟩
    cases h
  | some once =>
    cases herr : once.error with
    | some e =>
      simp only [Option.bind_some, herr, if_true, Option.map_some]
      refine iff_of_true ⟨_, _, rfl, fun h => ?_⟩ (reported_of_error herr _ _)
      exact absurd h (by decide)
    | none =>
      simp only [Option.bind_some, herr, Bool.true_eq_false, if_false]
      -- the agent started: the mode has to be one of the STMs that were loaded
      by_cases hmode : config.mode ∈ once.stms
      · have hreg : keyagentApimoduleRegister once (some config.mode) = true := decide_eq_true hmode
        simp only [hreg, Bool.true_eq_false, if_false]
        constructor
        · rintro ⟨rv, process', h, hstarted⟩
          obtain ⟨rfl, rfl⟩ := Prod.mk.inj (Option.some.inj h)
          obtain ⟨config', once', hread', honce, hload, hret, -⟩ := hstarted rfl
          obtain rfl := Except.ok.inj (hread.symm.trans hread')
          obtain rfl := Option.some.inj honce
          exact ⟨once, rfl, fun _ => ⟨hload, hret, hmode⟩⟩
        · rintro ⟨once', hsame, h⟩
          obtain rfl := Option.some.inj hsame
          obtain ⟨hload, hret, -⟩ := h herr
          exact ⟨_, _, rfl, fun _ => ⟨config, once, hread, rfl, hload, hret, hreg⟩⟩
      · have hreg : keyagentApimoduleRegister once (some config.mode) = false := decide_eq_false hmode
        simp only [hreg, if_true, Option.map_none]
        refine iff_of_false ?_ ?_
        · rintro ⟨rv, process', h, -⟩
          cases h
        · rintro ⟨once', hsame, h⟩
          obtain rfl := Option.some.inj hsame
          exact hmode (h herr).2.2

/-- `apimodule_init` is right where what fails is said. -/
theorem apimoduleInit_iff {env : ApimoduleStartup} {once : Option KeyagentOnce} :
    (∃ rv process, apimoduleInit env (.fresh once) = some (rv, process) ∧
      (rv = ckrOk → Started env process)) ↔ SaysWhatFails env once := by
  rw [saysWhatFails_iff]
  unfold apimoduleInit
  cases hread : readApimoduleConfig env with
  | error e =>
    refine iff_of_true ⟨_, _, rfl, fun h => absurd h (by decide)⟩ fun config h => ?_
    cases h
  | ok config =>
    simp only
    by_cases hrv : ckRvOfInt (apimoduleLoadModule (env.pkcs11Module config.module)) = ckrOk
    · rw [if_neg (not_not.mpr hrv), hrv, apimoduleStartAgent_iff hread]
      constructor
      · intro h config' hsame _
        obtain rfl := Except.ok.inj hsame
        exact h
      · intro h
        exact h config rfl hrv
    · rw [if_pos hrv]
      refine iff_of_true ⟨_, _, rfl, fun h => absurd h hrv⟩ fun config' hsame h => ?_
      obtain rfl := Except.ok.inj hsame
      exact absurd h hrv

/-- Once `C_GetFunctionList` has been called it returns the same ever after. -/
theorem cGetFunctionLists_again (env : ApimoduleStartup) {process : ApimoduleProcess} {rv : CkRv}
    (h : process.rv = some rv) (n : Nat) :
    cGetFunctionLists env n process = some (List.replicate n rv, process) := by
  induction n with
  | zero => rfl
  | succ n ih =>
    have hcall : cGetFunctionList env process = some (rv, process) := by
      simp only [cGetFunctionList, h]
    simp [cGetFunctionLists, hcall, ih, List.replicate_succ]

/-- **Start-up.** It is reported as what it is if and only if whatever fails is said. -/
theorem starts_up_iff (env : ApimoduleStartup) (once : Option KeyagentOnce) :
    StartsUp env once ↔ SaysWhatFails env once := by
  rw [← apimoduleInit_iff]
  constructor
  · intro h
    exact h.apimoduleInit
  · intro h
    refine ⟨h, fun n => ?_⟩
    -- the first call runs the initialisation, every later one returns its result
    cases n with
    | zero => exact ⟨[], _, rfl, fun hmem => absurd hmem List.not_mem_nil⟩
    | succ n =>
      obtain ⟨rv, process, hinit, hstarted⟩ := h
      obtain ⟨process', hcall, hrv, hstarted'⟩ : ∃ process',
          cGetFunctionList env (.fresh once) = some (rv, process') ∧ process'.rv = some rv ∧
          (rv = ckrOk → Started env process') := by
        refine ⟨{ process with rv := some rv, atfork := process.mode = some (lit "SGX") }, ?_, rfl,
          hstarted⟩
        change (apimoduleInit env (.fresh once)).bind _ = _
        rw [hinit]
        rfl
      refine ⟨rv :: List.replicate n rv, process', ?_, fun hmem => ?_⟩
      · simp [cGetFunctionLists, hcall, cGetFunctionLists_again env hrv]
      · rw [← List.replicate_succ, List.mem_replicate] at hmem
        exact hstarted' hmem.2.symm

/-! ### A cache for keys -/

/-- What `GKeyFile` says of a key that is not there. -/
def keyNotFound (key : Bytes) : GError :=
  ⟨"g-key-file-error-quark", 3, lit "Key file does not have key " ++ key⟩

/-- A configuration file of which the groups do not matter. -/
def keyFileOf (strings : List (Bytes × Bytes)) (booleans : List (Bytes × Bool)) : KeyFile where
  getString _ key := (strings.lookup key).elim (.error (keyNotFound key)) .ok
  getBoolean _ key := (booleans.lookup key).elim (.error (keyNotFound key)) .ok

/-- The files as they are delivered, but for `cache_keys`; everything else that start-up needs is there. -/
def deliveredStartup (cacheKeys : Bool) : ApimoduleStartup where
  apimoduleConf := none
  skcConfPath := lit "/opt/skc/etc"
  pkcs11Module _ := ⟨true, some ckrOk⟩
  agent := {
    openfile := fun filename =>
      .ok (if filename = lit "/opt/skc/etc/pkcs11-apimodule.ini" then
        keyFileOf [(lit "keyagent_conf", lit "/opt/skc/etc/key-agent.ini"), (lit "mode", lit "SGX"),
          (lit "module", lit "/opt/lib/libp11sgx.so")] [(lit "debug", false)]
      else
        keyFileOf [(lit "npm-directory", lit "/opt/skc/lib/npm-modules"),
          (lit "stm-directory", lit "/opt/skc/lib/stm-modules"), (lit "keyformat", lit "PEMFILE"),
          (lit "certificate", lit "/opt/skc/store/certificate.pem"),
          (lit "ca_certificate", lit "/opt/skc/store/cms-ca.cert"),
          (lit "certificate_key", lit "/opt/skc/store/certificate_key.pem")]
          [(lit "ssl_verify", true), (lit "cache_keys", cacheKeys), (lit "cache_sessions", false)])
    access := fun _ => true
    handleWildcards := fun pattern =>
      if pattern = lit "/opt/skc/lib/npm-modules/npm_*.so" then [lit "npm_kms.so"]
      else [lit "stm_sgx.so"]
    moduleFile := fun filename =>
      ⟨true, some (if filename = lit "npm_kms.so" then lit "KMS" else lit "SGX"), none⟩
    cache := {
      mkdirWithParents := fun _ => none
      openFromString := fun _ _ => none
      parseCreateTable := fun _ => none
      selectSessions := .ok []
      selectKeys := none }
    pkgdata := lit "/opt/skc" }

/-- With `cache_keys` the cache returns `FALSE`, and the application is told `CKR_OK`. -/
theorem not_starts_up : ¬StartsUp (deliveredStartup true) none := by
  intro h
  obtain ⟨rv, process, hinit, hstarted⟩ := h.apimoduleInit
  have hfound : (apimoduleInit (deliveredStartup true) (.fresh none)).map
      (fun r => (r.1, r.2.once.map KeyagentOnce.ret)) = some (ckrOk, some false) := by
    decide +kernel
  rw [hinit] at hfound
  obtain ⟨hrv, honce⟩ := Prod.mk.inj (Option.some.inj hfound)
  obtain ⟨config, once, -, hsome, -, hret, -⟩ := hstarted hrv
  rw [hsome] at honce
  exact absurd (hret.symm.trans (Option.some.inj honce)) nofun

-- As delivered, everything comes up.
example : (apimoduleInit (deliveredStartup false) (.fresh none)).map
    (fun r => (r.1, r.2.once.map KeyagentOnce.ret)) = some (ckrOk, some true) := by
  decide +kernel

end SkcLibrary
