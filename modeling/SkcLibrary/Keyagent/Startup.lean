import SkcLibrary.Keyagent.Intf

/-!
# Start-up of the agent

`keyagent_init` of `key-agent/src/intf.cpp`, `__keyagent_cache_init` of `cache-init.cpp`, and what
they load. Files, shared objects and the database are what they are found to be: a `Startup` says so.

`Except.error` is a return of `FALSE`, with what is in the error location then; `none` as a result is
a `GError` that is `NULL` and read from.

* `reported_doKeyagentInit_iff` — when `keyagent_init` is right to look at the error only
-/

namespace SkcLibrary

/-! ## What is found -/

/-- A configuration file that could be opened. -/
structure KeyFile where
  /-- `key_config_get_string` -/
  getString : Bytes → Bytes → Except GError Bytes
  /-- `key_config_get_boolean` -/
  getBoolean : Bytes → Bytes → Except GError Bool

/-- `key_config_get_string_optional` -/
def KeyFile.getStringOptional (config : KeyFile) (group key default : Bytes) : Bytes :=
  match config.getString group key with
  | .ok value => value
  | .error _ => default

/-- The shared object of an NPM or an STM. -/
structure ModuleFile where
  /-- It can be opened and has the functions of its interface. -/
  links : Bool
  /-- What its `init` returns, and what it leaves in the error location. -/
  init : Option Bytes × Option GError

/-- What libgda and the file system make of the cache's database. -/
structure CacheFile where
  /-- `g_mkdir_with_parents` -/
  mkdirWithParents : Bytes → Option GError
  /-- `gda_connection_open_from_string`, for a provider and a connection string. -/
  openFromString : Bytes → Bytes → Option GError
  /-- `gda_sql_parser_parse_string` of `CREATE TABLE`; whether the statement succeeds is not asked. -/
  parseCreateTable : Bytes → Option GError
  /-- `SELECT ... FROM sessions`: for each row whether its `swk` is a blob. -/
  selectSessions : Except GError (List Bool)
  /-- `SELECT ... FROM keys` -/
  selectKeys : Option GError

/-- All that start-up finds. -/
structure Startup where
  /-- `key_config_openfile` -/
  openfile : Bytes → Except GError KeyFile
  /-- `access (path, F_OK) == 0` -/
  access : Bytes → Bool
  /-- `__handle_wildcards` -/
  handleWildcards : Bytes → List Bytes
  moduleFile : Bytes → ModuleFile
  cache : CacheFile
  /-- `PKGDATA` -/
  pkgdata : Bytes

/-! ## Paths -/

/-- `g_path_get_dirname` -/
def gPathGetDirname (path : Bytes) : Bytes :=
  match path.reverse.dropWhile (· ≠ 47) with
  | [] => lit "."
  | rest =>
    match rest.dropWhile (· = 47) with
    | [] => lit "/"
    | dir => dir.reverse

/-- `g_path_get_basename` -/
def gPathGetBasename (path : Bytes) : Bytes :=
  if path = [] then lit "."
  else
    match path.reverse.dropWhile (· = 47) with
    | [] => lit "/"
    | rest => (rest.takeWhile (· ≠ 47)).reverse

/-! ## The cache -/

/-- A call that sets the error location if it fails. -/
def failing {α : Type} : Except GError α → Except (Option GError) α
  | .ok a => .ok a
  | .error e => .error (some e)

/-- A call that only fails. -/
def check : Option GError → Except (Option GError) Unit
  | none => .ok ()
  | some e => .error (some e)

/-- `__create_cache_tables` -/
def createCacheTables (cache : CacheFile) : Except (Option GError) Unit := do
  check (cache.parseCreateTable (lit "keys"))
  check (cache.parseCreateTable (lit "sessions"))
  check (cache.parseCreateTable (lit "key_policy_attributes"))
  check (cache.parseCreateTable (lit "key_attributes"))

/-- `__keyagent_cache_loadsessions`: a row without a blob is no session. -/
def keyagentCacheLoadsessions (cache : CacheFile) : Except (Option GError) Unit := do
  let rows ← failing cache.selectSessions
  if rows.all id then pure () else throw none

/-- `keyagent::localcache::full_database_name` -/
def fullDatabaseName (env : Startup) (config : KeyFile) : Bytes :=
  config.getStringOptional (lit "cache") (lit "database_name")
    (env.pkgdata ++ lit "/var/cache/keyagent_cache")

/-- `keyagent::localcache::database_directory` -/
def databaseDirectory (env : Startup) (config : KeyFile) : Bytes :=
  gPathGetDirname (fullDatabaseName env config)

/-- `keyagent::localcache::connection_string` -/
def connectionString (env : Startup) (config : KeyFile) : Bytes :=
  lit "DB_DIR=" ++ databaseDirectory env config ++ lit ";DB_NAME=" ++
    gPathGetBasename (fullDatabaseName env config)

/-- `keyagent::localcache::provider_name` -/
def providerName (config : KeyFile) : Bytes :=
  config.getStringOptional (lit "cache") (lit "database_provider") (lit "SQLite")

/-- The end of `__keyagent_cache_init`: what is cached already is looked at. -/
def cacheLoad (cache : CacheFile) (cacheSessions cacheKeys : Bool) :
    Except (Option GError) Unit := do
  if cacheSessions then
    keyagentCacheLoadsessions cache
  if cacheKeys then
    check cache.selectKeys
  if cacheKeys then
    throw none

/-- The part of `__keyagent_cache_init` for a cache that is used. -/
def cacheOpen (env : Startup) (config : KeyFile) (cacheSessions cacheKeys : Bool) :
    Except (Option GError) Unit := do
  check (env.cache.mkdirWithParents (databaseDirectory env config))
  check (env.cache.openFromString (providerName config) (connectionString env config))
  createCacheTables env.cache
  cacheLoad env.cache cacheSessions cacheKeys

/-- `__keyagent_cache_init` -/
def keyagentCacheInit (env : Startup) (config : KeyFile) : Except (Option GError) Unit := do
  let cacheSessions ← failing (config.getBoolean (lit "cache") (lit "cache_sessions"))
  let cacheKeys ← failing (config.getBoolean (lit "cache") (lit "cache_keys"))
  if !cacheSessions && !cacheKeys then pure ()
  else cacheOpen env config cacheSessions cacheKeys

/-! ## The agent -/

/-- What `__do_keyagent_init` reads from the configuration. -/
structure KeyagentSettings where
  npmDirectory : Bytes
  stmDirectory : Bytes
  config : KeyagentConfig

/-- `keyagent::keyformat`, whether it is `KEYAGENT_KEY_FORMAT_PEM`. -/
def readKeyformat (keyformat : Bytes) : Except GError Bool :=
  if keyformat = lit "PKCS11" then .ok false
  else if keyformat = lit "PEMFILE" then .ok true
  else .error ⟨keyagentErrorDomain, keyagentErrorInvalidKeyformat, lit "Invalid Key Format:" ++
    keyformat ++ lit ", expected key format:{PKCS11/PEMFILE}"⟩

/-- `KEYAGENT_ERROR_INVALID_CONF_VALUE` -/
def invalidConfValue (message : Bytes) : GError :=
  ⟨keyagentErrorDomain, keyagentErrorInvalidConfValue, message⟩

/-- The files that the configuration names are there. -/
def checkFiles (env : Startup) (cert certkey cacert : Bytes) (keyformatPem : Bool) :
    Except GError Unit :=
  if !env.access cert || !env.access cacert then
    .error (invalidConfValue (lit "Invalid Cert Path:" ++ cert ++ lit " or  CA Cert Path:" ++ cacert))
  else if keyformatPem && !env.access certkey then
    .error (invalidConfValue (lit "Invalid Cert Key Path:" ++ certkey))
  else .ok ()

/-- The part of `__do_keyagent_init` that reads the configuration. -/
def readSettings (env : Startup) (filename : Bytes) : Except GError (KeyFile × KeyagentSettings) := do
  let config ← env.openfile filename
  let npmDirectory ← config.getString (lit "core") (lit "npm-directory")
  let stmDirectory ← config.getString (lit "core") (lit "stm-directory")
  let cert ← config.getString (lit "keyserver_credentials") (lit "certificate")
  let certkey ← config.getString (lit "keyserver_credentials") (lit "certificate_key")
  let cacert ← config.getString (lit "keyserver_credentials") (lit "ca_certificate")
  let keyformat ← config.getString (lit "keyserver_credentials") (lit "keyformat")
  let keyformatPem ← readKeyformat keyformat
  checkFiles env cert certkey cacert keyformatPem
  let sslVerify ← config.getBoolean (lit "keyserver_credentials") (lit "ssl_verify")
  pure (config, ⟨npmDirectory, stmDirectory, ⟨cert, certkey, cacert, sslVerify, keyformatPem⟩⟩)

/-- `npm_directory "/npm_*.so"` -/
def KeyagentSettings.npmPattern (settings : KeyagentSettings) : Bytes :=
  settings.npmDirectory ++ lit "/npm_*.so"

/-- `stm_directory "/stm_*.so"` -/
def KeyagentSettings.stmPattern (settings : KeyagentSettings) : Bytes :=
  settings.stmDirectory ++ lit "/stm_*.so"

/-- What both kinds of modules have in common: the label, if the module says one, or its error. -/
def initializeModule (file : ModuleFile) : Option (Option Bytes) :=
  if file.links = false then some none
  else
    match file.init with
    | (some name, _) => some (some name)
    -- `tmp_error->message` is logged
    | (none, tmpError) => tmpError.map fun _ => none

/-- `__initialize_npm` -/
def initializeNpm (env : Startup) (filename : Bytes) : Option (Option Bytes) :=
  initializeModule (env.moduleFile filename)

/-- `__initialize_stm` -/
def initializeStm (env : Startup) (filename : Bytes) : Option (Option Bytes) :=
  initializeModule (env.moduleFile filename)

/-- `g_list_foreach (modules, ...)`: the labels of the modules that came up. -/
def initializeModules (load : Bytes → Option (Option Bytes)) : List Bytes → Option (List Bytes)
  | [] => some []
  | filename :: rest => do
    let label ← load filename
    let labels ← initializeModules load rest
    pure (label.toList ++ labels)

/-- What is left of `__do_keyagent_init`. -/
structure KeyagentOnce where
  /-- What it returned. `keyagent_init` does not look at it. -/
  ret : Bool
  /-- The static `error` of `keyagent_init`. -/
  error : Option GError
  /-- The labels in `npm_hash` and in `stm_hash`. -/
  npms : List Bytes
  stms : List Bytes

/-- The STMs and the cache; `__keyagent_session_init` does not fail. -/
def keyagentLoadStms (env : Startup) (config : KeyFile) (settings : KeyagentSettings)
    (npms : List Bytes) : Option KeyagentOnce :=
  match env.handleWildcards settings.stmPattern with
  | [] => some ⟨false, some (invalidConfValue (lit "Invalid STM module path:" ++
      settings.stmPattern)), npms, []⟩
  | stmFiles => do
    let stms ← initializeModules (initializeStm env) stmFiles
    match keyagentCacheInit env config with
    | .ok _ => some ⟨true, none, npms, stms⟩
    | .error error => some ⟨false, error, npms, stms⟩

/-- `__do_keyagent_init`, with the configuration read. -/
def keyagentLoadModules (env : Startup) (config : KeyFile) (settings : KeyagentSettings) :
    Option KeyagentOnce :=
  match env.handleWildcards settings.npmPattern with
  | [] => some ⟨false, some (invalidConfValue (lit "Invalid NPM module path:" ++
      settings.npmPattern)), [], []⟩
  | npmFiles => do
    let npms ← initializeModules (initializeNpm env) npmFiles
    keyagentLoadStms env config settings npms

/-- `__do_keyagent_init` -/
def doKeyagentInit (env : Startup) (filename : Option Bytes) : Option KeyagentOnce :=
  match filename with
  | none => some ⟨false, some (invalidConfValue (lit "Invalid Config file:")), [], []⟩
  | some filename =>
    match readSettings env filename with
    | .error error => some ⟨false, some error, [], []⟩
    | .ok (config, settings) => keyagentLoadModules env config settings

/-- `keyagent_init`: what was found the first time is what is said ever after. -/
def keyagentInit (once : Option KeyagentOnce) (env : Startup) (filename : Option Bytes) :
    Option (Bool × Option GError × KeyagentOnce) := do
  let once ← once.elim (doKeyagentInit env filename) some
  match once.error with
  | some error => some (false, some error, once)
  | none => some (true, none, once)

/-- `keyagent_apimodule_register` of a label; it sets no error. -/
def keyagentApimoduleRegister (once : KeyagentOnce) (label : Option Bytes) : Bool :=
  match label with
  | some label => label ∈ once.stms
  | none => true

/-! ## What goes wrong without an error -/

section

variable {α β : Type}

@[simp] theorem failing_eq_ok {x : Except GError α} {a : α} : failing x = .ok a ↔ x = .ok a := by
  cases x <;> simp [failing]

@[simp] theorem failing_ne_silent {x : Except GError α} : failing x ≠ .error none := by
  cases x <;> simp [failing]

@[simp] theorem check_eq_ok {x : Option GError} : check x = .ok () ↔ x = none := by
  cases x <;> simp [check]

@[simp] theorem check_ne_silent {x : Option GError} : check x ≠ .error none := by
  cases x <;> simp [check]

/-- A sequence of calls succeeds if each of them does. -/
theorem unit_bind_eq_ok {x : Except (Option GError) Unit} {f : Unit → Except (Option GError) β}
    {b : β} : (x >>= f) = .ok b ↔ x = .ok () ∧ f () = .ok b := by
  cases x with
  | error e => simp [bind, Except.bind]
  | ok a => simp [bind, Except.bind]

/-- It fails without an error where one of them does. -/
theorem unit_bind_silent {x : Except (Option GError) Unit} {f : Unit → Except (Option GError) β} :
    (x >>= f) = .error none ↔ x = .error none ∨ (x = .ok () ∧ f () = .error none) := by
  cases x with
  | error e => simp [bind, Except.bind]
  | ok a => simp [bind, Except.bind]

theorem failing_bind_silent {x : Except GError α} {f : α → Except (Option GError) β} :
    (failing x >>= f) = .error none ↔ ∃ a, x = .ok a ∧ f a = .error none := by
  cases x with
  | error e => simp [failing, bind, Except.bind]
  | ok a => simp [failing, bind, Except.bind]

end

/-- The database of the cache is there, with its tables. -/
structure CacheOpens (env : Startup) (config : KeyFile) : Prop where
  directory : env.cache.mkdirWithParents (databaseDirectory env config) = none
  connection :
    env.cache.openFromString (providerName config) (connectionString env config) = none
  tables : ∀ table ∈ [lit "keys", lit "sessions", lit "key_policy_attributes", lit "key_attributes"],
    env.cache.parseCreateTable table = none

/-! ### The cache -/

/-- A session has no blob, or keys are to be cached and nothing else is wrong. -/
def LoadSilent (cache : CacheFile) (cacheSessions cacheKeys : Bool) : Prop :=
  (cacheSessions = true ∧ ∃ rows, cache.selectSessions = .ok rows ∧ false ∈ rows) ∨
    (cacheKeys = true ∧ cache.selectKeys = none ∧
      (cacheSessions = true → ∃ rows, cache.selectSessions = .ok rows))

/-- The cache comes up: nobody uses it, or it is used for sessions only and all of them have a blob. -/
def CacheUp (env : Startup) (config : KeyFile) : Prop :=
  config.getBoolean (lit "cache") (lit "cache_keys") = .ok false ∧
    (config.getBoolean (lit "cache") (lit "cache_sessions") = .ok false ∨
      (config.getBoolean (lit "cache") (lit "cache_sessions") = .ok true ∧ CacheOpens env config ∧
        ∃ rows, env.cache.selectSessions = .ok rows ∧ false ∉ rows))

/-- The cache fails without an error. -/
def CacheSilent (env : Startup) (config : KeyFile) : Prop :=
  ∃ cacheSessions cacheKeys,
    config.getBoolean (lit "cache") (lit "cache_sessions") = .ok cacheSessions ∧
    config.getBoolean (lit "cache") (lit "cache_keys") = .ok cacheKeys ∧
    CacheOpens env config ∧ LoadSilent env.cache cacheSessions cacheKeys

theorem keyagentCacheLoadsessions_eq {cache : CacheFile} {rows : List Bool}
    (h : cache.selectSessions = .ok rows) :
    keyagentCacheLoadsessions cache = if false ∈ rows then .error none else .ok () := by
  have hall : rows.all id = true ↔ false ∉ rows := by
    rw [List.all_eq_true]
    exact ⟨fun h hm => Bool.false_ne_true (h false hm), fun h b hb => by
      cases b
      · exact absurd hb h
      · rfl⟩
  unfold keyagentCacheLoadsessions
  rw [h]
  by_cases hm : false ∈ rows
  · rw [if_pos hm]
    exact if_neg (mt hall.mp (not_not.mpr hm))
  · rw [if_neg hm]
    exact if_pos (hall.mpr hm)

theorem keyagentCacheLoadsessions_silent {cache : CacheFile} :
    keyagentCacheLoadsessions cache = .error none ↔
      ∃ rows, cache.selectSessions = .ok rows ∧ false ∈ rows := by
  cases h : cache.selectSessions with
  | error e => simp [keyagentCacheLoadsessions, h, failing_bind_silent]
  | ok rows => simp [keyagentCacheLoadsessions_eq h]

theorem keyagentCacheLoadsessions_eq_ok {cache : CacheFile} :
    keyagentCacheLoadsessions cache = .ok () ↔
      ∃ rows, cache.selectSessions = .ok rows ∧ false ∉ rows := by
  cases h : cache.selectSessions with
  | error e => simp [keyagentCacheLoadsessions, h, failing, bind, Except.bind]
  | ok rows => simp [keyagentCacheLoadsessions_eq h]

theorem createCacheTables_ne_silent {cache : CacheFile} : createCacheTables cache ≠ .error none := by
  simp [createCacheTables, unit_bind_silent]

theorem createCacheTables_eq_ok {cache : CacheFile} : createCacheTables cache = .ok () ↔
    ∀ table ∈ [lit "keys", lit "sessions", lit "key_policy_attributes", lit "key_attributes"],
      cache.parseCreateTable table = none := by
  simp [createCacheTables, unit_bind_eq_ok]

theorem cacheLoad_silent {cache : CacheFile} {cacheSessions cacheKeys : Bool} :
    cacheLoad cache cacheSessions cacheKeys = .error none ↔
      LoadSilent cache cacheSessions cacheKeys := by
  unfold cacheLoad LoadSilent
  cases cacheSessions with
  | false =>
    cases cacheKeys with
    | false => simp [pure, Except.pure]
    | true => simp [unit_bind_silent, throw, throwThe, MonadExceptOf.throw]
  | true =>
    cases cacheKeys with
    | false => simp [unit_bind_silent, keyagentCacheLoadsessions_silent, pure, Except.pure]
    | true =>
      simp only [if_true, unit_bind_silent, keyagentCacheLoadsessions_silent, check_ne_silent,
        keyagentCacheLoadsessions_eq_ok, check_eq_ok, throw, throwThe, MonadExceptOf.throw]
      constructor
      · rintro (h | ⟨⟨rows, hrows, -⟩, h⟩)
        · exact .inl ⟨trivial, h⟩
        · exact .inr ⟨trivial, by simpa using h, fun _ => ⟨rows, hrows⟩⟩
      · rintro (⟨-, h⟩ | ⟨-, hkeys, h⟩)
        · exact .inl h
        · obtain ⟨rows, hrows⟩ := h trivial
          by_cases hm : false ∈ rows
          · exact .inl ⟨rows, hrows, hm⟩
          · exact .inr ⟨⟨rows, hrows, hm⟩, by simp [hkeys]⟩

theorem cacheOpen_silent {env : Startup} {config : KeyFile} {cacheSessions cacheKeys : Bool} :
    cacheOpen env config cacheSessions cacheKeys = .error none ↔
      CacheOpens env config ∧ LoadSilent env.cache cacheSessions cacheKeys := by
  unfold cacheOpen
  simp only [unit_bind_silent, check_ne_silent, createCacheTables_ne_silent, false_or, check_eq_ok,
    createCacheTables_eq_ok, cacheLoad_silent]
  constructor
  · rintro ⟨hdir, hconn, htables, hload⟩
    exact ⟨⟨hdir, hconn, htables⟩, hload⟩
  · rintro ⟨⟨hdir, hconn, htables⟩, hload⟩
    exact ⟨hdir, hconn, htables, hload⟩

/-- **`__keyagent_cache_init`** returns `FALSE` without an error. -/
theorem keyagentCacheInit_silent {env : Startup} {config : KeyFile} :
    keyagentCacheInit env config = .error none ↔ CacheSilent env config := by
  unfold keyagentCacheInit CacheSilent
  simp only [failing_bind_silent]
  constructor
  · rintro ⟨cacheSessions, hsessions, cacheKeys, hkeys, h⟩
    refine ⟨cacheSessions, cacheKeys, hsessions, hkeys, ?_⟩
    split at h
    · cases h
    · exact cacheOpen_silent.mp h
  · rintro ⟨cacheSessions, cacheKeys, hsessions, hkeys, hopens, hload⟩
    refine ⟨cacheSessions, hsessions, cacheKeys, hkeys, ?_⟩
    have hused : ¬(!cacheSessions && !cacheKeys) = true := by
      rcases hload with ⟨rfl, -⟩ | ⟨rfl, -⟩ <;> simp
    rw [if_neg hused]
    exact cacheOpen_silent.mpr ⟨hopens, hload⟩

theorem cacheLoad_eq_ok {cache : CacheFile} {cacheSessions cacheKeys : Bool} :
    cacheLoad cache cacheSessions cacheKeys = .ok () ↔ cacheKeys = false ∧
      (cacheSessions = true → ∃ rows, cache.selectSessions = .ok rows ∧ false ∉ rows) := by
  unfold cacheLoad
  cases cacheSessions with
  | false =>
    cases cacheKeys with
    | false => simp [pure, Except.pure]
    | true => simp [unit_bind_eq_ok, throw, throwThe, MonadExceptOf.throw]
  | true =>
    cases cacheKeys with
    | false => simp [unit_bind_eq_ok, keyagentCacheLoadsessions_eq_ok, pure, Except.pure]
    | true => simp [unit_bind_eq_ok, throw, throwThe, MonadExceptOf.throw]

theorem cacheOpen_eq_ok {env : Startup} {config : KeyFile} {cacheSessions cacheKeys : Bool} :
    cacheOpen env config cacheSessions cacheKeys = .ok () ↔ CacheOpens env config ∧
      cacheKeys = false ∧
      (cacheSessions = true → ∃ rows, env.cache.selectSessions = .ok rows ∧ false ∉ rows) := by
  unfold cacheOpen
  simp only [unit_bind_eq_ok, check_eq_ok, createCacheTables_eq_ok, cacheLoad_eq_ok]
  constructor
  · rintro ⟨hdir, hconn, htables, hload⟩
    exact ⟨⟨hdir, hconn, htables⟩, hload⟩
  · rintro ⟨⟨hdir, hconn, htables⟩, hload⟩
    exact ⟨hdir, hconn, htables, hload⟩

/-- **`__keyagent_cache_init`** returns `TRUE`. -/
theorem keyagentCacheInit_eq_ok {env : Startup} {config : KeyFile} :
    keyagentCacheInit env config = .ok () ↔ CacheUp env config := by
  unfold keyagentCacheInit CacheUp
  cases config.getBoolean (lit "cache") (lit "cache_sessions") with
  | error e => simp [failing, bind, Except.bind]
  | ok cacheSessions =>
    cases config.getBoolean (lit "cache") (lit "cache_keys") with
    | error e => simp [failing, bind, Except.bind]
    | ok cacheKeys =>
      cases cacheSessions <;> cases cacheKeys <;>
        simp [failing, bind, Except.bind, cacheOpen_eq_ok, pure, Except.pure]

/-! ### The modules -/

/-- A module that returns `NULL` from its `init` and no error. -/
def ModuleFile.Silent (file : ModuleFile) : Prop := file.links = true ∧ file.init = (none, none)

/-- A module that comes up under the given label. -/
def ModuleFile.Loads (file : ModuleFile) (label : Bytes) : Prop :=
  file.links = true ∧ file.init.1 = some label

theorem initializeModule_eq_none {file : ModuleFile} :
    initializeModule file = none ↔ file.Silent := by
  unfold initializeModule ModuleFile.Silent
  obtain ⟨links, name, tmpError⟩ := file
  cases links <;> cases name <;> cases tmpError <;> simp

theorem initializeModule_eq_label {file : ModuleFile} {label : Bytes} :
    initializeModule file = some (some label) ↔ file.Loads label := by
  unfold initializeModule ModuleFile.Loads
  obtain ⟨links, name, tmpError⟩ := file
  cases links <;> cases name <;> cases tmpError <;> simp

theorem initializeModules_eq_none {load : Bytes → Option (Option Bytes)} {files : List Bytes} :
    initializeModules load files = none ↔ ∃ filename ∈ files, load filename = none := by
  induction files with
  | nil => simp [initializeModules]
  | cons filename rest ih =>
    cases hload : load filename with
    | none => simp [initializeModules, hload]
    | some label => cases hrest : initializeModules load rest <;> simp_all [initializeModules]

theorem mem_initializeModules {load : Bytes → Option (Option Bytes)} {files labels : List Bytes}
    (h : initializeModules load files = some labels) {label : Bytes} :
    label ∈ labels ↔ ∃ filename ∈ files, load filename = some (some label) := by
  induction files generalizing labels with
  | nil =>
    obtain rfl := Option.some.inj h
    simp
  | cons filename rest ih =>
    simp only [initializeModules, Option.bind_eq_bind, Option.bind_eq_some_iff] at h
    obtain ⟨first, hfirst, more, hmore, h⟩ := h
    obtain rfl := Option.some.inj h
    simp [ih hmore, hfirst, Option.mem_toList]

/-! ### The agent -/

/-- Every module that is loaded says its name or what is wrong with it. -/
def ModulesSpeak (env : Startup) (files : List Bytes) : Prop :=
  ∀ filename ∈ files, ¬(env.moduleFile filename).Silent

/--
As far as start-up gets after the NPMs: the STMs speak, the cache does not fail in silence, and if it
comes up the library is `loaded` and there is an STM for the mode.
-/
def StmsSayWhy (env : Startup) (config : KeyFile) (settings : KeyagentSettings) (loaded : Prop)
    (mode : Bytes) : Prop :=
  env.handleWildcards settings.stmPattern ≠ [] →
    ModulesSpeak env (env.handleWildcards settings.stmPattern) ∧ ¬CacheSilent env config ∧
    (CacheUp env config → loaded ∧ ∃ filename ∈ env.handleWildcards settings.stmPattern,
      (env.moduleFile filename).Loads mode)

/-- As far as start-up gets with its modules, it says what goes wrong. -/
def SaysWhy (env : Startup) (config : KeyFile) (settings : KeyagentSettings) (loaded : Prop)
    (mode : Bytes) : Prop :=
  env.handleWildcards settings.npmPattern ≠ [] →
    ModulesSpeak env (env.handleWildcards settings.npmPattern) ∧
    StmsSayWhy env config settings loaded mode

/--
Without an error nothing has gone wrong: the library is `loaded`, `__do_keyagent_init` returned `TRUE`
and there is an STM for the mode.
-/
def Reported (result : Option KeyagentOnce) (loaded : Prop) (mode : Bytes) : Prop :=
  ∃ once, result = some once ∧
    (once.error = none → loaded ∧ once.ret = true ∧ mode ∈ once.stms)

theorem reported_of_error {once : KeyagentOnce} {error : GError} (h : once.error = some error)
    (loaded : Prop) (mode : Bytes) : Reported (some once) loaded mode :=
  ⟨once, rfl, fun hnone => absurd (h.symm.trans hnone) nofun⟩

theorem not_reported_none {loaded : Prop} {mode : Bytes} : ¬Reported none loaded mode := by
  rintro ⟨once, h, -⟩
  cases h

theorem initializeModules_npm_eq_none {env : Startup} {files : List Bytes} :
    initializeModules (initializeNpm env) files = none ↔ ¬ModulesSpeak env files := by
  simp [initializeModules_eq_none, initializeNpm, initializeModule_eq_none, ModulesSpeak]

theorem initializeModules_stm_eq_none {env : Startup} {files : List Bytes} :
    initializeModules (initializeStm env) files = none ↔ ¬ModulesSpeak env files := by
  simp [initializeModules_eq_none, initializeStm, initializeModule_eq_none, ModulesSpeak]

theorem mem_initializeModules_stm {env : Startup} {files labels : List Bytes} {mode : Bytes}
    (h : initializeModules (initializeStm env) files = some labels) :
    mode ∈ labels ↔ ∃ filename ∈ files, (env.moduleFile filename).Loads mode := by
  simp only [mem_initializeModules h, initializeStm, initializeModule_eq_label]

theorem reported_loadStms_iff {env : Startup} {config : KeyFile} {settings : KeyagentSettings}
    {npms : List Bytes} {loaded : Prop} {mode : Bytes} :
    Reported (keyagentLoadStms env config settings npms) loaded mode ↔
      StmsSayWhy env config settings loaded mode := by
  unfold keyagentLoadStms StmsSayWhy
  generalize env.handleWildcards settings.stmPattern = files
  cases files with
  | nil => exact iff_of_true (reported_of_error rfl loaded mode) fun h => absurd rfl h
  | cons file files =>
    rw [imp_iff_right (List.cons_ne_nil _ _)]
    cases hstms : initializeModules (initializeStm env) (file :: files) with
    | none =>
      have hspeak := initializeModules_stm_eq_none.mp hstms
      simp only [hstms, Option.bind_eq_bind, Option.bind_none]
      exact iff_of_false not_reported_none fun h => hspeak h.1
    | some stms =>
      have hspeak : ModulesSpeak env (file :: files) := by
        by_contra h
        exact absurd (hstms.symm.trans (initializeModules_stm_eq_none.mpr h)) nofun
      rw [and_iff_right hspeak, ← mem_initializeModules_stm hstms, ← keyagentCacheInit_eq_ok,
        ← keyagentCacheInit_silent]
      simp only [hstms, Option.bind_eq_bind, Option.bind_some]
      -- the cache is read last: only its failure can go unreported here
      cases hcache : keyagentCacheInit env config with
      | ok u =>
        constructor
        · rintro ⟨once, honce, h⟩
          obtain rfl := Option.some.inj honce
          obtain ⟨hloaded, -, hmode⟩ := h rfl
          exact ⟨nofun, fun _ => ⟨hloaded, hmode⟩⟩
        · rintro ⟨-, h⟩
          obtain ⟨hloaded, hmode⟩ := h rfl
          exact ⟨_, rfl, fun _ => ⟨hloaded, rfl, hmode⟩⟩
      | error error =>
        cases error with
        | none =>
          refine iff_of_false ?_ fun h => h.1 rfl
          rintro ⟨once, honce, h⟩
          obtain rfl := Option.some.inj honce
          exact absurd (h rfl).2.1 Bool.false_ne_true
        | some e => exact iff_of_true (reported_of_error rfl loaded mode) ⟨nofun, nofun⟩

/-- The modules are loaded, and it is said what came of it. -/
theorem reported_loadModules_iff {env : Startup} {config : KeyFile} {settings : KeyagentSettings}
    {loaded : Prop} {mode : Bytes} :
    Reported (keyagentLoadModules env config settings) loaded mode ↔
      SaysWhy env config settings loaded mode := by
  unfold keyagentLoadModules SaysWhy
  generalize env.handleWildcards settings.npmPattern = files
  cases files with
  | nil => exact iff_of_true (reported_of_error rfl loaded mode) fun h => absurd rfl h
  | cons file files =>
    rw [imp_iff_right (List.cons_ne_nil _ _)]
    cases hnpms : initializeModules (initializeNpm env) (file :: files) with
    | none =>
      have hspeak := initializeModules_npm_eq_none.mp hnpms
      simp only [hnpms, Option.bind_eq_bind, Option.bind_none]
      exact iff_of_false not_reported_none fun h => hspeak h.1
    | some npms =>
      have hspeak : ModulesSpeak env (file :: files) := by
        by_contra h
        exact absurd (hnpms.symm.trans (initializeModules_npm_eq_none.mpr h)) nofun
      rw [and_iff_right hspeak]
      simp only [hnpms, Option.bind_eq_bind, Option.bind_some]
      exact reported_loadStms_iff

/-- The configuration file is given and read, and what is started with it says what goes wrong. -/
def StartupSaysWhy (env : Startup) (filename : Option Bytes) (loaded : Prop) (mode : Bytes) : Prop :=
  ∀ name config settings, filename = some name → readSettings env name = .ok (config, settings) →
    SaysWhy env config settings loaded mode

/-- **`__do_keyagent_init`**: what `keyagent_init` makes of it is right where nothing fails in silence. -/
theorem reported_doKeyagentInit_iff {env : Startup} {filename : Option Bytes} {loaded : Prop}
    {mode : Bytes} :
    Reported (doKeyagentInit env filename) loaded mode ↔ StartupSaysWhy env filename loaded mode := by
  unfold doKeyagentInit StartupSaysWhy
  cases filename with
  | none => exact iff_of_true (reported_of_error rfl loaded mode) nofun
  | some name =>
    cases hread : readSettings env name with
    | error e =>
      simp only [hread]
      refine iff_of_true (reported_of_error rfl loaded mode) fun name' config settings hname h => ?_
      obtain rfl := Option.some.inj hname
      exact absurd (hread.symm.trans h) nofun
    | ok found =>
      obtain ⟨config, settings⟩ := found
      simp only [hread, reported_loadModules_iff]
      constructor
      · intro h name' config' settings' hname hread'
        obtain rfl := Option.some.inj hname
        obtain ⟨rfl, rfl⟩ := Prod.mk.inj (Except.ok.inj (hread.symm.trans hread'))
        exact h
      · intro h
        exact h name config settings rfl hread

end SkcLibrary
