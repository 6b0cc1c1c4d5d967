import SkcLibrary.Types
import SkcLibrary.Interaction.Sat

/-!
# Shared state and the calls of the library

The process-wide variables of the key agent and of the api module, and the operations the
library issues: reads and writes of those variables, the agent's lock, and everything that
leaves the repository (KBS, PKCS#11 module, files, random numbers, database inserts).

`Skc` is the monad of the library's C functions. A C function that takes `GError **err` takes
the current content of the location and returns the new one.
-/

namespace SkcLibrary

open Interaction

/-! ## The local cache (`key-agent/src/cache-init.cpp`) -/

/-- A row of `sessions`. -/
structure SessionRow where
  id : Int
  stmLabel : Bytes
  swk : Bytes
  sessionId : Bytes
  swkType : Bytes

/-- A row of `keys`. -/
structure KeyRow where
  id : Int
  sealedData : Bytes
  sessionId : Bytes
  keyType : Int
  url : Bytes

/-- A row of `key_attributes`. -/
structure KeyAttrRow where
  keyattrId : Int
  keyId : Int
  attrName : Bytes
  attrValue : Bytes

/-- The three tables and their `AUTOINCREMENT` counters. -/
structure CacheDb where
  sessions : List SessionRow
  keys : List KeyRow
  keyAttributes : List KeyAttrRow
  nextSessionId : Int
  nextKeyId : Int
  nextKeyattrId : Int

/-- `keyagent::localcache` -/
structure Localcache where
  cacheSessions : Bool
  cacheKeys : Bool
  fakeCacheIds : Int32
  /-- `connection_pointer`; `NULL` when both caches are off. -/
  connection : Option CacheDb
  /-- `global_delete_list`, while `global_model` is set. -/
  globalDeleteList : Option (List Int)

/-! ## Variables -/

/-- The variables of namespace `keyagent` that change after start-up. -/
structure Keyagent where
  stmHash : GHashTable GQuark KeyagentStmReal
  keyHash : GHashTable Gpointer KeyagentKeyReal
  sessionHash : GHashTable Gpointer SessionRef
  apimoduleLoadkeyHash : GHashTable Bytes KeyagentRequest
  apimoduleEnabled : Bool
  /-- All `keyagent_session_real` objects ever allocated; none is freed. -/
  sessions : List KeyagentSessionReal
  localcache : Localcache

/-- The variables of the api module that change after start-up. -/
structure Apimodule where
  apimoduleTokenHash : GHashTable Bytes TokenRef
  /-- All `apimodule_token` objects that were cached; none of them is freed. -/
  tokens : List ApimoduleToken
  preloadKeysFlag : UInt32

/-- A write through a pointer to a cached token. -/
def Apimodule.mapToken (m : Apimodule) (atoken : TokenRef) (f : ApimoduleToken → ApimoduleToken) :
    Apimodule :=
  { m with tokens := m.tokens.modify atoken f }

/-- A new object goes into `apimodule_token_hash`. -/
def Apimodule.addToken (m : Apimodule) (token : ApimoduleToken) : Apimodule :=
  { m with
    apimoduleTokenHash := m.apimoduleTokenHash.insert token.tokenLabel m.tokens.length
    tokens := m.tokens ++ [token] }

/-! ## Calls -/

/-- The mechanisms the library unwraps with. -/
inductive CkMechanism where
  | rsaPkcsOaep
  | aesGcm (iv : Bytes) (tagSize : Nat)
  deriving DecidableEq

/-- The part of an unwrapping template that names the new object. -/
structure CkTemplate where
  objectClass : Nat
  label : Bytes
  id : Bytes
  token : Bool
  deriving DecidableEq

/-- The functions of the wrapped PKCS#11 module. -/
inductive CkCall where
  | cInitialize
  | cFinalize
  | cGetSlotListCount
  | cGetSlotList (nslots : Nat)
  | cGetTokenInfo (slot : Nat)
  | cInitToken (slot : Nat) (pin label : Bytes)
  | cOpenSession (slot : Nat)
  | cCloseSession (session : Nat)
  | cLogin (session : Nat) (userType : CkUser) (pin : Bytes)
  | cLogout (session : Nat)
  | cInitPin (session : Nat) (pin : Bytes)
  | cFindObjectsInit (session : Nat) (label id : Bytes)
  | cFindObjects (session : Nat)
  | cFindObjectsFinal (session : Nat)
  | cGetAttributeValue (session object : Nat)
  | cGenerateKeyPair (session : Nat) (label id : Bytes)
  | cWrapKeySize (session : Nat) (policy : Int) (nonce : Bytes) (publicKey : Nat)
  | cWrapKey (session : Nat) (policy : Int) (nonce : Bytes) (publicKey : Nat) (quoteLen : Nat)
  | cUnwrapKey (session : Nat) (mechanism : CkMechanism) (unwrappingKey : Nat) (wrapped : Bytes)
      (template : CkTemplate)

/-- Return codes, with the output parameters. -/
abbrev CkCall.Ans : CkCall → Type
  | .cGetSlotListCount => CkRv × Nat
  | .cGetSlotList _ => CkRv × List Nat
  | .cGetTokenInfo _ => CkRv × Bytes
  | .cOpenSession _ => CkRv × Nat
  | .cFindObjects _ => CkRv × List Nat
  | .cGenerateKeyPair _ _ _ => CkRv × Nat × Nat
  | .cWrapKeySize _ _ _ _ => CkRv × Nat
  | .cWrapKey _ _ _ _ _ => CkRv × Bytes
  | .cUnwrapKey _ _ _ _ _ => CkRv × Nat
  | _ => CkRv

/-- The operations of an STM module (`key-agent/stm/stm.h`); `label` is the STM's. -/
inductive StmCall where
  | createChallenge (label : Bytes) (details : KeyagentStmCreateChallengeDetails)
      (err : Option GError)
  | setSession (label : Bytes) (details : KeyagentStmSessionDetails) (err : Option GError)
  | loadKey (label : Bytes) (details : KeyagentStmLoadkeyDetails) (err : Option GError)

/-- What an STM operation returns, the challenge it leaves, and its error location. -/
abbrev StmCall.Ans : StmCall → Type
  | .createChallenge _ _ _ => Bool × Option Bytes × Option GError
  | .setSession _ _ _ => Bool × Option GError
  | .loadKey _ _ _ => Bool × Option GError

/-- A table of the cache database. -/
inductive CacheTable where
  | sessions
  | keys
  | keyAttributes
  deriving DecidableEq

/-- Bytes of an array whose content nobody set. -/
abbrev Uninitialised (n : Nat) := { l : Bytes // l.length = n }

inductive Call where
  /-- Read the agent's variables. -/
  | getKeyagent
  /-- Write the agent's variables. -/
  | modifyKeyagent (f : Keyagent → Keyagent)
  /-- The order in which `session_hash` is iterated. -/
  | foreachSession
  /-- Read the api module's variables. -/
  | getApimodule
  /-- Write through a pointer to a cached token. -/
  | writeToken (atoken : TokenRef) (f : ApimoduleToken → ApimoduleToken)
  /-- `g_hash_table_insert (apimodule_token_hash, label, token)`, of a new object. -/
  | cacheToken (token : ApimoduleToken)
  /-- `g_atomic_int_add (&preload_keys_flag, 1)` -/
  | atomicIntAdd
  /-- `g_rw_lock_writer_lock (&keyagent::rwlock)` -/
  | rwLockWriterLock
  /-- `g_rw_lock_writer_unlock (&keyagent::rwlock)` -/
  | rwLockWriterUnlock
  /-- `uuid_generate_v4`, as text. -/
  | generateUuid
  /-- An automatic array that is not initialised. -/
  | uninitialised (n : Nat)
  /-- `skc_https_send` -/
  | httpsSend (request : HttpRequest)
  /-- Whether an `INSERT` into the cache fails, and with which error. -/
  | insertRow (table : CacheTable)
  /-- The lines of a file, each with its newline; `none` if it cannot be opened. -/
  | readLines (filename : Bytes)
  /-- `calloc` -/
  | calloc (n : Nat)
  /-- An operation of an STM module that is not modelled. -/
  | stm (c : StmCall)
  /-- The wrapped PKCS#11 module. -/
  | ck (c : CkCall)
  /-- A memory error. There is no answer. -/
  | fault (reason : String)
  /-- A nesting of `C_Initialize` deeper than the model follows. There is no answer. -/
  | outOfFuel

abbrev Call.Ans : Call → Type
  | .getKeyagent => Keyagent
  | .modifyKeyagent _ => Unit
  | .foreachSession => List SessionRef
  | .getApimodule => Apimodule
  | .writeToken _ _ => Unit
  | .cacheToken _ => TokenRef
  | .atomicIntAdd => UInt32
  | .rwLockWriterLock => Unit
  | .rwLockWriterUnlock => Unit
  | .generateUuid => Bytes
  | .uninitialised n => Uninitialised n
  | .httpsSend _ => HttpResponse
  | .insertRow _ => Option GError
  | .readLines _ => Option (List Bytes)
  | .calloc _ => Bool
  | .stm c => c.Ans
  | .ck c => c.Ans
  | .fault _ => Empty
  | .outOfFuel => Empty

/-- The calls of the library. -/
abbrev skcSig : Sig := ⟨Call, Call.Ans⟩

/-- The monad of the library's functions. -/
abbrev Skc (α : Type) := Prog skcSig α

namespace Skc

def keyagent : Skc Keyagent := Prog.lift (S := skcSig) .getKeyagent

def modifyKeyagent (f : Keyagent → Keyagent) : Skc Unit :=
  Prog.lift (S := skcSig) (.modifyKeyagent f)

def foreachSession : Skc (List SessionRef) := Prog.lift (S := skcSig) .foreachSession

def apimodule : Skc Apimodule := Prog.lift (S := skcSig) .getApimodule

/-- A memory error ends the process. -/
def fault {α : Type} (reason : String) : Skc α :=
  .call (S := skcSig) (.fault reason) fun a => nomatch a

/-- Deeper than the model follows. -/
def outOfFuel {α : Type} : Skc α := .call (S := skcSig) .outOfFuel fun a => nomatch a

/-- A call of the wrapped PKCS#11 module. -/
def ck (c : CkCall) : Skc c.Ans := Prog.lift (S := skcSig) (.ck c)

/-- A pointer that is dereferenced. -/
def deref {α : Type} (p : Option α) (reason : String) : Skc α :=
  match p with
  | some a => pure a
  | none => fault reason

section

variable {α β : Type}

theorem keyagent_bind (f : Keyagent → Skc α) :
    keyagent >>= f = .call (S := skcSig) .getKeyagent f := rfl

theorem modifyKeyagent_bind (g : Keyagent → Keyagent) (f : Unit → Skc α) :
    modifyKeyagent g >>= f = .call (S := skcSig) (.modifyKeyagent g) f := rfl

theorem foreachSession_bind (f : List SessionRef → Skc α) :
    foreachSession >>= f = .call (S := skcSig) .foreachSession f := rfl

theorem apimodule_bind (f : Apimodule → Skc α) :
    apimodule >>= f = .call (S := skcSig) .getApimodule f := rfl

theorem ck_bind (c : CkCall) (f : c.Ans → Skc α) :
    ck c >>= f = .call (S := skcSig) (.ck c) f := rfl

/-- Nothing happens after a memory error. -/
theorem fault_bind (reason : String) (f : α → Skc β) : (fault reason >>= f) = fault reason :=
  congrArg (Prog.call (S := skcSig) (.fault reason)) (funext fun a => nomatch a)

@[simp] theorem deref_some (a : α) (reason : String) : deref (some a) reason = pure a := rfl

@[simp] theorem deref_none (reason : String) : (deref none reason : Skc α) = fault reason := rfl

theorem issues_keyagent_bind {P : Call → Prop} {f : Keyagent → Skc α} :
    (keyagent >>= f).Issues P ↔ P .getKeyagent ∧ ∀ k, (f k).Issues P := Iff.rfl

theorem issues_ck_bind {P : Call → Prop} {c : CkCall} {f : c.Ans → Skc α} :
    (ck c >>= f).Issues P ↔ P (.ck c) ∧ ∀ a, (f a).Issues P := Iff.rfl

theorem issues_lift_bind {P : Call → Prop} {c : Call} {f : c.Ans → Skc α} :
    (Prog.lift (S := skcSig) c >>= f).Issues P ↔ P c ∧ ∀ a, (f a).Issues P := Iff.rfl

theorem issues_fault {P : Call → Prop} {reason : String} (h : P (.fault reason)) :
    (fault reason : Skc α).Issues P := ⟨h, fun a => nomatch a⟩

theorem issues_deref {P : Call → Prop} {p : Option α} {reason : String}
    (h : P (.fault reason)) : (deref p reason).Issues P := by
  cases p with
  | none => exact issues_fault h
  | some a => exact Prog.issues_pure a

end

end Skc

end SkcLibrary
