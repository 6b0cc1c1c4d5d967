import SkcLibrary.Types
import SkcLibrary.Interaction.Sat

/-!
# The interface of network protocol modules (`key-agent/npm/npm.h`)

An NPM reaches the agent through the callbacks of `keyagent_npm_callbacks` and KBS through
HTTPS. Its `key_load` is a program over these operations and nothing else, so that "every NPM"
is "every program over `npmSig`".
-/

namespace SkcLibrary

open Interaction

inductive NpmCall where
  /-- `__keyagent_session_get_ids` -/
  | sessionGetIds
  /-- `__keyagent_stm_get_challenge` -/
  | stmGetChallenge (requestId nonce name : Bytes) (error : Option GError)
  /-- `__keyagent_session_create` -/
  | sessionCreate (requestId name sessionId swk swkType : Bytes) (error : Option GError)
  /-- `__keyagent_key_create` -/
  | keyCreate (requestId url : Bytes) (type : KeyagentKeytype) (attrs : Option KAttributes)
      (sessionId : Option Bytes) (error : Option GError)
  /-- `skc_https_send` -/
  | httpsSend (request : HttpRequest)
  /-- An automatic array that is not initialised. -/
  | uninitialised (n : Nat)
  /-- A memory error. There is no answer. -/
  | fault (reason : String)

abbrev NpmCall.Ans : NpmCall → Type
  | .sessionGetIds => Option Bytes
  | .stmGetChallenge _ _ _ _ => Bool × Option Bytes × Option GError
  | .sessionCreate _ _ _ _ _ _ => Bool × Option GError
  | .keyCreate _ _ _ _ _ _ => Option GQuark × Option GError
  | .httpsSend _ => HttpResponse
  | .uninitialised n => { l : Bytes // l.length = n }
  | .fault _ => Empty

/-- What an NPM can do. -/
abbrev npmSig : Sig := ⟨NpmCall, NpmCall.Ans⟩

/-- The monad of an NPM. -/
abbrev Npm (α : Type) := Prog npmSig α

namespace Npm

def op (c : NpmCall) : Npm c.Ans := Prog.lift (S := npmSig) c

theorem op_bind {α : Type} (c : NpmCall) (f : c.Ans → Npm α) :
    op c >>= f = .call (S := npmSig) c f := rfl

/-- A memory error ends the process. -/
def fault {α : Type} (reason : String) : Npm α :=
  .call (S := npmSig) (.fault reason) fun a => nomatch a

/-- A pointer that is dereferenced. -/
def deref {α : Type} (p : Option α) (reason : String) : Npm α :=
  match p with
  | some a => pure a
  | none => fault reason

@[simp] theorem deref_some {α : Type} (a : α) (reason : String) :
    deref (some a) reason = pure a := rfl

@[simp] theorem deref_none {α : Type} (reason : String) :
    (deref none reason : Npm α) = fault reason := rfl

theorem issues_op_bind {α : Type} {P : NpmCall → Prop} {c : NpmCall} {f : c.Ans → Npm α} :
    (op c >>= f).Issues P ↔ P c ∧ ∀ a, (f a).Issues P := Iff.rfl

theorem issues_deref {α : Type} {P : NpmCall → Prop} {p : Option α} {reason : String}
    (h : P (.fault reason)) : (deref p reason).Issues P := by
  cases p with
  | none => exact ⟨h, fun a => nomatch a⟩
  | some a => exact Prog.issues_pure a

/-- Nothing happens after a memory error. -/
theorem fault_bind {α β : Type} (reason : String) (f : α → Npm β) :
    (fault reason >>= f) = fault reason :=
  congrArg (Prog.call (S := npmSig) (.fault reason)) (funext fun a => nomatch a)

end Npm

/-- `keyagent_npm_real`: a module in `npm_hash`. -/
structure KeyagentNpmReal where
  label : Bytes
  initialized : Bool
  /-- `npm_register`, with what it leaves in an empty error location. -/
  register : Bytes → Bool × Option GError
  /-- `npm_key_load` -/
  keyLoad : KeyagentKeyloadDetails → Option GError → Npm (Bool × Option GError)

end SkcLibrary
