import SkcLibrary.Apimodule.KeyIds

/-!
# What KBS learns of a URI

The url of a load holds the whole URI, with the label of the key and the pin of the token, and the KMS module
is handed that url. It splits it for the key id; apart from that it only hands it on to the agent.

* `asks_by_key_id` — two URIs of one key lead to the same requests
-/

namespace SkcLibrary

open Interaction

/-- The operations of an NPM, without the url under which a key is handed to the agent. -/
def blankUrl : (c : NpmCall) → Npm c.Ans
  | .keyCreate requestId _ type attrs sessionId error =>
    Npm.op (.keyCreate requestId [] type attrs sessionId error)
  | c => Npm.op c

/-- The two programs are the same, but for the url under which they hand keys to the agent. -/
def SameButUrl {α : Type} (p p' : Npm α) : Prop := p.interp blankUrl = p'.interp blankUrl

/-- The same load under another url. -/
def KeyagentKeyloadDetails.withUrl (details : KeyagentKeyloadDetails) (url : Bytes) :
    KeyagentKeyloadDetails := { details with url := url }

namespace SameButUrl

variable {α β : Type} {p p' : Npm α} {f f' : α → Npm β}

theorem refl (p : Npm α) : SameButUrl p p := rfl

theorem bind (h : SameButUrl p p') (hf : ∀ a, SameButUrl (f a) (f' a)) :
    SameButUrl (p >>= f) (p' >>= f') := by
  unfold SameButUrl
  rw [Prog.interp_bind, Prog.interp_bind, h]
  exact congrArg _ (funext hf)

end SameButUrl

namespace Kms

variable {serverUrl url url' : Bytes} {details : KeyagentKeyloadDetails}

theorem createKey_sameButUrl (res : HttpResponse) (err : Option GError) :
    SameButUrl (createKey (details.withUrl url) res err) (createKey (details.withUrl url') res err) := by
  unfold createKey
  split
  · exact .refl _
  · split
    · exact .refl _
    · refine .bind (.refl _) fun sessionId => ?_
      split
      · exact .refl _
      · exact .bind rfl fun _ => .refl _

/-- The recursion of `__npm_loadkey`, from the first two tokens of the url. -/
theorem npmLoadkey_sameButUrl {keyId : Bytes} {rest rest' : List Bytes}
    (h : gStrsplit url 58 = kmsPrefixToken :: keyId :: rest)
    (h' : gStrsplit url' 58 = kmsPrefixToken :: keyId :: rest') (tries : Nat)
    (err : Option GError) :
    SameButUrl (npmLoadkey serverUrl (details.withUrl url) tries err)
      (npmLoadkey serverUrl (details.withUrl url') tries err) := by
  induction tries generalizing err with
  | zero => exact .refl _
  | succ tries ih =>
    unfold npmLoadkey
    simp only [KeyagentKeyloadDetails.withUrl, h, h', List.getElem?_cons_zero, ne_eq,
      not_true_eq_false, if_false]
    refine .bind (.refl _) fun sessionIds => .bind (by rw [h, h']; exact .refl _) fun res => ?_
    split
    · exact .refl _
    · split
      · split
        · exact .refl _
        · split
          · refine .bind (.refl _) fun a => ?_
            split
            · exact ih _
            · exact .refl _
          · exact .refl _
      · split
        · exact createKey_sameButUrl _ _
        · exact .refl _

/-- The first request names the second token of the url. -/
theorem tokens_eq_of_sameButUrl {keyId keyId' : Bytes} {rest rest' : List Bytes}
    (h : gStrsplit url 58 = kmsPrefixToken :: keyId :: rest)
    (h' : gStrsplit url' 58 = kmsPrefixToken :: keyId' :: rest') {err : Option GError}
    (hsame : SameButUrl (npmKeyLoad serverUrl (details.withUrl url) err)
      (npmKeyLoad serverUrl (details.withUrl url') err)) : keyId = keyId' := by
  unfold SameButUrl npmKeyLoad npmLoadkey at hsame
  simp only [KeyagentKeyloadDetails.withUrl, h, h', List.getElem?_cons_zero, ne_eq,
    not_true_eq_false, if_false] at hsame
  have hsend := congrFun (eq_of_heq (Prog.call.inj hsame).2) none
  have hrequest := NpmCall.httpsSend.inj (Prog.call.inj hsend).1
  have hurl := congrArg HttpRequest.url hrequest
  rw [h, h'] at hurl
  exact List.append_cancel_left (List.append_cancel_right hurl)

end Kms

/--
**What KBS learns of a URI.** The loads of two URIs are the same program, but for the url under which the key
is handed to the agent, if and only if the ids of their keys agree up to the first `:` or zero in them.
-/
theorem asks_by_key_id {parsed parsed' : Option P11KitUri} {uri uri' : Bytes}
    {uriData uriData' : ApimoduleUriData} (h : apimoduleUriToUriData parsed uri = some uriData)
    (h' : apimoduleUriToUriData parsed' uri' = some uriData') (serverUrl : Bytes)
    (details : KeyagentKeyloadDetails) (err : Option GError) :
    SameButUrl (Kms.npmKeyLoad serverUrl (details.withUrl (keyUrl uriData uri)) err)
        (Kms.npmKeyLoad serverUrl (details.withUrl (keyUrl uriData' uri')) err) ↔
      firstToken 58 (cstr uriData.keyId) = firstToken 58 (cstr uriData'.keyId) := by
  obtain ⟨rest, htokens⟩ := gStrsplit_keyUrl h
  obtain ⟨rest', htokens'⟩ := gStrsplit_keyUrl h'
  constructor
  · exact Kms.tokens_eq_of_sameButUrl htokens htokens'
  · intro hid
    rw [← hid] at htokens'
    exact Kms.npmLoadkey_sameButUrl htokens htokens' 2 err

/-- Two URIs of one key, with other labels and pins. -/
theorem asks_by_key_id_pins :
    SameButUrl
      (Kms.npmKeyLoad (lit "https://kbs") ((privateKeyDetails []).withUrl
        (keyUrl (privateKeyData (List.replicate 36 97)) (lit "type=private;pin-value=1234"))) none)
      (Kms.npmKeyLoad (lit "https://kbs") ((privateKeyDetails []).withUrl
        (keyUrl { privateKeyData (List.replicate 36 97) with keyLabel := lit "web", pin := lit "9999" }
          (lit "type=private;pin-value=9999"))) none) := by
  have h : apimoduleUriToUriData (privateKeyUri (List.replicate 36 97))
      (lit "type=private;pin-value=1234") = some (privateKeyData (List.replicate 36 97)) := rfl
  have h' : apimoduleUriToUriData
      (some ⟨lit "KMS", some (lit "web"), some (List.replicate 36 97), some ckoPrivateKey,
        some (lit "9999")⟩) (lit "type=private;pin-value=9999") =
      some { privateKeyData (List.replicate 36 97) with keyLabel := lit "web", pin := lit "9999" } := rfl
  exact (asks_by_key_id h h' _ _ _).mpr rfl

end SkcLibrary
