import SkcLibrary.Apimodule.Rules

/-!
# Key ids on their way to KBS

`C_OnDemand_KeyLoad` joins the parts of a URI with `:`, and the KMS module splits the url at every
`:` to find the key id. Nothing escapes a `:` inside the id, and a zero ends the id on the way.

* `key_id_kept` — the ids that arrive
-/

namespace SkcLibrary

open Interaction

theorem cstr_eq_self {s : Bytes} : cstr s = s ↔ 0 ∉ s := firstToken_eq_self

/-- The id arrives if there is nothing in it that ends it. -/
theorem firstToken_cstr {s : Bytes} : firstToken 58 (cstr s) = s ↔ 58 ∉ s ∧ 0 ∉ s := by
  constructor
  · intro h
    have hcstr : cstr s = s := by
      refine (List.takeWhile_sublist _).eq_of_length_le ?_
      calc s.length = (firstToken 58 (cstr s)).length := by rw [h]
        _ ≤ (cstr s).length := length_firstToken_le _ _
    rw [hcstr] at h
    exact ⟨firstToken_eq_self.mp h, cstr_eq_self.mp hcstr⟩
  · rintro ⟨h58, h0⟩
    rw [cstr_eq_self.mpr h0, firstToken_eq_self.mpr h58]

/-- The id is lost altogether if it begins with what ends it. -/
theorem firstToken_cstr_eq_nil {s : Bytes} (hs : s ≠ []) :
    firstToken 58 (cstr s) = [] ↔ s.head? = some 58 ∨ s.head? = some 0 := by
  obtain ⟨b, s, rfl⟩ := List.exists_cons_of_ne_nil hs
  by_cases h0 : b = 0
  · subst h0
    simp [cstr, firstToken]
  · by_cases h58 : b = 58
    · subst h58
      simp [cstr, firstToken]
    · simp [cstr, firstToken, h0, h58]

/-! ## The tokens of a url -/

section

variable {parsed : Option P11KitUri} {uri : Bytes} {uriData : ApimoduleUriData}

/-- The first two tokens of the url. -/
theorem gStrsplit_keyUrl (h : apimoduleUriToUriData parsed uri = some uriData) :
    ∃ rest, gStrsplit (keyUrl uriData uri) 58
      = Kms.kmsPrefixToken :: firstToken 58 (cstr uriData.keyId) :: rest := by
  have hkms : (58 : UInt8) ∉ Kms.kmsPrefixToken := by decide
  have hurl : keyUrl uriData uri = Kms.kmsPrefixToken ++ 58 ::
      (cstr uriData.keyId ++ 58 :: gStrjoin 58 [cstr uriData.keyLabel, cstr uri]) := by
    rw [keyUrl, (apimoduleUriToUriData_spec h).1, gStrjoin_cons 58 _ (by simp),
      gStrjoin_cons 58 _ (by simp)]
  obtain ⟨rest, hrest⟩ := exists_splitOn_eq (cstr uriData.keyId) 58
  rw [hurl, gStrsplit_append hkms, List.splitOn_append_cons_self, hrest]
  exact ⟨_, rfl⟩

/-- The url gets past `keyagent_loadkey_with_moduledata` and `npm_register`. -/
def UrlAccepted (url : Bytes) : Prop :=
  urlTokenMissing url = some false ∧ (Kms.npmRegister url).1 = true

theorem urlAccepted_keyUrl (h : apimoduleUriToUriData parsed uri = some uriData) :
    UrlAccepted (keyUrl uriData uri) ↔ firstToken 58 (cstr uriData.keyId) ≠ [] := by
  obtain ⟨rest, htokens⟩ := gStrsplit_keyUrl h
  have hkms : Kms.kmsPrefixToken ≠ [] := by decide
  by_cases hnil : firstToken 58 (cstr uriData.keyId) = []
  · simp [UrlAccepted, Kms.npmRegister, htokens, hnil]
  · simp [UrlAccepted, urlTokenMissing, Kms.npmRegister, htokens, gStrv, hkms, hnil]

end

/-! ## The request -/

/-- Every key transfer that the program requests is one of the given key. -/
def RequestsKey {α : Type} (serverUrl keyId : Bytes) (p : Npm α) : Prop :=
  p.Issues fun c : NpmCall => ∀ request, c = .httpsSend request → request.postdata = none →
    request.url = serverUrl ++ lit "/v1/keys/" ++ keyId ++ lit "/dhsm2-transfer"

namespace Kms

variable {serverUrl keyId : Bytes} {details : KeyagentKeyloadDetails}

theorem startSession_requestsKey (transferData : Json) (error : Option GError) :
    RequestsKey serverUrl keyId (startSession details transferData error) := by
  unfold startSession
  split
  · trivial
  · split
    · trivial
    · refine Npm.issues_op_bind.mpr ⟨nofun, fun nonce => ?_⟩
      refine (Npm.issues_deref nofun).bind fun nonce => ?_
      refine Npm.issues_op_bind.mpr ⟨nofun, fun a => ?_⟩
      obtain ⟨ret, challenge, error⟩ := a
      dsimp only
      split
      · trivial
      · refine (Npm.issues_deref nofun).bind fun challenge => ?_
        refine postChallenge_issues (fun request hpost _ hc hnone => ?_) nofun
        rw [NpmCall.httpsSend.inj hc] at hpost
        exact absurd hnone hpost

theorem createKey_requestsKey (res : HttpResponse) (err : Option GError) :
    RequestsKey serverUrl keyId (createKey details res err) := by
  unfold createKey
  split
  · trivial
  · split
    · trivial
    · refine (Npm.issues_deref nofun).bind fun sessionId => ?_
      split
      · trivial
      · exact Npm.issues_op_bind.mpr ⟨nofun, fun a => trivial⟩

theorem npmLoadkey_requestsKey {rest : List Bytes}
    (htokens : gStrsplit details.url 58 = kmsPrefixToken :: keyId :: rest) (tries : Nat)
    (err : Option GError) : RequestsKey serverUrl keyId (npmLoadkey serverUrl details tries err) := by
  induction tries generalizing err with
  | zero => trivial
  | succ tries ih =>
    unfold npmLoadkey
    simp only [htokens, List.getElem?_cons_zero, ne_eq, not_true_eq_false, if_false]
    refine Npm.issues_op_bind.mpr ⟨nofun, fun sessionIds => ?_⟩
    refine Npm.issues_op_bind.mpr ⟨fun _ hc _ => ?_, fun res => ?_⟩
    · rw [← NpmCall.httpsSend.inj hc, htokens]
      rfl
    · split
      · trivial
      · split
        · split
          · trivial
          · split
            · refine (startSession_requestsKey _ _).bind fun a => ?_
              split
              · exact ih _
              · trivial
            · trivial
        · split
          · exact createKey_requestsKey _ _
          · trivial

/-- The first request of a load names the second token of the url. -/
theorem requestsKey_iff {keyId' : Bytes} {rest : List Bytes} (err : Option GError)
    (htokens : gStrsplit details.url 58 = kmsPrefixToken :: keyId' :: rest) :
    RequestsKey serverUrl keyId (npmKeyLoad serverUrl details err) ↔ keyId' = keyId := by
  constructor
  · intro h
    unfold npmKeyLoad npmLoadkey at h
    simp only [htokens, List.getElem?_cons_zero, ne_eq, not_true_eq_false, if_false] at h
    have hurl := (h.2 none).1 _ rfl rfl
    rw [htokens] at hurl
    exact List.append_cancel_left (List.append_cancel_right hurl)
  · rintro rfl
    exact npmLoadkey_requestsKey htokens 2 err

end Kms

/--
**Key ids.** An accepted url leads to requests for the key of the URI if and only if there is neither
a `:` nor a zero in the id. An id that begins with one of them is not accepted.
-/
theorem key_id_kept {parsed : Option P11KitUri} {uri serverUrl : Bytes}
    {uriData : ApimoduleUriData} {details : KeyagentKeyloadDetails} {err : Option GError}
    (h : apimoduleUriToUriData parsed uri = some uriData)
    (hurl : details.url = keyUrl uriData uri) :
    (UrlAccepted details.url →
        RequestsKey serverUrl uriData.keyId (Kms.npmKeyLoad serverUrl details err)) ↔
      (58 ∉ uriData.keyId ∧ 0 ∉ uriData.keyId) ∨
        (uriData.keyId.head? = some 58 ∨ uriData.keyId.head? = some 0) := by
  have hne : uriData.keyId ≠ [] := by
    intro hnil
    have hlen := (apimoduleUriToUriData_spec h).2
    rw [hnil] at hlen
    exact absurd hlen (by decide)
  obtain ⟨rest, htokens⟩ := gStrsplit_keyUrl h
  rw [hurl, urlAccepted_keyUrl h, Kms.requestsKey_iff err (by rw [hurl]; exact htokens),
    firstToken_cstr, ← firstToken_cstr_eq_nil hne]
  tauto

/-! ### A plain id and one with a colon -/

/-- A URI of a private key, as p11-kit reports it. -/
def privateKeyUri (id : Bytes) : Option P11KitUri :=
  some ⟨lit "KMS", some (lit "label"), some id, some ckoPrivateKey, some (lit "1234")⟩

/-- The parts of that URI. -/
def privateKeyData (id : Bytes) : ApimoduleUriData :=
  ⟨lit "KMS", lit "label", id, lit "1234", ckoPrivateKey⟩

/-- The load that follows. -/
def privateKeyDetails (id : Bytes) : KeyagentKeyloadDetails :=
  ⟨lit "request", keyUrl (privateKeyData id) (lit "type=private"), lit "SGX",
    ⟨[], [], [], [], [], true⟩⟩

theorem key_id_kept_plain : RequestsKey (lit "https://kbs") (List.replicate 36 97)
    (Kms.npmKeyLoad (lit "https://kbs") (privateKeyDetails (List.replicate 36 97)) none) := by
  have hdata : apimoduleUriToUriData (privateKeyUri (List.replicate 36 97)) (lit "type=private") =
      some (privateKeyData (List.replicate 36 97)) := rfl
  have haccepted : UrlAccepted (privateKeyDetails (List.replicate 36 97)).url :=
    (urlAccepted_keyUrl hdata).mpr (by decide)
  exact (key_id_kept hdata rfl).mpr (.inl ⟨by decide, by decide⟩) haccepted

theorem not_key_id_kept : ¬∀ (parsed : Option P11KitUri) (uri serverUrl : Bytes)
    (uriData : ApimoduleUriData) (details : KeyagentKeyloadDetails) (err : Option GError),
    apimoduleUriToUriData parsed uri = some uriData → details.url = keyUrl uriData uri →
    UrlAccepted details.url →
    RequestsKey serverUrl uriData.keyId (Kms.npmKeyLoad serverUrl details err) := by
  intro h
  have hdata : apimoduleUriToUriData (privateKeyUri (List.replicate 36 97 ++ [58, 98]))
      (lit "type=private") = some (privateKeyData (List.replicate 36 97 ++ [58, 98])) := by rfl
  obtain ⟨rest, htokens⟩ := gStrsplit_keyUrl hdata
  have hreq := h _ _ (lit "https://kbs") _
    (privateKeyDetails (List.replicate 36 97 ++ [58, 98])) none hdata rfl
    ((urlAccepted_keyUrl hdata).mpr (by decide))
  exact absurd ((Kms.requestsKey_iff none htokens).mp hreq) (by decide)

end SkcLibrary
