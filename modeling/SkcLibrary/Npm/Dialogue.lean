import SkcLibrary.Npm.Kms
import Mathlib.Data.List.Induction

/-!
# The dialogue of the KMS module

What one `npm_key_load` does, in the order it may do it, as an automaton over the operations of
the module: a key transfer lists the sessions and asks KBS; KBS's challenge is answered by a quote;
a session that was created leads to one more transfer. `Phase` says where the dialogue stands.

`npm_key_load` is shown to follow the automaton in `SkcLibrary.Npm.KmsRuns`; this module has what
follows from that alone.
-/

namespace SkcLibrary.Kms

open Interaction

variable {σ : Type}

/-- One operation of the module, with its answer. -/
abbrev Event (σ : Type) := Occ npmSig σ

/-- The list of session ids has an entry for the given id, under some name. -/
def HasEntry (id ids : Bytes) : Prop :=
  ∃ (entries : List Bytes) (name : Bytes),
    ids = gStrjoin 44 entries ∧ name ++ lit ":" ++ id ∈ entries

/-- Where the dialogue stands; `tries` transfers are left, `created` is the last session. -/
inductive Phase where
  | idle (tries : Nat) (created : Option Bytes)
  | listed (tries : Nat) (created ids : Option Bytes)
  | asked (tries : Nat)
  | prepared (tries : Nat)
  | quoted (tries : Nat)
  | answered (tries : Nat)
  | refused
  | keyed (created : Bool)

/-- The dialogue goes on by one operation. -/
inductive Next : Phase → Event σ → Phase → Prop where
  /-- The sessions are listed, the one just created among them. -/
  | list {n : Nat} {c ids : Option Bytes} {s : σ} :
      (∀ id, c = some id → ∃ l, ids = some l ∧ HasEntry id l) →
      Next (.idle (n + 1) c) ⟨s, .sessionGetIds, ids⟩ (.listed n c ids)
  /-- The key is asked for, with the list in a header. -/
  | ask {n : Nat} {c ids : Option Bytes} {s : σ} {req : HttpRequest} {res : HttpResponse} :
      req.postdata = none →
      (∀ l, ids = some l → l ≠ [] → lit "Session-Id: " ++ l ∈ req.headers) →
      Next (.listed n c ids) ⟨s, .httpsSend req, res⟩ (.asked n)
  | prepare {n m : Nat} {s : σ} {a : { l : Bytes // l.length = m }} :
      Next (.asked n) ⟨s, .uninitialised m, a⟩ (.prepared n)
  | quote {n : Nat} {s : σ} {requestId nonce name : Bytes} {e : Option GError}
      {a : Bool × Option Bytes × Option GError} :
      Next (.prepared n) ⟨s, .stmGetChallenge requestId nonce name e, a⟩ (.quoted n)
  /-- The challenge is answered. -/
  | answer {n : Nat} {s : σ} {req : HttpRequest} {res : HttpResponse} : req.postdata ≠ none →
      Next (.quoted n) ⟨s, .httpsSend req, res⟩ (.answered n)
  | create {n : Nat} {s : σ} {requestId name id swk type : Bytes} {e e' : Option GError} :
      Next (.answered n) ⟨s, .sessionCreate requestId name id swk type e, (true, e')⟩
        (.idle n (some id))
  | refuse {n : Nat} {s : σ} {requestId name id swk type : Bytes} {e e' : Option GError} :
      Next (.answered n) ⟨s, .sessionCreate requestId name id swk type e, (false, e')⟩ .refused
  | key {n : Nat} {s : σ} {requestId url : Bytes} {type : KeyagentKeytype}
      {attrs : Option KAttributes} {id : Option Bytes} {e e' : Option GError}
      {q : Option GQuark} :
      Next (.asked n) ⟨s, .keyCreate requestId url type attrs id e, (q, e')⟩ (.keyed q.isSome)

/-- The histories of the automaton. -/
inductive Dialogue : List (Event σ) → Phase → Prop where
  | start : Dialogue [] (.idle 2 none)
  | snoc {h : List (Event σ)} {p p' : Phase} {o : Event σ} :
      Dialogue h p → Next p o p' → Dialogue (h ++ [o]) p'

/-! ## Requests to KBS -/

inductive HttpKind where
  | get
  | post
  deriving DecidableEq

/-- The kind of an operation that is a request to KBS. -/
def httpKind (o : Event σ) : Option HttpKind :=
  match o.op with
  | .httpsSend req => if req.postdata = none then some .get else some .post
  | _ => none

/-- The requests of a history. -/
def httpKinds (h : List (Event σ)) : List HttpKind := h.filterMap httpKind

/-- The operation asks the agent to create a key. -/
def IsKeyCreate (o : Event σ) : Prop :=
  match o.op with
  | .keyCreate _ _ _ _ _ _ => True
  | _ => False

/-- The operation asked the agent to create a key, and there is one. -/
def CreatedKey (o : Event σ) : Prop :=
  match o with
  | ⟨_, .keyCreate _ _ _ _ _ _, a⟩ => a.1.isSome
  | _ => False

/-- `n` rounds of a transfer and an answer. -/
def rounds : Nat → List HttpKind
  | 0 => []
  | n + 1 => rounds n ++ [.get, .post]

/-- What was sent to KBS, and how many operations it took, when the dialogue stands at a phase. -/
def Phase.Sent : Phase → List HttpKind → Nat → Prop
  | .idle n _, l, len => ∃ k, n + k = 2 ∧ l = rounds k ∧ len = 6 * k
  | .listed n _ _, l, len => ∃ k, n + k = 1 ∧ l = rounds k ∧ len = 6 * k + 1
  | .asked n, l, len => ∃ k, n + k = 1 ∧ l = rounds k ++ [.get] ∧ len = 6 * k + 2
  | .prepared n, l, len => ∃ k, n + k = 1 ∧ l = rounds k ++ [.get] ∧ len = 6 * k + 3
  | .quoted n, l, len => ∃ k, n + k = 1 ∧ l = rounds k ++ [.get] ∧ len = 6 * k + 4
  | .answered n, l, len => ∃ k, n + k = 1 ∧ l = rounds (k + 1) ∧ len = 6 * k + 5
  | .refused, l, len => ∃ k, k ≤ 1 ∧ l = rounds (k + 1) ∧ len = 6 * k + 6
  | .keyed _, l, len => ∃ k, k ≤ 1 ∧ l = rounds k ++ [.get] ∧ len = 6 * k + 3

theorem httpKinds_snoc (h : List (Event σ)) (o : Event σ) :
    httpKinds (h ++ [o]) = httpKinds h ++ (httpKind o).toList := by
  rw [httpKinds, httpKinds, List.filterMap_append]
  cases hk : httpKind o with
  | none => rw [List.filterMap_cons_none hk]; rfl
  | some k => rw [List.filterMap_cons_some hk]; rfl

theorem Dialogue.sent {h : List (Event σ)} {p : Phase} (hd : Dialogue h p) :
    p.Sent (httpKinds h) h.length := by
  -- the rounds that are over are `k`, and each phase adds what it has sent of its own round
  induction hd with
  | start => exact ⟨0, rfl, rfl, rfl⟩
  | snoc hd hn ih =>
    rw [httpKinds_snoc, List.length_append, List.length_singleton]
    cases hn with
    | list _ | prepare | quote | refuse | key =>
      obtain ⟨k, hk, hl, hlen⟩ := ih
      exact ⟨k, by omega, by rw [hl]; exact List.append_nil _, by omega⟩
    | ask hreq _ =>
      obtain ⟨k, hk, hl, hlen⟩ := ih
      exact ⟨k, hk, by rw [hl]; simp [httpKind, hreq], by omega⟩
    | answer hreq =>
      obtain ⟨k, hk, hl, hlen⟩ := ih
      refine ⟨k, hk, ?_, by omega⟩
      rw [hl]
      simp [httpKind, hreq, rounds]
    | create =>
      obtain ⟨k, hk, hl, hlen⟩ := ih
      exact ⟨k + 1, by omega, by rw [hl]; exact List.append_nil _, by omega⟩

/-- Transfers and answers alternate, beginning with a transfer, two of each at most. -/
theorem Dialogue.http_prefix {h : List (Event σ)} {p : Phase} (hd : Dialogue h p) :
    httpKinds h <+: [.get, .post, .get, .post] ∧ h.length ≤ 12 := by
  have hs := hd.sent
  cases p with
  | idle n c =>
    obtain ⟨k, hk, hl, hlen⟩ := hs
    obtain rfl | rfl | rfl : k = 0 ∨ k = 1 ∨ k = 2 := by omega
    all_goals exact ⟨by rw [hl]; decide, by omega⟩
  | answered n =>
    obtain ⟨k, hk, hl, hlen⟩ := hs
    obtain rfl | rfl : k = 0 ∨ k = 1 := by omega
    all_goals exact ⟨by rw [hl]; decide, by omega⟩
  | _ =>
    obtain ⟨k, hk, hl, hlen⟩ := hs
    obtain rfl | rfl : k = 0 ∨ k = 1 := by omega
    all_goals exact ⟨by rw [hl]; decide, by omega⟩

/-! ## The parts of a history -/

/-- What was done before an operation was a history too. -/
theorem Dialogue.split {h₁ h₂ : List (Event σ)} {o : Event σ} {p : Phase}
    (hd : Dialogue (h₁ ++ o :: h₂) p) :
    ∃ p₁ p₂, Dialogue h₁ p₁ ∧ Next p₁ o p₂ ∧ (p₂ = p ∨ h₂ ≠ []) ∧
      (h₂ ≠ [] → ∃ (o' : Event σ) (p₃ : Phase), Next p₂ o' p₃) := by
  -- induction on what follows the event, from its end, as the dialogue grows
  induction h₂ using List.reverseRecOn generalizing p with
  | nil =>
    generalize hg : h₁ ++ [o] = g at hd
    cases hd with
    | start => simp at hg
    | snoc hd hn =>
      obtain ⟨rfl, ho⟩ := List.append_inj' hg rfl
      rw [← List.singleton_inj.mp ho] at hn
      exact ⟨_, _, hd, hn, .inl rfl, fun h => absurd rfl h⟩
  | append_singleton h₂ o' ih =>
    rw [← List.cons_append, ← List.append_assoc] at hd
    generalize hg : h₁ ++ o :: h₂ ++ [o'] = g at hd
    cases hd with
    | start => simp at hg
    | snoc hd hn =>
      obtain ⟨rfl, ho⟩ := List.append_inj' hg rfl
      obtain ⟨p₁, p₂, hd₁, hn₁, hp, hmore⟩ := ih hd
      refine ⟨p₁, p₂, hd₁, hn₁, .inr (by simp), fun _ => ?_⟩
      by_cases hnil : h₂ = []
      · rw [hp.resolve_right fun h => h hnil]
        exact ⟨_, _, hn⟩
      · exact hmore hnil

/-- A key that was asked for is the end of the dialogue. -/
theorem Dialogue.keyCreate_last {h₁ h₂ : List (Event σ)} {o : Event σ} {p : Phase}
    (hd : Dialogue (h₁ ++ o :: h₂) p) (ho : IsKeyCreate o) : h₂ = [] := by
  obtain ⟨p₁, p₂, -, hn, -, hmore⟩ := hd.split
  by_contra hne
  obtain ⟨o', p₃, hn'⟩ := hmore hne
  cases hn with
  | key => cases hn'
  | _ => exact ho

/-- The phase remembers whether a key was created. -/
theorem Dialogue.keyed_iff {h : List (Event σ)} {p : Phase} (hd : Dialogue h p) :
    (p = .keyed true) ↔ ∃ o ∈ h, CreatedKey o := by
  constructor
  · intro hp
    cases hd with
    | start => simp at hp
    | snoc hd hn =>
      cases hn with
      | key => exact ⟨_, List.mem_append_right _ List.mem_cons_self, by simpa [CreatedKey] using hp⟩
      | _ => simp at hp
  · rintro ⟨o, hmem, ho⟩
    obtain ⟨h₁, h₂, rfl⟩ := List.append_of_mem hmem
    have hkey : IsKeyCreate o := by
      obtain ⟨s, op, a⟩ := o
      cases op <;> trivial
    obtain rfl := hd.keyCreate_last hkey
    obtain ⟨p₁, p₂, -, hn, hp, -⟩ := hd.split
    rw [← hp.resolve_right fun h => h rfl]
    cases hn with
    | key => exact congrArg Phase.keyed ho
    | _ => exact hkey.elim

/-- The second transfer comes right after a session, and names it. -/
theorem Dialogue.second_transfer {h₁ h₂ : List (Event σ)} {o : Event σ} {p : Phase}
    (hd : Dialogue (h₁ ++ o :: h₂) p) (ho : httpKind o = some .get)
    (hearlier : ∃ o' ∈ h₁, httpKind o' = some .get) :
    ∃ h₀ s s' s'' requestId name id swk type e e' ids req res,
      h₁ = h₀ ++ [⟨s, .sessionCreate requestId name id swk type e, (true, e')⟩,
        ⟨s', .sessionGetIds, some ids⟩] ∧
      o = ⟨s'', .httpsSend req, res⟩ ∧ lit "Session-Id: " ++ ids ∈ req.headers ∧
      HasEntry id ids := by
  obtain ⟨p₁, p₂, hd₁, hn, -, -⟩ := hd.split
  have hget : HttpKind.get ∈ httpKinds h₁ := by
    obtain ⟨o', hm, ho'⟩ := hearlier
    exact List.mem_filterMap.mpr ⟨o', hm, ho'⟩
  have hsent := hd₁.sent
  cases hn with
  | @ask n c ids s req res hreq hheader =>
    obtain ⟨k, hk, hl, -⟩ := hsent
    obtain rfl : n = 0 := by
      by_contra hn
      obtain rfl : k = 0 := by omega
      rw [hl] at hget
      simp [rounds] at hget
    -- one transfer is over: the list was made when one try was left, after a session was created
    cases hd₁ with
    | snoc hd₀ hn₀ =>
      cases hn₀ with
      | @list _ _ _ s₁ hids =>
        cases hd₀ with
        | snoc hd₂ hn₂ =>
          cases hn₂ with
          | @create _ s₀ requestId name id swk type e e' =>
            obtain ⟨l, rfl, hentry⟩ := hids id rfl
            have hne : l ≠ [] := by
              obtain ⟨entries, name', rfl, hm⟩ := hentry
              intro h
              have hlen := length_le_gStrjoin 44 hm
              rw [h] at hlen
              simp [lit] at hlen
            exact ⟨_, s₀, s₁, s, requestId, name, id, swk, type, e, e', l, req, res,
              List.append_assoc _ _ _, rfl, hheader l rfl hne, hentry⟩
  | answer hreq => simp [httpKind, hreq] at ho
  | _ => simp [httpKind] at ho

end SkcLibrary.Kms
