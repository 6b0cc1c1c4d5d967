import SkcLibrary.Apimodule.TokenSessions

/-!
# Preloading keys

`apimodule_preload_keys` loads the keys of a file, a line at a time. Its only caller, `C_Initialize`, takes
the message out of the error of a call that has returned `FALSE`.

Two of the ways to `FALSE` set no error: a directive that is missing, and a file without a line.

* `keys_preloaded` — the settings and the files with which the function does what its caller expects
-/

namespace SkcLibrary

open Interaction

variable {σ W : Type}

/-! ## The lines of a file -/

/-- The lines are attempted in order, up to the first that fails; with what each attempt answers. -/
inductive Attempts (R : Step skcSig σ) (load : Bytes → Skc CkRv) :
    List Bytes → σ → List CkRv → σ → Prop where
  | done {s : σ} : Attempts R load [] s [] s
  | failed {uri : Bytes} {rest : List Bytes} {s t : σ} {rv : CkRv} :
      Runs R (load uri) s rv t → rv ≠ ckrOk → Attempts R load (uri :: rest) s [rv] t
  | loaded {uri : Bytes} {rest : List Bytes} {rvs : List CkRv} {s t u : σ} :
      Runs R (load uri) s ckrOk t → Attempts R load rest t rvs u →
      Attempts R load (uri :: rest) s (ckrOk :: rvs) u

/-- Every line has been loaded. -/
def AllLoaded (lines : List Bytes) (rvs : List CkRv) : Prop :=
  rvs = lines.map fun _ => ckrOk

/-- The error for a line that could not be loaded. -/
def lineError (uri : Bytes) : Option GError :=
  gSetError none apimoduleErrorDomain apimoduleErrorInvalidConfValue
    (lit "Error while pre-loading key:" ++ cstr uri)

/-- The verdict of the loop is that of the last line it attempted, or else the one it started with. -/
theorem preloadLines_attempts {R : Step skcSig σ} {load : Bytes → Skc CkRv} {lines : List Bytes}
    {ret : Bool} {s t : σ} {result : Bool × Option GError}
    (hrun : Runs R (preloadLines load lines ret) s result t) :
    ∃ rvs, Attempts R load lines s rvs t ∧
      (AllLoaded lines rvs ∧ result = (if lines = [] then ret else true, none) ∨
        ¬AllLoaded lines rvs ∧ ∃ uri ∈ lines, result = (false, lineError uri)) := by
  induction lines generalizing ret s with
  | nil =>
    cases hrun
    exact ⟨[], .done, Or.inl ⟨rfl, rfl⟩⟩
  | cons uri rest ih =>
    obtain ⟨rv, u, hload, hrest⟩ := Runs.bind_inv (R := R) (p := load uri) hrun
    -- a line that fails ends the loop, and the rest of the file is not read
    by_cases hrv : rv = ckrOk
    · subst hrv
      rw [if_neg (not_not.mpr rfl)] at hrest
      obtain ⟨rvs, hattempts, hresult⟩ := ih hrest
      refine ⟨ckrOk :: rvs, .loaded hload hattempts, ?_⟩
      rcases hresult with ⟨hall, hresult⟩ | ⟨hall, uri', huri', hresult⟩
      · refine Or.inl ⟨congrArg _ hall, hresult.trans ?_⟩
        cases rest <;> rfl
      · refine Or.inr ⟨fun h => hall (List.tail_eq_of_cons_eq h), ?_⟩
        exact ⟨uri', List.mem_cons_of_mem _ huri', hresult⟩
    · rw [if_pos hrv] at hrest
      cases hrest
      refine ⟨[rv], .failed hload hrv, Or.inr ⟨fun h => ?_, uri, List.mem_cons_self, rfl⟩⟩
      exact hrv (List.head_eq_of_cons_eq h)

/-! ## A call of the function -/

/-- The first file of a run: nothing before it is opened, `some none` when that fails. -/
abbrev FirstFile := Option (Option (List Bytes))

/-- One more call of the library. -/
def noteFile (c : Call) (_ : World W) : c.Ans → FirstFile → FirstFile :=
  match c with
  | .readLines _ => fun lines file => file.or (some lines)
  | _ => fun _ file => file

/-- The surroundings of the library, and the first file. -/
def fileStep (E : Step skcSig W) : Step skcSig (World W × FirstFile) :=
  (sysStep E 0).observed noteFile

/-- The file of the directive is opened, unless the directive is missing. -/
inductive Opens (R : Step skcSig σ) (preLoadKeyfile : Bytes) : σ → Option (List Bytes) → σ → Prop where
  | missing {s : σ} : preLoadKeyfile = lit "NIL" → Opens R preLoadKeyfile s none s
  | opened {file : Option (List Bytes)} {s t : σ} : preLoadKeyfile ≠ lit "NIL" →
      R (.readLines preLoadKeyfile) s file t → Opens R preLoadKeyfile s file t

/-- What is expected of a call that has found `file`. -/
structure Preloads (R : Step skcSig σ) (preLoadKeyfile : Bytes) (load : Bytes → Skc CkRv)
    (file : Option (List Bytes)) (s : σ) (result : Bool × Option GError) (t : σ) : Prop where
  /-- The lines are attempted in order, and the verdict is that all of them have been loaded. -/
  attempts : ∃ u rvs, Opens R preLoadKeyfile s file u ∧ Attempts R load (file.getD []) u rvs t ∧
    (result.1 = true ↔ ∃ lines, file = some lines ∧ lines ≠ [] ∧ AllLoaded lines rvs)
  /-- `FALSE` comes with an error. -/
  error : result.1 = false → result.2 ≠ none

section

variable {E : Step skcSig W} {preLoadKeyfile : Bytes} {load : Bytes → Skc CkRv}
  {x y : World W × FirstFile} {result : Bool × Option GError}

/-- Only the first file counts. -/
theorem firstFile_kept {α : Type} {p : Skc α} {a : α} {file : Option (List Bytes)}
    (hx : x.2 = some file) (hrun : Runs (fileStep E) p x a y) : y.2 = some file := by
  have hsat : Sat (.seq (fileStep E) fun _ _ => True) p (fun _ z => z.2 = some file) x := by
    refine Sat.of_issues (Prog.issues_true p) stable_seq (fun c _ u hu => ?_) hx
    refine ⟨trivial, fun a v hv => ⟨trivial, ?_⟩⟩
    have hnote : v.2 = noteFile c u.1 a u.2 := hv.2
    show v.2 = some file
    rw [hnote, hu]
    cases c <;> rfl
  exact hsat.runs hrun

/-- The lines are attempted whatever the setting is; and the error is set but in two cases. -/
theorem preloadKeys_attempts (hx : x.2 = none)
    (hrun : Runs (fileStep E) (apimodulePreloadKeys preLoadKeyfile load) x result y) :
    (∃ u rvs, Opens (fileStep E) preLoadKeyfile x y.2.join u ∧
      Attempts (fileStep E) load (y.2.join.getD []) u rvs y ∧
      (result.1 = true ↔ ∃ lines, y.2.join = some lines ∧ lines ≠ [] ∧ AllLoaded lines rvs)) ∧
    ((result.1 = false → result.2 ≠ none) ↔ preLoadKeyfile ≠ lit "NIL" ∧ y.2 ≠ some (some [])) := by
  unfold apimodulePreloadKeys at hrun
  by_cases hnil : preLoadKeyfile = lit "NIL"
  · rw [if_pos hnil] at hrun
    cases hrun
    rw [hx]
    refine ⟨⟨x, [], .missing hnil, .done, by simp⟩, ?_⟩
    simp [hnil]
  · rw [if_neg hnil] at hrun
    obtain ⟨file, u, hread, hrest⟩ := Runs.bind_inv hrun
    obtain ⟨hread, hu⟩ : fileStep E (.readLines preLoadKeyfile) x file u ∧ u.2 = some file := by
      cases hread with
      | step hread hret =>
        cases hret
        refine ⟨hread, hread.2.trans ?_⟩
        rw [hx]
        rfl
    have hy : y.2 = some file := firstFile_kept hu hrest
    rw [hy]
    -- a file that cannot be read sets the error, an empty one does not
    cases file with
    | none =>
      cases hrest
      refine ⟨⟨y, [], .opened hnil hread, .done, by simp⟩, ?_⟩
      simp [hnil, gSetError]
    | some lines =>
      obtain ⟨rvs, hattempts, hresult⟩ := preloadLines_attempts hrest
      rcases hresult with ⟨hall, rfl⟩ | ⟨hall, uri, -, rfl⟩
      · refine ⟨⟨u, rvs, .opened hnil hread, hattempts, ?_⟩, ?_⟩
        · simp [hall]
        · simp [hnil]
      · refine ⟨⟨u, rvs, .opened hnil hread, hattempts, by simpa using fun _ => hall⟩, ?_⟩
        have hlines : lines ≠ [] := by
          rintro rfl
          cases hattempts
          exact hall rfl
        simp [hnil, hlines, lineError, gSetError]

/--
**Preloading.** A call does what its caller expects of it just if the directive is there and the file is
not empty, whatever loading a line does.
-/
theorem keys_preloaded (hx : x.2 = none)
    (hrun : Runs (fileStep E) (apimodulePreloadKeys preLoadKeyfile load) x result y) :
    Preloads (fileStep E) preLoadKeyfile load y.2.join x result y ↔
      preLoadKeyfile ≠ lit "NIL" ∧ y.2 ≠ some (some []) := by
  obtain ⟨hattempts, herror⟩ := preloadKeys_attempts hx hrun
  constructor
  · intro h
    exact herror.mp h.error
  · intro h
    exact ⟨hattempts, herror.mpr h⟩

end

/-! ## Files -/

/-- The PKCS#11 module with one token, and a file. -/
def fileHandler (file : Option (List Bytes)) (c : Call) (w : Nat) : Option (c.Ans × Nat) :=
  match c with
  | .readLines _ => some (file, w)
  | c => oneTokenHandler c w

/-- The surroundings with that file. -/
def fileEnv (file : Option (List Bytes)) : Step skcSig Nat := fun c w a w' =>
  fileHandler file c w = some (a, w')

theorem fileHandler_step {file : Option (List Bytes)} (c : skcSig.Op) (x : World Nat × FirstFile)
    (a : skcSig.Ans c) (y : World Nat × FirstFile)
    (h : observing (S := skcSig) (sysHandler (fileHandler file) 0) noteFile c x = some (a, y)) :
    fileStep (fileEnv file) c x a y :=
  observing_step sysHandler_answers c x a y h

/-- The keys of a file, loaded at start-up. -/
def preloadFile (preLoadKeyfile : Bytes) (file : Option (List Bytes)) :
    Option ((Bool × Option GError) × World Nat × FirstFile) :=
  (apimodulePreloadKeys preLoadKeyfile (onDemand preloadLibrary 1)).run
    (observing (sysHandler (fileHandler file) 0) noteFile) (preloadWorld, none)

/-- A URI that cannot be parsed, after one that is loaded; the third is not attempted. -/
theorem keys_preloaded_two : ∃ y : World Nat × FirstFile,
    Runs (fileStep (fileEnv (some [lit "pkcs11:type=private", lit "key", lit "pkcs11:type=private"])))
      (apimodulePreloadKeys (lit "keys.txt") (onDemand preloadLibrary 1)) (preloadWorld, none)
      (false, lineError (lit "key")) y ∧
    Preloads (fileStep (fileEnv (some [lit "pkcs11:type=private", lit "key",
      lit "pkcs11:type=private"]))) (lit "keys.txt") (onDemand preloadLibrary 1) y.2.join
      (preloadWorld, none) (false, lineError (lit "key")) y := by
  obtain ⟨r, hr, hv⟩ := Option.map_eq_some_iff.mp (show
    (preloadFile (lit "keys.txt") (some [lit "pkcs11:type=private", lit "key",
      lit "pkcs11:type=private"])).map (fun r => (r.1, r.2.2)) =
      some ((false, lineError (lit "key")), some (some [lit "pkcs11:type=private", lit "key",
        lit "pkcs11:type=private"]))
    by decide +kernel)
  obtain ⟨hresult, hfile⟩ := Prod.mk.inj hv
  have hrun := Prog.run_runs fileHandler_step hr
  rw [hresult] at hrun
  refine ⟨r.2, hrun, (keys_preloaded rfl hrun).mpr ⟨by decide, ?_⟩⟩
  rw [hfile]
  decide

/-- The directive is missing. -/
theorem not_keys_preloaded : ¬∀ (W : Type) (E : Step skcSig W) (preLoadKeyfile : Bytes)
    (load : Bytes → Skc CkRv) (x y : World W × FirstFile) (result : Bool × Option GError),
    x.2 = none → Runs (fileStep E) (apimodulePreloadKeys preLoadKeyfile load) x result y →
    Preloads (fileStep E) preLoadKeyfile load y.2.join x result y := by
  intro h
  have hpreloads := h Nat (fileEnv none) (lit "NIL") (onDemand preloadLibrary 1) (preloadWorld, none)
    (preloadWorld, none) (false, none) rfl (.refl _ _)
  exact hpreloads.error rfl rfl

-- The same with a file that is empty.
example : (preloadFile (lit "keys.txt") (some [])).map Prod.fst = some (false, none) := by
  decide +kernel

end SkcLibrary
