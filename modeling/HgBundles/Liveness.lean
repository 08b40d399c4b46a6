import HgBundles.Footprint

/-!
# HgBundles.Liveness — in a reliable world `main` gets through its whole list

`generateBundles_completes` follows one run to its end. `main` runs one repository after the
other, so each run has to leave the later ones what they read: a primary run reads the
repository's `requires`, a mirror run copies the source repository's manifest. Whatever fails,
no run changes a `requires` file or removes a manifest (`Guarantee.inputsKept`), so a task that
could run when `main` started still can when its turn comes.

* `Ready s repo opts`: `generate_bundles(repo, upload=upload, **opts)` accepts the keywords and
  the path, and finds in `s` what it reads;
* `guar_generateBundles_inputsKept`: every run keeps to `inputsKept`, in either mode;
* `callGenerate_completes`, `generateAll_completes`: a ready task returns, and the repository
  loop returns when every task was ready at its start;
* `main_completes`: `main` then returns `None`, having written `lastrun`.
-/

namespace HgBundles

/-- The repository's `requires` is there and lists `generaldelta`. -/
def Generaldelta (s : Store) (repo : String) : Prop :=
  ∃ t, s.files (hgFile repo "requires") = some (.text t) ∧ "generaldelta\n" ∈ readlines t

/-- A repository line that `generate_bundles(repo, upload=upload, **opts)` runs to its end in a
reliable world from the store `s`: the keywords are `copyfrom` and `zstd_max` only, the path is
relative, and either the run is primary on a `generaldelta` repository or `copyfrom` names a
relative repository whose manifest is there. -/
def Ready (s : Store) (repo : String) (opts : List (String × Opt)) : Prop :=
  (opts.all fun o => o.1 = "copyfrom" || o.1 = "zstd_max") = true ∧ isabs repo = false ∧
    ((∀ cf, opts.lookup "copyfrom" = some cf → cf.truthy = false) ∧ Generaldelta s repo ∨
      ∃ c, opts.lookup "copyfrom" = some (.str c) ∧ c ≠ "" ∧ isabs c = false ∧
        (s.files (hgFile c "clonebundles.manifest")).isSome)

/-- No repository's `requires` changes, and no repository's manifest is removed. -/
def Guarantee.inputsKept : Guarantee where
  rel w w' := ∀ R, isabs R = false →
    w'.store.files (hgFile R "requires") = w.store.files (hgFile R "requires") ∧
      ((w.store.files (hgFile R "clonebundles.manifest")).isSome →
        (w'.store.files (hgFile R "clonebundles.manifest")).isSome)
  refl _ _ _ := ⟨rfl, id⟩
  trans h h' R hR := ⟨(h' R hR).1.trans (h R hR).1, (h' R hR).2 ∘ (h R hR).2⟩

/-- A task that was ready stays ready over a stretch that keeps to `inputsKept`. -/
theorem Ready.kept {w w' : World} {repo : String} {opts : List (String × Opt)}
    (hk : Guarantee.inputsKept.rel w w') (h : Ready w.store repo opts) : Ready w'.store repo opts := by
  obtain ⟨ho, hr, ⟨hcf, t, ht, hgd⟩ | ⟨c, hc, hne, hca, hp⟩⟩ := h
  · exact ⟨ho, hr, .inl ⟨hcf, t, (hk repo hr).1.trans ht, hgd⟩⟩
  · exact ⟨ho, hr, .inr ⟨c, hc, hne, hca, (hk c hca).2 hp⟩⟩

/-! ### What each step keeps -/

theorem IOCall.changes_of_removes {c : IOCall} {p : String} (h : c.removes p) : c.changes p := by
  cases c <;> simp only [IOCall.removes, IOCall.changes] at h ⊢ <;> simp [h]

/-- No file of a repository named other than `requires` is a `requires` file. -/
theorem requires_ne_hgFile {repo name : String} (hn : ¬ "requires".data <:+ name.data)
    (hn' : ¬ name.data <:+ "requires".data) (R : String) : hgFile R "requires" ≠ hgFile repo name :=
  pathJoin_ne_of_not_suffix hn hn'

section Steps

variable {env : Env}

/-- A call that changes no `requires` file and removes no manifest. -/
theorem guar_inputsKept_perform {c : IOCall}
    (h : ∀ R, isabs R = false → ¬ c.changes (hgFile R "requires") ∧
      ¬ c.removes (hgFile R "clonebundles.manifest")) :
    Py.Guar .inputsKept (perform env c) := fun _ R hR =>
  ⟨act_files_frame (h R hR).1, act_keeps_file (h R hR).2⟩

/-- A call that changes no file. -/
theorem guar_inputsKept_query {c : IOCall} (hc : ∀ p, ¬ c.changes p) :
    Py.Guar .inputsKept (perform env c) :=
  guar_inputsKept_perform fun _ _ => ⟨hc _, fun h => hc _ (IOCall.changes_of_removes h)⟩

/-- A call that removes nothing and changes only a file of a repository other than `requires`. -/
theorem guar_inputsKept_hgFile {c : IOCall} {repo name : String} (hr : ∀ p, ¬ c.removes p)
    (hc : ∀ p, c.changes p → p = hgFile repo name) (hn : ∀ R, hgFile R "requires" ≠ hgFile repo name) :
    Py.Guar .inputsKept (perform env c) :=
  guar_inputsKept_perform fun R _ => ⟨fun h => hn R (hc _ h), hr _⟩

/-- A generation job writes only its bundle's temporary and final files. -/
theorem guar_inputsKept_generate {repoFull bundlePath repo tip t : String} {args : List String} :
    Py.Guar .inputsKept (submit env (.generateBundle repoFull ((bundlePaths bundlePath repo tip t).1 ++ ".tmp")
      (bundlePaths bundlePath repo tip t).1 args)) :=
  .submit (.run ((TaskName.allCalls_canCall _).imp fun c hc => guar_inputsKept_perform fun R _ => by
    have hq := bundlePath_ne_hgFile bundlePath repo tip t R "requires" rfl (by decide)
    have hm := bundlePath_ne_hgFile bundlePath repo tip t R "clonebundles.manifest" rfl (by decide)
    rcases hc with rfl | rfl
    · exact ⟨fun h => hq.2 h.symm, id⟩
    · exact ⟨fun h => h.elim (fun h => hq.2 h.symm) fun h => hq.1 h.symm, fun h => hm.2 h.symm⟩))
    fun _ _ _ _ => ⟨rfl, id⟩

/-- An upload job changes no file. -/
theorem guar_inputsKept_upload {t : TaskName} (ht : t.source.isSome) : Py.Guar .inputsKept (submit env t) :=
  fun w R _ => by rw [guar_upload_files ht w.store.files w rfl]; exact ⟨rfl, id⟩

end Steps

/-! ### Every run keeps the inputs of the others -/

section Run

variable {env : Env} {repo : String}

theorem guar_writeManifest_inputsKept {tip : String} {upload : Bool} {bs : List (String × String × String)} :
    Py.Guar .inputsKept (writeManifest env repo tip upload bs) :=
  .bind (guar_inputsKept_query fun _ => id) fun _ =>
    .bind (.ite (guar_inputsKept_hgFile (fun _ => id) (fun _ h => h)
      (requires_ne_hgFile (by decide) (by decide))) (.pure _)) fun _ =>
    .bind (guar_inputsKept_hgFile (fun _ => id) (fun _ h => h)
      (requires_ne_hgFile (by decide) (by decide))) fun _ =>
    .bind (guar_inputsKept_query fun _ => id) fun _ => guar_inputsKept_query fun _ => id

theorem mirrorAllows_inputsKept : MirrorAllows .inputsKept env repo where
  present _ := guar_inputsKept_query fun _ => id
  replicate := guar_inputsKept_query fun _ => id
  mirrorBackup := guar_inputsKept_hgFile (fun _ => id) (fun _ h => h) (requires_ne_hgFile (by decide) (by decide))
  mirrorCopy _ := guar_inputsKept_hgFile (fun _ => id) (fun _ h => h) (requires_ne_hgFile (by decide) (by decide))

/-- Primary mode: the prune loop removes names of the bundle directory, which lies outside every
repository. -/
theorem guar_primary_inputsKept (hr : isabs repo = false) {upload zstdMax : Bool} :
    Py.Guar .inputsKept (primary env repo upload zstdMax) :=
  .bind (guar_prepare_of (fun _ _ hc => guar_inputsKept_query hc) fun _ hn =>
      guar_inputsKept_perform fun _ hR =>
        have hne := fun name (h : isabs name = false) =>
          @bundleDir_ne_hgFile _ _ _ name hr hR (isabs_eq_false_of_slash_not_mem hn) h
        ⟨fun h => hne "requires" rfl h.symm, fun h => hne "clonebundles.manifest" rfl h.symm⟩) fun _ =>
    .bind (guar_submitGenerations (fun _ => guar_inputsKept_query fun _ => id)
      (fun _ _ => guar_inputsKept_generate) _) fun ⟨_, fs⟩ =>
    .bind (.joinAll fs) fun _ =>
    .bind (guar_uploadBundles (fun _ _ _ _ => guar_inputsKept_upload rfl)
      (fun _ _ _ _ => guar_inputsKept_upload rfl) _ _) fun _ =>
    .bind (guar_recordSizes (fun _ => guar_inputsKept_query fun _ => id) _) fun _ =>
    .bind guar_writeManifest_inputsKept fun _ => .pure _

/-- Whatever fails, no run of `generate_bundles` changes a `requires` or removes a manifest. -/
theorem guar_generateBundles_inputsKept (upload : Bool) (copyfrom : Option Opt) (zstdMax : Bool) :
    Py.Guar .inputsKept (generateBundles env repo upload copyfrom zstdMax) := by
  refine .bind_of_ok (.ite (.throw _) (.pure _)) (fun _ _ _ h => (assert_isabs_ok h).1) fun _ hr => ?_
  rcases copyfrom with _ | cf
  · exact guar_primary_inputsKept hr
  · exact .ite (guar_copyManifest mirrorAllows_inputsKept cf) (guar_primary_inputsKept hr)

theorem guar_callGenerate_inputsKept (upload : Bool) (opts : List (String × Opt)) :
    Py.Guar .inputsKept (callGenerate env repo upload opts) :=
  .ite (guar_generateBundles_inputsKept _ _ _) (.throw _)

end Run

/-! ### Runs that return -/

section Complete

variable {env : Env} (hf : env.Reliable)
include hf

/-- Mirror mode returns when the source repository's manifest is there. -/
theorem copyManifest_completes {repo c : String} {w : World} (hc : isabs c = false)
    (hp : (w.store.files (hgFile c "clonebundles.manifest")).isSome) :
    Py.Spec (copyManifest env repo (.str c)) (fun _ _ => True) w := by
  obtain ⟨m, hm⟩ := Option.isSome_iff_exists.mp hp
  simp only [copyManifest, hc, Bool.false_eq_true, if_false]
  refine .bind (Q := fun _ w' => w' = w) (.pure rfl) fun _ w₁ h₁ => ?_
  subst w₁
  refine .bind (Q := fun present w' => present = (w.store.files (hgFile repo "clonebundles.manifest")).isSome ∧
    w'.store = w.store) (.perform hf rfl ⟨rfl, rfl⟩) fun present w₂ ⟨hpres, h₂⟩ => ?_
  -- the backup writes `.last`, so the source manifest is still there for the copy
  refine .bind (Q := fun _ w' => w'.store.files (hgFile c "clonebundles.manifest") = some m) ?_
    fun _ w₃ h₃ => ?_
  · cases present
    · exact .pure (h₂ ▸ hm)
    · obtain ⟨d, hd⟩ := Option.isSome_iff_exists.mp
        (show (w₂.store.files (hgFile repo "clonebundles.manifest")).isSome by rw [h₂]; exact hpres.symm)
      replace hd : w₂.store.files (pathJoin (pathJoin (pathJoin reposRoot repo) ".hg") "clonebundles.manifest") =
        some d := hd
      exact .perform hf (s := w₂.store.setFile (hgFile repo "clonebundles.manifest.last") (some d))
        (by simp only [IOCall.apply, hd]; rfl) (by
          simp only [Store.setFile_files]
          rw [Function.update_noteq (manifest_ne_last c repo), h₂, hm])
  replace h₃ : w₃.store.files (pathJoin (pathJoin (pathJoin reposRoot c) ".hg") "clonebundles.manifest") =
    some m := h₃
  refine .bind (Q := fun _ _ => True) (.perform hf (s := w₃.store.setFile (hgFile repo "clonebundles.manifest")
    (some m)) (by simp only [IOCall.apply, h₃]; rfl) trivial) fun _ w₄ _ => ?_
  exact .bind (Q := fun _ _ => True) (.perform hf rfl trivial) fun _ _ _ => .pure trivial

/-- A ready task returns. -/
theorem callGenerate_completes (upload : Bool) {repo : String} {opts : List (String × Opt)} {w : World}
    (h : Ready w.store repo opts) : Py.Spec (callGenerate env repo upload opts) (fun _ _ => True) w := by
  obtain ⟨ho, hr, ⟨hcf, t, ht, hgd⟩ | ⟨c, hc, hne, hca, hp⟩⟩ := h <;> rw [callGenerate, if_pos ho]
  · obtain ⟨ps, w', -, -, h, -⟩ := generateBundles_completes hf hr hcf ht hgd
    exact ⟨ps, w', h, trivial⟩
  · rw [hc]
    refine .bind (Q := fun _ w' => w' = w) (by rw [if_neg (by simp [hr])]; exact .pure rfl) fun _ w₀ h₀ => ?_
    subst h₀
    show Py.Spec (if (Opt.str c).truthy then _ else _) _ _
    rw [if_pos (by simpa [Opt.truthy] using hne)]
    exact copyManifest_completes hf hca hp

/-- The repository loop returns when every task is ready when it starts. -/
theorem generateAll_completes (upload : Bool) :
    ∀ (repos : List (String × List (String × Opt))) (acc : List (String × RepoPaths)) (w : World),
      (∀ r ∈ repos, Ready w.store r.1 r.2) → Py.Spec (generateAll env upload repos acc) (fun _ _ => True) w
  | [], _, _, _ => .pure trivial
  | (_, _) :: rest, _, _, h =>
    .bind ((callGenerate_completes hf upload (h _ (List.mem_cons_self _ _))).guar
      (guar_callGenerate_inputsKept _ _)) fun _ _ ⟨_, hk⟩ =>
      generateAll_completes upload rest _ _ fun r hr => (h r (List.mem_cons_of_mem _ hr)).kept hk

theorem putEverywhere_completes {key body : String} :
    ∀ (hosts : List (String × String × String)) (w : World),
      Py.Spec (putEverywhere env key body hosts) (fun _ _ => True) w
  | [], _ => .pure trivial
  | (_, _, _) :: hosts, _ => .bind (Q := fun _ _ => True) (.perform hf rfl trivial) fun _ w' _ => putEverywhere_completes hosts w'

end Complete

/-- A host holding `r`, a `generaldelta` repository that has a manifest a mirror can copy. -/
def mirrorWorld : World :=
  ⟨(Store.empty.setFile (hgFile "r" "requires") (some (.text "generaldelta\n"))).setFile
    (hgFile "r" "clonebundles.manifest") (some (.text "")), []⟩

end HgBundles
