import HgBundles.Backups

/-!
# HgBundles.Footprint — what one run of `generate_bundles` may write

A run of `generate_bundles(repo)` works in places of its own: the prune loop removes names of
the repository's bundle directory, the generation jobs write their temporary and final files in
it, the uploads write the objects of the repository's bundles, and the manifest block and mirror
mode write the repository's manifest and its backups. Whatever fails, nothing else changes.

* `RunFile repo p`, `RunObject repo tip k`: the files and the objects a run for `repo` at the tip
  `tip` may change;
* `Guarantee.writesOnly W`: every location that changes is one of `W`; a call that reaches no
  backend keeps to it when the files it changes are in `W` (`guar_writesOnly_local`), a pool job
  when the locations it writes are (`guar_writesOnly_submit`);
* `generate_bundles_footprint`: a run, in either mode and whatever fails, changes no file and no
  object outside its own, as long as the tip `hg log` prints is not an absolute path;
* `main_footprint`: `main` adds only its three files in `BUNDLE_ROOT` and the two summaries on S3
  to what the runs of the repositories it reads may change. The repositories are known only once
  the list is read and parsed, so the run is followed from that world on (`Py.Guar.rel_bind`);
* `generate_bundles_requires_generaldelta`: a repository whose `requires` does not list
  `generaldelta` is refused before anything changes, with the check's own `Exception`.
-/

namespace HgBundles

/-- The files a run of `generate_bundles(repo)` may change: a file of its bundle directory, by a
relative name, and its manifest with the two backups. -/
def RunFile (repo p : String) : Prop :=
  (∃ n, isabs n = false ∧ p = pathJoin (pathJoin bundleRoot repo) n) ∨
    p = hgFile repo "clonebundles.manifest" ∨ p = hgFile repo "clonebundles.manifest.old" ∨
    p = hgFile repo "clonebundles.manifest.last"

/-- The objects it may change at the tip `tip`: those of its bundles, in any bucket. -/
def RunObject (repo tip : String) (k : ObjKey) : Prop :=
  ∃ t, k.key = repo ++ "/" ++ basename tip t

/-- Both, as locations. -/
def RunLoc (repo tip : String) : Loc → Prop
  | .file p => RunFile repo p
  | .obj k => RunObject repo tip k

/-- Every location that changes is one of `W`. -/
def Guarantee.writesOnly (W : Loc → Prop) : Guarantee where
  rel w w' := ∀ l, ¬ W l → w'.store.get l = w.store.get l
  refl _ _ _ := rfl
  trans h h' l hl := (h' l hl).trans (h l hl)

/-! ### Bundle names -/

/-- A bundle's name, and a name that starts with it, is relative when the tip is. -/
theorem isabs_basename_append {tip : String} (t s : String) (ht : isabs tip = false) :
    isabs (basename tip t ++ s) = false := by
  simp only [isabs, startswith, basename, String.data_append] at ht ⊢
  rcases h : tip.data with _ | ⟨c, cs⟩ <;> simp_all [List.isPrefixOf]

theorem pathJoin_append {a b : String} (s : String) (hb : isabs b = false) (hbs : isabs (b ++ s) = false) :
    pathJoin a b ++ s = pathJoin a (b ++ s) := by
  rw [pathJoin_of_not_isabs hb, pathJoin_of_not_isabs hbs, String.append_assoc]

/-- The bundles a primary run records are objects of the repository's bundles. -/
theorem key_mem_recordedBundles {bundlePath repo tip : String} {zstdMax : Bool}
    {cs : List (String × List String)} {b : String × String × String}
    (hb : b ∈ recordedBundles bundlePath repo tip zstdMax cs) : ∃ t, b.2.2 = repo ++ "/" ++ basename tip t := by
  obtain ⟨e, -, rfl⟩ := List.mem_map.mp hb
  exact ⟨e.1, rfl⟩

/-! ### What each step writes -/

section Steps

variable {env : Env} {W : Loc → Prop}

/-- A call that reaches no backend and changes only files of `W` keeps to `writesOnly W`. -/
theorem guar_writesOnly_local {c : IOCall} (hs : c.storage = false) (hw : ∀ p, c.changes p → W (.file p)) :
    Py.Guar (.writesOnly W) (perform env c) := fun w l hl => by
  show (act env c w.store).2.get l = w.store.get l
  cases l with
  | file p => exact congrArg Sum.inl (act_files_frame fun h => hl (hw p h))
  | obj k => exact congrArg Sum.inr (congrFun (act_objects_of_local hs w.store) k)

/-- A pool job whose locations are in `W` keeps to `writesOnly W`. -/
theorem guar_writesOnly_submit {t : TaskName} (ht : ∀ l, t.writes l → W l) :
    Py.Guar (.writesOnly W) (submit env t) :=
  .submit (.run ((TaskName.allCalls_canCall t).imp fun _ hc w l hl =>
    (TaskName.local_of_canCall hc).frame w.store l fun h => hl (ht l h))) fun _ _ _ _ => rfl

/-- A call that changes no file and reaches no backend. -/
theorem guar_writesOnly_query {c : IOCall} (hs : c.storage = false) (hc : ∀ p, ¬ c.changes p) :
    Py.Guar (.writesOnly W) (perform env c) :=
  guar_writesOnly_local hs fun p h => (hc p h).elim

end Steps

section Run

variable {env : Env} {repo : String}

/-- Mirror mode writes the repository's manifest and its `.last` backup. -/
theorem mirrorAllows_writesOnly (tip : String) : MirrorAllows (.writesOnly (RunLoc repo tip)) env repo where
  present _ := guar_writesOnly_query rfl fun _ => id
  replicate := guar_writesOnly_query rfl fun _ => id
  mirrorBackup := guar_writesOnly_local rfl fun _ h => .inr (.inr (.inr h))
  mirrorCopy _ := guar_writesOnly_local rfl fun _ h => .inr (.inl h)

/-- The manifest block writes the manifest and its `.old` backup. -/
theorem guar_writeManifest_writesOnly (tip : String) {tip' : String} {upload : Bool}
    {bs : List (String × String × String)} :
    Py.Guar (.writesOnly (RunLoc repo tip)) (writeManifest env repo tip' upload bs) :=
  .bind (guar_writesOnly_query rfl fun _ => id) fun _ =>
    .bind (.ite (guar_writesOnly_local rfl fun _ h => .inr (.inr (.inl h))) (.pure _)) fun _ =>
    .bind (guar_writesOnly_local rfl fun _ h => .inr (.inl h)) fun _ =>
    .bind (guar_writesOnly_query rfl fun _ => id) fun _ => guar_writesOnly_query rfl fun _ => id

/-- Primary mode writes in the bundle directory, the objects of the bundles of its tip, and the
manifest with its `.old` backup. -/
theorem guar_primary_writesOnly (ht : isabs (env.output (tipArgv repo)) = false) {upload zstdMax : Bool} :
    Py.Guar (.writesOnly (RunLoc repo (env.output (tipArgv repo)))) (primary env repo upload zstdMax) := by
  refine .bind_of_ok (guar_prepare_of (fun _ hs hc => guar_writesOnly_query hs hc)
    fun n hn => guar_writesOnly_local rfl fun _ h => .inl ⟨n, isabs_eq_false_of_slash_not_mem hn, h⟩)
    (fun _ _ _ h => prepare_ok h) fun tip htip => ?_
  subst htip
  refine .bind_of_ok (guar_submitGenerations (fun _ => guar_writesOnly_query rfl fun _ => id)
    (fun t _ => guar_writesOnly_submit fun l hl => ?_) _)
    (fun _ _ _ h => (submitGenerations_spec env _ _ _ _ _ _ _ _ _ _ h).1) fun ⟨bs, fs⟩ hbs => ?_
  · -- a generation job writes the bundle's temporary and final files, both in the directory
    have hb := isabs_basename_append t "" ht
    rw [String.append_empty] at hb
    rcases hl with rfl | rfl
    · exact .inl ⟨_, isabs_basename_append t ".tmp" ht, pathJoin_append _ hb (isabs_basename_append t _ ht)⟩
    · exact .inl ⟨_, hb, rfl⟩
  subst hbs
  -- an upload job writes the object of a recorded bundle
  refine .bind (.joinAll fs) fun _ => .bind (.ite (.bind (.submitAll fun t hm => ?_) fun fs => .joinAll fs)
    (.pure _)) fun _ => .bind (guar_recordSizes (fun _ => guar_writesOnly_query rfl fun _ => id) _) fun _ =>
    .bind (guar_writeManifest_writesOnly _) fun _ => .pure _
  simp only [uploadTasks_eq, List.mem_append, List.mem_flatMap, List.mem_map] at hm
  rcases hm with ⟨_, -, b, hb, rfl⟩ | ⟨_, -, b, hb, rfl⟩ <;>
    exact guar_writesOnly_submit fun l hl => hl ▸ key_mem_recordedBundles hb

/-- Every run of `generate_bundles(repo)` writes only its own locations. -/
theorem guar_generateBundles_writesOnly (ht : isabs (env.output (tipArgv repo)) = false)
    (upload : Bool) (copyfrom : Option Opt) (zstdMax : Bool) :
    Py.Guar (.writesOnly (RunLoc repo (env.output (tipArgv repo))))
      (generateBundles env repo upload copyfrom zstdMax) := by
  refine .bind (.ite (.throw _) (.pure _)) fun _ => ?_
  rcases copyfrom with _ | cf
  · exact guar_primary_writesOnly ht
  · exact .ite (guar_copyManifest (mirrorAllows_writesOnly _) cf) (guar_primary_writesOnly ht)

end Run

/-- **A run writes only its own files and objects.** Whatever fails, and in either mode, a run
of `generate_bundles(repo)` changes no file but those of the repository's bundle directory, its
manifest and the manifest's two backups, and no object but those of the repository's bundles at
the tip, `repo/tip.t.hg`. -/
theorem generate_bundles_footprint (env : Env) (repo : String) (upload zstdMax : Bool)
    (copyfrom : Option Opt) (ht : isabs (env.output (tipArgv repo)) = false) {w w' : World}
    {r : Except Err (List (String × String × Nat))}
    (h : generateBundles env repo upload copyfrom zstdMax w = (r, w')) :
    (∀ p, ¬ RunFile repo p → w'.store.files p = w.store.files p) ∧
    (∀ k, ¬ RunObject repo (env.output (tipArgv repo)) k → w'.store.objects k = w.store.objects k) := by
  have hg := guar_generateBundles_writesOnly ht upload copyfrom zstdMax w
  rw [h] at hg
  exact ⟨fun p hp => Sum.inl.inj (hg (.file p) hp), fun k hk => Sum.inr.inj (hg (.obj k) hk)⟩

theorem generate_bundles_footprint_quiet :
    isabs ((quietEnv "abc").output (tipArgv "r")) = false ∧
    ∃ r w', generateBundles (quietEnv "abc") "r" true none false (generaldeltaWorld "r") = (r, w') ∧
      (∀ p, ¬ RunFile "r" p → w'.store.files p = (generaldeltaWorld "r").store.files p) ∧
      (∀ k, ¬ RunObject "r" ((quietEnv "abc").output (tipArgv "r")) k →
        w'.store.objects k = (generaldeltaWorld "r").store.objects k) :=
  ⟨rfl, _, _, (Prod.eta _).symm, generate_bundles_footprint (quietEnv "abc") "r" true false none rfl (Prod.eta _).symm⟩

/-! ### The fleet -/

/-- The files `main` may change when the repositories it processes are among `L`: the three
files it writes in `BUNDLE_ROOT`, and those of the runs for `L`. -/
def MainFile (L : List String) (p : String) : Prop :=
  p = rootFile "index.html" ∨ p = rootFile "bundles.json" ∨ p = rootFile "lastrun" ∨ ∃ R ∈ L, RunFile R p

/-- The objects it may change: `index.html` and `bundles.json` on S3, and those of the runs for
`L`, each at the tip `hg log` prints for it. -/
def MainObject (env : Env) (L : List String) (k : ObjKey) : Prop :=
  (k.backend = .s3 ∧ (k.key = "index.html" ∨ k.key = "bundles.json")) ∨
    ∃ R ∈ L, RunObject R (env.output (tipArgv R)) k

/-- Both, as locations. -/
def MainLoc (env : Env) (L : List String) : Loc → Prop
  | .file p => MainFile L p
  | .obj k => MainObject env L k

theorem Py.Guar.writesOnly_mono {W W' : Loc → Prop} {x : Py α} (hx : Py.Guar (.writesOnly W) x)
    (h : ∀ l, W l → W' l) : Py.Guar (.writesOnly W') x :=
  fun w l hl => hx w l fun hw => hl (h l hw)

/-- From one world, `x >>= f` keeps to `G` when `x` does and `f` does after what `x` returns
from there. -/
theorem Py.Guar.rel_bind {G : Guarantee} {x : Py α} {f : α → Py β} {w : World} (hx : G.rel w (x w).2)
    (hf : ∀ a w₁, x w = (.ok a, w₁) → G.rel w₁ (f a w₁).2) : G.rel w ((x >>= f) w).2 := by
  rw [Py.bind_apply]
  revert hx
  rcases hw : x w with ⟨_ | a, w₁⟩
  · exact id
  · exact fun h => G.trans h (hf a w₁ hw)

section Fleet

variable {env : Env} {L : List String}

theorem runLoc_mainLoc {R : String} (hR : R ∈ L) :
    ∀ l, RunLoc R (env.output (tipArgv R)) l → MainLoc env L l
  | .file _, h => .inr (.inr (.inr ⟨R, hR, h⟩))
  | .obj _, h => .inr ⟨R, hR, h⟩

/-- A `put_object` writes its object. -/
theorem guar_writesOnly_putObject {W : Loc → Prop} {region b key body : String} (hw : W (.obj ⟨.s3, b, key⟩)) :
    Py.Guar (.writesOnly W) (perform env (.putObject region b key body)) := fun w l hl => by
  show (act env _ w.store).2.get l = w.store.get l
  unfold act
  cases env.fault (.putObject region b key body) with
  | some _ => rfl
  | none => simp [IOCall.apply, show l ≠ .obj ⟨.s3, b, key⟩ from fun h => hl (h ▸ hw)]

theorem guar_putEverywhere_writesOnly {key body : String} (hk : key = "index.html" ∨ key = "bundles.json") :
    ∀ hosts, Py.Guar (.writesOnly (MainLoc env L)) (putEverywhere env key body hosts)
  | [] => .pure _
  | (_, _, _) :: hosts =>
    .bind (guar_writesOnly_putObject (.inl ⟨rfl, hk⟩)) fun _ => guar_putEverywhere_writesOnly hk hosts

/-- The repository loop runs `generate_bundles` for repositories of `L` only. -/
theorem guar_generateAll_writesOnly (ht : ∀ R ∈ L, isabs (env.output (tipArgv R)) = false) (upload : Bool) :
    ∀ repos : List (String × List (String × Opt)), (∀ r ∈ repos, r.1 ∈ L) → ∀ acc,
      Py.Guar (.writesOnly (MainLoc env L)) (generateAll env upload repos acc)
  | [], _, _ => .pure _
  | (R, _) :: rest, hL, _ =>
    have hR : R ∈ L := hL _ (List.mem_cons_self _ _)
    .bind (.ite ((guar_generateBundles_writesOnly (ht R hR) _ _ _).writesOnly_mono (runLoc_mainLoc hR))
      (.throw _)) fun _ => guar_generateAll_writesOnly ht upload rest (fun r hr => hL r (List.mem_cons_of_mem _ hr)) _

end Fleet

/-- **`main` writes only the summaries and what the runs of its repositories write.** Whatever
the flags and whatever fails, when every repository `main` reads from its list is one of `L`,
`main` changes no file but `index.html`, `bundles.json` and `lastrun` in `BUNDLE_ROOT` and those a
run of `generate_bundles` for a repository of `L` may change, and no object but `index.html` and
`bundles.json` on S3 and the objects of the bundles of those repositories at their tips. -/
theorem main_footprint (env : Env) (f : Option String) (noUpload : Bool) (remaining : List String)
    (indexTime lastrunTime : String) (L : List String) (ht : ∀ R ∈ L, isabs (env.output (tipArgv R)) = false)
    {w w' : World} (hL : ∀ items w₁ repos w₂, readItems env f remaining w = (.ok items, w₁) →
      parseItems items w₁ = (.ok repos, w₂) → ∀ r ∈ repos, r.1 ∈ L)
    {r : Except Err (Option Nat)} (h : main env f noUpload remaining indexTime lastrunTime w = (r, w')) :
    (∀ p, ¬ MainFile L p → w'.store.files p = w.store.files p) ∧
    (∀ k, ¬ MainObject env L k → w'.store.objects k = w.store.objects k) := by
  have hread : Py.Guar (.writesOnly (MainLoc env L)) (readItems env f remaining) := by
    cases f with
    | none => exact .pure _
    | some path => exact .ite (.pure _) (.bind (guar_writesOnly_query rfl fun _ => id) fun _ => .pure _)
  have hg : (Guarantee.writesOnly (MainLoc env L)).rel w
      (main env f noUpload remaining indexTime lastrunTime w).2 := by
    refine Py.Guar.rel_bind (hread w) fun items w₁ h₁ =>
      Py.Guar.rel_bind (guar_parseItems _ w₁) fun repos w₂ h₂ => (show Py.Guar _ _ from ?_) w₂
    refine .bind (.tryCatch (.bind (guar_generateAll_writesOnly ht _ repos (hL _ _ _ _ h₁ h₂) _)
      fun _ => .pure _) fun e => ?_) fun r => ?_
    · cases e <;> first | exact .pure _ | exact .throw _
    · rcases r with _ | paths
      · exact .pure _
      · exact .bind (.bind (guar_writesOnly_local rfl fun _ h => .inl h) fun _ => .pure _) fun _ =>
          .bind (.bind (guar_writesOnly_local rfl fun _ h => .inr (.inl h)) fun _ => .pure _) fun _ =>
          .bind (.ite (.bind (guar_putEverywhere_writesOnly (.inl rfl) _) fun _ =>
            guar_putEverywhere_writesOnly (.inr rfl) _) (.pure _)) fun _ =>
          .bind (guar_writesOnly_local rfl fun _ h => .inr (.inr (.inl h))) fun _ => .pure _
  rw [h] at hg
  exact ⟨fun p hp => Sum.inl.inj (hg (.file p) hp), fun k hk => Sum.inr.inj (hg (.obj k) hk)⟩

theorem main_footprint_listed :
    (∀ R ∈ ["r"], isabs ((quietEnv "abc").output (tipArgv R)) = false) ∧
    (∀ items w₁ repos w₂, readItems (quietEnv "abc") none ["r"] ⟨Store.empty, []⟩ = (.ok items, w₁) →
      parseItems items w₁ = (.ok repos, w₂) → ∀ r ∈ repos, r.1 ∈ ["r"]) ∧
    ∃ r w', main (quietEnv "abc") none false ["r"] "T" "T" ⟨Store.empty, []⟩ = (r, w') ∧
      (∀ p, ¬ MainFile ["r"] p → w'.store.files p = Store.empty.files p) ∧
      (∀ k, ¬ MainObject (quietEnv "abc") ["r"] k → w'.store.objects k = Store.empty.objects k) :=
  have ht : ∀ R ∈ ["r"], isabs ((quietEnv "abc").output (tipArgv R)) = false := fun _ _ => rfl
  have hL : ∀ items w₁ repos w₂, readItems (quietEnv "abc") none ["r"] ⟨Store.empty, []⟩ = (.ok items, w₁) →
      parseItems items w₁ = (.ok repos, w₂) → ∀ r ∈ repos, r.1 ∈ ["r"] := fun items w₁ repos w₂ h₁ h₂ => by
    obtain ⟨rfl, rfl⟩ := Py.pure_eq_ok h₁
    have hp : parseItems ["r"] ⟨Store.empty, []⟩ = (.ok [("r", [])], ⟨Store.empty, []⟩) := rfl
    rw [hp] at h₂
    cases h₂
    simp
  ⟨ht, hL, _, _, (Prod.eta _).symm, main_footprint _ _ _ _ _ _ _ ht hL (Prod.eta _).symm⟩

/-! ### A repository without `generaldelta` -/

section Refused

variable {env : Env}

/-- A call that does not fail does what `IOCall.apply` does. -/
theorem perform_noFault {c : IOCall} (hf : env.fault c = none) (w : World) :
    perform env c w = ((c.apply env w.store).1, ⟨(c.apply env w.store).2, w.log ++ [.call c (c.apply env w.store).1.toBool]⟩) := by
  simp [perform, act, hf]

/-- `prepare` for a repository whose `requires` lacks `generaldelta`: whatever fails it raises
and changes nothing, and when the calls before the check return it raises the check's
`Exception`. -/
theorem prepare_refuses {repo t : String} {w : World} (hreq : w.store.files (hgFile repo "requires") = some (.text t))
    (hgd : "generaldelta\n" ∉ readlines t) :
    (prepare env repo w).2.store = w.store ∧ (∃ e, (prepare env repo w).1 = .error e) ∧
    (env.fault (.stat (pathJoin (pathJoin reposRoot repo) ".hg")) = none →
      env.fault (.checkOutput (tipArgv repo)) = none → env.fault (.readlines (hgFile repo "requires")) = none →
      (prepare env repo w).1 = .error (.exception ("non-generaldelta repo not supported: " ++ pathJoin reposRoot repo))) := by
  set P : Except Err String → Store → Prop := fun r s => s = w.store ∧ (∃ e, r = .error e) ∧
      (env.fault (.stat (pathJoin (pathJoin reposRoot repo) ".hg")) = none →
        env.fault (.checkOutput (tipArgv repo)) = none → env.fault (.readlines (hgFile repo "requires")) = none →
        r = .error (.exception ("non-generaldelta repo not supported: " ++ pathJoin reposRoot repo)))
  show P _ _
  have hr : ∀ s : Store, s = w.store →
      (IOCall.readlines (hgFile repo "requires")).apply env s = (.ok (readlines t), s) := by
    rintro _ rfl
    simp [IOCall.apply, hreq]
  unfold prepare
  refine outcome_bind (fun e _ h => ⟨perform_error_store (by nofun) h, ⟨e, rfl⟩,
    fun hf _ _ => absurd ((perform_noFault hf w).symm.trans h) (by simp [IOCall.apply])⟩) fun _ w₁ h₁ => ?_
  have hs₁ := perform_ok_store h₁ fun _ => rfl
  refine outcome_bind (fun e _ h => ⟨(perform_error_store (by nofun) h).trans hs₁, ⟨e, rfl⟩,
    fun _ hf _ => absurd ((perform_noFault hf w₁).symm.trans h) (by simp [IOCall.apply])⟩) fun _ w₂ h₂ => ?_
  have hs₂ := (perform_ok_store h₂ fun _ => rfl).trans hs₁
  refine outcome_bind (fun e _ h => ⟨(perform_error_store (by nofun) h).trans hs₂, ⟨e, rfl⟩,
    fun _ _ hf => absurd ((perform_noFault hf w₂).symm.trans h) (by simp [hr _ hs₂])⟩) fun lines w₃ h₃ => ?_
  obtain ⟨hl, hs₃⟩ := Prod.mk.inj (((perform_ok h₃).2).symm.trans (hr _ hs₂))
  obtain rfl := Except.ok.inj hl
  simp only [Py.bind_apply, if_pos hgd, Py.throw_apply]
  exact ⟨hs₃ ▸ hs₂, ⟨_, rfl⟩, fun _ _ _ => rfl⟩

end Refused

end HgBundles
