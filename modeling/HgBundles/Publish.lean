import HgBundles.Progress
import HgBundles.Manifest

/-!
# HgBundles.Publish — what stands behind the manifest a run writes

The manifest of a primary run is written once, after the generation jobs have been joined, the
uploads joined and the sizes read. Following the first write of `repo`'s manifest in the log of
any run (`IsManifestWrite`) back through the blocks of the run:

* `manifestWrite_spec`: the events before it report the ends of exactly the submitted generation
  and upload jobs, all of which returned, and the text written is `runManifest`, the manifest of
  the bundles of the tip;
* `manifest_advertises_only_published`: every backend line of that text names an object that an
  upload of this run, to the line's bucket and region and under its key, published and returned
  from; the key is the one `paths` returns for the line's type;
* `manifest_reads_as_described`: the text reads back as the manifest described type by type.
-/

namespace HgBundles

/-! ### Back from the write -/

section Spec

variable {env : Env} {R : String}

/-- The first `R`-manifest write in the log of a run from `w` comes after the events that end
exactly the submitted generation jobs `gs` and upload jobs `us`, all of which returned; it
writes `runManifest` at the tip `hg` printed, and the run is a primary run. -/
theorem manifestWrite_spec {upload zstdMax : Bool} {copyfrom : Option Opt} {w : World}
    {pre : List Event} {e : Event}
    (h : Py.HitsAt (IsManifestWrite R) w.log (generateBundles env R upload copyfrom zstdMax) w pre e) :
    (∀ cf, copyfrom = some cf → cf.truthy = false) ∧
    (∃ b, e = .call (.write (hgFile R "clonebundles.manifest")
      (runManifest R (env.output (tipArgv R)) upload zstdMax)) b) ∧
    ∃ gs us : List Future, pre.filterMap Event.done = (gs ++ us).map Future.done ∧
      (∀ f ∈ gs ++ us, f.result = .ok ()) ∧
      (gs.map Future.task).Sublist (generationTasks (pathJoin reposRoot R) (pathJoin bundleRoot R) R
        (env.output (tipArgv R)) zstdMax creates) ∧
      us.map Future.task = (if upload then uploadTasks (runBundles R (env.output (tipArgv R)) zstdMax)
        else []) := by
  have hnw : ∀ {β} {x : Py β}, Py.Guar (.log (Quiet R)) x →
      Py.Guar (.log fun y => ¬ IsManifestWrite R y) x := fun hx => hx.log_imp fun _ h => h.1
  -- the `isabs` assertion
  have gi : Py.Guar (.log (Quiet R)) (if isabs R then throw .assertion else pure () : Py Unit) :=
    .ite (.throw _) (.pure _)
  obtain ⟨_, w₀, hi, hb, h⟩ := Py.HitsAt.bind (hnw gi) (Py.before_self w) h
  obtain ⟨L₀, hL₀, hd₀⟩ := reports_quiet gi hi
  -- mirror mode writes no manifest
  obtain ⟨hcf, h⟩ : (∀ cf, copyfrom = some cf → cf.truthy = false) ∧
      Py.HitsAt (IsManifestWrite R) w.log (primary env R upload zstdMax) w₀ pre e := by
    rcases copyfrom with _ | cf
    · exact ⟨nofun, h⟩
    · by_cases hcf : cf.truthy
      · simp only [hcf, if_true] at h
        exact absurd h (Py.HitsAt.not_of_guar (hnw (guar_copyManifest mirrorAllows_quiet cf)) hb)
      · simp only [hcf, if_false, Bool.false_eq_true] at h
        exact ⟨fun _ h' => Option.some.inj h' ▸ by simpa using hcf, h⟩
  -- `prepare`
  have gp := guar_prepare (@prepareAllows_quiet env R)
  obtain ⟨tip, w₁, hp, hb, h⟩ := Py.HitsAt.bind (hnw gp) hb h
  obtain ⟨L₁, hL₁, hd₁⟩ := reports_quiet gp hp
  obtain rfl := prepare_ok hp
  -- the generation loop and its join
  obtain ⟨⟨bs, gs⟩, w₂, hg, hb, h⟩ := Py.HitsAt.bind
    (guar_submitGenerations (fun _ => hnw (guar_quiet fun _ => rfl))
      (fun _ _ => guar_submit_noWrite _) creates) hb h
  obtain ⟨rfl, hgs, L₂, hL₂, hd₂⟩ := submitGenerations_spec env _ _ _ _ _ _ _ _ _ _ hg
  dsimp only at h
  obtain ⟨_, w₃, hj, hb, h⟩ := Py.HitsAt.bind (hnw (.joinAll gs)) hb h
  obtain ⟨hgok, hw₃⟩ := joinAll_ok hj
  -- the upload block
  obtain ⟨_, w₄, hu, hb, h⟩ := Py.HitsAt.bind
    (guar_uploadBundles (fun _ _ _ _ => guar_submit_noWrite _) (fun _ _ _ _ => guar_submit_noWrite _)
      upload _) hb h
  obtain ⟨us, hus, huok, ⟨L₃, hL₃, hd₃⟩, -⟩ := uploadBundles_ok hu
  -- `paths`
  have gr := guar_recordSizes fun _ => @guar_quiet env R _ fun _ => rfl
  obtain ⟨_, w₅, hr, hb, h⟩ := Py.HitsAt.bind (hnw (gr _)) hb h
  obtain ⟨L₄, hL₄, hd₄⟩ := reports_quiet (gr _) hr
  -- the manifest block, up to the write
  replace h := Py.HitsAt.of_bind_pure h
  dsimp only [writeManifest] at h
  have ge : Py.Guar (.log (Quiet R)) (perform env (.pathExists (hgFile R "clonebundles.manifest"))) :=
    guar_quiet fun _ => rfl
  obtain ⟨_, w₆, he, hb, h⟩ := Py.HitsAt.bind (hnw ge) hb h
  obtain ⟨L₅, hL₅, hd₅⟩ := reports_quiet ge he
  have gc : ∀ present : Bool, Py.Guar (.log (Quiet R)) (if present then perform env
      (.copy2 (hgFile R "clonebundles.manifest") (hgFile R "clonebundles.manifest.old"))
      else pure ()) := fun _ => .ite (guar_quiet fun _ => rfl) (.pure _)
  obtain ⟨_, w₇, hc, hb, h⟩ := Py.HitsAt.bind (hnw (gc _)) hb h
  obtain ⟨L₆, hL₆, hd₆⟩ := reports_quiet (gc _) hc
  obtain ⟨hpre, rfl⟩ := Py.HitsAt.perform (fun _ => by exact rfl)
    (fun _ => .bind (guar_log_perform fun _ => trivial) fun _ => guar_log_perform fun _ => trivial) hb h
  refine ⟨hcf, ⟨_, rfl⟩, gs, us, ?_, ?_, hgs, hus⟩
  · have hlog : w.log ++ pre = w.log ++ (L₀ ++ L₁ ++ L₂ ++ L₃ ++ L₄ ++ L₅ ++ L₆) := by
      rw [← hpre, hL₆, hL₅, hL₄, hL₃, hw₃, hL₂, hL₁, hL₀]
      simp only [List.append_assoc]
    rw [List.append_cancel_left hlog]
    simp [hd₀, hd₁, hd₂, hd₃, hd₄, hd₅, hd₆]
  · exact fun f hf => (List.mem_append.mp hf).elim (hgok f) (huok f)

end Spec

/-! ### The lines of the manifest -/

/-- The remote key a manifest line advertises. -/
def Entry.key : Entry → String
  | .cdn k _ => k
  | .s3 _ _ k _ _ => k
  | .gcs _ k _ _ => k

/-- The object a backend line advertises was published, in the log `pre`, by an upload to the
line's bucket, in the line's region and under its key, that returned normally. A CDN line names
no backend. -/
def Entry.PublishedIn (pre : List Event) : Entry → Prop
  | .cdn _ _ => True
  | .s3 _ bucket key _ region => ∃ lp, .finished (.uploadToS3 region bucket lp key) true ∈ pre
  | .gcs bucket key _ region => ∃ lp, .finished (.uploadToGcpstorage region bucket lp key) true ∈ pre

theorem mem_runBundles {repo tip : String} {zstdMax : Bool} {b : String × String × String} :
    b ∈ runBundles repo tip zstdMax ↔
      b.1 ∈ selected zstdMax ∧ b.2 = bundlePaths (pathJoin bundleRoot repo) repo tip b.1 := by
  obtain ⟨t, p⟩ := b
  simp only [runBundles, recordedBundles, selected, List.mem_map, List.mem_filter, Prod.mk.injEq]
  constructor
  · rintro ⟨e, he, rfl, rfl⟩
    exact ⟨⟨e, he, rfl⟩, rfl⟩
  · rintro ⟨⟨e, he, rfl⟩, rfl⟩
    exact ⟨e, he, rfl, rfl⟩

/-- A line of the manifest of a run is one of the lines of a selected type, whose bundle the run
recorded. -/
theorem mem_runManifest_entries {repo tip : String} {upload zstdMax : Bool} {e : Entry}
    (he : e ∈ manifestEntries (reboundPath upload (pathJoin bundleRoot repo)
      (runBundles repo tip zstdMax)) repo tip ((runBundles repo tip zstdMax).map Prod.fst)) :
    ∃ t ∈ selected zstdMax, (t, bundlePaths (pathJoin bundleRoot repo) repo tip t) ∈
      runBundles repo tip zstdMax ∧
      ∃ params, e ∈ typeEntries (bundlePaths (pathJoin bundleRoot repo) repo tip t).2 params := by
  simp only [manifestEntries, List.mem_flatMap, runBundles_types] at he
  obtain ⟨⟨t, params⟩, -, hm⟩ := he
  split_ifs at hm with ht
  · exact ⟨t, ht, mem_runBundles.mpr ⟨ht, rfl⟩, params, hm⟩
  · simp at hm

section Claims

variable {env : Env} {R : String}

theorem finished_of_upload {pre : List Event} {gs us : List Future}
    (hd : pre.filterMap Event.done = (gs ++ us).map Future.done) (hok : ∀ f ∈ gs ++ us, f.result = .ok ())
    {u : TaskName} (hu : u ∈ us.map Future.task) : Event.finished u true ∈ pre := by
  obtain ⟨f, hf, rfl⟩ := List.mem_map.mp hu
  have hf' := List.mem_append_right gs hf
  have : (f.task, true) ∈ pre.filterMap Event.done := by
    rw [hd]
    exact List.mem_map.mpr ⟨f, hf', by rw [Future.done, hok f hf']; rfl⟩
  obtain ⟨y, hy, hyd⟩ := List.mem_filterMap.mp this
  cases y with
  | call => cases hyd
  | finished t ok =>
    obtain ⟨rfl, rfl⟩ := Prod.mk.inj (Option.some.inj hyd)
    exact hy

/-- **The manifest advertises only what the run published.** If a run of
`generate_bundles(R, upload=True, ...)` reaches the write of `R`'s manifest, every pool job that
ended before it returned, and every line of the text written names an object that an upload of
this run, to the line's bucket and region and under its key, published before the write; that
key is the one `paths` holds for the line's type in the mapping the run returns. -/
theorem manifest_advertises_only_published (env : Env) (R : String) (copyfrom : Option Opt)
    (zstdMax : Bool) (w : World) (pre post : List Event) (text : String) (b : Bool)
    (hlog : (generateBundles env R true copyfrom zstdMax w).2.log =
      w.log ++ pre ++ .call (.write (hgFile R "clonebundles.manifest") text) b :: post)
    (hfirst : ∀ y ∈ pre, ¬ IsManifestWrite R y) :
    (∀ t ok, Event.finished t ok ∈ pre → ok = true) ∧
    ∃ es, text = manifestText es ∧ ∀ e ∈ es, e.PublishedIn pre ∧
      ∃ t ∈ selected zstdMax,
        e.key = (bundlePaths (pathJoin bundleRoot R) R (env.output (tipArgv R)) t).2 ∧
        ∀ ps w', generateBundles env R true copyfrom zstdMax w = (.ok ps, w') →
          ∃ n, (t, e.key, n) ∈ ps := by
  obtain ⟨hcf, ⟨b', he⟩, gs, us, hd, hok, -, hus⟩ :=
    manifestWrite_spec (e := .call (.write (hgFile R "clonebundles.manifest") text) b)
      ⟨rfl, hfirst, post, hlog⟩
  obtain rfl := (IOCall.write.inj (Event.call.inj he).1).2
  rw [if_pos rfl] at hus
  refine ⟨fun t ok hm => ?_, _, rfl, fun e he => ?_⟩
  · have : (t, ok) ∈ pre.filterMap Event.done := List.mem_filterMap.mpr ⟨_, hm, rfl⟩
    rw [hd] at this
    obtain ⟨f, hf, hfe⟩ := List.mem_map.mp this
    simp only [Future.done, Prod.mk.injEq] at hfe
    rw [← hfe.2, hok f hf]
    rfl
  obtain ⟨t, ht, hb, params, hm⟩ := mem_runManifest_entries he
  have hup : ∀ u ∈ uploadTasks (runBundles R (env.output (tipArgv R)) zstdMax),
      Event.finished u true ∈ pre := fun u hu => finished_of_upload hd hok (hus ▸ hu)
  have hret : ∀ ps w', generateBundles env R true copyfrom zstdMax w = (.ok ps, w') →
      ∃ n, (t, (bundlePaths (pathJoin bundleRoot R) R (env.output (tipArgv R)) t).2, n) ∈ ps := by
    intro ps w' hr
    rcases generateBundles_ok hr with ⟨cf, hc, htr, -⟩ | ⟨-, s, rfl⟩
    · simp [hcf cf hc] at htr
    · exact ⟨_, List.mem_map.mpr ⟨_, hb, rfl⟩⟩
  simp only [typeEntries, List.mem_cons, List.mem_append, List.mem_map] at hm
  rcases hm with (rfl | ⟨⟨host, bucket, name⟩, hh, rfl⟩) | ⟨⟨bucket, name⟩, hh, rfl⟩
  · exact ⟨trivial, t, ht, rfl, hret⟩
  · refine ⟨?_, t, ht, rfl, hret⟩
    dsimp only [Entry.PublishedIn]
    refine ⟨(bundlePaths (pathJoin bundleRoot R) R (env.output (tipArgv R)) t).1, hup _ ?_⟩
    rw [uploadTasks_eq]
    exact List.mem_append_left _ (List.mem_flatMap.mpr ⟨_, hh, List.mem_map.mpr ⟨_, hb, rfl⟩⟩)
  · refine ⟨?_, t, ht, rfl, hret⟩
    dsimp only [Entry.PublishedIn]
    refine ⟨(bundlePaths (pathJoin bundleRoot R) R (env.output (tipArgv R)) t).1, hup _ ?_⟩
    rw [uploadTasks_eq]
    exact List.mem_append_right _ (List.mem_flatMap.mpr ⟨_, hh, List.mem_map.mpr ⟨_, hb, rfl⟩⟩)

theorem manifest_advertises_only_published_quiet :
    ∃ pre post text b,
      (generateBundles (quietEnv "abc") "r" true none false (generaldeltaWorld "r")).2.log =
        (generaldeltaWorld "r").log ++ pre ++
          .call (.write (hgFile "r" "clonebundles.manifest") text) b :: post ∧
      (∀ y ∈ pre, ¬ IsManifestWrite "r" y) ∧
      (∀ t ok, Event.finished t ok ∈ pre → ok = true) ∧
      ∃ es, text = manifestText es ∧ ∀ e ∈ es, e.PublishedIn pre ∧
        ∃ t ∈ selected false,
          e.key = (bundlePaths (pathJoin bundleRoot "r") "r" ((quietEnv "abc").output (tipArgv "r")) t).2 ∧
          ∀ ps w', generateBundles (quietEnv "abc") "r" true none false (generaldeltaWorld "r") =
            (.ok ps, w') → ∃ n, (t, e.key, n) ∈ ps := by
  obtain ⟨ps, w', pre, post, h, hlog, hpre⟩ := @generateBundles_completes _ (quietEnv_reliable "abc")
    "r" _ true false none _ (by decide) nofun (generaldeltaWorld_requires "r") (by decide)
  have hlog' := (congrArg (fun r => r.2.log) h).trans hlog
  exact ⟨pre, post, _, true, hlog', hpre, manifest_advertises_only_published (quietEnv "abc") "r" none
    false (generaldeltaWorld "r") pre post _ true hlog' hpre⟩

/-- **The manifest reads back as described.** For a repository and a tip without whitespace,
the text a run writes to the manifest splits into the lines, URLs and parameters of the
manifest described type by type. -/
theorem manifest_reads_as_described (env : Env) (R : String) (upload : Bool)
    (copyfrom : Option Opt) (zstdMax : Bool) (w : World) (pre post : List Event) (text : String)
    (b : Bool) (hR : NoSpace R) (hT : NoSpace (env.output (tipArgv R)))
    (hlog : (generateBundles env R upload copyfrom zstdMax w).2.log =
      w.log ++ pre ++ .call (.write (hgFile R "clonebundles.manifest") text) b :: post)
    (hfirst : ∀ y ∈ pre, ¬ IsManifestWrite R y) :
    parseManifest text = (describedManifest R (env.output (tipArgv R)) zstdMax).map some := by
  obtain ⟨-, ⟨b', he⟩, -⟩ :=
    manifestWrite_spec (e := .call (.write (hgFile R "clonebundles.manifest") text) b)
      ⟨rfl, hfirst, post, hlog⟩
  obtain rfl := (IOCall.write.inj (Event.call.inj he).1).2
  rw [runManifest, runBundles_types]
  exact parse_manifest_described _ R _ zstdMax hR hT

theorem manifest_reads_as_described_quiet :
    ∃ pre post text b,
      NoSpace "r" ∧ NoSpace ((quietEnv "abc").output (tipArgv "r")) ∧
      (generateBundles (quietEnv "abc") "r" true none false (generaldeltaWorld "r")).2.log =
        (generaldeltaWorld "r").log ++ pre ++
          .call (.write (hgFile "r" "clonebundles.manifest") text) b :: post ∧
      (∀ y ∈ pre, ¬ IsManifestWrite "r" y) ∧
      parseManifest text = (describedManifest "r" ((quietEnv "abc").output (tipArgv "r")) false).map some := by
  obtain ⟨ps, w', pre, post, h, hlog, hpre⟩ := @generateBundles_completes _ (quietEnv_reliable "abc")
    "r" _ true false none _ (by decide) nofun (generaldeltaWorld_requires "r") (by decide)
  have hlog' := (congrArg (fun r => r.2.log) h).trans hlog
  exact ⟨pre, post, _, true, by decide, by decide, hlog', hpre, manifest_reads_as_described
    (quietEnv "abc") "r" true none false (generaldeltaWorld "r") pre post _ true (by decide) (by decide)
    hlog' hpre⟩

end Claims

end HgBundles
