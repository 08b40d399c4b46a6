import HgBundles.Jobs
import HgBundles.Lastrun

/-!
# HgBundles.Offline — `main --no-upload`, and a repository list with a blank line

* `IOCall.storage`: the calls that reach a storage backend (the S3 session and clients, the GCS
  client, `put_object`); `Event.Offline`: an event of a run that stays on this host;
* `Guarantee.offline`: no event reaches a storage backend and no object changes; every call
  that reaches no backend keeps to it (`guar_offline_perform`), and so does every run of
  `generate_bundles` with `upload=False` (`guar_generateBundles_offline`);
* `main_no_upload_offline`: with `--no-upload`, `main` makes no call to a storage backend,
  submits no upload job and leaves every object as it was, whatever the repository list and
  whatever fails;
* `main_blank_line_raises`: a repository line with no field makes `main` raise `IndexError`
  right after reading the list, before any repository is looked at;
* `no_upload_still_advertises`: yet `generate_bundles(upload=False)` that returns has written the
  same `clonebundles.manifest` an uploading run writes, every S3 and GCS line included, although
  no object was uploaded.
-/

namespace HgBundles

/-- The calls that reach a storage backend. -/
def IOCall.storage : IOCall → Bool
  | .session _ _ _ | .handle _ _ _ _ | .load _ _ _ | .copyFrom _ _ _ | .uploadFile _ _ _ _
  | .blobExists _ _ _ | .patch _ _ _ _ | .uploadFromFilename _ _ _ _ | .putObject _ _ _ _ => true
  | _ => false

/-- An event that stays on this host: a call that reaches no storage backend, or the end of a
job that uploads nothing. -/
def Event.Offline : Event → Prop
  | .call c _ => c.storage = false
  | .finished t _ => t.target = none

/-- Statements that reach no storage backend and leave the objects `O` as they are. -/
def Guarantee.offline (O : ObjKey → Option Obj) : Guarantee where
  rel w w' := (w.store.objects = O → w'.store.objects = O) ∧
    ∃ L, w'.log = w.log ++ L ∧ ∀ e ∈ L, e.Offline
  refl w := ⟨id, (Guarantee.log _).refl w⟩
  trans h h' := ⟨h'.1 ∘ h.1, (Guarantee.log _).trans h.2 h'.2⟩

section Offline

variable {env : Env} (O : ObjKey → Option Obj)

/-- A call that reaches no storage backend changes no object. -/
theorem act_objects_of_local {c : IOCall} (hc : c.storage = false) (s : Store) :
    (act env c s).2.objects = s.objects := by
  unfold act
  cases env.fault c with
  | some f => cases c <;> first | rfl | (simp only [IOCall.afterFault]; split <;> rfl)
  | none =>
    cases c <;> simp only [IOCall.storage, Bool.true_eq_false] at hc <;> simp only [IOCall.apply] <;>
      (try split) <;> rfl

theorem guar_offline_perform {c : IOCall} (hc : c.storage = false) :
    Py.Guar (.offline O) (perform env c) := fun w =>
  ⟨fun h => (act_objects_of_local hc w.store).trans h, _, rfl, by simp [Event.Offline, hc]⟩

theorem guar_offline_submit (repo t f : String) (args : List String) :
    Py.Guar (.offline O) (submit env (.generateBundle repo t f args)) :=
  .submit (.run ((TaskName.generateBundle repo t f args).allCalls_canCall.imp fun c hc => by
      rcases hc with rfl | rfl <;> exact guar_offline_perform O rfl))
    fun _ _ => ⟨id, _, rfl, by simp [Event.Offline, TaskName.target]⟩

theorem guar_produce_offline (repo tip : String) (zstdMax : Bool) :
    Py.Guar (.offline O) (produce env repo tip false zstdMax) :=
  .bind (guar_submitGenerations (fun _ => guar_offline_perform O rfl)
      (fun _ _ => guar_offline_submit O _ _ _ _) _) fun ⟨_, fs⟩ =>
    .bind (.joinAll fs) fun _ => .bind (.pure _) fun _ =>
    .bind (guar_recordSizes (fun _ => guar_offline_perform O rfl) _) fun _ =>
    .bind (.bind (guar_offline_perform O rfl) fun _ =>
      .bind (.ite (guar_offline_perform O rfl) (.pure _)) fun _ =>
      .bind (guar_offline_perform O rfl) fun _ => .bind (guar_offline_perform O rfl) fun _ =>
      guar_offline_perform O rfl) fun _ => .pure _

/-- A run of `generate_bundles` with `upload=False` reaches no storage backend. -/
theorem guar_generateBundles_offline (repo : String) (copyfrom : Option Opt) (zstdMax : Bool) :
    Py.Guar (.offline O) (generateBundles env repo false copyfrom zstdMax) := by
  have hp : Py.Guar (.offline O) (primary env repo false zstdMax) :=
    .bind (guar_prepare ⟨guar_offline_perform O rfl, guar_offline_perform O rfl,
      guar_offline_perform O rfl, guar_offline_perform O rfl, guar_offline_perform O rfl,
      fun _ => guar_offline_perform O rfl⟩) fun tip => guar_produce_offline O repo tip zstdMax
  refine .bind (.ite (.throw _) (.pure _)) fun _ => ?_
  rcases copyfrom with _ | cf
  · exact hp
  · exact .ite (guar_copyManifest ⟨fun _ => guar_offline_perform O rfl, guar_offline_perform O rfl,
      guar_offline_perform O rfl, fun _ => guar_offline_perform O rfl⟩ cf) hp

theorem guar_generateAll_offline : ∀ (repos : List (String × List (String × Opt)))
    (acc : List (String × RepoPaths)), Py.Guar (.offline O) (generateAll env false repos acc)
  | [], _ => .pure _
  | (_, _) :: rest, _ =>
    .bind (.ite (guar_generateBundles_offline O _ _ _) (.throw _)) fun _ =>
      guar_generateAll_offline rest _

theorem guar_main_offline (f : Option String) (remaining : List String)
    (indexTime lastrunTime : String) :
    Py.Guar (.offline O) (main env f true remaining indexTime lastrunTime) := by
  have hread : Py.Guar (.offline O) (readItems env f remaining) := by
    cases f with
    | none => exact .pure _
    | some path => exact .ite (.pure _) (.bind (guar_offline_perform O rfl) fun _ => .pure _)
  refine .bind hread fun _ => .bind (guar_parseItems _) fun _ =>
    .bind (.tryCatch (.bind (guar_generateAll_offline O _ _) fun _ => .pure _) fun e => ?_) fun r => ?_
  · cases e <;> first | exact .pure _ | exact .throw _
  · rcases r with _ | paths
    · exact .pure _
    · exact .bind (.bind (guar_offline_perform O rfl) fun _ => .pure _) fun _ =>
        .bind (.bind (guar_offline_perform O rfl) fun _ => .pure _) fun _ =>
        .bind (.pure _) fun _ => .bind (guar_offline_perform O rfl) fun _ => .pure _

end Offline

/-- **`--no-upload` stays on this host.** Whatever the repository list and whatever fails, `main`
with `--no-upload` makes no call to a storage backend, submits no upload job, and leaves every
object of every bucket as it was. -/
theorem main_no_upload_offline (env : Env) (f : Option String) (remaining : List String)
    (indexTime lastrunTime : String) (w : World) :
    (main env f true remaining indexTime lastrunTime w).2.store.objects = w.store.objects ∧
    ∃ L, (main env f true remaining indexTime lastrunTime w).2.log = w.log ++ L ∧
      ∀ e ∈ L, e.Offline :=
  let h := @guar_main_offline env w.store.objects f remaining indexTime lastrunTime w
  ⟨h.1 rfl, h.2⟩

/-! ### A line with no field -/

section Blank

variable {env : Env}

/-- A line with no field raises `IndexError`; any other line parses. -/
theorem parseItem_eq_error {item : String} {e : Err} :
    parseItem item = .error e ↔ split item = [] ∧ e = .index := by
  unfold parseItem
  dsimp only
  split <;> simp_all
  exact eq_comm

/-- Parsing a list with a blank line raises `IndexError`, whatever the lines around it. -/
theorem parseItems_blank : ∀ {items : List String}, (∃ item ∈ items, split item = []) →
    ∀ w, parseItems items w = (.error .index, w)
  | item :: items, ⟨b, hb, hbl⟩, w => by
    unfold parseItems
    rcases hp : parseItem item with e | r
    · obtain ⟨-, rfl⟩ := parseItem_eq_error.mp hp
      rfl
    · have hi : b ≠ item := fun h => by
        rw [← h, parseItem_eq_error.mpr ⟨hbl, rfl⟩] at hp
        cases hp
      exact Py.bind_error (parseItems_blank ⟨b, (List.mem_cons.mp hb).resolve_left hi, hbl⟩ w) _

/-- Reading the repository list changes no file and no object. -/
theorem readItems_store {f : Option String} {remaining items : List String} {w w₀ : World}
    (h : readItems env f remaining w = (.ok items, w₀)) : w₀.store = w.store := by
  cases f with
  | none => exact (Py.pure_eq_ok h).2.symm ▸ rfl
  | some path =>
    by_cases hp : path = ""
    · simp only [readItems, hp, if_true] at h
      exact (Py.pure_eq_ok h).2.symm ▸ rfl
    · simp only [readItems, hp, if_false] at h
      obtain ⟨_, w₁, h₁, h₂⟩ := Py.bind_eq_ok h
      rw [← (Py.pure_eq_ok h₂).2]
      exact perform_ok_store h₁ fun s => by simp only [IOCall.apply]; split <;> rfl

end Blank

section Advertise

variable {env : Env}

/-- The remote keys, and so the manifest, do not depend on the local directory. -/
theorem manifestEntries_root (p p' repo tip : String) (ts : List String) :
    manifestEntries p repo tip ts = manifestEntries p' repo tip ts := by
  simp only [manifestEntries, bundlePaths_eq]

/-- A manifest block that returns leaves the manifest it wrote. -/
theorem writeManifest_ok {repo tip : String} {upload : Bool} {bs : List (String × String × String)}
    {w w' : World} (h : writeManifest env repo tip upload bs w = (.ok (), w')) :
    w'.store.files (hgFile repo "clonebundles.manifest") = some (.text (manifestText
      (manifestEntries (reboundPath upload (pathJoin bundleRoot repo) bs) repo tip (bs.map Prod.fst)))) := by
  obtain ⟨_, _, -, h⟩ := Py.bind_eq_ok h
  obtain ⟨_, _, -, h⟩ := Py.bind_eq_ok h
  obtain ⟨_, w₃, hw, h⟩ := Py.bind_eq_ok h
  obtain ⟨_, w₄, hc, h⟩ := Py.bind_eq_ok h
  have hs₃ := (congrArg Prod.snd (perform_ok hw).2).symm
  dsimp only [IOCall.apply] at hs₃
  rw [perform_ok_store h fun _ => rfl, perform_ok_store hc fun _ => rfl, hs₃]
  simp [hgFile]

end Advertise

/-- **`--no-upload` still advertises the buckets.** When `generate_bundles(repo, upload=False)`
returns, the repository's `clonebundles.manifest` is the one an uploading run at the same tip
writes, with an S3 line per host and a GCS line per bucket for every bundle, while no object of
any bucket has changed: the lines name objects this run did not upload. -/
theorem no_upload_still_advertises (env : Env) (repo : String) (zstdMax : Bool) {w w' : World}
    {ps : List (String × String × Nat)} (h : generateBundles env repo false none zstdMax w = (.ok ps, w')) :
    w'.store.objects = w.store.objects ∧
    w'.store.files (hgFile repo "clonebundles.manifest") =
      some (.text (runManifest repo (env.output (tipArgv repo)) true zstdMax)) := by
  refine ⟨?_, ?_⟩
  · have ho := (@guar_generateBundles_offline env w.store.objects repo none zstdMax w).1 rfl
    rwa [h] at ho
  · obtain ⟨_, _, -, h⟩ := Py.bind_eq_ok h
    obtain ⟨tip, _, hp, h⟩ := Py.bind_eq_ok h
    obtain rfl := prepare_ok hp
    obtain ⟨⟨bs, fs⟩, _, hg, h⟩ := Py.bind_eq_ok h
    obtain ⟨rfl, -⟩ := submitGenerations_spec env _ _ _ _ _ _ _ _ _ _ hg
    obtain ⟨_, _, -, h⟩ := Py.bind_eq_ok h
    obtain ⟨_, _, -, h⟩ := Py.bind_eq_ok h
    obtain ⟨_, _, -, h⟩ := Py.bind_eq_ok h
    obtain ⟨_, w₆, hm, h⟩ := Py.bind_eq_ok h
    obtain ⟨-, rfl⟩ := Py.pure_eq_ok h
    rw [writeManifest_ok hm, runManifest, runBundles]
    exact congrArg (fun e => some (Content.text (manifestText e))) (manifestEntries_root _ _ _ _ _)

theorem no_upload_still_advertises_quiet :
    ∃ ps w', generateBundles (quietEnv "abc") "r" false none false (generaldeltaWorld "r") = (.ok ps, w') ∧
      w'.store.objects = (generaldeltaWorld "r").store.objects ∧
      w'.store.files (hgFile "r" "clonebundles.manifest") =
        some (.text (runManifest "r" ((quietEnv "abc").output (tipArgv "r")) true false)) := by
  obtain ⟨ps, w', -, -, h, -⟩ := @generateBundles_completes _ (quietEnv_reliable "abc")
    "r" _ false false none _ (by decide) nofun (generaldeltaWorld_requires "r") (by decide)
  exact ⟨ps, w', h, no_upload_still_advertises _ _ _ h⟩

end HgBundles
