import HgBundles.Hold

/-!
# HgBundles.Jobs — what each pool job leaves behind, whatever fails

Any call of a job may raise. What a job leaves in the store is fixed by how it ends:

* `generate_bundle_atomic`: `generate_bundle` writes the bundle to its temporary path and renames
  it into place, so when it returns the final path holds the complete output of the creation and
  the temporary path is gone, and when it raises the final path is as it was (`GenOutcome`);
* `upload_to_s3_never_overwrites`: when `upload_to_s3` returns the object exists: one that was
  there is kept as it is (the copy onto itself), a missing one is the local file; when it raises
  nothing has changed (`S3Outcome`). The existence check is truthful because no fault raises
  `ClientError('404')`;
* `upload_to_s3_raises`, `upload_to_gcpstorage_raises`: a `socket.error` of a storage call never
  leaves either retry loop; what leaves it is the script's give-up `Exception`, which names three
  attempts, or an exception that is not an `OSError` (or, for S3, the failure of
  `boto3.Session`, made before the loop);
* `generate_bundles_publishes`: no call removes an object, so the uploads of a run that returns
  leave each bundle of the mapping it returns in every bucket.
-/

namespace HgBundles

/-- A statement `x >>= f`: `x` raises, or it returns and `f` runs. -/
theorem outcome_bind {x : Py α} {f : α → Py β} {P : Except Err β → Store → Prop} {w : World}
    (herr : ∀ e w', x w = (.error e, w') → P (.error e) w'.store)
    (hok : ∀ a w', x w = (.ok a, w') → P (f a w').1 (f a w').2.store) :
    P ((x >>= f) w).1 ((x >>= f) w).2.store := by
  rw [Py.bind_apply]
  rcases h : x w with ⟨e | a, w'⟩
  · exact herr e w' h
  · exact hok a w' h

/-! ### `generate_bundle` -/

/-- What `generate_bundle` may leave, by outcome: on return the bundle of size `size` at `final`
and nothing at `temp`; on an exception the store with at most `temp` changed. -/
def GenOutcome (size : Nat) (temp final : String) (s : Store) : Except Err Unit → Store → Prop
  | .ok _, s' => s' = (s.setFile temp none).setFile final (some (.bundle size))
  | .error _, s' => ∃ o, s' = s.setFile temp o

section Generate

variable {env : Env} {argv : List String} {out : String} {w w' : World}

/-- A bundle creation that raised changed at most its output file. -/
theorem perform_createBundle_error {e : Err}
    (h : perform env (.createBundle argv out) w = (.error e, w')) :
    ∃ o, w'.store = w.store.setFile out o := by
  have h₁ : (act env (.createBundle argv out) w.store).1 = .error e := congrArg Prod.fst h
  rw [← congrArg (fun r => r.2.store) h]
  show ∃ o, (act env _ w.store).2 = _
  unfold act at h₁ ⊢
  rcases hf : env.fault (.createBundle argv out) with _ | f <;> simp only [hf] at h₁ ⊢
  · simp [IOCall.apply] at h₁
  · simp only [IOCall.afterFault]
    split
    · exact ⟨_, rfl⟩
    · exact ⟨_, (Store.setFile_self _ _).symm⟩

theorem generateBundle_outcome (repo tempPath finalPath : String) (extraArgs : List String)
    (w : World) :
    GenOutcome (env.bundleSize (bundleArgs repo tempPath extraArgs)) tempPath finalPath w.store
      ((generateBundle repo tempPath finalPath extraArgs).run env w).1
      ((generateBundle repo tempPath finalPath extraArgs).run env w).2.store := by
  simp only [generateBundle, Job.run_bind, Job.run_perform]
  refine outcome_bind (fun _ _ h => perform_createBundle_error h) fun _ w₁ h₁ => ?_
  have hc := (Prod.mk.inj (perform_ok h₁).2).2.symm
  change GenOutcome _ _ _ _ (perform env (.rename tempPath finalPath) w₁).1
    (perform env (.rename tempPath finalPath) w₁).2.store
  rcases h₂ : perform env (.rename tempPath finalPath) w₁ with ⟨e | _, w₂⟩
  · exact ⟨_, (perform_error_store (by nofun) h₂).trans hc⟩
  · have ha := (perform_ok h₂).2
    simp only [IOCall.apply, hc, Store.setFile_files, Function.update_same] at ha
    simp [GenOutcome, ← (Prod.mk.inj ha).2]

end Generate

/-! ### `upload_to_s3` -/

/-- The object at `remote_path` after `upload_to_s3` returned: the object that was there (the
copy onto itself keeps it), or the local file. -/
def keptOrUploaded : Option Obj → Option Content → Option Obj
  | some o, _ => some o
  | none, f => f.map fun c => ⟨c, false⟩

/-- What an upload to S3 may do to the store `s`, by outcome: on return the object at `key` is
`keptOrUploaded`; on an exception nothing has changed. -/
def S3Outcome (key : ObjKey) (l : String) (s : Store) : Except Err Unit → Store → Prop
  | .ok _, s' => (keptOrUploaded (s.objects key) (s.files l)).isSome ∧
      s' = s.setObject key (keptOrUploaded (s.objects key) (s.files l))
  | .error _, s' => s' = s

/-- No fault raises `ClientError('404')`: that an object is missing is the store's answer. -/
theorem Fault.err_ne_404 (f : Fault) : f.err ≠ .client "404" := by
  cases f <;> simp [Fault.err]

section S3

variable {env : Env} {b l k : String}

/-- A `key.load()` that raised changed nothing, and raised `404` only for a missing object. -/
theorem perform_load_error {n : Nat} {e : Err} {w w' : World}
    (h : perform env (.load b k n) w = (.error e, w')) :
    w'.store = w.store ∧ (e = .client "404" → w.store.objects ⟨.s3, b, k⟩ = none) := by
  refine ⟨perform_error_store (by nofun) h, fun he => ?_⟩
  have h₁ : (act env (.load b k n) w.store).1 = .error e := congrArg Prod.fst h
  unfold act at h₁
  rcases hf : env.fault (.load b k n) with _ | f <;> simp only [hf] at h₁
  · simp only [IOCall.apply] at h₁
    split at h₁
    · cases h₁
    · exact Option.not_isSome_iff_eq_none.mp ‹_›
  · exact absurd ((Except.error.inj h₁).trans he) (Fault.err_ne_404 f)

/-- A `key.load()` that returned found the object, and changed nothing. -/
theorem perform_load_ok {n : Nat} {a : Unit} {w w' : World}
    (h : perform env (.load b k n) w = (.ok a, w')) :
    (w.store.objects ⟨.s3, b, k⟩).isSome ∧ w'.store = w.store := by
  have ha := (perform_ok h).2
  simp only [IOCall.apply] at ha
  split at ha
  · exact ⟨‹_›, (Prod.mk.inj ha).2.symm⟩
  · cases ha

/-- The branch an attempt takes after the existence check: copy the object onto itself when it
exists, upload the local file otherwise. -/
theorem s3Branch_outcome (n : Nat) {present : Bool} {w : World}
    (hp : present = (w.store.objects ⟨.s3, b, k⟩).isSome) :
    S3Outcome ⟨.s3, b, k⟩ l w.store
      ((if present = true then Job.perform (.copyFrom b k n)
        else Job.perform (.uploadFile l b k n) : Job Unit).run env w).1
      ((if present = true then Job.perform (.copyFrom b k n)
        else Job.perform (.uploadFile l b k n) : Job Unit).run env w).2.store := by
  cases present with
  | true =>
    obtain ⟨o, ho⟩ := Option.isSome_iff_exists.mp hp.symm
    rw [if_pos rfl]
    change S3Outcome _ l _ (perform env (.copyFrom b k n) w).1 (perform env (.copyFrom b k n) w).2.store
    rcases h : perform env (.copyFrom b k n) w with ⟨e | _, w'⟩
    · exact perform_error_store (by nofun) h
    · have hs := perform_ok_store h fun s => by simp only [IOCall.apply]; split <;> rfl
      have hkeep : w.store.setObject ⟨.s3, b, k⟩ (some o) = w.store := by
        rw [← ho, Store.setObject_self]
      simp [S3Outcome, keptOrUploaded, ho, hs, hkeep]
  | false =>
    have ho : w.store.objects ⟨.s3, b, k⟩ = none := Option.not_isSome_iff_eq_none.mp (by simp [← hp])
    rw [if_neg Bool.false_ne_true]
    change S3Outcome _ l _ (perform env (.uploadFile l b k n) w).1
      (perform env (.uploadFile l b k n) w).2.store
    rcases h : perform env (.uploadFile l b k n) w with ⟨e | _, w'⟩
    · exact perform_error_store (by nofun) h
    · have ha := (perform_ok h).2
      simp only [IOCall.apply] at ha
      split at ha
      · obtain ⟨-, hs⟩ := Prod.mk.inj ha
        simp [S3Outcome, keptOrUploaded, ho, ‹w.store.files l = _›, ← hs]
      · cases ha

theorem s3Attempt_outcome (n : Nat) (w : World) :
    S3Outcome ⟨.s3, b, k⟩ l w.store ((s3Attempt b l k n).run env w).1
      ((s3Attempt b l k n).run env w).2.store := by
  have herr : ∀ {c : IOCall} {w₁ : World}, (∀ argv out, c ≠ .createBundle argv out) →
      w₁.store = w.store → ∀ e w', perform env c w₁ = (.error e, w') →
        S3Outcome ⟨.s3, b, k⟩ l w.store (.error e) w'.store :=
    fun hc h₁ _ _ h => (perform_error_store hc h).trans h₁
  simp only [s3Attempt, Job.run_bind, Job.run_perform, Job.run_tryCatch_except, Job.run_pure]
  refine outcome_bind (herr (by nofun) rfl) fun _ w₁ h₁ => ?_
  replace h₁ := perform_ok_store h₁ fun _ => rfl
  refine outcome_bind (herr (by nofun) h₁) fun _ w₂ h₂ => ?_
  replace h₂ := (perform_ok_store h₂ fun _ => rfl).trans h₁
  refine outcome_bind (herr (by nofun) h₂) fun _ w₃ h₃ => ?_
  replace h₃ := (perform_ok_store h₃ fun _ => rfl).trans h₂
  rw [Py.bind_apply]
  unfold Py.tryCatch
  rw [Py.bind_apply]
  rcases h₄ : perform env (.load b k n) w₃ with ⟨e | _, w₄⟩
  · obtain ⟨hs, h404⟩ := perform_load_error h₄
    cases e with
    | client code =>
      by_cases hc : code = "404"
      · subst hc
        simp only [ne_eq, not_true_eq_false, if_false, Job.run_pure, Py.pure_apply]
        rw [show w.store = w₄.store from (hs.trans h₃).symm]
        exact s3Branch_outcome n (by rw [hs, h404 rfl]; rfl)
      · simp only [ne_eq, hc, not_false_eq_true, if_true, Job.run_throw, Py.throw_apply]
        exact hs.trans h₃
    | _ =>
      simp only [Job.run_throw, Py.throw_apply]
      exact hs.trans h₃
  · obtain ⟨hp, hs⟩ := perform_load_ok h₄
    simp only [Py.pure_apply]
    rw [show w.store = w₄.store from (hs.trans h₃).symm]
    exact s3Branch_outcome n (by rw [hs, hp])

/-- What the retry loop can do, from any attempt on: the same as one attempt, since an attempt
that raised changed nothing. -/
theorem s3Loop_outcome : ∀ (fuel n : Nat) (w : World),
    S3Outcome ⟨.s3, b, k⟩ l w.store ((s3Loop b l k fuel n).run env w).1
      ((s3Loop b l k fuel n).run env w).2.store
  | 0, _, _ => rfl
  | fuel + 1, n, w => by
    simp only [s3Loop, Job.run_tryCatch_except]
    have hA := @s3Attempt_outcome env b l k (n + 1) w
    show S3Outcome _ l _ (Py.tryCatch _ _ w).1 (Py.tryCatch _ _ w).2.store
    unfold Py.tryCatch
    revert hA
    rcases (s3Attempt b l k (n + 1)).run env w with ⟨e | _, w₁⟩ <;> intro hA
    · rw [← (hA : w₁.store = w.store)]
      cases e with
      | os =>
        simp only [Job.run_bind, Job.run_perform]
        refine outcome_bind (fun _ _ h => perform_error_store (by nofun) h) fun _ w₂ h₂ => ?_
        rw [← perform_ok_store h₂ fun _ => rfl]
        exact s3Loop_outcome fuel _ w₂
      | _ => rfl
    · exact hA

theorem uploadToS3_outcome (region : String) (w : World) :
    S3Outcome ⟨.s3, b, k⟩ l w.store ((uploadToS3 region b l k).run env w).1
      ((uploadToS3 region b l k).run env w).2.store := by
  simp only [uploadToS3, Job.run_bind, Job.run_perform]
  refine outcome_bind (fun _ _ h => perform_error_store (by nofun) h) fun _ w₁ h₁ => ?_
  rw [← perform_ok_store h₁ fun _ => rfl]
  exact s3Loop_outcome 3 0 w₁

end S3

/-! ### What leaves the retry loops -/

section Raises

variable {env : Env} {b l k : String} (hsleep : env.fault (.sleep 15) = none)
include hsleep

/-- `time.sleep(15)` returns. -/
theorem perform_sleep (w : World) :
    perform env (.sleep 15) w = (.ok (), ⟨w.store, w.log ++ [.call (.sleep 15) true]⟩) := by
  simp only [perform, act, hsleep, IOCall.apply]
  rfl

/-- The exception that leaves `upload_to_s3`'s loop, entered before attempt `n + 1` with `fuel`
attempts left: the give-up exception naming attempt `n + fuel`, or one that is not an `OSError`. -/
theorem s3Loop_raises : ∀ (fuel n : Nat) (w : World) {e : Err},
    ((s3Loop b l k fuel n).run env w).1 = .error e → e = s3GiveUp b k (n + fuel) ∨ ∀ errno, e ≠ .os errno
  | 0, n, w, e, h => .inl (Except.error.inj h).symm
  | fuel + 1, n, w, e, h => by
    simp only [s3Loop, Job.run_tryCatch_except] at h
    unfold Py.tryCatch at h
    revert h
    rcases (s3Attempt b l k (n + 1)).run env w with ⟨e' | _, w₁⟩ <;> intro h
    · cases e' with
      | os =>
        simp only [Job.run_bind, Job.run_perform] at h
        rw [Py.bind_ok (perform_sleep hsleep w₁)] at h
        rw [show n + (fuel + 1) = n + 1 + fuel by omega]
        exact s3Loop_raises fuel (n + 1) _ h
      | _ =>
        simp only [Job.run_throw, Py.throw_apply, Except.error.injEq] at h
        exact .inr fun _ => h ▸ nofun
    · cases h

/-- The exception that leaves `upload_to_gcpstorage`'s loop: the give-up exception, or one that is
not an `OSError`. -/
theorem gcsLoop_raises : ∀ (fuel n : Nat) (w : World) {e : Err},
    ((gcsLoop b l k fuel n).run env w).1 = .error e → e = gcsGiveUp b k ∨ ∀ errno, e ≠ .os errno
  | 0, n, w, e, h => .inl (Except.error.inj h).symm
  | fuel + 1, n, w, e, h => by
    simp only [gcsLoop, Job.run_tryCatch_except] at h
    unfold Py.tryCatch at h
    revert h
    rcases (gcsAttempt b l k n).run env w with ⟨e' | _, w₁⟩ <;> intro h
    · cases e' with
      | os =>
        simp only [Job.run_bind, Job.run_perform] at h
        rw [Py.bind_ok (perform_sleep hsleep w₁)] at h
        exact gcsLoop_raises fuel (n + 1) _ h
      | _ =>
        simp only [Job.run_throw, Py.throw_apply, Except.error.injEq] at h
        exact .inr fun _ => h ▸ nofun
    · cases h

end Raises

/-- An outside world in which every storage-client handle raises `f`. -/
def handleFailsEnv (f : Fault) : Env :=
  ⟨fun c => match c with
    | .handle _ _ _ _ => some f
    | _ => none, fun _ => "", fun _ => 0, fun _ => none⟩

section Published

variable {env : Env}

/-- Once the object at `o` is there, it stays: no call removes an object. -/
theorem guar_keepsObject_perform (o : ObjKey) (c : IOCall) :
    Py.Guar (.keeps fun s => (s.objects o).isSome) (perform env c) :=
  guar_keeps_perform fun _ => act_keeps_object

theorem guar_keepsObject_submitAll (o : ObjKey) (ts : List TaskName) :
    Py.Guar (.keeps fun s => (s.objects o).isSome) (submitAll env ts) :=
  .submitAll fun t _ =>
    .submit (.run (t.allCalls_canCall.imp fun c _ => guar_keepsObject_perform o c)) fun _ _ => id

theorem guar_keepsObject_writeManifest (o : ObjKey) (repo tip : String) (upload : Bool)
    (bs : List (String × String × String)) :
    Py.Guar (.keeps fun s => (s.objects o).isSome) (writeManifest env repo tip upload bs) :=
  .bind (guar_keepsObject_perform o _) fun _ =>
    .bind (.ite (guar_keepsObject_perform o _) (.pure _)) fun _ =>
    .bind (guar_keepsObject_perform o _) fun _ =>
    .bind (guar_keepsObject_perform o _) fun _ => guar_keepsObject_perform o _

/-- An upload job that returned left its object there. -/
theorem TaskName.present_of_ok {t : TaskName} {o : ObjKey} (ht : t.target = some o) {w : World}
    (h : (t.job.run env w).1 = .ok ()) : ((t.job.run env w).2.store.objects o).isSome := by
  cases t with
  | generateBundle => cases ht
  | uploadToS3 r b l k =>
    cases ht
    change ((HgBundles.uploadToS3 r b l k).run env w).1 = _ at h
    have ho := @uploadToS3_outcome env b l k r w
    rw [h] at ho
    exact ho.2 ▸ by simpa using ho.1
  | uploadToGcpstorage r b l k =>
    cases ht
    change ((gcsLoop b l k 3 0).run env w).1 = _ at h
    have ho := @gcsLoop_outcome env b l k 3 0 w
    rw [h] at ho
    exact ho.2 ▸ by simpa using ho.1

/-- Submitting jobs that all return leaves the object of each upload there. -/
theorem submitAll_present : ∀ {ts : List TaskName} {w w' : World} {fs : List Future},
    submitAll env ts w = (.ok fs, w') → (∀ f ∈ fs, f.result = .ok ()) →
      ∀ t ∈ ts, ∀ o, t.target = some o → (w'.store.objects o).isSome
  | [], _, _, _, _, _ => nofun
  | t :: ts, w, w', fs, h, hok => by
    obtain ⟨f, w₁, hf, h⟩ := Py.bind_eq_ok h
    obtain ⟨fs', w₂, hfs, h⟩ := Py.bind_eq_ok h
    obtain ⟨rfl, rfl⟩ := Py.pure_eq_ok h
    obtain ⟨hf₁, rfl⟩ := Prod.mk.inj (hf.symm.trans (submit_apply env t w))
    obtain rfl := Except.ok.inj hf₁
    have hok' : ∀ f ∈ fs', f.result = .ok () := fun f hf => hok f (List.mem_cons_of_mem _ hf)
    rintro t' (_ | ⟨_, ht'⟩) o ho
    · have hkeep := @guar_keepsObject_submitAll env o ts (submit env t w).2
      rw [hfs] at hkeep
      exact hkeep (TaskName.present_of_ok ho (hok _ (List.mem_cons_self _ _)))
    · exact submitAll_present hfs hok' t' ht' o ho

/-- The upload block that returned left the object of every upload there. -/
theorem uploadBundles_present {bs : List (String × String × String)} {w w' : World}
    (h : uploadBundles env true bs w = (.ok (), w')) :
    ∀ t ∈ uploadTasks bs, ∀ o, t.target = some o → (w'.store.objects o).isSome := by
  obtain ⟨fs, w₁, hs, hj⟩ := Py.bind_eq_ok h
  obtain ⟨hok, rfl⟩ := joinAll_ok hj
  exact submitAll_present hs hok

/-- Every bundle a primary run with uploads returns is an object of every bucket. -/
theorem primary_present {R : String} {zstdMax : Bool} {w w' : World}
    {ps : List (String × String × Nat)} (h : primary env R true zstdMax w = (.ok ps, w')) :
    ∀ p ∈ ps, (∀ host bucket region, (host, bucket, region) ∈ s3Hosts →
        (w'.store.objects ⟨.s3, bucket, p.2.1⟩).isSome) ∧
      ∀ bucket region, (bucket, region) ∈ gcpHosts →
        (w'.store.objects ⟨.gcs, bucket, p.2.1⟩).isSome := by
  obtain ⟨tip, w₁, -, h⟩ := Py.bind_eq_ok h
  obtain ⟨⟨bs, fs⟩, w₂, -, h⟩ := Py.bind_eq_ok h
  obtain ⟨_, w₃, -, h⟩ := Py.bind_eq_ok h
  obtain ⟨_, w₄, hu, h⟩ := Py.bind_eq_ok h
  obtain ⟨ps', w₅, hr, h⟩ := Py.bind_eq_ok h
  obtain ⟨_, w₆, hm, h⟩ := Py.bind_eq_ok h
  obtain ⟨rfl, rfl⟩ := Py.pure_eq_ok h
  obtain ⟨rfl, -, hs⟩ := recordSizes_ok hr
  have hkeep := fun o => @guar_keepsObject_writeManifest env o R tip true bs w₅
  rw [hm] at hkeep
  have hpres := uploadBundles_present hu
  intro p hp
  obtain ⟨b, hb, rfl⟩ := List.mem_map.mp hp
  refine ⟨fun host bucket region hh => hkeep _ (hs ▸ hpres (.uploadToS3 region bucket b.2.1 b.2.2)
    (List.mem_append_left _ (List.mem_flatMap.mpr ⟨_, hh, List.mem_map.mpr ⟨b, hb, rfl⟩⟩)) _ rfl),
    fun bucket region hh => hkeep _ (hs ▸ hpres (.uploadToGcpstorage region bucket b.2.1 b.2.2)
    (List.mem_append_right _ (List.mem_flatMap.mpr ⟨_, hh, List.mem_map.mpr ⟨b, hb, rfl⟩⟩)) _ rfl)⟩

/-- **A mapping `generate_bundles` returns lists only published bundles.** When
`generate_bundles(R, upload=True)` returns, the remote key of every bundle in the mapping it
returns is an object of every S3 bucket and of every GCP bucket. -/
theorem generate_bundles_publishes (env : Env) (R : String) (copyfrom : Option Opt) (zstdMax : Bool)
    {w w' : World} {ps : List (String × String × Nat)}
    (h : generateBundles env R true copyfrom zstdMax w = (.ok ps, w')) :
    ∀ p ∈ ps, (∀ host bucket region, (host, bucket, region) ∈ s3Hosts →
        (w'.store.objects ⟨.s3, bucket, p.2.1⟩).isSome) ∧
      ∀ bucket region, (bucket, region) ∈ gcpHosts →
        (w'.store.objects ⟨.gcs, bucket, p.2.1⟩).isSome := by
  obtain ⟨_, w₁, -, h⟩ := Py.bind_eq_ok h
  rcases copyfrom with _ | cf
  · exact primary_present h
  · by_cases hcf : cf.truthy
    · simp only [hcf, if_true] at h
      obtain rfl := copyManifest_ok h
      nofun
    · simp only [hcf, if_false, Bool.false_eq_true] at h
      exact primary_present h

theorem generate_bundles_publishes_quiet :
    ∃ ps w', generateBundles (quietEnv "abc") "r" true none false (generaldeltaWorld "r") =
        (.ok ps, w') ∧
      ∀ p ∈ ps, (∀ host bucket region, (host, bucket, region) ∈ s3Hosts →
          (w'.store.objects ⟨.s3, bucket, p.2.1⟩).isSome) ∧
        ∀ bucket region, (bucket, region) ∈ gcpHosts →
          (w'.store.objects ⟨.gcs, bucket, p.2.1⟩).isSome := by
  obtain ⟨ps, w', -, -, h, -⟩ := @generateBundles_completes _ (quietEnv_reliable "abc")
    "r" _ true false none _ (by decide) nofun (generaldeltaWorld_requires "r") (by decide)
  exact ⟨ps, w', h, generate_bundles_publishes _ _ _ _ h⟩

end Published

end HgBundles
