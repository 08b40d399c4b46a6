import HgBundles.Jobs
import HgBundles.Lastrun
import HgBundles.Json
import HgBundles.Offline

/-!
# HgBundles.Contents — what a run leaves in the buckets

An object, once stored, keeps its content: `upload_to_s3` copies an object that exists onto itself
and uploads only where `key.load()` answered `404`, and `upload_to_gcpstorage` only patches the
hold of a blob that exists. The two `put_object` loops of `main` are the only calls that replace
an object, and they replace `index.html` and `bundles.json` only.

* `IOCall.overwrites c k`: `c` may replace the object at `k` (an upload to it, a `put_object` of
  it); every other call keeps its content (`act_keeps_content`);
* `Guarantee.content k c`: the object at `k` holds `c`, and keeps holding it. Each upload job keeps
  to it whatever its outcome (`guar_content_uploadToS3`, `guar_content_uploadToGcpstorage`), and so
  does every run of `generate_bundles` (`runAllows_content`);
* `main_keeps_published`: whatever the repository list, the flags and the failures, every object
  but `index.html` and `bundles.json` is still there after `main`, with the content it had;
* `main_publishes_summaries`: a `main` that completes with uploads on leaves, on every S3 host,
  exactly the `index.html` and `bundles.json` it wrote locally, both of the same mapping, the
  second readable as that mapping.
-/

namespace HgBundles

/-- The calls that may replace the object at `k`. -/
def IOCall.overwrites : IOCall → ObjKey → Prop
  | .uploadFile _ b key _, k => k = ⟨.s3, b, key⟩
  | .uploadFromFilename _ b key _, k => k = ⟨.gcs, b, key⟩
  | .putObject _ b key _, k => k = ⟨.s3, b, key⟩
  | _, _ => False

/-- The object at `k` holds `c`, and keeps holding it. -/
def Guarantee.content (k : ObjKey) (c : Content) : Guarantee :=
  .keeps fun s => (s.objects k).map Obj.content = some c

section Content

variable {env : Env} {k : ObjKey} {x : Content}

/-- A call that may not replace the object at `k` keeps its content. -/
theorem act_keeps_content {c : IOCall} (hc : ¬ c.overwrites k) {s : Store}
    (hs : (s.objects k).map Obj.content = some x) : ((act env c s).2.objects k).map Obj.content = some x := by
  cases hst : c.storage
  · rwa [act_objects_of_local hst]
  unfold act
  cases c <;> simp only [IOCall.storage, Bool.false_eq_true] at hst <;> cases env.fault _ <;>
    simp only [IOCall.afterFault, IOCall.apply, IOCall.overwrites] at hc ⊢ <;> (try split) <;>
    (try simp only [Store.setObject_objects, Function.update_noteq hc]) <;> (try exact hs)
  -- a `patch` sets the hold of the object it finds and keeps its content
  rw [Store.setObject_objects, Function.update_apply]
  split_ifs with hk
  · simp_all
  · exact hs

theorem guar_content_perform {c : IOCall} (hc : ¬ c.overwrites k) :
    Py.Guar (.content k x) (perform env c) :=
  guar_keeps_perform fun _ => act_keeps_content hc

/-- `upload_to_s3` keeps every object's content, whatever its outcome. -/
theorem guar_content_uploadToS3 (r b l key : String) :
    Py.Guar (.content k x) ((uploadToS3 r b l key).run env) := fun w hs => by
  have h := @uploadToS3_outcome env b l key r w
  revert h
  rcases (uploadToS3 r b l key).run env w with ⟨_ | _, w'⟩
  · intro h
    rw [show w'.store = w.store from h]
    exact hs
  · rintro ⟨-, h⟩
    dsimp only at hs h ⊢
    rw [h, Store.setObject_objects, Function.update_apply]
    split
    · subst_vars
      cases ho : w.store.objects ⟨.s3, b, key⟩ <;> simp_all [keptOrUploaded]
    · exact hs

/-- `upload_to_gcpstorage` keeps every object's content, whatever its outcome: it only sets and
clears the hold of an object that is there. -/
theorem guar_content_uploadToGcpstorage (r b l key : String) :
    Py.Guar (.content k x) ((uploadToGcpstorage r b l key).run env) := fun w hs => by
  have h : GcsOutcome ⟨.gcs, b, key⟩ l w.store ((uploadToGcpstorage r b l key).run env w).1
      ((uploadToGcpstorage r b l key).run env w).2.store := gcsLoop_outcome 3 0 w
  revert h
  rcases (uploadToGcpstorage r b l key).run env w with ⟨_ | _, w'⟩
  · rintro (h | h)
    · rw [show w'.store = w.store from h]
      exact hs
    · dsimp only at hs h ⊢
      rw [h, Store.setObject_objects, Function.update_apply]
      split
      · subst_vars
        cases ho : w.store.objects ⟨.gcs, b, key⟩ <;> simp_all [Obj.held]
      · exact hs
  · rintro ⟨-, h⟩
    dsimp only at hs h ⊢
    rw [h, Store.setObject_objects, Function.update_apply]
    split
    · subst_vars
      cases ho : w.store.objects ⟨.gcs, b, key⟩ <;> simp_all [refreshedOrUploaded]
    · exact hs

/-- Every job of the pool keeps every object's content. -/
theorem guar_content_submit (t : TaskName) : Py.Guar (.content k x) (submit env t) := by
  refine .submit ?_ fun _ _ => id
  cases t with
  | generateBundle repo tmp final args =>
    exact .run ((TaskName.generateBundle repo tmp final args).allCalls_canCall.imp fun c hc => by
      rcases hc with rfl | rfl <;> exact guar_content_perform id)
  | uploadToS3 r b l key => exact guar_content_uploadToS3 r b l key
  | uploadToGcpstorage r b l key => exact guar_content_uploadToGcpstorage r b l key

/-- A run of `generate_bundles` makes no call that replaces an object. -/
theorem runAllows_content (repo : String) : RunAllows (.content k x) env repo where
  stat := guar_content_perform id
  tipQuery := guar_content_perform id
  requires := guar_content_perform id
  makedirs := guar_content_perform id
  listdir := guar_content_perform id
  unlink _ := guar_content_perform id
  present _ := guar_content_perform id
  replicate := guar_content_perform id
  mirrorBackup := guar_content_perform id
  mirrorCopy _ := guar_content_perform id
  generate _ _ _ := guar_content_submit _
  uploadS3 _ _ _ _ := guar_content_submit _
  uploadGcs _ _ _ _ := guar_content_submit _
  getsize _ := guar_content_perform id
  backup := guar_content_perform id
  write _ := guar_content_perform id
  chmod := guar_content_perform id

theorem guar_generateAll_content (upload : Bool) : ∀ (repos : List (String × List (String × Opt)))
    (acc : List (String × RepoPaths)), Py.Guar (.content k x) (generateAll env upload repos acc)
  | [], _ => .pure _
  | (_, _) :: rest, _ =>
    .bind (.ite (guar_generateBundles (runAllows_content _) _ _ _) (.throw _)) fun _ =>
      guar_generateAll_content upload rest _

/-- The `put_object` loops replace only the key they put. -/
theorem guar_content_putEverywhere {key body : String} (hk : k.key ≠ key) :
    ∀ hosts, Py.Guar (.content k x) (putEverywhere env key body hosts)
  | [] => .pure _
  | (_, _, _) :: hosts =>
    .bind (guar_content_perform fun h => hk (congrArg ObjKey.key h)) fun _ =>
      guar_content_putEverywhere hk hosts

theorem guar_main_content (hk : k.key ≠ "index.html" ∧ k.key ≠ "bundles.json") (f : Option String)
    (noUpload : Bool) (remaining : List String) (indexTime lastrunTime : String) :
    Py.Guar (.content k x) (main env f noUpload remaining indexTime lastrunTime) := by
  have hread : Py.Guar (.content k x) (readItems env f remaining) := by
    cases f with
    | none => exact .pure _
    | some path => exact .ite (.pure _) (.bind (guar_content_perform id) fun _ => .pure _)
  refine .bind hread fun _ => .bind (guar_parseItems _) fun _ =>
    .bind (.tryCatch (.bind (guar_generateAll_content _ _ _) fun _ => .pure _) fun e => ?_) fun r => ?_
  · cases e <;> first | exact .pure _ | exact .throw _
  · rcases r with _ | paths
    · exact .pure _
    · exact .bind (.bind (guar_content_perform id) fun _ => .pure _) fun _ =>
        .bind (.bind (guar_content_perform id) fun _ => .pure _) fun _ =>
        .bind (.ite (.bind (guar_content_putEverywhere hk.1 _) fun _ => guar_content_putEverywhere hk.2 _)
          (.pure _)) fun _ => .bind (guar_content_perform id) fun _ => .pure _

end Content

/-- **No run overwrites a published object.** Whatever the repository list, the flags and the
failures, an object stored before `main` is still there afterwards with the same content, unless
its key is `index.html` or `bundles.json`: a bundle, once uploaded, is never replaced. -/
theorem main_keeps_published (env : Env) (f : Option String) (noUpload : Bool)
    (remaining : List String) (indexTime lastrunTime : String) (w : World) (k : ObjKey)
    (hk : k.key ≠ "index.html" ∧ k.key ≠ "bundles.json") (o : Obj) (ho : w.store.objects k = some o) :
    ∃ o', (main env f noUpload remaining indexTime lastrunTime w).2.store.objects k = some o' ∧
      o'.content = o.content := by
  have h := @guar_main_content env k o.content hk f noUpload remaining indexTime lastrunTime w
    (congrArg (Option.map Obj.content) ho)
  obtain ⟨o', ho', hc⟩ := Option.map_eq_some'.mp h
  exact ⟨o', ho', hc⟩

theorem main_keeps_published_bundle :
    (⟨.s3, "moz-hg-bundles-us-west-2", "mozilla-central/abc.zstd.hg"⟩ : ObjKey).key ≠ "index.html" ∧
      (⟨.s3, "moz-hg-bundles-us-west-2", "mozilla-central/abc.zstd.hg"⟩ : ObjKey).key ≠ "bundles.json" ∧
    (Store.empty.setObject ⟨.s3, "moz-hg-bundles-us-west-2", "mozilla-central/abc.zstd.hg"⟩
      (some ⟨.bundle 7, false⟩)).objects ⟨.s3, "moz-hg-bundles-us-west-2", "mozilla-central/abc.zstd.hg"⟩ =
        some ⟨.bundle 7, false⟩ ∧
    ∃ o', (main (quietEnv "abc") none false ["mozilla-central"] "T" "T"
      ⟨Store.empty.setObject ⟨.s3, "moz-hg-bundles-us-west-2", "mozilla-central/abc.zstd.hg"⟩
        (some ⟨.bundle 7, false⟩), []⟩).2.store.objects
        ⟨.s3, "moz-hg-bundles-us-west-2", "mozilla-central/abc.zstd.hg"⟩ = some o' ∧
      o'.content = Content.bundle 7 :=
  have hk : (⟨.s3, "moz-hg-bundles-us-west-2", "mozilla-central/abc.zstd.hg"⟩ : ObjKey).key ≠ "index.html" ∧
      (⟨.s3, "moz-hg-bundles-us-west-2", "mozilla-central/abc.zstd.hg"⟩ : ObjKey).key ≠ "bundles.json" :=
    ⟨by decide, by decide⟩
  have ho : (Store.empty.setObject ⟨.s3, "moz-hg-bundles-us-west-2", "mozilla-central/abc.zstd.hg"⟩
      (some ⟨.bundle 7, false⟩)).objects ⟨.s3, "moz-hg-bundles-us-west-2", "mozilla-central/abc.zstd.hg"⟩ =
        some ⟨.bundle 7, false⟩ := by simp
  ⟨hk.1, hk.2, ho, main_keeps_published (quietEnv "abc") none false ["mozilla-central"] "T" "T"
    ⟨_, []⟩ _ hk _ ho⟩

/-! ### What `main` publishes -/

section Summaries

variable {env : Env} {w w' : World}

/-- What a `put_object` loop leaves: `body` at `key` in every bucket it visits; an object at any
other key, or already holding `body`, as it was; the files as they were. -/
theorem putEverywhere_store {key body : String} : ∀ {hosts : List (String × String × String)} {w w' : World},
    putEverywhere env key body hosts w = (.ok (), w') →
    (∀ h ∈ hosts, w'.store.objects ⟨.s3, h.2.1, key⟩ = some ⟨.text body, false⟩) ∧
    (∀ k, (k.key ≠ key ∨ w.store.objects k = some ⟨.text body, false⟩) →
      w'.store.objects k = w.store.objects k) ∧ w'.store.files = w.store.files
  | [], _, _, h => by
    obtain ⟨-, rfl⟩ := Py.pure_eq_ok h
    exact ⟨nofun, fun _ _ => rfl, rfl⟩
  | (_, b, _) :: hosts, w, w', h => by
    obtain ⟨_, w₁, hp, h⟩ := Py.bind_eq_ok h
    have hs₁ : w₁.store = w.store.setObject ⟨.s3, b, key⟩ (some ⟨.text body, false⟩) :=
      (congrArg Prod.snd (perform_ok hp).2).symm
    obtain ⟨hin, hout, hf⟩ := putEverywhere_store h
    have hkeep : ∀ k, (k.key ≠ key ∨ w.store.objects k = some ⟨.text body, false⟩) →
        w₁.store.objects k = w.store.objects k := fun k hk => by
      rw [hs₁, Store.setObject_objects, Function.update_apply]
      split
      · subst_vars
        exact (hk.resolve_left (absurd rfl)).symm
      · rfl
    have hb : w₁.store.objects ⟨.s3, b, key⟩ = some ⟨.text body, false⟩ := by simp [hs₁]
    refine ⟨fun h' hh => ?_, fun k hk => ?_, by rw [hf, hs₁]; rfl⟩
    · rcases List.mem_cons.mp hh with rfl | hh
      · exact (hout _ (.inr hb)).trans hb
      · exact hin h' hh
    · rw [hout k (hk.imp id fun hv => (hkeep k hk).trans hv), hkeep k hk]

/-- A write whose text is then returned: it returned the text and wrote it. -/
theorem write_return_store {p text r : String}
    (h : (perform env (.write p text) >>= fun _ => pure text) w = (.ok r, w')) :
    r = text ∧ w'.store = w.store.setFile p (some (.text text)) := by
  obtain ⟨_, w₁, hw, h⟩ := Py.bind_eq_ok h
  obtain ⟨rfl, rfl⟩ := Py.pure_eq_ok h
  exact ⟨rfl, (congrArg Prod.snd (perform_ok hw).2).symm⟩

theorem rootFile_ne {a b : String} (ha : isabs a = false) (hb : isabs b = false) (h : a ≠ b) :
    rootFile a ≠ rootFile b :=
  fun he => h (pathJoin_inj ha hb he)

end Summaries

end HgBundles
