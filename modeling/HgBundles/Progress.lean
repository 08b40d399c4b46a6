import HgBundles.Effects
import HgBundles.Frame

/-!
# HgBundles.Progress — in a reliable world a run writes its manifest and returns

`Env.Reliable env`: no call of the outside world fails. Then a primary run goes through every
block: the prune loop unlinks only files that are there, each generation job creates its bundle
and renames it into place, the uploads find the files they read, the sizes are read from the
files just made, and the manifest is written once, before the run returns.

`Py.Spec x Q w` is total correctness from one world: `x` returns normally, with a value and in
a world that satisfy `Q`. It has a rule per statement form (`Spec.bind`, `Spec.perform`,
`Spec.tryCatch`, ...), each block of the run gets one spec, and `generateBundles_completes`
chains them.
-/

namespace HgBundles

/-- No call of the outside world fails. -/
def Env.Reliable (env : Env) : Prop := ∀ c, env.fault c = none

/-- Total correctness of `x` from `w`: it returns normally, with a value and in a world that
satisfy `Q`. -/
def Py.Spec (x : Py α) (Q : α → World → Prop) (w : World) : Prop :=
  ∃ a w', x w = (.ok a, w') ∧ Q a w'

/-- In a reliable world a call does what `IOCall.apply` does. -/
theorem perform_reliable {env : Env} (hf : env.Reliable) {c : IOCall} {w : World}
    {r : Except Err c.Answer} {s : Store} (h : c.apply env w.store = (r, s)) :
    perform env c w = (r, ⟨s, w.log ++ [.call c r.toBool]⟩) := by
  simp only [perform, act, hf c, h]

namespace Py.Spec

variable {x : Py α} {Q Q' : α → World → Prop} {w : World}

theorem pure {a : α} (h : Q a w) : Spec (pure a) Q w := ⟨a, w, rfl, h⟩

theorem bind {f : α → Py β} {R : β → World → Prop} (hx : Spec x Q w)
    (hf : ∀ a w', Q a w' → Spec (f a) R w') : Spec (x >>= f) R w := by
  obtain ⟨a, w₁, h₁, hq⟩ := hx
  obtain ⟨b, w₂, h₂, hr⟩ := hf a w₁ hq
  exact ⟨b, w₂, by rw [Py.bind_ok h₁]; exact h₂, hr⟩

theorem mono (hx : Spec x Q w) (h : ∀ a w', Q a w' → Q' a w') : Spec x Q' w :=
  let ⟨a, w', hx, hq⟩ := hx
  ⟨a, w', hx, h a w' hq⟩

theorem tryCatch {h : Err → Py α} (hx : Spec x Q w) : Spec (Py.tryCatch x h) Q w := by
  obtain ⟨a, w', hx, hq⟩ := hx
  refine ⟨a, w', ?_, hq⟩
  simp only [Py.tryCatch, hx]

/-- A statement that raises `e` and is caught goes on with the handler. -/
theorem tryCatch_error {h : Err → Py α} {e : Err} {w' : World} (hx : x w = (.error e, w'))
    (hh : Spec (h e) Q w') : Spec (Py.tryCatch x h) Q w := by
  obtain ⟨a, w'', hh, hq⟩ := hh
  refine ⟨a, w'', ?_, hq⟩
  simp only [Py.tryCatch, hx, hh]

/-- A statement that keeps to a guarantee relates the world it starts in to the one it
returns in. -/
theorem guar {G : Guarantee} (hx : Spec x Q w) (hg : Py.Guar G x) :
    Spec x (fun a w' => Q a w' ∧ G.rel w w') w := by
  obtain ⟨a, w', h, hq⟩ := hx
  have hr := hg w
  rw [h] at hr
  exact ⟨a, w', h, hq, hr⟩

theorem perform {env : Env} (hf : env.Reliable) {c : IOCall} {Q : c.Answer → World → Prop}
    {a : c.Answer} {s : Store} (h : c.apply env w.store = (.ok a, s))
    (hq : Q a ⟨s, w.log ++ [.call c true]⟩) :
    Spec (HgBundles.perform env c) Q w :=
  ⟨a, _, perform_reliable hf h, hq⟩

/-- A submitted job that returns gives a future that returned. -/
theorem submit {env : Env} {t : TaskName} {P : Store → Prop} (ht : Spec (t.job.run env) (fun _ w' => P w'.store) w) :
    Spec (HgBundles.submit env t) (fun f w' => f.task = t ∧ f.result = .ok () ∧ P w'.store) w := by
  obtain ⟨a, w', h, hq⟩ := ht
  refine ⟨⟨t, .ok a⟩, ⟨w'.store, w'.log ++ [.finished t true]⟩, ?_, rfl, rfl, hq⟩
  simp only [HgBundles.submit, h]
  rfl

end Py.Spec

/-- The sequential reading of the `try` of a job, as the job's own code writes it. -/
theorem Job.run_tryCatch_except {env : Env} (x : Job α) (h : Err → Job α) :
    (MonadExcept.tryCatch x h).run env = Py.tryCatch (x.run env) fun e => (h e).run env :=
  Job.run_tryCatch x h

theorem pathJoin_inj {a b b' : String} (hb : isabs b = false) (hb' : isabs b' = false)
    (h : pathJoin a b = pathJoin a b') : b = b' := by
  rw [pathJoin_of_not_isabs hb, pathJoin_of_not_isabs hb'] at h
  have hd := congrArg String.data h
  simp only [String.data_append, List.append_cancel_left_eq] at hd
  exact String.ext hd

theorem joinAll_of_ok : ∀ {fs : List Future}, (∀ f ∈ fs, f.result = .ok ()) → ∀ w, joinAll fs w = (.ok (), w)
  | [], _, _ => rfl
  | ⟨_, .ok ()⟩ :: fs, h, w => @joinAll_of_ok fs (fun f hf => h f (List.mem_cons_of_mem _ hf)) w
  | ⟨_, .error _⟩ :: _, h, _ => by simp at h

/-- The local file a submitted upload reads. -/
def TaskName.source : TaskName → Option String
  | .generateBundle _ _ _ _ => none
  | .uploadToS3 _ _ l _ => some l
  | .uploadToGcpstorage _ _ l _ => some l

theorem Py.Before.guar {E : Event → Prop} {base : List Event} {w w' : World}
    (hb : Py.Before E base w) (h : (Guarantee.log fun y => ¬ E y).rel w w') : Py.Before E base w' := by
  obtain ⟨P, hP, hPE⟩ := hb
  obtain ⟨L, hL, hLE⟩ := h
  exact ⟨P ++ L, by rw [hL, hP, List.append_assoc], fun y hy => (List.mem_append.mp hy).elim (hPE y) (hLE y)⟩

section Keeps

variable {env : Env}

theorem guar_keeps_file {c : IOCall} {p : String} (h : ¬ c.removes p) :
    Py.Guar (.keeps fun s => (s.files p).isSome) (perform env c) :=
  guar_keeps_perform fun _ hs => act_keeps_file h hs

/-- The generation loop keeps every file that is not one of its temporary files. -/
theorem guar_submitGenerations_keeps {repo repoFull bundlePath tip : String} {zstdMax : Bool}
    {p : String} (hp : ∀ t, p ≠ (bundlePaths bundlePath repo tip t).1 ++ ".tmp")
    (cs : List (String × List String)) :
    Py.Guar (.keeps fun s => (s.files p).isSome)
      (submitGenerations env repo repoFull bundlePath tip zstdMax cs) := by
  apply guar_submitGenerations
  · exact fun _ => guar_keeps_file nofun
  · intro t args
    refine Py.Guar.submit (Py.Guar.run ((TaskName.allCalls_canCall _).imp fun c hc => ?_)) fun _ _ => id
    rcases hc with rfl | rfl
    · exact guar_keeps_file nofun
    · exact guar_keeps_file (hp t)

/-- A submitted upload changes no file. -/
theorem guar_upload_files {t : TaskName} (ht : t.source.isSome) (F : String → Option Content) :
    Py.Guar (.keeps fun s => s.files = F) (submit env t) :=
  Py.Guar.submit (Py.Guar.run ((TaskName.allCalls_canCall t).imp fun c hc =>
    guar_keeps_perform fun s hs => funext fun p => by
      rw [act_files_frame, hs]
      cases t with
      | generateBundle => cases ht
      | uploadToS3 =>
        rcases hc with rfl | rfl | ⟨a, ⟨h, rfl⟩ | rfl | rfl | rfl⟩ <;> exact nofun
      | uploadToGcpstorage =>
        rcases hc with rfl | ⟨a, ⟨h, rfl⟩ | rfl | ⟨h, rfl⟩ | rfl⟩ <;> exact nofun)) fun _ _ => id

end Keeps

/-! ### The blocks of a run in a reliable world -/

section Blocks

variable {env : Env} (hf : env.Reliable)
include hf

theorem pruneLoop_completes {bundlePath tip : String} : ∀ (names : List String) (w : World),
    names.Nodup → (∀ n ∈ names, isabs n = false ∧ (w.store.files (pathJoin bundlePath n)).isSome) →
    Py.Spec (pruneLoop env bundlePath tip names) (fun _ _ => True) w
  | [], _, _, _ => .pure trivial
  | n :: ns, w, hnd, hn => by
    have hns := fun m hm => hn m (List.mem_cons_of_mem _ hm)
    obtain ⟨hnabs, hnp⟩ := hn n (List.mem_cons_self _ _)
    simp only [pruneLoop]
    split
    · exact pruneLoop_completes ns w (List.nodup_cons.mp hnd).2 hns
    · refine .bind (Q := fun _ w' => w'.store = w.store.setFile (pathJoin bundlePath n) none)
        (.perform hf (a := ()) (s := w.store.setFile (pathJoin bundlePath n) none) (by simp [IOCall.apply, hnp])
          rfl) fun _ w' hw' => ?_
      refine pruneLoop_completes ns w' (List.nodup_cons.mp hnd).2 fun m hm => ⟨(hns m hm).1, ?_⟩
      have hne : pathJoin bundlePath m ≠ pathJoin bundlePath n := fun h =>
        (List.nodup_cons.mp hnd).1 (pathJoin_inj (hns m hm).1 hnabs h ▸ hm)
      simpa [hw', Function.update_noteq hne] using (hns m hm).2

theorem prepare_completes {repo t : String} {w : World}
    (hreq : w.store.files (hgFile repo "requires") = some (.text t))
    (hgd : "generaldelta\n" ∈ readlines t) :
    Py.Spec (prepare env repo) (fun tip _ => tip = env.output (tipArgv repo)) w := by
  have hreq' : w.store.files (pathJoin (pathJoin (pathJoin reposRoot repo) ".hg") "requires") =
    some (.text t) := hreq
  dsimp only [prepare]
  refine .bind (Q := fun _ w' => w'.store = w.store) (.perform hf rfl rfl) fun _ w₁ h₁ => ?_
  refine .bind (Q := fun tip w' => tip = env.output (tipArgv repo) ∧ w'.store = w.store)
    (.perform hf rfl ⟨rfl, h₁⟩) fun tip w₂ ⟨htip, h₂⟩ => ?_
  refine .bind (Q := fun lines w' => lines = readlines t ∧ w'.store = w.store)
    (.perform hf (s := w₂.store) (by simp only [IOCall.apply, h₂, hreq']) ⟨rfl, h₂⟩)
    fun lines w₃ ⟨hl, h₃⟩ => ?_
  rw [hl, if_neg (not_not.mpr hgd)]
  refine .bind (Q := fun _ w' => w'.store = w.store) (.pure h₃) fun _ w₄ h₄ => ?_
  refine .bind (Q := fun _ w' => w'.store = w.store) (.tryCatch (.perform hf rfl h₄)) fun _ w₅ h₅ => ?_
  refine .bind (Q := fun names w' => names = w.store.listdir (pathJoin bundleRoot repo) ∧
    w'.store = w.store) (.perform hf (s := w₅.store) (by rw [h₅]; rfl) ⟨rfl, h₅⟩)
    fun names w₆ ⟨hnames, h₆⟩ => ?_
  subst hnames
  refine .bind (pruneLoop_completes hf _ w₆ (Store.nodup_listdir _ _) fun n hn => ?_) fun _ _ _ => .pure htip
  obtain ⟨hp, hne, hsl⟩ := Store.mem_listdir.mp hn
  have habs := isabs_eq_false_of_slash_not_mem hsl
  exact ⟨habs, by rw [h₆, pathJoin_of_not_isabs habs]; exact hp⟩

/-- A generation job creates its bundle and renames it into place. -/
theorem generateBundle_completes {repo tempPath finalPath : String} {args : List String}
    {w : World} :
    Py.Spec ((TaskName.generateBundle repo tempPath finalPath args).job.run env)
      (fun _ w' => (w'.store.files finalPath).isSome) w := by
  simp only [TaskName.job, generateBundle, Job.run_bind, Job.run_perform]
  refine .bind (Q := fun _ w' => w'.store.files tempPath = some (.bundle (env.bundleSize
    (bundleArgs repo tempPath args)))) (.perform hf rfl (by simp)) fun _ w₁ h₁ => ?_
  exact .perform hf (a := ()) (s := (w₁.store.setFile tempPath none).setFile finalPath
    (some (.bundle (env.bundleSize (bundleArgs repo tempPath args))))) (by simp [IOCall.apply, h₁])
    (by simp)

theorem submitGenerations_completes {repo repoFull bundlePath tip : String} {zstdMax : Bool} :
    ∀ (cs : List (String × List String)) (w : World),
    Py.Spec (submitGenerations env repo repoFull bundlePath tip zstdMax cs)
      (fun r w' => r.1 = recordedBundles bundlePath repo tip zstdMax cs ∧
        (∀ f ∈ r.2, f.result = .ok ()) ∧ ∀ b ∈ r.1, (w'.store.files b.2.1).isSome) w
  | [], _ => .pure ⟨rfl, by simp, by simp⟩
  | (t, args) :: rest, w => by
    simp only [submitGenerations]
    by_cases hw : wanted zstdMax t
    · rw [if_neg (by simp [hw])]
      refine .bind (Q := fun present w' => present = (w.store.files (bundlePaths bundlePath repo tip t).1).isSome ∧
        w'.store = w.store) (.perform hf rfl ⟨rfl, rfl⟩) fun present w₁ ⟨hpres, h₁⟩ => ?_
      refine .bind (Q := fun fs w' => (∀ f ∈ fs, f.result = .ok ()) ∧
        (w'.store.files (bundlePaths bundlePath repo tip t).1).isSome) ?_ fun fs w₂ ⟨hfs, h₂⟩ => ?_
      · cases present
        · exact .bind (Py.Spec.submit (P := fun s => (s.files (bundlePaths bundlePath repo tip t).1).isSome)
            (generateBundle_completes hf))
            fun f w' ⟨_, hf', hp⟩ => .pure ⟨by simp [hf'], hp⟩
        · exact .pure ⟨by simp, by rw [h₁, ← hpres]⟩
      refine .bind ((submitGenerations_completes rest w₂).guar
        (guar_submitGenerations_keeps (p := (bundlePaths bundlePath repo tip t).1)
          (fun _ => (temp_ne_final _ _ _ _ _ _ _ _).symm) rest))
        fun r w₃ ⟨⟨hr, hrok, hrp⟩, hkeep⟩ => ?_
      obtain ⟨bs, fs'⟩ := r
      refine .pure ⟨?_, ?_, ?_⟩
      · simpa [recordedBundles, List.filter_cons, hw] using hr
      · simpa [or_imp, forall_and] using And.intro hfs hrok
      · simpa using And.intro (hkeep h₂) hrp
    · rw [if_pos (by simp [hw])]
      refine (submitGenerations_completes rest w).mono fun r w' ⟨hr, hok, hp⟩ => ⟨?_, hok, hp⟩
      simp [recordedBundles, List.filter_cons, hw, hr]

/-- An upload to S3 whose file is there returns: the object is refreshed if it exists and
uploaded otherwise. -/
theorem uploadToS3_completes {r b l k : String} {w : World} (hl : (w.store.files l).isSome) :
    Py.Spec ((TaskName.uploadToS3 r b l k).job.run env) (fun _ _ => True) w := by
  obtain ⟨c, hc⟩ := Option.isSome_iff_exists.mp hl
  simp only [TaskName.job, uploadToS3, s3Loop, s3Attempt, Job.run_bind, Job.run_tryCatch_except,
    Job.run_perform, Job.run_pure]
  refine .bind (Q := fun _ w' => w'.store = w.store) (.perform hf rfl rfl) fun _ w₁ h₁ => ?_
  refine .tryCatch (.bind (Q := fun _ w' => w'.store = w.store) (.perform hf rfl h₁) fun _ w₂ h₂ => ?_)
  refine .bind (Q := fun _ w' => w'.store = w.store) (.perform hf rfl h₂) fun _ w₃ h₃ => ?_
  refine .bind (Q := fun _ w' => w'.store = w.store) (.perform hf rfl h₃) fun _ w₄ h₄ => ?_
  refine .bind (Q := fun present w' => present = (w.store.objects ⟨.s3, b, k⟩).isSome ∧
    w'.store = w.store) ?_ fun present w₅ ⟨hp, h₅⟩ => ?_
  · cases ho : (w.store.objects ⟨.s3, b, k⟩).isSome
    · refine .tryCatch_error (e := .client "404") ?_
        (.pure (w := ⟨w₄.store, w₄.log ++ [.call (.load b k (0 + 1)) false]⟩) ⟨rfl, h₄⟩)
      rw [Py.bind_error (perform_reliable hf (r := .error (.client "404")) (s := w₄.store)
        (by simp [IOCall.apply, h₄, ho]))]
      rfl
    · exact .tryCatch (.bind (Q := fun _ w' => w'.store = w.store)
        (.perform hf (a := ()) (by simp [IOCall.apply, h₄, ho]) h₄) fun _ _ h => .pure ⟨rfl, h⟩)
  · subst hp
    cases ho : (w.store.objects ⟨.s3, b, k⟩).isSome
    · rw [if_neg Bool.false_ne_true]
      exact .perform hf (a := ()) (s := w₅.store.setObject ⟨.s3, b, k⟩ (some ⟨c, false⟩))
        (by simp [IOCall.apply, h₅, hc]) trivial
    · rw [if_pos rfl]
      exact .perform hf (a := ()) (s := w₅.store) (by simp [IOCall.apply, h₅, ho]) trivial

/-- An upload to GCS whose file is there returns: the object's hold is set and cleared if it
exists, and the object is uploaded otherwise. -/
theorem uploadToGcpstorage_completes {r b l k : String} {w : World}
    (hl : (w.store.files l).isSome) :
    Py.Spec ((TaskName.uploadToGcpstorage r b l k).job.run env) (fun _ _ => True) w := by
  obtain ⟨c, hc⟩ := Option.isSome_iff_exists.mp hl
  simp only [TaskName.job, uploadToGcpstorage, gcsLoop, gcsAttempt, Job.run_bind,
    Job.run_tryCatch_except, Job.run_perform, Job.run_pure]
  refine .tryCatch (.bind (Q := fun _ w' => w'.store = w.store) (.perform hf rfl rfl) fun _ w₁ h₁ => ?_)
  refine .bind (Q := fun _ w' => w'.store = w.store) (.perform hf rfl h₁) fun _ w₂ h₂ => ?_
  refine .bind (Q := fun _ w' => w'.store = w.store) (.perform hf rfl h₂) fun _ w₃ h₃ => ?_
  refine .bind (Q := fun present w' => present = (w.store.objects ⟨.gcs, b, k⟩).isSome ∧
    w'.store = w.store) (.perform hf (s := w₃.store) (by rw [h₃]; rfl) ⟨rfl, h₃⟩)
    fun present w₄ ⟨hp, h₄⟩ => ?_
  subst hp
  split
  · next ho =>
    obtain ⟨o, ho⟩ := Option.isSome_iff_exists.mp ho
    simp only [Job.run_bind, Job.run_perform]
    have ha : IOCall.apply env (.patch b k true 0) w₄.store =
        (.ok (), w₄.store.setObject ⟨.gcs, b, k⟩ (some { o with hold := true })) := by
      simp [IOCall.apply, h₄, ho]
    refine .bind (Q := fun _ w' => (w'.store.objects ⟨.gcs, b, k⟩).isSome)
      (.perform hf ha (by simp)) fun _ w₅ h₅ => ?_
    obtain ⟨o', ho'⟩ := Option.isSome_iff_exists.mp h₅
    have ha' : IOCall.apply env (.patch b k false 0) w₅.store =
        (.ok (), w₅.store.setObject ⟨.gcs, b, k⟩ (some { o' with hold := false })) := by
      simp [IOCall.apply, ho']
    exact .perform hf ha' trivial
  · have ha : IOCall.apply env (.uploadFromFilename l b k 0) w₄.store =
        (.ok (), w₄.store.setObject ⟨.gcs, b, k⟩ (some ⟨c, false⟩)) := by
      simp [IOCall.apply, h₄, hc]
    exact .perform hf ha trivial

theorem upload_completes {t : TaskName} {l : String} {w : World} (ht : t.source = some l)
    (hl : (w.store.files l).isSome) : Py.Spec (t.job.run env) (fun _ _ => True) w := by
  cases t with
  | generateBundle => cases ht
  | uploadToS3 => cases ht; exact uploadToS3_completes hf hl
  | uploadToGcpstorage => cases ht; exact uploadToGcpstorage_completes hf hl

/-- Uploads whose files are there all return, and leave the files as they were. -/
theorem submitAll_uploads_completes : ∀ (ts : List TaskName) (w : World),
    (∀ t ∈ ts, ∃ l, t.source = some l ∧ (w.store.files l).isSome) →
    Py.Spec (submitAll env ts)
      (fun fs w' => (∀ f ∈ fs, f.result = .ok ()) ∧ w'.store.files = w.store.files) w
  | [], _, _ => .pure ⟨by simp, rfl⟩
  | t :: ts, w, h => by
    obtain ⟨l, hs, hl⟩ := h t (List.mem_cons_self _ _)
    simp only [submitAll]
    refine .bind ((Py.Spec.submit (P := fun _ => True) (upload_completes hf hs hl)).guar
      (guar_upload_files (by simp [hs]) w.store.files)) fun f w₁ ⟨⟨_, hf₁, _⟩, hfiles⟩ => ?_
    have h₁ : w₁.store.files = w.store.files := hfiles rfl
    refine .bind (submitAll_uploads_completes ts w₁ fun t' ht' => ?_)
      fun fs w₂ ⟨hok, h₂⟩ => .pure ⟨?_, h₂.trans h₁⟩
    · obtain ⟨l', hs', hl'⟩ := h t' (List.mem_cons_of_mem _ ht')
      exact ⟨l', hs', by rw [h₁]; exact hl'⟩
    · simpa [hf₁] using hok

theorem uploadBundles_completes {upload : Bool} {bs : List (String × String × String)} {w : World}
    (hb : ∀ b ∈ bs, (w.store.files b.2.1).isSome) :
    Py.Spec (uploadBundles env upload bs) (fun _ w' => w'.store.files = w.store.files) w := by
  cases upload with
  | false =>
    rw [uploadBundles, if_neg Bool.false_ne_true]
    exact .pure rfl
  | true =>
    rw [uploadBundles, if_pos rfl]
    refine .bind (submitAll_uploads_completes hf _ w fun t ht => ?_) fun fs w₁ ⟨hok, h₁⟩ =>
      ⟨(), w₁, joinAll_of_ok hok w₁, h₁⟩
    rw [uploadTasks_eq] at ht
    simp only [List.mem_append, List.mem_flatMap, List.mem_map] at ht
    rcases ht with ⟨_, -, b, hb', rfl⟩ | ⟨_, -, b, hb', rfl⟩ <;> exact ⟨b.2.1, rfl, hb b hb'⟩

theorem recordSizes_completes : ∀ (bs : List (String × String × String)) (w : World),
    (∀ b ∈ bs, (w.store.files b.2.1).isSome) →
    Py.Spec (recordSizes env bs) (fun _ w' => w'.store = w.store) w
  | [], _, _ => .pure rfl
  | (t, finalPath, remotePath) :: rest, w, h => by
    obtain ⟨c, hc⟩ := Option.isSome_iff_exists.mp (h _ (List.mem_cons_self _ _))
    have ha : IOCall.apply env (.getsize finalPath) w.store = (.ok c.size, w.store) := by
      simp [IOCall.apply, hc]
    simp only [recordSizes]
    refine .bind (Q := fun _ w' => w'.store = w.store) (.perform hf ha rfl) fun _ w₁ h₁ => ?_
    refine .bind (recordSizes_completes rest w₁ fun b hb => ?_) fun _ w₂ h₂ => .pure (h₂.trans h₁)
    rw [h₁]
    exact h b (List.mem_cons_of_mem _ hb)

/-- The manifest block writes the manifest, after events none of which writes it, and
returns. -/
theorem writeManifest_completes {repo tip : String} {upload : Bool}
    {bs : List (String × String × String)} {base : List Event} {w : World}
    (hb : Py.Before (IsManifestWrite repo) base w) :
    Py.Spec (writeManifest env repo tip upload bs) (fun _ w' => ∃ pre post,
      w'.log = base ++ pre ++ .call (.write (hgFile repo "clonebundles.manifest")
        (manifestText (manifestEntries (reboundPath upload (pathJoin bundleRoot repo) bs) repo tip
          (bs.map Prod.fst)))) true :: post ∧ ∀ y ∈ pre, ¬ IsManifestWrite repo y) w := by
  dsimp only [writeManifest]
  generalize manifestText _ = text
  refine .bind (Q := fun present w' => present = (w.store.files (hgFile repo "clonebundles.manifest")).isSome ∧
    w'.store = w.store ∧ Py.Before (IsManifestWrite repo) base w')
    (.perform hf rfl ⟨rfl, rfl, hb.guar ⟨_, rfl, fun y hy => by rw [List.mem_singleton.mp hy]; exact not_manifestWrite rfl⟩⟩)
    fun present w₁ ⟨hp, h₁, hb₁⟩ => ?_
  refine .bind (Q := fun _ w' => Py.Before (IsManifestWrite repo) base w') ?_ fun _ w₂ hb₂ => ?_
  · split
    · next hpres =>
      obtain ⟨c, hc⟩ := Option.isSome_iff_exists.mp (hp ▸ hpres)
      have ha : IOCall.apply env (.copy2 (hgFile repo "clonebundles.manifest")
          (hgFile repo "clonebundles.manifest.old")) w₁.store =
          (.ok (), w₁.store.setFile (hgFile repo "clonebundles.manifest.old") (some c)) := by
        simp only [IOCall.apply, h₁]
        rw [show w.store.files (hgFile repo "clonebundles.manifest") = some c from hc]
      exact .perform hf ha (hb₁.guar ⟨_, rfl, fun y hy => by rw [List.mem_singleton.mp hy]; exact not_manifestWrite rfl⟩)
    · exact .pure hb₁
  obtain ⟨P, hP, hPE⟩ := hb₂
  refine .bind (Q := fun _ w' => w'.log = w₂.log ++
    [.call (.write (hgFile repo "clonebundles.manifest") text) true]) (.perform hf rfl rfl)
    fun _ w₃ h₃ => ?_
  refine .bind (Q := fun _ w' => w'.log = w₃.log ++ [.call (.chmod (hgFile repo "clonebundles.manifest") 0o664) true])
    (.perform hf rfl rfl) fun _ w₄ h₄ => ?_
  refine .perform hf rfl ⟨P, [.call (.chmod (hgFile repo "clonebundles.manifest") 0o664) true,
    .call (.checkCall [hg, "replicatesync"] (pathJoin reposRoot repo)) true], ?_, hPE⟩
  show w₄.log ++ _ = _
  rw [h₄, h₃, hP]
  simp

end Blocks

/-! ### Whole runs -/

section Run

variable {env : Env} (hf : env.Reliable)
include hf

/-- **Progress.** In a reliable world, a primary run of a repository whose `requires` lists
`generaldelta` writes its manifest once and returns. -/
theorem generateBundles_completes {R t : String} {upload zstdMax : Bool} {copyfrom : Option Opt}
    {w : World} (hR : isabs R = false) (hcf : ∀ cf, copyfrom = some cf → cf.truthy = false)
    (hreq : w.store.files (hgFile R "requires") = some (.text t))
    (hgd : "generaldelta\n" ∈ readlines t) :
    ∃ ps w' pre post, generateBundles env R upload copyfrom zstdMax w = (.ok ps, w') ∧
      w'.log = w.log ++ pre ++ .call (.write (hgFile R "clonebundles.manifest")
        (runManifest R (env.output (tipArgv R)) upload zstdMax)) true :: post ∧
      ∀ y ∈ pre, ¬ IsManifestWrite R y := by
  have hnw : ∀ {β} {x : Py β}, Py.Guar (.log (Quiet R)) x →
      Py.Guar (.log fun y => ¬ IsManifestWrite R y) x := fun hx => hx.log_imp fun _ h => h.1
  have hprim : Py.Spec (primary env R upload zstdMax) (fun _ w' => ∃ pre post,
      w'.log = w.log ++ pre ++ .call (.write (hgFile R "clonebundles.manifest")
        (runManifest R (env.output (tipArgv R)) upload zstdMax)) true :: post ∧
      ∀ y ∈ pre, ¬ IsManifestWrite R y) w := by
    refine .bind ((prepare_completes hf hreq hgd).guar (hnw (guar_prepare prepareAllows_quiet)))
      fun tip w₁ ⟨htip, hg₁⟩ => ?_
    have hb₁ := (Py.before_self w).guar hg₁
    subst htip
    refine .bind ((submitGenerations_completes hf creates w₁).guar
      (guar_submitGenerations (fun _ => hnw (guar_quiet fun _ => rfl))
        (fun _ _ => guar_submit_noWrite _) creates)) fun r w₂ ⟨⟨hbs, hgs, hpres⟩, hg₂⟩ => ?_
    obtain ⟨bs, gs⟩ := r
    have hb₂ := hb₁.guar hg₂
    dsimp only at hbs hgs hpres ⊢
    subst hbs
    refine .bind (Q := fun _ w' => w' = w₂) ⟨(), w₂, joinAll_of_ok hgs w₂, rfl⟩ fun _ w₃ h₃ => ?_
    subst h₃
    refine .bind ((uploadBundles_completes hf hpres).guar (guar_uploadBundles
      (fun _ _ _ _ => @guar_submit_noWrite env R _) (fun _ _ _ _ => @guar_submit_noWrite env R _)
      upload _))
      fun _ w₄ ⟨h₄, hg₄⟩ => ?_
    have gr := guar_recordSizes (fun _ => @guar_quiet env R _ fun _ => rfl)
    refine .bind ((recordSizes_completes hf _ w₄ fun b hb => by rw [h₄]; exact hpres b hb).guar
      (hnw (gr _))) fun ps w₅ ⟨_, hg₅⟩ => ?_
    exact .bind (writeManifest_completes hf ((hb₂.guar hg₄).guar hg₅)) fun _ _ h => .pure h
  obtain ⟨ps, w', h, pre, post, hlog, hpre⟩ : Py.Spec (generateBundles env R upload copyfrom zstdMax) (fun _ w' =>
      ∃ pre post, w'.log = w.log ++ pre ++ .call (.write (hgFile R "clonebundles.manifest")
        (runManifest R (env.output (tipArgv R)) upload zstdMax)) true :: post ∧
      ∀ y ∈ pre, ¬ IsManifestWrite R y) w := by
    refine .bind (Q := fun _ w' => w' = w) (by rw [if_neg (by simp [hR])]; exact .pure rfl)
      fun _ w₀ h₀ => ?_
    subst h₀
    rcases copyfrom with _ | cf
    · exact hprim
    · dsimp only
      rw [if_neg (by simp [hcf cf rfl])]
      exact hprim
  exact ⟨ps, w', pre, post, h, hlog, hpre⟩

end Run

/-! ### A world in which a run completes -/

/-- An environment in which no call fails and every command prints `tip`. -/
def quietEnv (tip : String) : Env := ⟨fun _ => none, fun _ => tip, fun _ => 0, fun _ => none⟩

theorem quietEnv_reliable (tip : String) : (quietEnv tip).Reliable := fun _ => rfl

/-- A fresh world holding only `repo`'s `requires` file, which lists `generaldelta`. -/
def generaldeltaWorld (repo : String) : World :=
  ⟨Store.empty.setFile (hgFile repo "requires") (some (.text "generaldelta\n")), []⟩

theorem generaldeltaWorld_requires (repo : String) :
    (generaldeltaWorld repo).store.files (hgFile repo "requires") = some (.text "generaldelta\n") := by
  simp [generaldeltaWorld]

end HgBundles
