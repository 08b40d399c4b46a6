import HgBundles.Schedule

/-!
# HgBundles.Pool — the jobs of one run do not interfere

A submitted job touches a few locations: a generation job its temporary and its final file
(`genLocs`), an upload its local file and its object (`upReads`, `upWrites`). Every call the job
can make stays inside them (`TaskName.allCalls_job`), so `TaskName.worker` makes each job a
worker of `HgBundles.Schedule`.

* `submitGenerations_spec`: a generation loop that ends normally records `genBundles` and submits
  a sublist of `genTasks`;
* `separate_genTasks`, `separate_uploadTasks`: in one run the generation jobs touch pairwise
  distinct files, and the upload jobs pairwise distinct objects;
* `run_store`, `submitAll_store`: the sequential reading of the pool is `execAll`.
-/

namespace HgBundles

/-! ### The locations of a job -/

/-- The temporary and the final file of a generation job. -/
def genLocs (tempPath finalPath : String) (l : Loc) : Prop :=
  l = .file tempPath ∨ l = .file finalPath

/-- An upload reads its local file and its object. -/
def upReads (localPath : String) (o : ObjKey) (l : Loc) : Prop := l = .file localPath ∨ l = .obj o

/-- An upload writes its object only. -/
def upWrites (o : ObjKey) (l : Loc) : Prop := l = .obj o

/-- The locations a submitted job reads. -/
def TaskName.reads : TaskName → Loc → Prop
  | .generateBundle _ t f _ => genLocs t f
  | .uploadToS3 _ b p k => upReads p ⟨.s3, b, k⟩
  | .uploadToGcpstorage _ b p k => upReads p ⟨.gcs, b, k⟩

/-- The locations a submitted job writes. -/
def TaskName.writes : TaskName → Loc → Prop
  | .generateBundle _ t f _ => genLocs t f
  | .uploadToS3 _ b _ k => upWrites ⟨.s3, b, k⟩
  | .uploadToGcpstorage _ b _ k => upWrites ⟨.gcs, b, k⟩

/-! ### Calls that stay inside their locations -/

section Locality

variable {env : Env}

theorem Store.get_file (s : Store) (p : String) : s.get (.file p) = .inl (s.files p) := rfl

theorem Store.get_obj (s : Store) (o : ObjKey) : s.get (.obj o) = .inr (s.objects o) := rfl

/-- A call that leaves the store alone when it fails is local if its successful run is. -/
theorem Local.of_apply {c : IOCall} {R W : Loc → Prop} (hc : ∀ s, c.afterFault env s = s)
    (frame : ∀ s l, ¬ W l → (c.apply env s).2.get l = s.get l)
    (depends : ∀ s s', (∀ l, R l → s.get l = s'.get l) → (c.apply env s).1 = (c.apply env s').1 ∧
      ∀ l, W l → (c.apply env s).2.get l = (c.apply env s').2.get l)
    (hW : ∀ l, W l → R l) : Local env c R W where
  frame s l hl := by
    cases hf : env.fault c
    · simpa [act, hf] using frame s l hl
    · simp [act, hf, hc]
  depends s s' h := by
    cases hf : env.fault c
    · simpa [act, hf] using depends s s' h
    · simpa [act, hf, hc] using fun l hl => h l (hW l hl)
  writes_reads := hW

/-- A call that changes nothing and answers from one location it reads. -/
theorem Local.of_query {c : IOCall} {R W : Loc → Prop} (l₀ : Loc) (hc : ∀ s, c.afterFault env s = s)
    (hs : ∀ s, (c.apply env s).2 = s)
    (ha : ∀ s s', s.get l₀ = s'.get l₀ → (c.apply env s).1 = (c.apply env s').1) (hl₀ : R l₀)
    (hW : ∀ l, W l → R l) : Local env c R W :=
  .of_apply hc (fun s l _ => by rw [hs]) (fun s s' h => ⟨ha s s' (h l₀ hl₀), fun l hl => by
    rw [hs, hs]; exact h l (hW l hl)⟩) hW

theorem local_createBundle (argv : List String) (t f : String) :
    Local env (.createBundle argv t) (genLocs t f) (genLocs t f) where
  frame s l hl := by
    obtain ⟨ht, -⟩ := not_or.mp hl
    cases hf : env.fault (.createBundle argv t) <;> cases hn : env.leftover argv <;>
      simp [act, hf, hn, IOCall.apply, IOCall.afterFault, ht]
  depends s s' h := by
    have ht := h _ (.inl rfl)
    have hf' := h _ (.inr rfl)
    cases hf : env.fault (.createBundle argv t) <;> cases hn : env.leftover argv <;>
      simp [act, hf, hn, IOCall.apply, IOCall.afterFault, genLocs, ht, hf']
  writes_reads _ h := h

theorem local_rename (t f : String) : Local env (.rename t f) (genLocs t f) (genLocs t f) :=
  .of_apply (fun _ => rfl)
    (fun s l hl => by
      obtain ⟨ht, hf⟩ := not_or.mp hl
      simp only [IOCall.apply]
      split <;> simp [ht, hf])
    (fun s s' h => by
      have ht : s.files t = s'.files t := Sum.inl.inj (h _ (.inl rfl))
      have hf := h _ (.inr rfl)
      simp only [IOCall.apply, ht]
      split
      · exact ⟨rfl, fun l hl => by rcases hl with rfl | rfl <;> simp⟩
      · exact ⟨rfl, fun l hl => h l hl⟩)
    fun _ h => h

/-- The calls of an upload that only build handles, wait or read the object. -/
theorem local_query_upload {c : IOCall} {l : String} {o : ObjKey} (hc : ∀ s, c.afterFault env s = s)
    (hs : ∀ s, (c.apply env s).2 = s)
    (ha : ∀ s s', s.objects o = s'.objects o → (c.apply env s).1 = (c.apply env s').1) :
    Local env c (upReads l o) (upWrites o) :=
  .of_query (.obj o) hc hs (fun s s' h => ha s s' (Sum.inr.inj h)) (.inr rfl) fun _ h => .inr h

/-- `key.upload_file` and `blob.upload_from_filename`: the object gets the local file's content. -/
theorem local_upload {c : IOCall} {l : String} {o : ObjKey} {r₁ r₂ : Except Err c.Answer}
    (hc : ∀ s, c.afterFault env s = s)
    (happ : ∀ s, c.apply env s = match s.files l with
      | some x => (r₁, s.setObject o (some ⟨x, false⟩))
      | none => (r₂, s)) :
    Local env c (upReads l o) (upWrites o) :=
  .of_apply hc
    (fun s x hx => by rw [happ]; split <;> simp [show x ≠ .obj o from hx])
    (fun s s' h => by
      have hl : s.files l = s'.files l := Sum.inl.inj (h _ (.inl rfl))
      simp only [happ, hl]
      split
      · exact ⟨rfl, fun x (hx : x = _) => by simp [hx]⟩
      · exact ⟨rfl, fun x hx => h x (.inr hx)⟩)
    fun _ h => .inr h

theorem local_patch (b k : String) (hold : Bool) (a : Nat) (l : String) :
    Local env (.patch b k hold a) (upReads l ⟨.gcs, b, k⟩) (upWrites ⟨.gcs, b, k⟩) :=
  .of_apply (fun _ => rfl)
    (fun s x hx => by
      simp only [IOCall.apply]
      split <;> simp [show x ≠ .obj ⟨.gcs, b, k⟩ from hx])
    (fun s s' h => by
      have ho : s.objects ⟨.gcs, b, k⟩ = s'.objects ⟨.gcs, b, k⟩ := Sum.inr.inj (h _ (.inr rfl))
      simp only [IOCall.apply, ho]
      split
      · exact ⟨rfl, fun x (hx : x = _) => by simp [hx]⟩
      · exact ⟨rfl, fun x hx => h x (.inr hx)⟩)
    fun _ h => .inr h

end Locality

/-! ### Every call of a job stays inside its locations -/

section Jobs

/-- The calls a submitted job can make. -/
def TaskName.CanCall : TaskName → IOCall → Prop
  | .generateBundle repo t f args, c => c = .createBundle (bundleArgs repo t args) t ∨ c = .rename t f
  | .uploadToS3 r b l k, c => c = .session r b k ∨ c = .sleep 15 ∨ ∃ a,
      (∃ h, c = .handle h b k a) ∨ c = .load b k a ∨ c = .copyFrom b k a ∨ c = .uploadFile l b k a
  | .uploadToGcpstorage _ b l k, c => c = .sleep 15 ∨ ∃ a, (∃ h, c = .handle h b k a) ∨
      c = .blobExists b k a ∨ (∃ h, c = .patch b k h a) ∨ c = .uploadFromFilename l b k a

section Structure

variable {P : IOCall → Prop} {b l k : String}

theorem allCalls_s3Attempt {a : Nat} (hh : ∀ h, P (.handle h b k a)) (hl : P (.load b k a))
    (hc : P (.copyFrom b k a)) (hu : P (.uploadFile l b k a)) : Job.AllCalls P (s3Attempt b l k a) := by
  refine .bind (.perform (hh _)) fun _ => .bind (.perform (hh _)) fun _ =>
    .bind (.perform (hh _)) fun _ => .bind (.tryCatch (.bind (.perform hl) fun _ => .pure _)
      fun e => ?_) fun p => ?_
  · cases e <;> first | exact .ret _ | (dsimp only; split <;> exact .ret _)
  · cases p
    · exact .perform hu
    · exact .perform hc

theorem allCalls_s3Loop (hA : ∀ a, Job.AllCalls P (s3Attempt b l k a)) (hs : P (.sleep 15)) :
    ∀ fuel a, Job.AllCalls P (s3Loop b l k fuel a)
  | 0, _ => .ret _
  | fuel + 1, a => .tryCatch (hA _) fun e => by
    cases e <;> first | exact .ret _ | exact .bind (.perform hs) fun _ => allCalls_s3Loop hA hs fuel _

theorem allCalls_gcsAttempt {a : Nat} (hh : ∀ h, P (.handle h b k a)) (he : P (.blobExists b k a))
    (hp : ∀ h, P (.patch b k h a)) (hu : P (.uploadFromFilename l b k a)) :
    Job.AllCalls P (gcsAttempt b l k a) := by
  refine .bind (.perform (hh _)) fun _ => .bind (.perform (hh _)) fun _ =>
    .bind (.perform (hh _)) fun _ => .bind (.perform he) fun p => ?_
  cases p
  · exact .perform hu
  · exact .bind (.perform (hp _)) fun _ => .perform (hp _)

theorem allCalls_gcsLoop (hA : ∀ a, Job.AllCalls P (gcsAttempt b l k a)) (hs : P (.sleep 15)) :
    ∀ fuel a, Job.AllCalls P (gcsLoop b l k fuel a)
  | 0, _ => .ret _
  | fuel + 1, a => .tryCatch (hA _) fun e => by
    cases e <;> first | exact .ret _ | exact .bind (.perform hs) fun _ => allCalls_gcsLoop hA hs fuel _

end Structure

/-- Every call a submitted job makes is one `TaskName.CanCall` names. -/
theorem TaskName.allCalls_canCall (t : TaskName) : Job.AllCalls t.CanCall t.job := by
  cases t with
  | generateBundle repo t f args => exact .bind (.perform (.inl rfl)) fun _ => .perform (.inr rfl)
  | uploadToS3 r b l k =>
    exact .bind (.perform (.inl rfl)) fun _ => allCalls_s3Loop (fun a =>
      allCalls_s3Attempt (fun h => .inr (.inr ⟨a, .inl ⟨h, rfl⟩⟩)) (.inr (.inr ⟨a, .inr (.inl rfl)⟩))
        (.inr (.inr ⟨a, .inr (.inr (.inl rfl))⟩)) (.inr (.inr ⟨a, .inr (.inr (.inr rfl))⟩)))
      (.inr (.inl rfl)) _ _
  | uploadToGcpstorage r b l k =>
    exact allCalls_gcsLoop (fun a =>
      allCalls_gcsAttempt (fun h => .inr ⟨a, .inl ⟨h, rfl⟩⟩) (.inr ⟨a, .inr (.inl rfl)⟩)
        (fun h => .inr ⟨a, .inr (.inr (.inl ⟨h, rfl⟩))⟩) (.inr ⟨a, .inr (.inr (.inr rfl))⟩))
      (.inl rfl) _ _

variable {env : Env}

/-- Every call a job can make stays inside the job's locations. -/
theorem TaskName.local_of_canCall {t : TaskName} {c : IOCall} (h : t.CanCall c) :
    Local env c t.reads t.writes := by
  have hinert : ∀ {c : IOCall} {l : String} {o : ObjKey}, (∀ s, c.afterFault env s = s) →
      (∀ s s', (c.apply env s).1 = (c.apply env s').1) → (∀ s, (c.apply env s).2 = s) →
      Local env c (upReads l o) (upWrites o) :=
    fun hc ha hs => local_query_upload hc hs fun s s' _ => ha s s'
  cases t with
  | generateBundle repo t f args =>
    rcases h with rfl | rfl
    · exact local_createBundle _ _ _
    · exact local_rename _ _
  | uploadToS3 r b l k =>
    rcases h with rfl | rfl | ⟨a, ⟨h, rfl⟩ | rfl | rfl | rfl⟩
    · exact hinert (fun _ => rfl) (fun _ _ => rfl) fun _ => rfl
    · exact hinert (fun _ => rfl) (fun _ _ => rfl) fun _ => rfl
    · exact hinert (fun _ => rfl) (fun _ _ => rfl) fun _ => rfl
    · exact local_query_upload (fun _ => rfl) (fun s => by simp only [IOCall.apply]; split <;> rfl)
        fun s s' h => by simp only [IOCall.apply, h]; split <;> rfl
    · exact local_query_upload (fun _ => rfl) (fun s => by simp only [IOCall.apply]; split <;> rfl)
        fun s s' h => by simp only [IOCall.apply, h]; split <;> rfl
    · exact local_upload (fun _ => rfl) fun _ => rfl
  | uploadToGcpstorage r b l k =>
    rcases h with rfl | ⟨a, ⟨h, rfl⟩ | rfl | ⟨h, rfl⟩ | rfl⟩
    · exact hinert (fun _ => rfl) (fun _ _ => rfl) fun _ => rfl
    · exact hinert (fun _ => rfl) (fun _ _ => rfl) fun _ => rfl
    · exact local_query_upload (fun _ => rfl) (fun _ => rfl) fun s s' h => by
        simp only [IOCall.apply, h]
    · exact local_patch _ _ _ _ _
    · exact local_upload (fun _ => rfl) fun _ => rfl

theorem TaskName.allCalls_job (t : TaskName) :
    Job.AllCalls (fun c => Local env c t.reads t.writes) t.job :=
  t.allCalls_canCall.imp fun _ => TaskName.local_of_canCall

variable (env)

/-- A submitted job as a worker of the pool. -/
def TaskName.worker (t : TaskName) : Worker env := ⟨t.job, t.reads, t.writes, t.allCalls_job⟩

end Jobs

/-! ### The sequential reading of the pool -/

section Sequential

variable (env : Env)

/-- Running a job against the world does to the store what `Job.exec` does. -/
theorem run_exec (j : Job α) (w : World) : ((j.run env w).1, (j.run env w).2.store) = j.exec env w.store := by
  induction j generalizing w with
  | ret r => rfl
  | call c k ih => exact ih _ _

theorem submit_apply (t : TaskName) (w : World) :
    submit env t w = (.ok ⟨t, (t.job.run env w).1⟩, (submit env t w).2) := rfl

theorem submit_store (t : TaskName) (w : World) :
    (submit env t w).2.store = (t.job.exec env w.store).2 :=
  congrArg Prod.snd (run_exec env t.job w)

/-- The job and outcome an event reports, when it ends a pool job. -/
def Event.done : Event → Option (TaskName × Bool)
  | .finished t ok => some (t, ok)
  | .call _ _ => none

/-- The job and outcome of a future. -/
def Future.done (f : Future) : TaskName × Bool := (f.task, f.result.toBool)

theorem perform_log (c : IOCall) (w : World) :
    (perform env c w).2.log = w.log ++ [.call c (act env c w.store).1.toBool] := rfl

theorem perform_ok_log {c : IOCall} {w w' : World} {a : c.Answer}
    (h : perform env c w = (.ok a, w')) : w'.log = w.log ++ [.call c true] := by
  have h₁ : (act env c w.store).1 = .ok a := congrArg Prod.fst h
  rw [← congrArg (fun r => r.2.log) h, perform_log, h₁]
  rfl

/-- A job appends calls only. -/
theorem run_log (j : Job α) (w : World) :
    ∃ L, (j.run env w).2.log = w.log ++ L ∧ L.filterMap Event.done = [] := by
  induction j generalizing w with
  | ret r => exact ⟨[], (List.append_nil _).symm, rfl⟩
  | call c k ih =>
    obtain ⟨L, hL, hd⟩ := ih (act env c w.store).1 (perform env c w).2
    refine ⟨.call c (act env c w.store).1.toBool :: L, ?_, hd⟩
    show ((k (act env c w.store).1).run env (perform env c w).2).2.log = _
    rw [hL, perform_log]
    simp

/-- Submitting a job appends the job's calls and then the report of its end. -/
theorem submit_log (t : TaskName) (w : World) : ∃ L, (submit env t w).2.log = w.log ++ L ∧
    L.filterMap Event.done = [(t, (t.job.run env w).1.toBool)] := by
  obtain ⟨J, hJ, hJd⟩ := run_log env t.job w
  refine ⟨J ++ [.finished t (t.job.run env w).1.toBool], ?_, by simp [hJd, Event.done]⟩
  rw [show (submit env t w).2.log = _ ++ _ from rfl, hJ, List.append_assoc]

/-- Submitting jobs never raises; the futures are the jobs in order, the log reports each job's
end with its future's outcome, and the store is that of running the jobs one after another. -/
theorem submitAll_spec : ∀ (ts : List TaskName) (w : World), ∃ fs w',
    submitAll env ts w = (.ok fs, w') ∧ fs.map Future.task = ts ∧
      (∃ L, w'.log = w.log ++ L ∧ L.filterMap Event.done = fs.map Future.done) ∧
      w'.store = execAll (ts.map (TaskName.worker env)) w.store
  | [], w => ⟨[], w, rfl, rfl, ⟨[], (List.append_nil _).symm, rfl⟩, rfl⟩
  | t :: ts, w => by
    obtain ⟨fs, w', h, h₂, ⟨L, hL, hd⟩, h₃⟩ := submitAll_spec ts (submit env t w).2
    obtain ⟨J, hJ, hJd⟩ := submit_log env t w
    refine ⟨⟨t, (t.job.run env w).1⟩ :: fs, w', ?_, by simp [h₂], ⟨J ++ L, ?_, ?_⟩, ?_⟩
    · rw [submitAll, Py.bind_ok (submit_apply env t w), Py.bind_ok h]
      rfl
    · rw [hL, hJ, List.append_assoc]
    · simp [hJd, hd, Future.done]
    · rw [h₃, submit_store]
      rfl

end Sequential

/-! ### What one run submits -/

/-- The bundles the generation loop records for the `CREATES` entries `cs`. -/
def recordedBundles (bundlePath repo tip : String) (zstdMax : Bool)
    (cs : List (String × List String)) : List (String × String × String) :=
  (cs.filter fun e => wanted zstdMax e.1).map fun e => (e.1, bundlePaths bundlePath repo tip e.1)

/-- The generation jobs the loop may submit for the `CREATES` entries `cs`. -/
def generationTasks (repoFull bundlePath repo tip : String) (zstdMax : Bool)
    (cs : List (String × List String)) : List TaskName :=
  (cs.filter fun e => wanted zstdMax e.1).map fun e =>
    .generateBundle repoFull ((bundlePaths bundlePath repo tip e.1).1 ++ ".tmp")
      (bundlePaths bundlePath repo tip e.1).1 e.2

section Submitted

variable (env : Env) (repo repoFull bundlePath tip : String) (zstdMax : Bool)

/-- A generation loop that ends normally records every wanted type, submits the generation of
some of them, in order, and logs the end of each submitted job. -/
theorem submitGenerations_spec : ∀ (cs : List (String × List String)) (w w' : World)
    (bs : List (String × String × String)) (fs : List Future),
    submitGenerations env repo repoFull bundlePath tip zstdMax cs w = (.ok (bs, fs), w') →
      bs = recordedBundles bundlePath repo tip zstdMax cs ∧
        (fs.map Future.task).Sublist (generationTasks repoFull bundlePath repo tip zstdMax cs) ∧
        ∃ L, w'.log = w.log ++ L ∧ L.filterMap Event.done = fs.map Future.done
  | [], w, w', bs, fs, h => by
    obtain ⟨⟨rfl, rfl⟩, rfl⟩ : (([], []) = (bs, fs)) ∧ w = w' := by simpa [submitGenerations] using h
    exact ⟨rfl, List.Sublist.slnil, [], (List.append_nil _).symm, rfl⟩
  | (t, args) :: rest, w, w', bs, fs, h => by
    simp only [submitGenerations] at h
    by_cases hw : wanted zstdMax t
    · rw [if_neg (by simp [hw])] at h
      obtain ⟨p, w₁, h₁, h⟩ := Py.bind_eq_ok h
      obtain ⟨fs₀, w₂, hfs, h⟩ := Py.bind_eq_ok h
      obtain ⟨⟨bs', fs'⟩, w₃, hrest, h⟩ := Py.bind_eq_ok h
      simp only [Py.pure_apply, Prod.mk.injEq, Except.ok.injEq] at h
      obtain ⟨⟨rfl, rfl⟩, rfl⟩ := h
      obtain ⟨ih₁, ih₂, L', hL', hd'⟩ := submitGenerations_spec rest w₂ w₃ bs' fs' hrest
      have hw₁ := perform_ok_log env h₁
      have h₀ : (fs₀.map Future.task).Sublist [.generateBundle repoFull
          ((bundlePaths bundlePath repo tip t).1 ++ ".tmp") (bundlePaths bundlePath repo tip t).1 args] ∧
          ∃ L, w₂.log = w₁.log ++ L ∧ L.filterMap Event.done = fs₀.map Future.done := by
        cases p
        · rw [if_neg (by simp), Py.bind_ok (submit_apply env _ w₁)] at hfs
          simp only [Py.pure_apply, Prod.mk.injEq, Except.ok.injEq] at hfs
          obtain ⟨rfl, rfl⟩ := hfs
          obtain ⟨J, hJ, hJd⟩ := submit_log env _ w₁
          exact ⟨List.Sublist.refl _, J, hJ, by simp [hJd, Future.done]⟩
        · simp only [if_true, Py.pure_apply, Prod.mk.injEq, Except.ok.injEq] at hfs
          obtain ⟨rfl, rfl⟩ := hfs
          exact ⟨List.nil_sublist _, [], (List.append_nil _).symm, rfl⟩
      obtain ⟨hsub, L₀, hL₀, hd₀⟩ := h₀
      simp only [recordedBundles, generationTasks, List.filter_cons, hw, if_true, List.map_cons] at ih₁ ⊢
      refine ⟨by rw [ih₁], by rw [List.map_append]; exact hsub.append ih₂,
        .call (.pathExists (bundlePaths bundlePath repo tip t).1) true :: L₀ ++ L', ?_, ?_⟩
      · rw [hL', hL₀, hw₁]
        simp
      · simp [Event.done, hd₀, hd']
    · rw [if_pos (by simp [hw])] at h
      simpa [recordedBundles, generationTasks, List.filter_cons, hw] using
        submitGenerations_spec rest w w' bs fs h

end Submitted

/-! ### The jobs of one run are pairwise separate -/

/-- The object an upload job writes. -/
def TaskName.target : TaskName → Option ObjKey
  | .generateBundle _ _ _ _ => none
  | .uploadToS3 _ b _ k => some ⟨.s3, b, k⟩
  | .uploadToGcpstorage _ b _ k => some ⟨.gcs, b, k⟩

section Separation

variable {env : Env}

theorem apart_genLocs {f f' : String} (h₁ : f ≠ f') (h₂ : f ++ ".tmp" ≠ f') (h₃ : f' ++ ".tmp" ≠ f) :
    Apart (genLocs (f ++ ".tmp") f, genLocs (f ++ ".tmp") f)
      (genLocs (f' ++ ".tmp") f', genLocs (f' ++ ".tmp") f') := by
  have key : ∀ l, genLocs (f ++ ".tmp") f l → ¬ genLocs (f' ++ ".tmp") f' l := by
    rintro l (rfl | rfl) (h | h) <;> simp only [Loc.file.injEq] at h
    · exact h₁ (String.ext (by simpa using congrArg String.data h))
    · exact h₂ h
    · exact h₃ h.symm
    · exact h₁ h
  exact ⟨key, fun l h h' => key l h' h⟩

theorem apart_upload {l l' : String} {o o' : ObjKey} (h : o ≠ o') :
    Apart (upReads l o, upWrites o) (upReads l' o', upWrites o') := by
  have key : ∀ (l' : String) (o o' : ObjKey), o ≠ o' → ∀ x, upWrites o x → ¬ upReads l' o' x :=
    fun _ _ _ hne x hx hr => by rcases hr with rfl | rfl <;> simp [upWrites] at hx; exact hne hx.symm
  exact ⟨key l' o o' h, key l o' o (Ne.symm h)⟩

theorem separate_of_target {t t' : TaskName} {o o' : ObjKey} (ht : t.target = some o)
    (ht' : t'.target = some o') (h : o ≠ o') : Separate (t.worker env) (t'.worker env) := by
  cases t <;> cases t' <;> simp only [TaskName.target, Option.some.injEq, reduceCtorEq] at ht ht' <;>
    subst ht ht' <;> exact apart_upload h

/-- The generation jobs of one run write pairwise distinct files. -/
theorem separate_generationTasks (repoFull bundlePath repo tip : String) (zstdMax : Bool)
    (hT : '/' ∉ tip.data) :
    ((generationTasks repoFull bundlePath repo tip zstdMax creates).map (TaskName.worker env)).Pairwise
      Separate := by
  have hnd : (creates.filter fun e => wanted zstdMax e.1).Pairwise fun e e' => e.1 ≠ e'.1 :=
    (List.pairwise_map.mp (by decide : createsTypes.Nodup)).sublist (List.filter_sublist _)
  rw [generationTasks, List.map_map, List.pairwise_map]
  refine hnd.imp_of_mem fun he he' hne => ?_
  have ht : _ ∈ createsTypes := List.mem_map_of_mem Prod.fst (List.mem_of_mem_filter he)
  have ht' : _ ∈ createsTypes := List.mem_map_of_mem Prod.fst (List.mem_of_mem_filter he')
  exact apart_genLocs (fun h => hne (final_inj hT hT ht ht' h).2) (temp_ne_final _ _ _ _ _ _ _ _)
    (temp_ne_final _ _ _ _ _ _ _ _)

theorem uploadTasks_eq (bs : List (String × String × String)) :
    uploadTasks bs =
      (s3Hosts.flatMap fun h => bs.map fun b => .uploadToS3 h.2.2 h.2.1 b.2.1 b.2.2) ++
        gcpHosts.flatMap fun h => bs.map fun b => .uploadToGcpstorage h.2 h.1 b.2.1 b.2.2 := rfl

/-- Upload jobs for bundles with distinct keys write pairwise distinct objects. -/
theorem separate_uploadTasks {bs : List (String × String × String)}
    (h : bs.Pairwise fun b b' => b.2.2 ≠ b'.2.2) :
    ((uploadTasks bs).map (TaskName.worker env)).Pairwise Separate := by
  have hs3 : s3Hosts.Pairwise fun h h' => h.2.1 ≠ h'.2.1 := by decide
  have hup : ∀ {t t' : TaskName} {o o' : ObjKey}, t.target = some o → t'.target = some o' → o ≠ o' →
      Separate (t.worker env) (t'.worker env) := separate_of_target
  rw [List.pairwise_map, uploadTasks_eq]
  simp only [List.pairwise_append, List.pairwise_flatMap, List.pairwise_map, List.mem_flatMap,
    List.mem_map]
  refine ⟨⟨fun _ _ => h.imp fun hne => ?_, hs3.imp fun hne => ?_⟩,
    ⟨fun _ _ => h.imp fun hne => ?_, by simp [gcpHosts]⟩, ?_⟩
  · exact hup rfl rfl (by simp [hne])
  · rintro _ ⟨b, -, rfl⟩ _ ⟨b', -, rfl⟩
    exact hup rfl rfl (by simp [hne])
  · exact hup rfl rfl (by simp [hne])
  · rintro _ ⟨_, -, b, -, rfl⟩ _ ⟨_, -, b', -, rfl⟩
    exact hup rfl rfl (by simp)

end Separation

/-! ### Bundle naming and the pool -/

theorem pairwise_wanted (zstdMax : Bool) :
    (creates.filter fun e => wanted zstdMax e.1).Pairwise fun e e' => e.1 ≠ e'.1 :=
  (List.pairwise_map.mp (by decide : createsTypes.Nodup)).sublist (List.filter_sublist _)

theorem pairwise_keys_recordedBundles (bundlePath repo tip : String) (zstdMax : Bool)
    (hT : '/' ∉ tip.data) :
    (recordedBundles bundlePath repo tip zstdMax creates).Pairwise fun b b' => b.2.2 ≠ b'.2.2 := by
  rw [recordedBundles, List.pairwise_map]
  refine (pairwise_wanted zstdMax).imp_of_mem fun he he' hne h => hne ?_
  exact (remote_inj hT hT (List.mem_map_of_mem Prod.fst (List.mem_of_mem_filter he))
    (List.mem_map_of_mem Prod.fst (List.mem_of_mem_filter he')) h).2.2

/-- **Bundle naming.** Remote keys determine repository, tip and type; in one directory final
paths determine tip and type; no temporary path is a final path; local final paths of two
repositories meet only for the same tip, type and directory. In a run, the generation jobs it
submits, and the upload jobs of what it records, end in the store of their sequential run under
every schedule that finishes them. -/
theorem bundle_names_collision_free :
    (∀ root root' R R' T T' t t' : String, '/' ∉ T.data → '/' ∉ T'.data → t ∈ createsTypes →
      t' ∈ createsTypes → (bundlePaths root R T t).2 = (bundlePaths root' R' T' t').2 →
      R = R' ∧ T = T' ∧ t = t') ∧
    (∀ root R R' T T' t t' : String, '/' ∉ T.data → '/' ∉ T'.data → t ∈ createsTypes →
      t' ∈ createsTypes → (bundlePaths root R T t).1 = (bundlePaths root R' T' t').1 →
      T = T' ∧ t = t') ∧
    (∀ root root' R R' T T' t t' : String,
      (bundlePaths root R T t).1 ++ ".tmp" ≠ (bundlePaths root' R' T' t').1) ∧
    (∀ R R' T T' t t' : String, isabs R = false → isabs R' = false → '/' ∉ T.data →
      '/' ∉ T'.data → t ∈ createsTypes → t' ∈ createsTypes →
      (bundlePaths (pathJoin bundleRoot R) R T t).1 = (bundlePaths (pathJoin bundleRoot R') R' T' t').1 →
      T = T' ∧ t = t' ∧ dirPrefix R = dirPrefix R') ∧
    (∀ (env : Env) (R T : String) (zstdMax : Bool) (w w' : World)
      (bs : List (String × String × String)) (fs : List Future), '/' ∉ T.data →
      submitGenerations env R (pathJoin reposRoot R) (pathJoin bundleRoot R) T zstdMax creates w =
        (.ok (bs, fs), w') →
      ((fs.map Future.task).map (TaskName.worker env)).Pairwise Separate ∧
      ((uploadTasks bs).map (TaskName.worker env)).Pairwise Separate ∧
      (∀ (sched : List Nat) (s : Store),
        (∀ x ∈ (runSched sched ((fs.map Future.task).map (TaskName.worker env), s)).1, x.Finished) →
        (runSched sched ((fs.map Future.task).map (TaskName.worker env), s)).2 =
          execAll ((fs.map Future.task).map (TaskName.worker env)) s) ∧
      (∀ (sched : List Nat) (s : Store),
        (∀ x ∈ (runSched sched ((uploadTasks bs).map (TaskName.worker env), s)).1, x.Finished) →
        (runSched sched ((uploadTasks bs).map (TaskName.worker env), s)).2 =
          execAll ((uploadTasks bs).map (TaskName.worker env)) s)) := by
  refine ⟨fun _ _ _ _ _ _ _ _ hT hT' ht ht' h => remote_inj hT hT' ht ht' h,
    fun _ _ _ _ _ _ _ hT hT' ht ht' h => final_inj hT hT' ht ht' h, temp_ne_final,
    fun _ _ _ _ _ _ hR hR' hT hT' ht ht' h => local_final_inj hR hR' hT hT' ht ht' h,
    fun env R T zstdMax w w' bs fs hT h => ?_⟩
  obtain ⟨rfl, hsub, -⟩ := submitGenerations_spec env _ _ _ _ _ _ _ _ _ _ h
  have hg := (separate_generationTasks _ _ _ _ zstdMax hT).sublist (hsub.map (TaskName.worker env))
  have hu := @separate_uploadTasks env _ (pairwise_keys_recordedBundles (pathJoin bundleRoot R) R T zstdMax hT)
  exact ⟨hg, hu, fun sched s => runSched_finished hg sched s, fun sched s => runSched_finished hu sched s⟩

end HgBundles
