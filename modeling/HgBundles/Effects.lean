import HgBundles.Blocks

/-!
# HgBundles.Effects — what the statements of a run may do to the world

A `Guarantee` is a reflexive, transitive relation between the world before a statement and the
world after it; `Py.Guar G x` says that `x` keeps to it from every world. Guarantees are closed
under the statement forms of the model (`Guar.bind`, `Guar.tryCatch`, `Guar.ite`, `Guar.run`
for a pool job, `Guar.submit`), so a guarantee of a whole function follows from one of each call
it makes:

* `Guarantee.log P`: every event a statement appends satisfies `P`;
* `Guarantee.keeps I`: a statement keeps the store invariant `I`;
* `RunAllows G env repo`: `G` allows each call and each job of a run of `generate_bundles` for
  `repo`, whatever the tip; then every run keeps to `G` (`guar_generateBundles`).
-/

namespace HgBundles

/-- A reflexive, transitive relation between the world before a statement and after it. -/
structure Guarantee where
  rel : World → World → Prop
  refl : ∀ w, rel w w
  trans : ∀ {a b c}, rel a b → rel b c → rel a c

/-- From every world, `x` ends in a world related to it by `G`. -/
def Py.Guar (G : Guarantee) (x : Py α) : Prop := ∀ w, G.rel w (x w).2

namespace Py.Guar

variable {G : Guarantee} {env : Env}

theorem pure (a : α) : Guar G (pure a : Py α) := G.refl

theorem throw (e : Err) : Guar G (throw e : Py α) := G.refl

theorem bind {x : Py α} {f : α → Py β} (hx : Guar G x) (hf : ∀ a, Guar G (f a)) :
    Guar G (x >>= f) := fun w => by
  have h := hx w
  rw [Py.bind_apply]
  revert h
  rcases x w with ⟨_ | a, w'⟩
  · exact id
  · exact fun h => G.trans h (hf a w')

/-- `bind` where the continuation keeps to `G` only for what the first statement can return. -/
theorem bind_of_ok {x : Py α} {f : α → Py β} {P : α → Prop} (hx : Guar G x)
    (hP : ∀ w a w', x w = (.ok a, w') → P a) (hf : ∀ a, P a → Guar G (f a)) :
    Guar G (x >>= f) := fun w => by
  have h := hx w
  rw [Py.bind_apply]
  revert h
  rcases hw : x w with ⟨_ | a, w'⟩
  · exact id
  · exact fun h => G.trans h (hf a (hP w a w' hw) w')

theorem tryCatch {x : Py α} {h : Err → Py α} (hx : Guar G x) (hh : ∀ e, Guar G (h e)) :
    Guar G (tryCatch x h) := fun w => by
  have h' := hx w
  show G.rel w (Py.tryCatch x h w).2
  rw [Py.tryCatch]
  revert h'
  rcases x w with ⟨e | _, w'⟩
  · exact fun h' => G.trans h' (hh e w')
  · exact id

theorem ite {c : Prop} [Decidable c] {x y : Py α} (hx : Guar G x) (hy : Guar G y) :
    Guar G (if c then x else y) := by
  split <;> assumption

/-- A job keeps to `G` if each of its calls does. -/
theorem run {j : Job α} (h : Job.AllCalls (fun c => Guar G (perform env c)) j) :
    Guar G (j.run env) := by
  induction h with
  | ret r => exact G.refl
  | call hc _ ih => exact fun w => G.trans (hc w) (ih _ _)

theorem submit {t : TaskName} (hj : Guar G (t.job.run env))
    (hf : ∀ w b, G.rel w ⟨w.store, w.log ++ [.finished t b]⟩) : Guar G (submit env t) :=
  fun w => G.trans (hj w) (hf _ _)

theorem submitAll : ∀ {ts : List TaskName}, (∀ t ∈ ts, Guar G (HgBundles.submit env t)) →
    Guar G (submitAll env ts)
  | [], _ => pure _
  | _ :: _, h => bind (h _ (List.mem_cons_self _ _)) fun _ =>
    bind (submitAll fun t ht => h t (List.mem_cons_of_mem _ ht)) fun _ => pure _

theorem joinAll : ∀ fs : List Future, Guar G (joinAll fs)
  | [] => pure _
  | ⟨_, .ok ()⟩ :: fs => joinAll fs
  | ⟨_, .error _⟩ :: _ => throw _

end Py.Guar

/-! ### Two kinds of guarantee -/

/-- Every event a statement appends satisfies `P`. -/
def Guarantee.log (P : Event → Prop) : Guarantee where
  rel w w' := ∃ L, w'.log = w.log ++ L ∧ ∀ e ∈ L, P e
  refl w := ⟨[], by simp, by simp⟩
  trans := fun ⟨L, h, hL⟩ ⟨L', h', hL'⟩ =>
    ⟨L ++ L', by rw [h', h, List.append_assoc], fun e he => (List.mem_append.mp he).elim (hL e) (hL' e)⟩

/-- A statement keeps the store invariant `I`. -/
def Guarantee.keeps (I : Store → Prop) : Guarantee where
  rel w w' := I w.store → I w'.store
  refl _ := id
  trans h h' := h' ∘ h

section Kinds

variable {env : Env}

theorem guar_log_perform {P : Event → Prop} {c : IOCall} (h : ∀ b, P (.call c b)) :
    Py.Guar (.log P) (perform env c) := fun _ => ⟨_, rfl, by simp [h]⟩

theorem Py.Guar.log_imp {P Q : Event → Prop} {x : Py α} (hx : Py.Guar (.log P) x)
    (h : ∀ e, P e → Q e) : Py.Guar (.log Q) x := fun w =>
  let ⟨L, hL, hP⟩ := hx w
  ⟨L, hL, fun e he => h e (hP e he)⟩

theorem guar_keeps_perform {I : Store → Prop} {c : IOCall} (h : ∀ s, I s → I (act env c s).2) :
    Py.Guar (.keeps I) (perform env c) := fun w => h w.store

/-- A job appends only call events, each of a call it can make. -/
theorem guar_log_run {P : Event → Prop} {j : Job α} (h : Job.AllCalls (fun c => ∀ b, P (.call c b)) j) :
    Py.Guar (.log P) (j.run env) :=
  Py.Guar.run (by
    induction h with
    | ret r => exact .ret r
    | call hc _ ih => exact .call (guar_log_perform hc) ih)

theorem guar_log_submit {P : Event → Prop} {t : TaskName}
    (h : Job.AllCalls (fun c => ∀ b, P (.call c b)) t.job) (hf : ∀ b, P (.finished t b)) :
    Py.Guar (.log P) (submit env t) :=
  Py.Guar.submit (guar_log_run h) fun _ _ => ⟨_, rfl, by simp [hf]⟩

end Kinds

/-! ### The functions of a run -/

/-- What a guarantee has to allow for the calls of primary mode up to the prune loop. -/
structure PrepareAllows (G : Guarantee) (env : Env) (repo : String) : Prop where
  stat : Py.Guar G (perform env (.stat (pathJoin (pathJoin reposRoot repo) ".hg")))
  tipQuery : Py.Guar G (perform env (.checkOutput (tipArgv repo)))
  requires : Py.Guar G (perform env (.readlines (hgFile repo "requires")))
  makedirs : Py.Guar G (perform env (.makedirs (pathJoin bundleRoot repo)))
  listdir : Py.Guar G (perform env (.listdir (pathJoin bundleRoot repo)))
  unlink : ∀ p, Py.Guar G (perform env (.unlink (pathJoin (pathJoin bundleRoot repo) p)))

/-- What a guarantee has to allow for the calls of mirror mode. -/
structure MirrorAllows (G : Guarantee) (env : Env) (repo : String) : Prop where
  present : ∀ p, Py.Guar G (perform env (.pathExists p))
  replicate : Py.Guar G (perform env (.checkCall [hg, "replicatesync"] (pathJoin reposRoot repo)))
  mirrorBackup : Py.Guar G (perform env
    (.copy2 (hgFile repo "clonebundles.manifest") (hgFile repo "clonebundles.manifest.last")))
  mirrorCopy : ∀ cf, Py.Guar G (perform env
    (.copy2 (hgFile cf "clonebundles.manifest") (hgFile repo "clonebundles.manifest")))

/-- What a guarantee has to allow for every run of `generate_bundles(repo, ...)` to keep it:
each call the run makes outside the pool and each job it submits, whatever the tip. -/
structure RunAllows (G : Guarantee) (env : Env) (repo : String)
    extends PrepareAllows G env repo, MirrorAllows G env repo : Prop where
  generate : ∀ tip t args, Py.Guar G (submit env (.generateBundle (pathJoin reposRoot repo)
    ((bundlePaths (pathJoin bundleRoot repo) repo tip t).1 ++ ".tmp")
    (bundlePaths (pathJoin bundleRoot repo) repo tip t).1 args))
  uploadS3 : ∀ r b p k, Py.Guar G (submit env (.uploadToS3 r b p k))
  uploadGcs : ∀ r b p k, Py.Guar G (submit env (.uploadToGcpstorage r b p k))
  getsize : ∀ p, Py.Guar G (perform env (.getsize p))
  backup : Py.Guar G (perform env
    (.copy2 (hgFile repo "clonebundles.manifest") (hgFile repo "clonebundles.manifest.old")))
  write : ∀ text, Py.Guar G (perform env (.write (hgFile repo "clonebundles.manifest") text))
  chmod : Py.Guar G (perform env (.chmod (hgFile repo "clonebundles.manifest") 0o664))

section Functions

variable {G : Guarantee} {env : Env}

theorem guar_pruneLoop {bundlePath tip : String}
    (h : ∀ p, Py.Guar G (perform env (.unlink (pathJoin bundlePath p)))) :
    ∀ names, Py.Guar G (pruneLoop env bundlePath tip names)
  | [] => .pure _
  | p :: ps => .ite (guar_pruneLoop h ps) (.bind (h p) fun _ => guar_pruneLoop h ps)

theorem guar_submitGenerations {repo repoFull bundlePath tip : String} {zstdMax : Bool}
    (hp : ∀ p, Py.Guar G (perform env (.pathExists p)))
    (hg : ∀ t args, Py.Guar G (submit env (.generateBundle repoFull
      ((bundlePaths bundlePath repo tip t).1 ++ ".tmp") (bundlePaths bundlePath repo tip t).1 args))) :
    ∀ cs, Py.Guar G (submitGenerations env repo repoFull bundlePath tip zstdMax cs)
  | [] => .pure _
  | (t, args) :: rest => .ite (guar_submitGenerations hp hg rest)
    (.bind (hp _) fun _ => .bind (.ite (.pure _) (.bind (hg t args) fun _ => .pure _)) fun _ =>
      .bind (guar_submitGenerations hp hg rest) fun ⟨_, _⟩ => .pure _)

theorem guar_recordSizes (h : ∀ p, Py.Guar G (perform env (.getsize p))) :
    ∀ bs, Py.Guar G (recordSizes env bs)
  | [] => .pure _
  | (_, _, _) :: rest => .bind (h _) fun _ => .bind (guar_recordSizes h rest) fun _ => .pure _

theorem guar_prepare {repo : String} (h : PrepareAllows G env repo) : Py.Guar G (prepare env repo) :=
  .bind h.stat fun _ => .bind h.tipQuery fun tip => .bind h.requires fun _ =>
    .bind (.ite (.throw _) (.pure _)) fun _ =>
    .bind (.tryCatch h.makedirs fun e => by
      cases e <;> first | exact .throw _ | exact .ite (.throw _) (.pure _)) fun _ =>
    .bind h.listdir fun _ => .bind (guar_pruneLoop h.unlink _) fun _ => .pure _

theorem guar_uploadBundles (hs : ∀ r b p k, Py.Guar G (submit env (.uploadToS3 r b p k)))
    (hg : ∀ r b p k, Py.Guar G (submit env (.uploadToGcpstorage r b p k))) (upload : Bool)
    (bs : List (String × String × String)) : Py.Guar G (uploadBundles env upload bs) :=
  .ite (.bind (.submitAll fun t ht => by
      simp only [uploadTasks_eq, List.mem_append, List.mem_flatMap, List.mem_map] at ht
      rcases ht with ⟨_, -, _, -, rfl⟩ | ⟨_, -, _, -, rfl⟩
      · exact hs _ _ _ _
      · exact hg _ _ _ _) fun fs => .joinAll fs) (.pure _)

theorem guar_copyManifest {repo : String} (h : MirrorAllows G env repo) (cf : Opt) :
    Py.Guar G (copyManifest env repo cf) := by
  cases cf with
  | flag => exact .throw _
  | str cf =>
    exact .bind (.ite (.throw _) (.pure _)) fun _ => .bind (h.present _) fun _ =>
      .bind (.ite h.mirrorBackup (.pure _)) fun _ => .bind (h.mirrorCopy cf) fun _ =>
      .bind h.replicate fun _ => .pure _

variable {repo : String} (h : RunAllows G env repo)
include h

theorem guar_produce (tip : String) (upload zstdMax : Bool) :
    Py.Guar G (produce env repo tip upload zstdMax) :=
  .bind (guar_submitGenerations h.present (h.generate tip) _) fun ⟨bundles, fs⟩ =>
    .bind (.joinAll fs) fun _ =>
    .bind (guar_uploadBundles h.uploadS3 h.uploadGcs upload bundles) fun _ =>
    .bind (guar_recordSizes h.getsize bundles) fun _ =>
    .bind (.bind (h.present _) fun _ => .bind (.ite h.backup (.pure _)) fun _ =>
      .bind (h.write _) fun _ => .bind h.chmod fun _ => h.replicate) fun _ => .pure _

/-- Every run of `generate_bundles(repo, ...)` keeps to a guarantee that allows its calls and
jobs. -/
theorem guar_generateBundles (upload : Bool) (copyfrom : Option Opt) (zstdMax : Bool) :
    Py.Guar G (generateBundles env repo upload copyfrom zstdMax) := by
  have hp : Py.Guar G (primary env repo upload zstdMax) :=
    .bind (guar_prepare h.toPrepareAllows) fun tip => guar_produce h tip upload zstdMax
  refine .bind (.ite (.throw _) (.pure _)) fun _ => ?_
  rcases copyfrom with _ | cf
  · exact hp
  · exact .ite (guar_copyManifest h.toMirrorAllows cf) hp

end Functions

/-! ### The first event of a kind -/

/-- Run from `w`, `x` ends with the log `base ++ pre ++ e :: post`, where `e` is the first
event after `base` that satisfies `E`. -/
def Py.HitsAt (E : Event → Prop) (base : List Event) (x : Py α) (w : World) (pre : List Event)
    (e : Event) : Prop :=
  E e ∧ (∀ y ∈ pre, ¬ E y) ∧ ∃ post, (x w).2.log = base ++ pre ++ e :: post

/-- The log of `w` is `base` followed by events none of which satisfies `E`. -/
def Py.Before (E : Event → Prop) (base : List Event) (w : World) : Prop :=
  ∃ P, w.log = base ++ P ∧ ∀ y ∈ P, ¬ E y

theorem Py.bind_fst_ok {x : Py α} {f : α → Py β} {w : World} {a : α} (h : (x w).1 = .ok a) :
    (x >>= f) w = f a (x w).2 := by
  rw [Py.bind_apply]
  revert h
  rcases x w with ⟨_ | _, _⟩
  · simp
  · rintro ⟨⟩
    rfl

/-- The first event satisfying `E` in two ways of writing one list is the same event. -/
theorem first_hit_unique {E : Event → Prop} :
    ∀ {P pre L post : List Event} {e e' : Event}, P ++ e :: L = pre ++ e' :: post →
      (∀ y ∈ P, ¬ E y) → (∀ y ∈ pre, ¬ E y) → E e → E e' → P = pre ∧ e = e'
  | [], [], _, _, _, _, h, _, _, _, _ => ⟨rfl, (List.cons.inj h).1⟩
  | [], y :: _, _, _, _, _, h, _, hpre, he, _ =>
    absurd ((List.cons.inj h).1 ▸ he) (hpre y (List.mem_cons_self _ _))
  | y :: _, [], _, _, _, _, h, hP, _, _, he' =>
    absurd ((List.cons.inj h).1 ▸ he') (hP y (List.mem_cons_self _ _))
  | y :: P, z :: pre, _, _, _, _, h, hP, hpre, he, he' => by
    simp only [List.cons_append, List.cons.injEq] at h
    obtain ⟨rfl, h⟩ := h
    obtain ⟨rfl, rfl⟩ := first_hit_unique h (fun u hu => hP u (List.mem_cons_of_mem _ hu))
      (fun u hu => hpre u (List.mem_cons_of_mem _ hu)) he he'
    exact ⟨rfl, rfl⟩

section Hits

variable {E : Event → Prop} {base : List Event} {env : Env}

theorem Py.before_self (w : World) : Py.Before E w.log w := ⟨[], (List.append_nil _).symm, nofun⟩

/-- A statement that appends no `E` event and is followed by the first one ends normally. -/
theorem Py.HitsAt.bind {x : Py α} {f : α → Py β} {w : World} {pre : List Event} {e : Event}
    (hx : Py.Guar (.log fun y => ¬ E y) x) (hw : Py.Before E base w)
    (h : Py.HitsAt E base (x >>= f) w pre e) :
    ∃ a w', x w = (.ok a, w') ∧ Py.Before E base w' ∧ Py.HitsAt E base (f a) w' pre e := by
  obtain ⟨P, hP, hPE⟩ := hw
  obtain ⟨L, hL, hLE⟩ := hx w
  have hb : Py.Before E base (x w).2 :=
    ⟨P ++ L, by rw [hL, hP, List.append_assoc], fun y hy => (List.mem_append.mp hy).elim (hPE y) (hLE y)⟩
  obtain ⟨he, hpre, post, hlog⟩ := h
  rcases hr : (x w).1 with err | a
  · obtain ⟨Q, hQ, hQE⟩ := hb
    have : (x >>= f) w = (.error err, (x w).2) := by rw [Py.bind_apply]; revert hr; rcases x w with ⟨_ | _, _⟩ <;> simp
    rw [this, hQ, List.append_assoc, List.append_right_inj] at hlog
    exact absurd he (hQE e (hlog ▸ List.mem_append_right _ (List.mem_cons_self _ _)))
  · rw [Py.bind_fst_ok (f := f) hr] at hlog
    exact ⟨a, _, Prod.ext hr rfl, hb, he, hpre, post, hlog⟩

/-- A statement that appends no `E` event does not reach one. -/
theorem Py.HitsAt.not_of_guar {x : Py α} {w : World} {pre : List Event} {e : Event}
    (hx : Py.Guar (.log fun y => ¬ E y) x) (hw : Py.Before E base w) :
    ¬ Py.HitsAt E base x w pre e := fun ⟨he, _, post, hlog⟩ => by
  obtain ⟨P, hP, hPE⟩ := hw
  obtain ⟨L, hL, hLE⟩ := hx w
  rw [hL, hP, List.append_assoc, List.append_assoc, List.append_right_inj] at hlog
  have hm : e ∈ P ++ L := hlog ▸ List.mem_append_right _ (List.mem_cons_self _ _)
  exact (List.mem_append.mp hm).elim (hPE e · he) (hLE e · he)

/-- What follows a statement and only returns a value does not move its first `E` event. -/
theorem Py.HitsAt.of_bind_pure {x : Py α} {b : β} {w : World} {pre : List Event} {e : Event}
    (h : Py.HitsAt E base (x >>= fun _ => pure b) w pre e) : Py.HitsAt E base x w pre e := by
  have : ((x >>= fun _ => pure b) w).2 = (x w).2 := by
    rw [Py.bind_apply]; rcases x w with ⟨_ | _, _⟩ <;> rfl
  rwa [Py.HitsAt, this] at h

/-- The first `E` event is a call `c` of kind `E`, when what follows the call appends only. -/
theorem Py.HitsAt.perform {c : IOCall} {g : c.Answer → Py α} {w : World} {pre : List Event}
    {e : Event} (hE : ∀ b, E (.call c b)) (hg : ∀ a, Py.Guar (.log fun _ => True) (g a))
    (hw : Py.Before E base w) (h : Py.HitsAt E base (HgBundles.perform env c >>= g) w pre e) :
    w.log = base ++ pre ∧ e = .call c (act env c w.store).1.toBool := by
  obtain ⟨P, hP, hPE⟩ := hw
  obtain ⟨he, hpre, post, hlog⟩ := h
  have hc : ∃ L, ((HgBundles.perform env c >>= g) w).2.log =
      w.log ++ .call c (act env c w.store).1.toBool :: L := by
    rw [Py.bind_apply]
    rcases hr : HgBundles.perform env c w with ⟨_ | a, w'⟩
    · refine ⟨[], ?_⟩
      have := congrArg (fun p => p.2.log) hr
      simp only [HgBundles.perform] at this
      simp [← this]
    · obtain ⟨L, hL, -⟩ := hg a w'
      have := congrArg (fun p => p.2.log) hr
      simp only [HgBundles.perform] at this
      exact ⟨L, by simp [hL, ← this]⟩
  obtain ⟨L, hL⟩ := hc
  rw [hL, hP, List.append_assoc, List.append_assoc, List.append_right_inj] at hlog
  obtain ⟨rfl, rfl⟩ := first_hit_unique hlog hPE hpre (hE _) he
  exact ⟨hP, rfl⟩

end Hits

/-! ### The manifest write -/

/-- The path a call event writes a text to. -/
def Event.written : Event → Option String
  | .call (.write p _) _ => some p
  | _ => none

/-- The write of `repo`'s `.hg/clonebundles.manifest`. -/
def IsManifestWrite (repo : String) (e : Event) : Prop :=
  e.written = some (hgFile repo "clonebundles.manifest")

instance (repo : String) : DecidablePred (IsManifestWrite repo) :=
  fun e => inferInstanceAs (Decidable (e.written = _))

/-- An event that is neither the manifest write nor the end of a pool job. -/
def Quiet (repo : String) (e : Event) : Prop := ¬ IsManifestWrite repo e ∧ e.done = none

theorem not_manifestWrite {repo : String} {e : Event} (h : e.written = none) :
    ¬ IsManifestWrite repo e := fun he => Option.noConfusion (h.symm.trans he)

theorem TaskName.CanCall.written {t : TaskName} {c : IOCall} (h : t.CanCall c) (b : Bool) :
    Event.written (.call c b) = none := by
  cases t with
  | generateBundle => rcases h with rfl | rfl <;> rfl
  | uploadToS3 => rcases h with rfl | rfl | ⟨a, ⟨h, rfl⟩ | rfl | rfl | rfl⟩ <;> rfl
  | uploadToGcpstorage => rcases h with rfl | ⟨a, ⟨h, rfl⟩ | rfl | ⟨h, rfl⟩ | rfl⟩ <;> rfl

section Quiet

variable {env : Env} {repo : String}

theorem guar_quiet {c : IOCall} (h : ∀ b, Event.written (.call c b) = none) :
    Py.Guar (.log (Quiet repo)) (perform env c) :=
  guar_log_perform fun b => ⟨not_manifestWrite (h b), rfl⟩

theorem prepareAllows_quiet : PrepareAllows (.log (Quiet repo)) env repo :=
  ⟨guar_quiet fun _ => rfl, guar_quiet fun _ => rfl, guar_quiet fun _ => rfl,
    guar_quiet fun _ => rfl, guar_quiet fun _ => rfl, fun _ => guar_quiet fun _ => rfl⟩

theorem mirrorAllows_quiet : MirrorAllows (.log (Quiet repo)) env repo :=
  ⟨fun _ => guar_quiet fun _ => rfl, guar_quiet fun _ => rfl, guar_quiet fun _ => rfl,
    fun _ => guar_quiet fun _ => rfl⟩

/-- A submitted job never writes the manifest. -/
theorem guar_submit_noWrite (t : TaskName) :
    Py.Guar (.log fun y => ¬ IsManifestWrite repo y) (submit env t) :=
  guar_log_submit (t.allCalls_canCall.imp fun _ hc b => not_manifestWrite (hc.written b))
    fun _ => not_manifestWrite rfl

theorem filterMap_done_quiet {L : List Event} (h : ∀ e ∈ L, Quiet repo e) :
    L.filterMap Event.done = [] :=
  List.filterMap_eq_nil_iff.mpr fun e he => (h e he).2

/-- A statement that logs only quiet events reports no pool job. -/
theorem reports_quiet {x : Py α} (hx : Py.Guar (.log (Quiet repo)) x) {w w' : World} {a : α}
    (h : x w = (.ok a, w')) : ∃ L, w'.log = w.log ++ L ∧ L.filterMap Event.done = [] := by
  obtain ⟨L, hL, hq⟩ := hx w
  rw [h] at hL
  exact ⟨L, hL, filterMap_done_quiet hq⟩

end Quiet

end HgBundles
