import HgBundles.Pool

/-!
# HgBundles.Blocks — what each block of a primary run returns

One spec lemma per block of `generateBundles`, read from the block's normal end, so that later
proofs cite it and never unfold the block:

* `perform_ok`: a call that returned had no fault and did what `IOCall.apply` does;
* `prepare_ok`: `prepare` returns the tip `hg` printed;
* `joinAll_ok`: a join that ends normally saw only futures that returned, and changes nothing;
* `uploadBundles_ok`: the upload block submitted every upload task, in order, and each returned;
* `recordSizes_ok`: `paths` maps each recorded type to its remote key and the size of its file;
* `generateBundles_ok`: a run that returns is a mirror run returning `{}`, or returns the keys of
  the bundles of the tip with the sizes of their files.
-/

namespace HgBundles

/-- The tip query of `generate_bundles(repo, ...)`. -/
def tipArgv (repo : String) : List String :=
  [hg, "-R", pathJoin reposRoot repo, "log", "-r", "tip", "-T", "{node}"]

/-- `os.path.join(repo_full, '.hg', name)`. -/
def hgFile (repo name : String) : String := pathJoin (pathJoin (pathJoin reposRoot repo) ".hg") name

/-- The bundles a primary run at tip `tip` records: `(type, final path, remote path)` per type. -/
def runBundles (repo tip : String) (zstdMax : Bool) : List (String × String × String) :=
  recordedBundles (pathJoin bundleRoot repo) repo tip zstdMax creates

/-- `paths` as filled from the files of `s`: each type with its remote key and the size of its
file. -/
def sizesIn (s : Store) (bs : List (String × String × String)) : List (String × String × Nat) :=
  bs.map fun b => (b.1, b.2.2, ((s.files b.2.1).map Content.size).getD 0)

/-- The text of the manifest a primary run at tip `tip` writes, with `bundle_path` as the upload
loops leave it. -/
def runManifest (repo tip : String) (upload zstdMax : Bool) : String :=
  manifestText (manifestEntries (reboundPath upload (pathJoin bundleRoot repo)
    (runBundles repo tip zstdMax)) repo tip ((runBundles repo tip zstdMax).map Prod.fst))

theorem runBundles_types (repo tip : String) (zstdMax : Bool) :
    (runBundles repo tip zstdMax).map Prod.fst = selected zstdMax := by
  simp [runBundles, recordedBundles, selected]

theorem Py.pure_eq_ok {a b : α} {w w' : World} (h : (pure a : Py α) w = (.ok b, w')) :
    a = b ∧ w = w' := by
  simpa using h

section Blocks

variable {env : Env}

/-- A call that returned had no fault and did what `IOCall.apply` does. -/
theorem perform_ok {c : IOCall} {w w' : World} {a : c.Answer} (h : perform env c w = (.ok a, w')) :
    env.fault c = none ∧ c.apply env w.store = (.ok a, w'.store) := by
  have h₁ : (act env c w.store).1 = .ok a := congrArg Prod.fst h
  have h₂ : (act env c w.store).2 = w'.store := congrArg (fun r => r.2.store) h
  cases hf : env.fault c with
  | some f => simp [act, hf] at h₁
  | none =>
    simp only [act, hf] at h₁ h₂
    exact ⟨rfl, Prod.ext h₁ h₂⟩

theorem prepare_ok {repo tip : String} {w w' : World} (h : prepare env repo w = (.ok tip, w')) :
    tip = env.output (tipArgv repo) := by
  dsimp only [prepare] at h
  obtain ⟨_, _, -, h⟩ := Py.bind_eq_ok h
  obtain ⟨tip', _, ht, h⟩ := Py.bind_eq_ok h
  obtain ⟨_, _, -, h⟩ := Py.bind_eq_ok h
  obtain ⟨_, _, -, h⟩ := Py.bind_eq_ok h
  obtain ⟨_, _, -, h⟩ := Py.bind_eq_ok h
  obtain ⟨_, _, -, h⟩ := Py.bind_eq_ok h
  obtain ⟨_, _, -, h⟩ := Py.bind_eq_ok h
  obtain ⟨rfl, -⟩ := Py.pure_eq_ok h
  exact (Except.ok.inj (Prod.mk.inj (perform_ok ht).2).1).symm

theorem joinAll_ok : ∀ {fs : List Future} {w w' : World}, joinAll fs w = (.ok (), w') →
    (∀ f ∈ fs, f.result = .ok ()) ∧ w' = w
  | [], _, _, h => ⟨by simp, (Py.pure_eq_ok h).2.symm⟩
  | ⟨_, .ok ()⟩ :: fs, _, _, h => by
    obtain ⟨hfs, rfl⟩ := @joinAll_ok fs _ _ h
    exact ⟨by simpa using hfs, rfl⟩
  | ⟨_, .error _⟩ :: _, _, _, h => by cases h

/-- The upload block that ends normally submitted every upload task, in order, and each returned;
the log reports their ends and the store is that of running them one after another. -/
theorem uploadBundles_ok {upload : Bool} {bs : List (String × String × String)} {w w' : World}
    (h : uploadBundles env upload bs w = (.ok (), w')) :
    ∃ fs : List Future, fs.map Future.task = (if upload then uploadTasks bs else []) ∧
      (∀ f ∈ fs, f.result = .ok ()) ∧
      (∃ L, w'.log = w.log ++ L ∧ L.filterMap Event.done = fs.map Future.done) ∧
      w'.store = execAll ((if upload then uploadTasks bs else []).map (TaskName.worker env)) w.store := by
  cases upload with
  | false =>
    obtain ⟨-, rfl⟩ := Py.pure_eq_ok h
    exact ⟨[], rfl, by simp, ⟨[], by simp, rfl⟩, rfl⟩
  | true =>
    obtain ⟨fs, w₁, hs, h⟩ := Py.bind_eq_ok h
    obtain ⟨fs', w₁', hs', htask, hlog, hstore⟩ := submitAll_spec env (uploadTasks bs) w
    obtain ⟨rfl, rfl⟩ : fs = fs' ∧ w₁ = w₁' := by simpa [hs] using hs'
    obtain ⟨hok, rfl⟩ := joinAll_ok h
    exact ⟨fs, htask, hok, hlog, hstore⟩

/-- `paths` maps each recorded type to its remote key and the size of its file, every recorded
file exists, and the files are left as they were. -/
theorem recordSizes_ok : ∀ {bs : List (String × String × String)} {w w' : World}
    {ps : List (String × String × Nat)}, recordSizes env bs w = (.ok ps, w') →
      ps = sizesIn w.store bs ∧ (∀ b ∈ bs, (w.store.files b.2.1).isSome) ∧ w'.store = w.store
  | [], _, _, _, h => by
    obtain ⟨rfl, rfl⟩ := Py.pure_eq_ok h
    exact ⟨rfl, by simp, rfl⟩
  | (t, finalPath, remotePath) :: rest, w, w', ps, h => by
    obtain ⟨n, w₁, hn, h⟩ := Py.bind_eq_ok h
    obtain ⟨ps', w₂, hr, h⟩ := Py.bind_eq_ok h
    obtain ⟨rfl, rfl⟩ := Py.pure_eq_ok h
    have ha := (perform_ok hn).2
    cases hc : w.store.files finalPath with
    | none => simp [IOCall.apply, hc] at ha
    | some c =>
      simp only [IOCall.apply, hc, Prod.mk.injEq, Except.ok.injEq] at ha
      obtain ⟨rfl, hs⟩ := ha
      obtain ⟨rfl, hex, hs'⟩ := recordSizes_ok hr
      refine ⟨by simp [sizesIn, hc, ← hs], ?_, hs'.trans hs.symm⟩
      simpa [hc, ← hs] using hex

theorem copyManifest_ok {repo : String} {cf : Opt} {w w' : World} {ps : List (String × String × Nat)}
    (h : copyManifest env repo cf w = (.ok ps, w')) : ps = [] := by
  cases cf with
  | flag => cases h
  | str cf =>
    obtain ⟨_, _, -, h⟩ := Py.bind_eq_ok h
    obtain ⟨_, _, -, h⟩ := Py.bind_eq_ok h
    obtain ⟨_, _, -, h⟩ := Py.bind_eq_ok h
    obtain ⟨_, _, -, h⟩ := Py.bind_eq_ok h
    obtain ⟨_, _, -, h⟩ := Py.bind_eq_ok h
    exact (Py.pure_eq_ok h).1.symm

/-- A primary run that returns returns the keys of the bundles of the tip, with the sizes of
their files when `paths` was filled. -/
theorem primary_ok {repo : String} {upload zstdMax : Bool} {w w' : World}
    {ps : List (String × String × Nat)} (h : primary env repo upload zstdMax w = (.ok ps, w')) :
    ∃ s, ps = sizesIn s (runBundles repo (env.output (tipArgv repo)) zstdMax) := by
  obtain ⟨tip, w₁, hp, h⟩ := Py.bind_eq_ok h
  obtain rfl := prepare_ok hp
  obtain ⟨⟨bs, fs⟩, w₂, hg, h⟩ := Py.bind_eq_ok h
  obtain ⟨rfl, -⟩ := submitGenerations_spec env _ _ _ _ _ _ _ _ _ _ hg
  obtain ⟨_, w₃, -, h⟩ := Py.bind_eq_ok h
  obtain ⟨_, w₄, -, h⟩ := Py.bind_eq_ok h
  obtain ⟨ps', w₅, hr, h⟩ := Py.bind_eq_ok h
  obtain ⟨_, w₆, -, h⟩ := Py.bind_eq_ok h
  obtain ⟨rfl, -⟩ := Py.pure_eq_ok h
  exact ⟨w₄.store, (recordSizes_ok hr).1⟩

/-- A run that returns is a mirror run returning `{}`, or a primary run returning the keys of
the bundles of the tip with the sizes of their files. -/
theorem generateBundles_ok {repo : String} {upload zstdMax : Bool} {copyfrom : Option Opt}
    {w w' : World} {ps : List (String × String × Nat)}
    (h : generateBundles env repo upload copyfrom zstdMax w = (.ok ps, w')) :
    (∃ cf, copyfrom = some cf ∧ cf.truthy = true ∧ ps = []) ∨
      (∀ cf, copyfrom = some cf → cf.truthy = false) ∧
        ∃ s, ps = sizesIn s (runBundles repo (env.output (tipArgv repo)) zstdMax) := by
  obtain ⟨_, w₁, -, h⟩ := Py.bind_eq_ok h
  rcases copyfrom with _ | cf
  · exact .inr ⟨nofun, primary_ok h⟩
  · by_cases hcf : cf.truthy
    · simp only [hcf, if_true] at h
      exact .inl ⟨cf, rfl, hcf, copyManifest_ok h⟩
    · simp only [hcf, if_false, Bool.false_eq_true] at h
      exact .inr ⟨fun _ h' => Option.some.inj h' ▸ by simpa using hcf, primary_ok h⟩

end Blocks

end HgBundles
