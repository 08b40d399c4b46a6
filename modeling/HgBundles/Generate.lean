import HgBundles.Config
import HgBundles.Upload

/-!
# HgBundles.Generate — `bundle_paths`, `generate_bundle` and `generate_bundles`

`generateBundles` follows the source statement by statement, its primary mode cut into the
blocks of the source:

* mirror mode (`copyManifest`, `copyfrom` truthy): back up the destination manifest, copy the
  source's over it, `hg replicatesync`, return `{}`;
* `prepare`: `os.stat` of `.hg`, the tip query, the `generaldelta` check, `os.makedirs`
  (`EEXIST` ignored), the prune loop `pruneLoop`;
* `produce`: the generation submissions `submitGenerations` and their join, the upload block
  `uploadBundles`, the `paths` mapping `recordSizes`, and the manifest block `writeManifest`
  (lines from `manifestEntries`, rendered by `Entry.render`; backup, write, `chmod`,
  `hg replicatesync`).

The worker pool is read sequentially: `submit` runs the job to its end at submission and keeps
its outcome in the future, `joinAll` is `for f in fs: f.result()`. `HgBundles.Schedule` shows
that any interleaving of the submitted jobs leaves the same files and objects.

The upload loops rebind the local `bundle_path` to the last bundle's file; `reboundPath` keeps
that, and the manifest is assembled from the rebound value as in the source.
-/

namespace HgBundles

/-- `bundle_paths(root, repo, tag, typ)`: the local path and the remote key of a bundle. -/
def bundlePaths (root repo tag typ : String) : String × String :=
  let basename := tag ++ "." ++ typ ++ ".hg"
  (pathJoin root basename, repo ++ "/" ++ basename)

/-- The `hg` command line of `generate_bundle`. -/
def bundleArgs (repo tempPath : String) (extraArgs : List String) : List String :=
  [hg, "--config", "extensions.vcsreplicator=!", "-R", repo] ++ extraArgs ++ [tempPath]

/-- `generate_bundle(repo, temp_path, final_path, extra_args)`. -/
def generateBundle (repo tempPath finalPath : String) (extraArgs : List String) : Job Unit := do
  Job.perform (.createBundle (bundleArgs repo tempPath extraArgs) tempPath)
  Job.perform (.rename tempPath finalPath)

/-- The job of a submitted function. -/
def TaskName.job : TaskName → Job Unit
  | .generateBundle repo t f args => HgBundles.generateBundle repo t f args
  | .uploadToS3 r b l k => HgBundles.uploadToS3 r b l k
  | .uploadToGcpstorage r b l k => HgBundles.uploadToGcpstorage r b l k

/-- A submitted job and its outcome: the pool is read sequentially, so the outcome is known
when the future is made. -/
structure Future where
  task : TaskName
  result : Except Err Unit

section Pool

variable (env : Env)

/-- `e.submit(fn, *args)`, read sequentially: the job runs to its end, the future keeps its
outcome, and the log records that the job finished. -/
def submit (t : TaskName) : Py Future := fun w =>
  match t.job.run env w with
  | (r, w') => (.ok ⟨t, r⟩, ⟨w'.store, w'.log ++ [.finished t r.toBool]⟩)

/-- Submit each job in turn. -/
def submitAll : List TaskName → Py (List Future)
  | [] => pure []
  | t :: ts => do
    let f ← submit env t
    let fs ← submitAll ts
    pure (f :: fs)

end Pool

/-- `for f in fs: f.result()`: the first future that raised re-raises. -/
def joinAll : List Future → Py Unit
  | [] => pure ()
  | ⟨_, .ok ()⟩ :: fs => joinAll fs
  | ⟨_, .error e⟩ :: _ => throw e

/-- A keyword value from a repository line: the text after `=`, or `True` for a bare key. -/
inductive Opt where
  | str (s : String)
  | flag
  deriving DecidableEq, Repr

/-- Python truthiness of a keyword value. -/
def Opt.truthy : Opt → Bool
  | .str s => s ≠ ""
  | .flag => true

/-! ### Manifest lines -/

/-- One line of a clonebundles manifest, before it is rendered. -/
inductive Entry where
  | cdn (remotePath params : String)
  | s3 (host bucket remotePath params region : String)
  | gcs (bucket remotePath params region : String)
  deriving DecidableEq, Repr

/-- The format strings of the three kinds of lines. -/
def Entry.render : Entry → String
  | .cdn k p => HgBundles.cdn ++ "/" ++ k ++ " " ++ p ++ " REQUIRESNI=true cdn=true"
  | .s3 h b k p n => "https://" ++ h ++ "/" ++ b ++ "/" ++ k ++ " " ++ p ++ " ec2region=" ++ n
  | .gcs b k p n => gcsEndpoint ++ "/" ++ b ++ "/" ++ k ++ " " ++ p ++ " gceregion=" ++ n

/-- The lines of one type: the CDN line, then one per S3 host, then one per GCP host. -/
def typeEntries (remotePath params : String) : List Entry :=
  .cdn remotePath params ::
    (s3Hosts.map fun (host, bucket, name) => .s3 host bucket remotePath params name) ++
    gcpHosts.map fun (bucket, name) => .gcs bucket remotePath params name

/-- The manifest loop over `CLONEBUNDLES_ORDER`, skipping types not in `bundleTypes`. -/
def manifestEntries (bundlePath repo tip : String) (bundleTypes : List String) : List Entry :=
  clonebundlesOrder.flatMap fun (t, params) =>
    if t ∈ bundleTypes then typeEntries (bundlePaths bundlePath repo tip t).2 params else []

/-- `'\n'.join(clonebundles_manifest)`. -/
def manifestText (entries : List Entry) : String := joinWith '\n' (entries.map Entry.render)

/-- The upload submissions: every bundle to every S3 host, then to every GCP host. -/
def uploadTasks (bundles : List (String × String × String)) : List TaskName :=
  (s3Hosts.flatMap fun (_, bucket, name) =>
    bundles.map fun (_, bundlePath, remotePath) => .uploadToS3 name bucket bundlePath remotePath) ++
  gcpHosts.flatMap fun (bucket, region) =>
    bundles.map fun (_, bundlePath, remotePath) =>
      .uploadToGcpstorage region bucket bundlePath remotePath

/-- `bundle_path` after the upload loops: the last bundle's file when they ran. -/
def reboundPath (upload : Bool) (bundlePath : String) (bundles : List (String × String × String)) :
    String :=
  if upload then ((bundles.getLast?).map fun b => b.2.1).getD bundlePath else bundlePath

section Run

variable (env : Env)

/-- The prune loop: unlink every listed name that starts with neither `.` nor the tip. -/
def pruneLoop (bundlePath tip : String) : List String → Py Unit
  | [] => pure ()
  | p :: ps => do
    if startswith p "." || startswith p tip then pruneLoop bundlePath tip ps
    else
      perform env (.unlink (pathJoin bundlePath p))
      pruneLoop bundlePath tip ps

/-- The generation loop over `CREATES`: record each wanted type, and submit its generation
unless its file exists. -/
def submitGenerations (repo repoFull bundlePath tip : String) (zstdMax : Bool) :
    List (String × List String) → Py (List (String × String × String) × List Future)
  | [] => pure ([], [])
  | (t, args) :: rest => do
    if !wanted zstdMax t then submitGenerations repo repoFull bundlePath tip zstdMax rest
    else
      let finalPath := (bundlePaths bundlePath repo tip t).1
      let remotePath := (bundlePaths bundlePath repo tip t).2
      let tempPath := finalPath ++ ".tmp"
      let present : Bool ← perform env (.pathExists finalPath)
      let fs ← (if present then pure []
        else do pure [← submit env (.generateBundle repoFull tempPath finalPath args)])
      let (bs, fs') ← submitGenerations repo repoFull bundlePath tip zstdMax rest
      pure ((t, finalPath, remotePath) :: bs, fs ++ fs')

/-- `paths[t] = (remote_path, os.path.getsize(final_path))` for each recorded bundle. -/
def recordSizes : List (String × String × String) → Py (List (String × String × Nat))
  | [] => pure []
  | (t, finalPath, remotePath) :: rest => do
    let size ← perform env (.getsize finalPath)
    let ps ← recordSizes rest
    pure ((t, remotePath, size) :: ps)

/-- Mirror mode: copy the source repository's manifest over this one's, after a backup. -/
def copyManifest (repo : String) (copyfrom : Opt) : Py (List (String × String × Nat)) := do
  let .str cf := copyfrom | throw .type
  (if isabs cf then throw .assertion else pure ())
  let sourceRepo := pathJoin reposRoot cf
  let destRepo := pathJoin reposRoot repo
  let source := pathJoin (pathJoin sourceRepo ".hg") "clonebundles.manifest"
  let dest := pathJoin (pathJoin destRepo ".hg") "clonebundles.manifest"
  let backup := pathJoin (pathJoin destRepo ".hg") "clonebundles.manifest.last"
  let present : Bool ← perform env (.pathExists dest)
  (if present then perform env (.copy2 dest backup) else pure ())
  perform env (.copy2 source dest)
  perform env (.checkCall [hg, "replicatesync"] destRepo)
  pure []

/-- Primary mode, up to and including the prune loop; returns the tip. -/
def prepare (repo : String) : Py String := do
  let repoFull := pathJoin reposRoot repo
  perform env (.stat (pathJoin repoFull ".hg"))
  let tip ← perform env (.checkOutput [hg, "-R", repoFull, "log", "-r", "tip", "-T", "{node}"])
  let lines : List String ← perform env (.readlines (pathJoin (pathJoin repoFull ".hg") "requires"))
  (if "generaldelta\n" ∉ lines then
    throw (.exception ("non-generaldelta repo not supported: " ++ repoFull)) else pure ())
  let bundlePath := pathJoin bundleRoot repo
  tryCatch (perform env (.makedirs bundlePath)) fun e =>
    match e with
    | .os n => if n ≠ EEXIST then throw e else pure ()
    | _ => throw e
  let names ← perform env (.listdir bundlePath)
  pruneLoop env bundlePath tip names
  pure tip

/-- The upload block: submit every bundle to every S3 host, then to every GCP host, and join. -/
def uploadBundles (upload : Bool) (bundles : List (String × String × String)) : Py Unit :=
  if upload then do
    let fs ← submitAll env (uploadTasks bundles)
    joinAll fs
  else pure ()

/-- The manifest block: assemble the lines, back up the old manifest, write the new one, set
its mode and replicate it. -/
def writeManifest (repo tip : String) (upload : Bool) (bundles : List (String × String × String)) :
    Py Unit := do
  let repoFull := pathJoin reposRoot repo
  let bundlePath := pathJoin bundleRoot repo
  let entries := manifestEntries (reboundPath upload bundlePath bundles) repo tip
    (bundles.map Prod.fst)
  let backupPath := pathJoin (pathJoin repoFull ".hg") "clonebundles.manifest.old"
  let clonebundlesPath := pathJoin (pathJoin repoFull ".hg") "clonebundles.manifest"
  let present : Bool ← perform env (.pathExists clonebundlesPath)
  (if present then perform env (.copy2 clonebundlesPath backupPath) else pure ())
  perform env (.write clonebundlesPath (manifestText entries))
  perform env (.chmod clonebundlesPath 0o664)
  perform env (.checkCall [hg, "replicatesync"] repoFull)

/-- Primary mode after the prune loop: generation, uploads, sizes, manifest. -/
def produce (repo tip : String) (upload zstdMax : Bool) : Py (List (String × String × Nat)) := do
  let (bundles, fs) ← submitGenerations env repo (pathJoin reposRoot repo)
    (pathJoin bundleRoot repo) tip zstdMax creates
  joinAll fs
  uploadBundles env upload bundles
  let paths ← recordSizes env bundles
  writeManifest env repo tip upload bundles
  pure paths

/-- Primary mode. -/
def primary (repo : String) (upload zstdMax : Bool) : Py (List (String × String × Nat)) := do
  let tip ← prepare env repo
  produce env repo tip upload zstdMax

/-- `generate_bundles(repo, upload, copyfrom, zstd_max)`. -/
def generateBundles (repo : String) (upload : Bool) (copyfrom : Option Opt) (zstdMax : Bool) :
    Py (List (String × String × Nat)) := do
  (if isabs repo then throw .assertion else pure ())
  match copyfrom with
  | some cf => if cf.truthy then copyManifest env repo cf else primary env repo upload zstdMax
  | none => primary env repo upload zstdMax

end Run

end HgBundles
