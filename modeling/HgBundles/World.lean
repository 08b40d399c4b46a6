import HgBundles.Store

/-!
# HgBundles.World — the calls of the script, the outside world, and the two monads

* `IOCall`: every call the script makes to the outside world (the filesystem, `hg`, the storage
  clients), with `IOCall.Answer` its result and `act env c` what it does to the store;
* `Env`: the behaviour of the outside world in one run: which calls fail and how, what `hg`
  prints, how big the bundles it writes are;
* `Py`: Python statements, from a world to an outcome and the world after it; side effects stay
  when an exception propagates. `perform` makes one call and appends it to the log;
* `Job`: a worker-pool job as the tree of calls it makes; `Job.run` is its sequential reading.
-/

namespace HgBundles

/-- The handle-building steps of the storage clients: they may fail, and change nothing. -/
inductive Handle where
  | s3Resource    -- `session.resource('s3')`
  | s3Bucket      -- `c.Bucket(bucket_name)`
  | s3Object      -- `b.Object(remote_path)`
  | gcsClient     -- `storage.Client()`
  | gcsGetBucket  -- `storage_client.get_bucket(bucket_name)`
  | gcsBlob       -- `bucket.blob(remote_path)`
  deriving DecidableEq, Repr

/-- The calls the script makes to the outside world. A storage call carries the bucket and key
of the upload it belongs to and the attempt number, so that each one can fail on its own. -/
inductive IOCall where
  | stat (path : String)
  | checkOutput (argv : List String)
  | checkCall (argv : List String) (cwd : String)
  | createBundle (argv : List String) (out : String)
  | readlines (path : String)
  | makedirs (path : String)
  | listdir (path : String)
  | unlink (path : String)
  | pathExists (path : String)
  | rename (src dst : String)
  | getsize (path : String)
  | copy2 (src dst : String)
  | write (path text : String)
  | chmod (path : String) (mode : Nat)
  | session (region bucket key : String)
  | handle (h : Handle) (bucket key : String) (attempt : Nat)
  | load (bucket key : String) (attempt : Nat)
  | copyFrom (bucket key : String) (attempt : Nat)
  | uploadFile (localPath bucket key : String) (attempt : Nat)
  | blobExists (bucket key : String) (attempt : Nat)
  | patch (bucket key : String) (hold : Bool) (attempt : Nat)
  | uploadFromFilename (localPath bucket key : String) (attempt : Nat)
  | putObject (region bucket key body : String)
  | sleep (seconds : Nat)
  deriving DecidableEq, Repr

/-- What a call returns. -/
def IOCall.Answer : IOCall → Type
  | .checkOutput _ => String
  | .readlines _ => List String
  | .listdir _ => List String
  | .pathExists _ => Bool
  | .getsize _ => Nat
  | .blobExists _ _ _ => Bool
  | _ => Unit

/-- The outside world during one run: the calls that fail (and how), what `check_output`
prints, and the size of the bundle a creation writes or of what a failed one leaves behind. -/
structure Env where
  fault : IOCall → Option Fault
  output : List String → String
  bundleSize : List String → Nat
  leftover : List String → Option Nat

/-- What a call that does not fail returns and does to the store. -/
def IOCall.apply (env : Env) : (c : IOCall) → Store → Except Err c.Answer × Store
  | .stat _, s => (.ok (), s)
  | .checkOutput argv, s => (.ok (env.output argv), s)
  | .checkCall _ _, s => (.ok (), s)
  | .createBundle argv out, s => (.ok (), s.setFile out (some (.bundle (env.bundleSize argv))))
  | .readlines p, s =>
    match s.files p with
    | some (.text t) => (.ok (HgBundles.readlines t), s)
    | some _ => (.ok [], s)
    | none => (.error (.os ENOENT), s)
  | .makedirs _, s => (.ok (), s)
  | .listdir d, s => (.ok (s.listdir d), s)
  | .unlink p, s =>
    if (s.files p).isSome then (.ok (), s.setFile p none) else (.error (.os ENOENT), s)
  | .pathExists p, s => (.ok (s.files p).isSome, s)
  | .rename src dst, s =>
    match s.files src with
    | some c => (.ok (), (s.setFile src none).setFile dst (some c))
    | none => (.error (.os ENOENT), s)
  | .getsize p, s =>
    match s.files p with
    | some c => (.ok c.size, s)
    | none => (.error (.os ENOENT), s)
  | .copy2 src dst, s =>
    match s.files src with
    | some c => (.ok (), s.setFile dst (some c))
    | none => (.error (.os ENOENT), s)
  | .write p t, s => (.ok (), s.setFile p (some (.text t)))
  | .chmod _ _, s => (.ok (), s)
  | .session _ _ _, s => (.ok (), s)
  | .handle _ _ _ _, s => (.ok (), s)
  | .load b k _, s =>
    if (s.objects ⟨.s3, b, k⟩).isSome then (.ok (), s) else (.error (.client "404"), s)
  | .copyFrom b k _, s =>
    if (s.objects ⟨.s3, b, k⟩).isSome then (.ok (), s) else (.error (.client "404"), s)
  | .uploadFile l b k _, s =>
    match s.files l with
    | some c => (.ok (), s.setObject ⟨.s3, b, k⟩ (some ⟨c, false⟩))
    | none => (.error (.os ENOENT), s)
  | .blobExists b k _, s => (.ok (s.objects ⟨.gcs, b, k⟩).isSome, s)
  | .patch b k h _, s =>
    match s.objects ⟨.gcs, b, k⟩ with
    | some o => (.ok (), s.setObject ⟨.gcs, b, k⟩ (some { o with hold := h }))
    | none => (.error .other, s)
  | .uploadFromFilename l b k _, s =>
    match s.files l with
    | some c => (.ok (), s.setObject ⟨.gcs, b, k⟩ (some ⟨c, false⟩))
    | none => (.error (.os ENOENT), s)
  | .putObject _ b k body, s => (.ok (), s.setObject ⟨.s3, b, k⟩ (some ⟨.text body, false⟩))
  | .sleep _, s => (.ok (), s)

/-- A failed bundle creation may leave an incomplete output file; no other failed call changes
the store. -/
def IOCall.afterFault (env : Env) : IOCall → Store → Store
  | .createBundle argv out, s =>
    match env.leftover argv with
    | some n => s.setFile out (some (.incomplete n))
    | none => s
  | _, s => s

/-- One call against the store. -/
def act (env : Env) (c : IOCall) (s : Store) : Except Err c.Answer × Store :=
  match env.fault c with
  | some f => (.error f.err, c.afterFault env s)
  | none => c.apply env s

/-! ### Worlds and the log -/

/-- A function submitted to the worker pool, with its arguments. -/
inductive TaskName where
  | generateBundle (repo tempPath finalPath : String) (extraArgs : List String)
  | uploadToS3 (region bucket localPath remotePath : String)
  | uploadToGcpstorage (region bucket localPath remotePath : String)
  deriving DecidableEq, Repr

/-- What the log records: each call and whether it returned, and each pool task that finished
and whether it returned. -/
inductive Event where
  | call (c : IOCall) (ok : Bool)
  | finished (t : TaskName) (ok : Bool)
  deriving DecidableEq, Repr

/-- The store and the log of everything done so far. -/
structure World where
  store : Store
  log : List Event

/-! ### Python statements -/

/-- A statement: from a world to its outcome and the world after it. -/
def Py (α : Type) : Type := World → Except Err α × World

namespace Py

/-- Sequencing; an exception skips the rest and keeps the world it was raised in. -/
def bind (x : Py α) (f : α → Py β) : Py β := fun w =>
  match x w with
  | (.ok a, w') => f a w'
  | (.error e, w') => (.error e, w')

/-- `try: x except e: h e`. -/
def tryCatch (x : Py α) (h : Err → Py α) : Py α := fun w =>
  match x w with
  | (.ok a, w') => (.ok a, w')
  | (.error e, w') => h e w'

instance : Monad Py where
  pure a := fun w => (.ok a, w)
  bind := Py.bind

instance : MonadExceptOf Err Py where
  throw e := fun w => (.error e, w)
  tryCatch := Py.tryCatch

@[simp] theorem pure_apply (a : α) (w : World) : (pure a : Py α) w = (.ok a, w) := rfl

@[simp] theorem throw_apply (e : Err) (w : World) : (throw e : Py α) w = (.error e, w) := rfl

theorem bind_apply (x : Py α) (f : α → Py β) (w : World) :
    (x >>= f) w = match x w with
      | (.ok a, w') => f a w'
      | (.error e, w') => (.error e, w') := rfl

theorem bind_ok {x : Py α} {w w' : World} {a : α} (h : x w = (.ok a, w')) (f : α → Py β) :
    (x >>= f) w = f a w' := by
  simp [bind_apply, h]

theorem bind_error {x : Py α} {w w' : World} {e : Err} (h : x w = (.error e, w'))
    (f : α → Py β) : (x >>= f) w = (.error e, w') := by
  simp [bind_apply, h]

theorem tryCatch_error {x : Py α} {w w' : World} {e : Err} (h : x w = (.error e, w'))
    (k : Err → Py α) : tryCatch x k w = k e w' := by
  simp [tryCatch, h]

/-- A statement that ends normally came from a first part that ended normally. -/
theorem bind_eq_ok {x : Py α} {f : α → Py β} {w w' : World} {b : β}
    (h : (x >>= f) w = (.ok b, w')) : ∃ a w₁, x w = (.ok a, w₁) ∧ f a w₁ = (.ok b, w') := by
  rw [bind_apply] at h
  split at h
  · exact ⟨_, _, ‹_›, h⟩
  · cases h

end Py

/-- Make one call against the world and log it. -/
def perform (env : Env) (c : IOCall) : Py c.Answer := fun w =>
  match act env c w.store with
  | (r, s) => (r, ⟨s, w.log ++ [.call c r.toBool]⟩)

/-! ### Pool jobs -/

/-- A job for the worker pool: the tree of calls it makes, each continuation chosen by the
call's answer. -/
inductive Job (α : Type) where
  | ret (r : Except Err α)
  | call (c : IOCall) (k : Except Err c.Answer → Job α)

namespace Job

/-- Sequencing of jobs. -/
def bind : Job α → (α → Job β) → Job β
  | .ret (.ok a), f => f a
  | .ret (.error e), _ => .ret (.error e)
  | .call c k, f => .call c fun r => (k r).bind f

/-- `try: x except e: h e` in a job. -/
def tryCatch : Job α → (Err → Job α) → Job α
  | .ret (.ok a), _ => .ret (.ok a)
  | .ret (.error e), h => h e
  | .call c k, h => .call c fun r => (k r).tryCatch h

instance : Monad Job where
  pure a := .ret (.ok a)
  bind := Job.bind

instance : MonadExceptOf Err Job where
  throw e := .ret (.error e)
  tryCatch := Job.tryCatch

/-- Make one call; its failure propagates. -/
def perform (c : IOCall) : Job c.Answer := .call c .ret

/-- The sequential reading of a job. -/
def run (env : Env) : Job α → Py α
  | .ret r => fun w => (r, w)
  | .call c k => fun w =>
    match HgBundles.perform env c w with
    | (r, w') => (k r).run env w'

variable {env : Env}

@[simp] theorem run_pure (a : α) : (pure a : Job α).run env = pure a := rfl

@[simp] theorem run_throw (e : Err) : (throw e : Job α).run env = throw e := rfl

@[simp] theorem run_perform (c : IOCall) : (perform c).run env = HgBundles.perform env c := rfl

theorem run_bind (x : Job α) (f : α → Job β) :
    (x >>= f).run env = x.run env >>= fun a => (f a).run env := by
  funext w
  induction x generalizing w with
  | ret r => cases r <;> rfl
  | call c k ih =>
    show (Job.call c fun r => (k r).bind f).run env w = _
    simp only [run, Py.bind_apply]
    exact ih _ _

theorem run_tryCatch (x : Job α) (h : Err → Job α) :
    (tryCatch x h).run env = Py.tryCatch (x.run env) fun e => (h e).run env := by
  funext w
  induction x generalizing w with
  | ret r => cases r <;> rfl
  | call c k ih =>
    show (Job.call c fun r => (k r).tryCatch h).run env w = _
    simp only [run, Py.tryCatch]
    exact ih _ _

/-- Every call a job can make satisfies `P`, whatever the answers. -/
inductive AllCalls (P : IOCall → Prop) : Job α → Prop where
  | ret (r : Except Err α) : AllCalls P (.ret r)
  | call {c : IOCall} {k : Except Err c.Answer → Job α} (hc : P c) (hk : ∀ r, AllCalls P (k r)) :
      AllCalls P (.call c k)

variable {P : IOCall → Prop}

theorem AllCalls.perform {c : IOCall} (hc : P c) : AllCalls P (perform c) :=
  .call hc fun r => .ret r

theorem AllCalls.pure (a : α) : AllCalls P (pure a : Job α) := .ret _

theorem AllCalls.throw (e : Err) : AllCalls P (throw e : Job α) := .ret _

theorem AllCalls.bind {x : Job α} {f : α → Job β} (hx : AllCalls P x) (hf : ∀ a, AllCalls P (f a)) :
    AllCalls P (x >>= f) := by
  induction hx with
  | ret r => cases r with
    | ok a => exact hf a
    | error e => exact .ret _
  | call hc _ ih => exact .call hc ih

theorem AllCalls.tryCatch {x : Job α} {h : Err → Job α} (hx : AllCalls P x)
    (hh : ∀ e, AllCalls P (h e)) : AllCalls P (tryCatch x h) := by
  induction hx with
  | ret r => cases r with
    | ok a => exact .ret _
    | error e => exact hh e
  | call hc _ ih => exact .call hc ih

theorem AllCalls.imp {Q : IOCall → Prop} {j : Job α} (h : ∀ c, P c → Q c) (hj : AllCalls P j) :
    AllCalls Q j := by
  induction hj with
  | ret r => exact .ret r
  | call hc _ ih => exact .call (h _ hc) ih

end Job

end HgBundles
