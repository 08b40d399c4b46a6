import HgBundles.Paths

/-!
# HgBundles.Schedule — the worker pool under any interleaving

The pool's workers run the calls of the submitted jobs in some interleaving. A `Worker` is a
job together with the locations (`Loc`) its calls may read and write; `runSched sched` makes one
call of worker `i` for each `i` in `sched`, and `execAll` runs the jobs one after another.

* `Local env c R W`: call `c` reads only `R` and writes only `W`;
* `commute_of_local`: two calls, neither of which writes what the other reads, commute;
* `execAll_stepAt`: a call of one worker moves ahead of the whole jobs of the workers before
  it, so `execAll` is invariant under every step (`execAll_runSched`); a schedule after which
  every job has finished leaves the store of the sequential run (`runSched_finished`).
-/

namespace HgBundles

/-- A location of the store: a local file or an object. -/
inductive Loc where
  | file (p : String)
  | obj (o : ObjKey)
  deriving DecidableEq

/-- The content of a location. -/
def Store.get (s : Store) : Loc → Option Content ⊕ Option Obj
  | .file p => .inl (s.files p)
  | .obj o => .inr (s.objects o)

theorem Store.ext_get {s t : Store} (h : ∀ l, s.get l = t.get l) : s = t :=
  Store.ext' (funext fun p => Sum.inl.inj (h (.file p))) (funext fun o => Sum.inr.inj (h (.obj o)))

@[simp] theorem Store.get_setFile (s : Store) (p : String) (o : Option Content) (l : Loc) :
    (s.setFile p o).get l = if l = .file p then .inl o else s.get l := by
  cases l <;> simp [Store.get, Function.update_apply]; split_ifs <;> rfl

@[simp] theorem Store.get_setObject (s : Store) (k : ObjKey) (o : Option Obj) (l : Loc) :
    (s.setObject k o).get l = if l = .obj k then .inr o else s.get l := by
  cases l <;> simp [Store.get, Function.update_apply]; split_ifs <;> rfl

section Commute

variable (env : Env)

/-- Call `c` writes only locations in `W` and reads only locations in `R`. -/
structure Local (c : IOCall) (R W : Loc → Prop) : Prop where
  frame : ∀ s l, ¬ W l → (act env c s).2.get l = s.get l
  depends : ∀ s s', (∀ l, R l → s.get l = s'.get l) →
    (act env c s).1 = (act env c s').1 ∧ ∀ l, W l → (act env c s).2.get l = (act env c s').2.get l
  writes_reads : ∀ l, W l → R l

/-- The two calls give the same answers and the same store in either order. -/
def Commute (c d : IOCall) : Prop :=
  ∀ s, (act env d (act env c s).2).1 = (act env d s).1 ∧
    (act env c (act env d s).2).1 = (act env c s).1 ∧
    (act env d (act env c s).2).2 = (act env c (act env d s).2).2

variable {env}

theorem Commute.symm {c d : IOCall} (h : Commute env c d) : Commute env d c :=
  fun s => ⟨(h s).2.1, (h s).1, (h s).2.2.symm⟩

theorem Local.mono {c : IOCall} {R W R' W' : Loc → Prop} (h : Local env c R W)
    (hR : ∀ l, R l → R' l) (hW : ∀ l, W l → W' l) (hW' : ∀ l, W' l → R' l) :
    Local env c R' W' where
  frame s l hl := h.frame s l fun hw => hl (hW l hw)
  depends s s' hs := by
    refine ⟨(h.depends s s' fun l hl => hs l (hR l hl)).1, fun l hl => ?_⟩
    by_cases hw : W l
    · exact (h.depends s s' fun l hl => hs l (hR l hl)).2 l hw
    · rw [h.frame s l hw, h.frame s' l hw]
      exact hs l (hW' l hl)
  writes_reads := hW'

/-- Calls that do not write what the other reads commute. -/
theorem commute_of_local {c d : IOCall} {R W R' W' : Loc → Prop} (hc : Local env c R W)
    (hd : Local env d R' W') (h₁ : ∀ l, W l → ¬ R' l) (h₂ : ∀ l, W' l → ¬ R l) :
    Commute env c d := by
  intro s
  have ed := hd.depends (act env c s).2 s fun l hl => hc.frame s l fun hw => h₁ l hw hl
  have ec := hc.depends (act env d s).2 s fun l hl => hd.frame s l fun hw => h₂ l hw hl
  refine ⟨ed.1, ec.1, Store.ext_get fun l => ?_⟩
  by_cases hw : W l
  · have hw' : ¬ W' l := fun hw' => h₂ l hw' (hc.writes_reads l hw)
    rw [hd.frame _ l hw', ec.2 l hw]
  · by_cases hw' : W' l
    · rw [hc.frame _ l hw, ed.2 l hw']
    · rw [hd.frame _ l hw', hc.frame _ l hw, hc.frame _ l hw, hd.frame _ l hw']

end Commute

/-! ### Jobs, workers and schedules -/

section Run

variable (env : Env)

/-- A job run against the store alone. -/
def Job.exec : Job α → Store → Except Err α × Store
  | .ret r, s => (r, s)
  | .call c k, s => (k (act env c s).1).exec (act env c s).2

theorem Job.AllCalls.cont {P : IOCall → Prop} {c : IOCall} {k : Except Err c.Answer → Job α}
    (h : AllCalls P (.call c k)) (r : Except Err c.Answer) : AllCalls P (k r) := by
  cases h with
  | call _ hk => exact hk r

theorem Job.AllCalls.head {P : IOCall → Prop} {c : IOCall} {k : Except Err c.Answer → Job α}
    (h : AllCalls P (.call c k)) : P c := by
  cases h with
  | call hc _ => exact hc

/-- A job of the pool with the locations its calls read and write. -/
structure Worker (env : Env) where
  job : Job Unit
  reads : Loc → Prop
  writes : Loc → Prop
  calls : Job.AllCalls (fun c => Local env c reads writes) job

variable {env}

/-- One call of the worker, if its job has one left. -/
def Worker.step (w : Worker env) (s : Store) : Worker env × Store :=
  match w with
  | ⟨.ret r, R, W, h⟩ => (⟨.ret r, R, W, h⟩, s)
  | ⟨.call c k, R, W, h⟩ =>
    match act env c s with
    | (r, s') => (⟨k r, R, W, h.cont r⟩, s')

/-- One call of worker `i`. -/
def stepAt (i : Nat) (ws : List (Worker env)) (s : Store) : List (Worker env) × Store :=
  match ws[i]? with
  | some w => ((ws.set i (w.step s).1), (w.step s).2)
  | none => (ws, s)

/-- Run the calls in the order the schedule picks. -/
def runSched : List Nat → List (Worker env) × Store → List (Worker env) × Store
  | [], cfg => cfg
  | i :: is, (ws, s) => runSched is (stepAt i ws s)

/-- The jobs run one after another. -/
def execAll (ws : List (Worker env)) (s : Store) : Store :=
  ws.foldl (fun s w => (w.job.exec env s).2) s

/-- The locations a worker reads and writes. -/
def Worker.fp (w : Worker env) : (Loc → Prop) × (Loc → Prop) := (w.reads, w.writes)

/-- Two footprints do not clash: neither writes what the other reads. -/
def Apart (a b : (Loc → Prop) × (Loc → Prop)) : Prop :=
  (∀ l, a.2 l → ¬ b.1 l) ∧ ∀ l, b.2 l → ¬ a.1 l

/-- The workers' locations do not clash. -/
def Separate (w w' : Worker env) : Prop := Apart w.fp w'.fp

/-- A worker's job has finished. -/
def Worker.Finished (w : Worker env) : Prop := ∃ r, w.job = .ret r

/-- A call that commutes with every call of a job moves past the whole job. -/
theorem exec_act_comm {P : IOCall → Prop} {c : IOCall} (hc : ∀ d, P d → Commute env c d) :
    ∀ {j : Job α}, Job.AllCalls P j → ∀ s,
      j.exec env (act env c s).2 = ((j.exec env s).1, (act env c (j.exec env s).2).2) ∧
        (act env c (j.exec env s).2).1 = (act env c s).1
  | _, .ret r, s => ⟨rfl, rfl⟩
  | .call d k, .call hd hk, s => by
    obtain ⟨h₁, h₂, h₃⟩ := hc d hd s
    obtain ⟨e₁, e₂⟩ := exec_act_comm hc (hk (act env d s).1) (act env d s).2
    simp only [Job.exec]
    rw [h₁, h₃, e₁, e₂, h₂]
    exact ⟨rfl, rfl⟩

theorem step_writes (w : Worker env) (s : Store) :
    (w.step s).1.reads = w.reads ∧ (w.step s).1.writes = w.writes := by
  obtain ⟨j, R, W, h⟩ := w
  cases j <;> exact ⟨rfl, rfl⟩

/-- A worker's step, then the sequential run, is the sequential run. -/
theorem exec_step (w : Worker env) (s : Store) :
    (w.step s).1.job.exec env (w.step s).2 = w.job.exec env s := by
  obtain ⟨j, R, W, h⟩ := w
  cases j <;> rfl

/-- One step of worker `i` does not change the sequential run of all the jobs. -/
theorem execAll_stepAt :
    ∀ {ws : List (Worker env)} (i : Nat) (s : Store), ws.Pairwise Separate →
      execAll (stepAt i ws s).1 (stepAt i ws s).2 = execAll ws s
  | [], i, s, _ => by cases i <;> rfl
  | w :: ws, 0, s, _ => by
    simp only [stepAt, List.getElem?_cons_zero, List.set_cons_zero, execAll, List.foldl_cons,
      exec_step]
  | w :: ws, i + 1, s, hp => by
    obtain ⟨hw, hws⟩ := List.pairwise_cons.mp hp
    cases hi : ws[i]? with
    | none => simp [stepAt, hi]
    | some v =>
      have ih := execAll_stepAt i (w.job.exec env s).2 hws
      simp only [stepAt, List.getElem?_cons_succ, hi] at ih ⊢
      obtain ⟨j, R, W, h⟩ := v
      cases j with
      | ret r => simpa [Worker.step] using ih
      | call c k =>
        have hsep := hw _ (List.getElem?_mem hi)
        have hcomm : ∀ d, Local env d w.reads w.writes → Commute env c d := fun d hd =>
          commute_of_local h.head hd (fun l hl hr => hsep.2 l hl hr)
            (fun l hl hr => hsep.1 l hl hr)
        obtain ⟨e₁, e₂⟩ := exec_act_comm hcomm w.calls s
        simp only [Worker.step, execAll, List.set_cons_succ, List.foldl_cons] at ih ⊢
        rw [e₁, ← e₂]
        exact ih

theorem stepAt_cons_succ (w : Worker env) (ws : List (Worker env)) (i : Nat) (s : Store) :
    stepAt (i + 1) (w :: ws) s = (w :: (stepAt i ws s).1, (stepAt i ws s).2) := by
  simp only [stepAt, List.getElem?_cons_succ]
  split <;> rfl

/-- A step changes no worker's locations. -/
theorem map_fp_stepAt :
    ∀ (ws : List (Worker env)) (i : Nat) (s : Store), (stepAt i ws s).1.map Worker.fp = ws.map Worker.fp
  | [], i, s => by cases i <;> rfl
  | w :: ws, 0, s => by
    obtain ⟨hr, hw⟩ := step_writes w s
    simp [stepAt, Worker.fp, hr, hw]
  | w :: ws, i + 1, s => by
    rw [stepAt_cons_succ, List.map_cons, map_fp_stepAt ws i s, List.map_cons]

theorem pairwise_stepAt {ws : List (Worker env)} (i : Nat) (s : Store)
    (h : ws.Pairwise Separate) : (stepAt i ws s).1.Pairwise Separate := by
  have h' : (ws.map Worker.fp).Pairwise Apart := List.pairwise_map.mpr h
  rw [← map_fp_stepAt ws i s] at h'
  exact (List.pairwise_map (R := Apart)).mp h'

/-- Every schedule keeps the sequential run of all the jobs. -/
theorem execAll_runSched :
    ∀ (sched : List Nat) (ws : List (Worker env)) (s : Store), ws.Pairwise Separate →
      execAll (runSched sched (ws, s)).1 (runSched sched (ws, s)).2 = execAll ws s
  | [], _, _, _ => rfl
  | i :: is, ws, s, h => by
    rw [runSched, execAll_runSched is _ _ (pairwise_stepAt i s h), execAll_stepAt i s h]

theorem execAll_finished : ∀ {ws : List (Worker env)} (s : Store), (∀ w ∈ ws, w.Finished) →
    execAll ws s = s
  | [], _, _ => rfl
  | w :: ws, s, h => by
    obtain ⟨r, hr⟩ := h w (List.mem_cons_self _ _)
    simp only [execAll, List.foldl_cons, hr, Job.exec]
    exact execAll_finished s fun v hv => h v (List.mem_cons_of_mem _ hv)

/-- **Interleaving.** Workers whose locations do not clash leave, under every schedule that
finishes all their jobs, the store of running the jobs one after another. -/
theorem runSched_finished {ws : List (Worker env)} (h : ws.Pairwise Separate) (sched : List Nat)
    (s : Store) (hfin : ∀ w ∈ (runSched sched (ws, s)).1, w.Finished) :
    (runSched sched (ws, s)).2 = execAll ws s := by
  rw [← execAll_runSched sched ws s h, execAll_finished _ hfin]

end Run

end HgBundles
