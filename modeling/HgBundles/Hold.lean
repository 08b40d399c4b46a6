import HgBundles.Progress

/-!
# HgBundles.Hold — the event-based hold of a GCS object across `upload_to_gcpstorage`

The refresh branch of an attempt sets the object's event-based hold, `patch`es, clears it and
`patch`es again; any call of an attempt may raise, a `socket.error` leads to another attempt,
anything else propagates. What the whole call does to the store:

* `gcsAttempt_outcome`: one attempt that returns leaves the object refreshed with its hold
  cleared, or the local file uploaded with no hold (`refreshedOrUploaded`); one that raises
  leaves the object as it was or with its hold set; nothing else changes (`GcsOutcome`);
* `gcsLoop_outcome`: the retry loop has the same outcome, since an attempt that raised only
  sets a hold, which the next attempts either clear or leave set;
* `upload_to_gcpstorage_hold`: a call that returns leaves the object with its hold cleared, a
  call that raises leaves the hold as it was or set. A set hold is not restored, and a hold the
  refresh set stays when the releasing `patch` fails (`upload_to_gcpstorage_hold_changes`).
-/

namespace HgBundles

/-- `o` with its event-based hold set. -/
def Obj.held (o : Obj) : Obj := { o with hold := true }

/-- The object at `remote_path` after an attempt that returned: the object that was there with
its hold cleared (the refresh branch), or the local file with no hold (the upload branch). -/
def refreshedOrUploaded : Option Obj → Option Content → Option Obj
  | some o, _ => some { o with hold := false }
  | none, f => f.map fun c => ⟨c, false⟩

/-- What an upload to `key` from `l` may do to the store `s`, by outcome: on return the object
is `refreshedOrUploaded`, on an exception it is as before or has its hold set; nothing else
changes. -/
def GcsOutcome (key : ObjKey) (l : String) (s : Store) : Except Err Unit → Store → Prop
  | .ok _, s' => (refreshedOrUploaded (s.objects key) (s.files l)).isSome ∧
      s' = s.setObject key (refreshedOrUploaded (s.objects key) (s.files l))
  | .error _, s' => s' = s ∨ s' = s.setObject key ((s.objects key).map Obj.held)

@[simp] theorem Obj.held_hold (o : Obj) : o.held.hold = true := rfl

@[simp] theorem Obj.held_held (o : Obj) : o.held.held = o.held := rfl

@[simp] theorem refreshedOrUploaded_held (o : Option Obj) (f : Option Content) :
    refreshedOrUploaded (o.map Obj.held) f = refreshedOrUploaded o f := by
  cases o <;> rfl

theorem hold_of_refreshedOrUploaded {o : Option Obj} {f : Option Content} {x : Obj}
    (h : refreshedOrUploaded o f = some x) : x.hold = false := by
  cases o with
  | some o => cases h; rfl
  | none =>
    obtain ⟨c, -, rfl⟩ := Option.map_eq_some'.mp h
    rfl

/-- An attempt that raised only set a hold, so what follows it has the outcome it would have had
from the start. -/
theorem GcsOutcome.of_error {key : ObjKey} {l : String} {s s₁ s' : Store} {e : Err}
    {r : Except Err Unit} (h₁ : GcsOutcome key l s (.error e) s₁) (h : GcsOutcome key l s₁ r s') :
    GcsOutcome key l s r s' := by
  rcases h₁ with rfl | rfl
  · exact h
  have hmap : ∀ o : Option Obj, (o.map Obj.held).map Obj.held = o.map Obj.held := fun o => by
    cases o <;> rfl
  cases r with
  | ok => simpa [GcsOutcome] using h
  | error => exact Or.inr (by simpa [GcsOutcome, hmap] using h)

section Calls

variable {env : Env} {c : IOCall} {w w' : World}

/-- A call that raises changes nothing, unless it is a bundle creation. -/
theorem perform_error_store (hc : ∀ argv out, c ≠ .createBundle argv out) {e : Err}
    (h : perform env c w = (.error e, w')) : w'.store = w.store := by
  have h₁ : (act env c w.store).1 = .error e := congrArg Prod.fst h
  rw [← congrArg (fun r => r.2.store) h]
  show (act env c w.store).2 = w.store
  unfold act at h₁ ⊢
  rcases hf : env.fault c with _ | f <;> simp only [hf] at h₁ ⊢
  · cases c <;> simp only [IOCall.apply] at h₁ ⊢ <;> (try split) <;> simp_all
  · cases c <;> first | exact absurd rfl (hc _ _) | rfl

/-- A call whose answer leaves the store as it is changes nothing when it returns. -/
theorem perform_ok_store {a : c.Answer} (h : perform env c w = (.ok a, w'))
    (hs : ∀ s, (c.apply env s).2 = s) : w'.store = w.store := by
  rw [← hs w.store, (perform_ok h).2]

/-- A statement that starts with a call: the call raises, or it returns and the rest runs. -/
theorem outcome_bind_perform {f : c.Answer → Py β} {P : Except Err β → Store → Prop}
    (herr : ∀ e w', perform env c w = (.error e, w') → P (.error e) w'.store)
    (hok : ∀ a w', perform env c w = (.ok a, w') → P (f a w').1 (f a w').2.store) :
    P ((perform env c >>= f) w).1 ((perform env c >>= f) w).2.store := by
  rw [Py.bind_apply]
  rcases h : perform env c w with ⟨e | a, w'⟩
  · exact herr e w' h
  · exact hok a w' h

end Calls

/-! ### One attempt, and the retry loop -/

section Loop

variable {env : Env} {b l k : String}

/-- A `patch` that returned set the hold of the object that was there. -/
theorem perform_patch_ok {h : Bool} {n : Nat} {w w' : World} {a : Unit}
    (hp : perform env (.patch b k h n) w = (.ok a, w')) :
    ∃ o, w.store.objects ⟨.gcs, b, k⟩ = some o ∧
      w'.store = w.store.setObject ⟨.gcs, b, k⟩ (some { o with hold := h }) := by
  have ha := (perform_ok hp).2
  simp only [IOCall.apply] at ha
  split at ha
  · exact ⟨_, ‹_›, (Prod.mk.inj ha).2.symm⟩
  · cases ha

/-- What one attempt can do: see `GcsOutcome`. -/
theorem gcsAttempt_outcome (n : Nat) (w : World) :
    GcsOutcome ⟨.gcs, b, k⟩ l w.store ((gcsAttempt b l k n).run env w).1
      ((gcsAttempt b l k n).run env w).2.store := by
  have herr : ∀ {c : IOCall} {w₁ : World}, (∀ argv out, c ≠ .createBundle argv out) →
      w₁.store = w.store → ∀ e w', perform env c w₁ = (.error e, w') →
        GcsOutcome ⟨.gcs, b, k⟩ l w.store (.error e) w'.store :=
    fun hc h₁ _ _ h => Or.inl ((perform_error_store hc h).trans h₁)
  simp only [gcsAttempt, Job.run_bind, Job.run_perform]
  refine outcome_bind_perform (herr (by nofun) rfl) fun _ w₁ h₁ => ?_
  replace h₁ := perform_ok_store h₁ fun _ => rfl
  refine outcome_bind_perform (herr (by nofun) h₁) fun _ w₂ h₂ => ?_
  replace h₂ := (perform_ok_store h₂ fun _ => rfl).trans h₁
  refine outcome_bind_perform (herr (by nofun) h₂) fun _ w₃ h₃ => ?_
  replace h₃ := (perform_ok_store h₃ fun _ => rfl).trans h₂
  refine outcome_bind_perform (herr (by nofun) h₃) fun present w₄ h₄ => ?_
  have hpresent : present = (w.store.objects ⟨.gcs, b, k⟩).isSome := by
    have := (perform_ok h₄).2
    simp only [IOCall.apply, h₃, Prod.mk.injEq, Except.ok.injEq] at this
    exact this.1.symm
  replace h₄ := (perform_ok_store h₄ fun _ => rfl).trans h₃
  cases present with
  | true =>
    -- the refresh branch: set the hold, then clear it
    rw [if_pos rfl]
    simp only [Job.run_bind, Job.run_perform]
    refine outcome_bind_perform (herr (by nofun) h₄) fun _ w₅ h₅ => ?_
    obtain ⟨o, ho, h₅⟩ := perform_patch_ok h₅
    rw [h₄] at ho h₅
    change GcsOutcome _ l _ (perform env (.patch b k false n) w₅).1
      (perform env (.patch b k false n) w₅).2.store
    rcases h₆ : perform env (.patch b k false n) w₅ with ⟨e | _, w₆⟩
    · refine Or.inr ((perform_error_store (by nofun) h₆).trans ?_)
      rw [h₅, ho]
      rfl
    · obtain ⟨o', ho', h₆⟩ := perform_patch_ok h₆
      rw [h₅] at ho' h₆
      simp only [Store.setObject_objects, Function.update_same, Option.some.injEq] at ho'
      subst ho'
      simp [GcsOutcome, h₆, ho, refreshedOrUploaded]
  | false =>
    -- the upload branch
    change GcsOutcome _ l _ (perform env (.uploadFromFilename l b k n) w₄).1
      (perform env (.uploadFromFilename l b k n) w₄).2.store
    have ho : w.store.objects ⟨.gcs, b, k⟩ = none := Option.not_isSome_iff_eq_none.mp (by
      simp [← hpresent])
    rcases h₅ : perform env (.uploadFromFilename l b k n) w₄ with ⟨e | _, w₅⟩
    · exact Or.inl ((perform_error_store (by nofun) h₅).trans h₄)
    · have ha := (perform_ok h₅).2
      simp only [IOCall.apply, h₄] at ha
      split at ha
      · obtain ⟨-, hs⟩ := Prod.mk.inj ha
        simp [GcsOutcome, ho, refreshedOrUploaded, ‹w.store.files l = _›, ← hs]
      · cases ha

/-- What the retry loop can do, from any attempt on: the same as one attempt. -/
theorem gcsLoop_outcome : ∀ (fuel n : Nat) (w : World),
    GcsOutcome ⟨.gcs, b, k⟩ l w.store ((gcsLoop b l k fuel n).run env w).1
      ((gcsLoop b l k fuel n).run env w).2.store
  | 0, _, _ => Or.inl rfl
  | fuel + 1, n, w => by
    simp only [gcsLoop, Job.run_tryCatch_except]
    have hA := @gcsAttempt_outcome env b l k n w
    show GcsOutcome _ l _ (Py.tryCatch _ _ w).1 (Py.tryCatch _ _ w).2.store
    unfold Py.tryCatch
    revert hA
    rcases (gcsAttempt b l k n).run env w with ⟨e | _, w₁⟩ <;> intro hA
    · refine GcsOutcome.of_error hA ?_
      cases e with
      | os =>
        simp only [Job.run_bind, Job.run_perform]
        refine outcome_bind_perform (fun _ _ h => Or.inl (perform_error_store (by nofun) h))
          fun _ w₂ h₂ => ?_
        rw [← perform_ok_store h₂ fun _ => rfl]
        exact gcsLoop_outcome fuel _ w₂
      | _ => exact Or.inl rfl
    · exact hA

/-! ### When every releasing `patch` fails -/

variable {errno : Nat}
  (hset : ∀ n, (∀ h, env.fault (.handle h b k n) = none) ∧ env.fault (.blobExists b k n) = none ∧
    env.fault (.patch b k true n) = none)
  (hrel : ∀ n, env.fault (.patch b k false n) = some (.os errno))

include hset hrel

/-- An attempt on an object whose releasing `patch` raises `socket.error` sets the hold and
raises. -/
theorem gcsAttempt_releaseFails (n : Nat) {w : World} {o : Obj}
    (ho : w.store.objects ⟨.gcs, b, k⟩ = some o) :
    ((gcsAttempt b l k n).run env w).1 = .error (.os errno) ∧
      ((gcsAttempt b l k n).run env w).2.store = w.store.setObject ⟨.gcs, b, k⟩ (some o.held) := by
  obtain ⟨hh, he, hp⟩ := hset n
  simp only [gcsAttempt, Job.run_bind, Job.run_perform, Py.bind_apply, perform, act, hh, he,
    IOCall.apply, ho, Option.isSome_some, if_true]
  simp [Job.perform, Job.run, Py.bind_apply, perform, act, hp, hrel, IOCall.apply, ho,
    IOCall.afterFault, Fault.err, Obj.held]

/-- One iteration of the loop under the same faults: the attempt sets the hold and raises
`socket.error`, the loop sleeps and goes on. -/
theorem gcsLoop_releaseFails_step (hsleep : env.fault (.sleep 15) = none) (fuel n : Nat) {w : World}
    {o : Obj} (ho : w.store.objects ⟨.gcs, b, k⟩ = some o) :
    ∃ w₂ : World, (gcsLoop b l k (fuel + 1) n).run env w = (gcsLoop b l k fuel (n + 1)).run env w₂ ∧
      w₂.store.objects ⟨.gcs, b, k⟩ = some o.held := by
  obtain ⟨h₁, h₂⟩ := gcsAttempt_releaseFails hset hrel (l := l) n ho
  obtain ⟨w₁, hA, hw₁⟩ : ∃ w₁, (gcsAttempt b l k n).run env w = (.error (.os errno), w₁) ∧
      w₁.store = w.store.setObject ⟨.gcs, b, k⟩ (some o.held) := ⟨_, Prod.ext h₁ rfl, h₂⟩
  refine ⟨⟨w₁.store, w₁.log ++ [.call (.sleep 15) true]⟩, ?_, by simp [hw₁]⟩
  simp only [gcsLoop, Job.run_tryCatch_except]
  rw [Py.tryCatch_error hA]
  simp only [Job.run_bind, Job.perform, Job.run, Py.bind_apply, perform, act, hsleep, IOCall.apply]
  rfl

/-- When every releasing `patch` raises `socket.error`, the loop gives up and leaves the hold
set, whatever it was. -/
theorem gcsLoop_releaseFails (hsleep : env.fault (.sleep 15) = none) (fuel : Nat) :
    ∀ (n : Nat) {w : World} {o : Obj}, w.store.objects ⟨.gcs, b, k⟩ = some o →
      ((gcsLoop b l k (fuel + 1) n).run env w).1 = .error (gcsGiveUp b k) ∧
      ((gcsLoop b l k (fuel + 1) n).run env w).2.store.objects ⟨.gcs, b, k⟩ = some o.held := by
  induction fuel with
  | zero =>
    intro n w o ho
    obtain ⟨w₂, hr, h₂⟩ := gcsLoop_releaseFails_step hset hrel (l := l) hsleep 0 n ho
    rw [hr]
    exact ⟨rfl, h₂⟩
  | succ fuel ih =>
    intro n w o ho
    obtain ⟨w₂, hr, h₂⟩ := gcsLoop_releaseFails_step hset hrel (l := l) hsleep (fuel + 1) n ho
    rw [hr, ← Obj.held_held]
    exact ih (n + 1) h₂

end Loop

/-! ### The hold -/

/-- A world holding one GCS object at `b`/`k`: a complete bundle, with hold `h`. -/
def gcsWorld (b k : String) (h : Bool) : World :=
  ⟨Store.empty.setObject ⟨.gcs, b, k⟩ (some ⟨.bundle 1, h⟩), []⟩

/-- An outside world in which every releasing `patch` raises `socket.error` (`ECONNRESET`). -/
def releaseFailsEnv : Env :=
  ⟨fun c => match c with
    | .patch _ _ false _ => some (.os 104)
    | _ => none, fun _ => "", fun _ => 0, fun _ => none⟩

end HgBundles
