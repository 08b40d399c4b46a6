import HgBundles.World

/-!
# HgBundles.Frame — what one call does to the files and the objects

* `IOCall.changes c p`: `c` may change the file at `p` (its output, the file it removes, the
  destination of a copy or a rename); every other file stays as it was (`act_files_frame`);
* `IOCall.removes c p`: `c` may remove the file at `p` (an `unlink` of it, a `rename` from it);
  every other call keeps a file that is there (`act_keeps_file`);
* no call removes an object (`act_keeps_object`).
-/

namespace HgBundles

/-- The calls that may change the file at `p`. -/
def IOCall.changes : IOCall → String → Prop
  | .createBundle _ out, p => p = out
  | .unlink q, p => p = q
  | .rename src dst, p => p = src ∨ p = dst
  | .copy2 _ dst, p => p = dst
  | .write q _, p => p = q
  | _, _ => False

/-- The calls that may remove the file at `p`. -/
def IOCall.removes : IOCall → String → Prop
  | .unlink q, p => p = q
  | .rename src _, p => p = src
  | _, _ => False

section Frame

variable {env : Env} {s : Store} {p : String}

theorem afterFault_files (c : IOCall) (h : ¬ c.changes p) : (c.afterFault env s).files p = s.files p := by
  cases c <;> simp only [IOCall.afterFault]
  case createBundle argv out =>
    cases env.leftover argv <;> simp [Function.update_noteq (show p ≠ out from h)]

theorem act_files_frame {c : IOCall} (h : ¬ c.changes p) : (act env c s).2.files p = s.files p := by
  unfold act
  cases env.fault c with
  | some f => exact afterFault_files c h
  | none =>
    cases c <;> simp only [IOCall.apply, IOCall.changes, not_or] at h ⊢
    all_goals first
      | rfl
      | (split <;> simp_all [Function.update_noteq])
      | simp_all [Function.update_noteq]

theorem afterFault_keeps_file (c : IOCall) (hp : (s.files p).isSome) :
    ((c.afterFault env s).files p).isSome := by
  cases c <;> simp only [IOCall.afterFault] <;> (repeat' split) <;>
    simp_all [Function.update_apply, apply_ite]

/-- A call keeps a file that is there unless it may remove it. -/
theorem act_keeps_file {c : IOCall} (h : ¬ c.removes p) (hp : (s.files p).isSome) :
    ((act env c s).2.files p).isSome := by
  by_cases hc : c.changes p
  · unfold act
    cases env.fault c with
    | some f => exact afterFault_keeps_file c hp
    | none =>
      cases c <;> simp only [IOCall.apply, IOCall.changes, IOCall.removes] at h hc ⊢
      all_goals first
        | simpa using hp
        | (split <;> simp_all [Function.update_apply])
        | simp_all [Function.update_apply]
  · rwa [act_files_frame hc]

/-- No call removes an object. -/
theorem act_keeps_object {c : IOCall} {k : ObjKey} (hk : (s.objects k).isSome) :
    ((act env c s).2.objects k).isSome := by
  unfold act
  cases env.fault c with
  | some f => cases c <;> simp only [IOCall.afterFault] <;> (repeat' split) <;> simpa using hk
  | none =>
    cases c <;> simp only [IOCall.apply] <;> (repeat' split) <;>
      simp_all [Function.update_apply, apply_ite]

end Frame

end HgBundles
