import HgBundles.Text
import Mathlib.Data.Finset.Sort
import Mathlib.Data.String.Basic

/-!
# HgBundles.Store — files, objects and the exceptions of the script

* `Err`: the exceptions, told apart as far as an `except` clause of the script looks at them;
  `Fault`: how the outside world can make a call fail.
* `Content`: what a file or an object holds, as far as the script can tell (a complete bundle,
  the incomplete output of a failed bundle creation, or text).
* `Store`: the local files by path, with the finite set of paths that hold one (what
  `os.listdir` enumerates), and the objects of the storage backends by bucket and key.

Directories are not represented: a file can be written at any path, and `listdir d` gives the
names of the files directly inside `d`.
-/

namespace HgBundles

/-- `errno.ENOENT`. -/
def ENOENT : Nat := 2

/-- `errno.EEXIST`. -/
def EEXIST : Nat := 17

/-- The exceptions of the script, as far as its `except` clauses tell them apart. -/
inductive Err where
  | os (errno : Nat)            -- `OSError`; `socket.error` is `OSError`
  | noCredentials               -- `botocore.exceptions.NoCredentialsError`
  | client (code : String)      -- `botocore.exceptions.ClientError`
  | calledProcess               -- `subprocess.CalledProcessError`
  | assertion                   -- `AssertionError`
  | type                        -- `TypeError` (a bad keyword argument)
  | index                       -- `IndexError`
  | exception (msg : String)    -- a bare `Exception` the script raises
  | other                       -- anything else a library raises
  deriving DecidableEq, Repr

/-- How the outside world can make a call fail. A `404` is not a fault: whether an object
exists is the state of the store, and the store answers it truthfully. -/
inductive Fault where
  | os (errno : Nat)
  | noCredentials
  | denied                      -- a `ClientError` with code `403`
  | calledProcess
  | other
  deriving DecidableEq, Repr

/-- The exception a fault raises. -/
def Fault.err : Fault → Err
  | .os n => .os n
  | .noCredentials => .noCredentials
  | .denied => .client "403"
  | .calledProcess => .calledProcess
  | .other => .other

/-- What a file or an object holds. -/
inductive Content where
  | bundle (size : Nat)         -- the complete output of a bundle creation that exited 0
  | incomplete (size : Nat)     -- what a failed bundle creation left behind
  | text (s : String)
  deriving DecidableEq, Repr

/-- `os.path.getsize`. -/
def Content.size : Content → Nat
  | .bundle n => n
  | .incomplete n => n
  | .text s => s.utf8ByteSize

/-- The two kinds of storage backends. -/
inductive Backend where
  | s3
  | gcs
  deriving DecidableEq, Repr

/-- An object: its backend, bucket and key. -/
structure ObjKey where
  backend : Backend
  bucket : String
  key : String
  deriving DecidableEq, Repr

/-- A stored object: its content and its event-based hold (set on GCS only). -/
structure Obj where
  content : Content
  hold : Bool
  deriving DecidableEq, Repr

/-- The local files, the paths that hold one, and the stored objects. -/
structure Store where
  files : String → Option Content
  paths : Finset String
  mem_paths : ∀ p, p ∈ paths ↔ (files p).isSome
  objects : ObjKey → Option Obj

namespace Store

/-- The path set is determined by the files. -/
theorem ext' {s t : Store} (hf : s.files = t.files) (ho : s.objects = t.objects) : s = t := by
  obtain ⟨f, P, hP, o⟩ := s
  obtain ⟨f', P', hP', o'⟩ := t
  obtain rfl : f = f' := hf
  obtain rfl : o = o' := ho
  obtain rfl : P = P' := Finset.ext fun p => (hP p).trans (hP' p).symm
  rfl

/-- Write (`some c`) or remove (`none`) the file at `p`. -/
def setFile (s : Store) (p : String) (o : Option Content) : Store where
  files := Function.update s.files p o
  paths := if o.isSome then insert p s.paths else s.paths.erase p
  mem_paths q := by
    by_cases hq : q = p
    · subst hq; cases o <;> simp
    · cases o <;> simp [hq, s.mem_paths]
  objects := s.objects

/-- Replace the object at `k`. -/
def setObject (s : Store) (k : ObjKey) (o : Option Obj) : Store :=
  { s with objects := Function.update s.objects k o }

@[simp] theorem setFile_files (s : Store) (p : String) (o : Option Content) :
    (s.setFile p o).files = Function.update s.files p o := rfl

@[simp] theorem setFile_objects (s : Store) (p : String) (o : Option Content) :
    (s.setFile p o).objects = s.objects := rfl

@[simp] theorem setObject_files (s : Store) (k : ObjKey) (o : Option Obj) :
    (s.setObject k o).files = s.files := rfl

@[simp] theorem setObject_objects (s : Store) (k : ObjKey) (o : Option Obj) :
    (s.setObject k o).objects = Function.update s.objects k o := rfl

@[simp] theorem setObject_setObject (s : Store) (k : ObjKey) (o o' : Option Obj) :
    (s.setObject k o).setObject k o' = s.setObject k o' := by
  simp only [setObject, Function.update_idem]

@[simp] theorem setFile_setFile (s : Store) (p : String) (o o' : Option Content) :
    (s.setFile p o).setFile p o' = s.setFile p o' :=
  ext' (by simp) rfl

@[simp] theorem setFile_self (s : Store) (p : String) : s.setFile p (s.files p) = s :=
  ext' (by simp) rfl

@[simp] theorem setObject_self (s : Store) (k : ObjKey) : s.setObject k (s.objects k) = s :=
  ext' rfl (by simp)

/-- The store with no file and no object. -/
def empty : Store := ⟨fun _ => none, ∅, by simp, fun _ => none⟩

/-! ### Directory listings -/

/-- The name of `p` in directory `d`, when `p` is a file directly inside `d`. -/
def entryName (d p : String) : Option String :=
  let rest := p.data.drop (dirPrefix d).data.length
  if (dirPrefix d).data <+: p.data ∧ rest ≠ [] ∧ '/' ∉ rest then some (String.mk rest) else none

/-- The names in directory `d` of a multiset of paths, in sorted order. -/
def sortedNames (d : String) (m : Multiset String) : List String :=
  Quot.liftOn m (fun l => (l.filterMap (entryName d)).insertionSort (· ≤ ·)) fun _ _ h =>
    List.eq_of_perm_of_sorted
      (((List.perm_insertionSort _ _).trans (h.filterMap _)).trans (List.perm_insertionSort _ _).symm)
      (List.sorted_insertionSort _ _) (List.sorted_insertionSort _ _)

theorem mem_sortedNames {d n : String} {m : Multiset String} :
    n ∈ sortedNames d m ↔ ∃ p ∈ m, entryName d p = some n :=
  Quot.inductionOn m fun l => by
    simp [sortedNames, (List.perm_insertionSort _ _).mem_iff]

/-- `os.listdir(d)`: the names of the files directly inside `d`, in sorted order. -/
def listdir (s : Store) (d : String) : List String := sortedNames d s.paths.val

theorem entryName_eq_some {d p n : String} :
    entryName d p = some n ↔ p = dirPrefix d ++ n ∧ n.data ≠ [] ∧ '/' ∉ n.data := by
  constructor
  · intro h
    simp only [entryName] at h
    split_ifs at h with hc
    obtain ⟨⟨t, ht⟩, hne, hsl⟩ := hc
    obtain rfl := Option.some.inj h
    rw [← ht, List.drop_left] at hne hsl ⊢
    exact ⟨String.ext (by simp [← ht]), hne, hsl⟩
  · rintro ⟨rfl, hne, hsl⟩
    have hd : (dirPrefix d ++ n).data.drop (dirPrefix d).data.length = n.data := by simp
    simp only [entryName, hd]
    rw [if_pos ⟨by simp, hne, hsl⟩]

theorem mem_listdir {s : Store} {d n : String} :
    n ∈ s.listdir d ↔ (s.files (dirPrefix d ++ n)).isSome ∧ n.data ≠ [] ∧ '/' ∉ n.data := by
  rw [listdir, mem_sortedNames]
  constructor
  · rintro ⟨p, hp, hm⟩
    obtain ⟨rfl, hne, hsl⟩ := entryName_eq_some.mp hm
    exact ⟨(s.mem_paths _).mp hp, hne, hsl⟩
  · rintro ⟨hp, hne, hsl⟩
    exact ⟨_, (s.mem_paths _).mpr hp, entryName_eq_some.mpr ⟨rfl, hne, hsl⟩⟩

theorem nodup_sortedNames (d : String) (m : Multiset String) (hm : m.Nodup) :
    (sortedNames d m).Nodup :=
  Quot.inductionOn m (fun l (hl : l.Nodup) =>
    (List.perm_insertionSort (fun a b : String => a ≤ b) _).nodup_iff.mpr
      (hl.filterMap fun p p' _ hp hp' => by
        rw [(entryName_eq_some.mp hp).1, (entryName_eq_some.mp hp').1])) hm

theorem nodup_listdir (s : Store) (d : String) : (s.listdir d).Nodup :=
  nodup_sortedNames d _ s.paths.nodup

end Store

end HgBundles
