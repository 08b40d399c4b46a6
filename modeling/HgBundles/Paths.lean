import HgBundles.Generate

/-!
# HgBundles.Paths — bundle names do not collide

`bundlePaths root repo tip t` names a bundle `tip.t.hg`, in `root` locally and under `repo/`
remotely. For the four `CREATES` types no suffix `.t.hg` ends another (`typeSuffix_suffix`), so
a name determines its tip and type (`basename_inj`); with a tip free of `/` the last `/` of a
remote key separates the repository (`remote_inj`), and a local path determines its directory
(`final_inj`). A temporary path ends in `p`, a final one in `g` (`temp_ne_final`).
-/

namespace HgBundles

/-- The bundle types of `CREATES`. -/
def createsTypes : List String := creates.map Prod.fst

/-- `'%s.%s.hg' % (tag, typ)`. -/
def basename (tag typ : String) : String := tag ++ "." ++ typ ++ ".hg"

theorem bundlePaths_eq (root repo tag typ : String) :
    bundlePaths root repo tag typ =
      (pathJoin root (basename tag typ), repo ++ "/" ++ basename tag typ) := rfl

/-- The characters `.typ.hg` that end a bundle name. -/
def typeSuffix (t : String) : List Char := '.' :: t.data ++ ['.', 'h', 'g']

theorem basename_data (tag t : String) : (basename tag t).data = tag.data ++ typeSuffix t := by
  simp [basename, typeSuffix]

/-- No type's suffix ends another type's. -/
theorem typeSuffix_suffix :
    ∀ t ∈ createsTypes, ∀ t' ∈ createsTypes, typeSuffix t <:+ typeSuffix t' → t = t' := by
  decide

theorem slash_not_mem_typeSuffix : ∀ t ∈ createsTypes, '/' ∉ typeSuffix t := by
  decide

theorem sep_not_mem_typeSuffix : ∀ t ∈ createsTypes, '\n' ∉ typeSuffix t ∧ ' ' ∉ typeSuffix t := by
  decide

/-- A bundle name determines its tip and its type. -/
theorem basename_inj {T T' t t' : String} (ht : t ∈ createsTypes) (ht' : t' ∈ createsTypes)
    (h : basename T t = basename T' t') : T = T' ∧ t = t' := by
  have hd := congrArg String.data h
  rw [basename_data, basename_data] at hd
  have h₁ : typeSuffix t <:+ T'.data ++ typeSuffix t' := hd ▸ List.suffix_append _ _
  obtain rfl : t = t' :=
    (List.suffix_or_suffix_of_suffix h₁ (List.suffix_append _ _)).elim
      (typeSuffix_suffix t ht t' ht') fun h₂ => (typeSuffix_suffix t' ht' t ht h₂).symm
  exact ⟨String.ext (List.append_cancel_right hd), rfl⟩

theorem slash_not_mem_basename {T t : String} (hT : '/' ∉ T.data) (ht : t ∈ createsTypes) :
    '/' ∉ (basename T t).data := by
  rw [basename_data, List.mem_append, not_or]
  exact ⟨hT, slash_not_mem_typeSuffix t ht⟩

/-! ### Splitting at the last `/` -/

theorem append_slash_inj {a b x y : List Char} (hx : '/' ∉ x) (hy : '/' ∉ y)
    (h : a ++ '/' :: x = b ++ '/' :: y) : a = b ∧ x = y := by
  rcases List.append_eq_append_iff.mp h with ⟨a', rfl, h'⟩ | ⟨c', rfl, h'⟩
  · cases a' with
    | nil => simpa using h'
    | cons z zs =>
      obtain ⟨rfl, rfl⟩ := List.cons_eq_cons.mp h'
      exact absurd (by simp) hx
  · cases c' with
    | nil => simpa using h'.symm
    | cons z zs =>
      obtain ⟨rfl, rfl⟩ := List.cons_eq_cons.mp h'
      exact absurd (by simp) hy

theorem isabs_eq_false_of_slash_not_mem {b : String} (h : '/' ∉ b.data) : isabs b = false := by
  cases hb : b.data with
  | nil => simp [isabs, startswith, hb]
  | cons c cs => exact isabs_eq_false_of_head hb fun hc => h (by simp [hb, hc])

/-- The directory part of a path ends in `/` unless it is empty. -/
theorem dirPrefix_eq_slash {a : String} (ha : a ≠ "") : ∃ x : List Char, (dirPrefix a).data = x ++ ['/'] := by
  unfold dirPrefix
  split_ifs with h
  · obtain ⟨x, hx⟩ := List.getLast?_eq_some_iff.mp (h.resolve_left ha)
    exact ⟨x, hx⟩
  · exact ⟨a.data, by simp⟩

/-- Two paths in directories, with names free of `/`, are equal only with equal directories
and names. -/
theorem dirPrefix_append_inj {d d' b b' : String} (hd : d ≠ "") (hd' : d' ≠ "")
    (hb : '/' ∉ b.data) (hb' : '/' ∉ b'.data) (h : dirPrefix d ++ b = dirPrefix d' ++ b') :
    dirPrefix d = dirPrefix d' ∧ b = b' := by
  obtain ⟨x, hx⟩ := dirPrefix_eq_slash hd
  obtain ⟨x', hx'⟩ := dirPrefix_eq_slash hd'
  have hdata := congrArg String.data h
  simp only [String.data_append, hx, hx', List.append_assoc, List.singleton_append] at hdata
  obtain ⟨rfl, hbb⟩ := append_slash_inj hb hb' hdata
  exact ⟨String.ext (hx.trans hx'.symm), String.ext hbb⟩

/-! ### The three facts -/

/-- A remote key determines the repository, the tip and the type. -/
theorem remote_inj {R R' T T' t t' root root' : String} (hT : '/' ∉ T.data) (hT' : '/' ∉ T'.data)
    (ht : t ∈ createsTypes) (ht' : t' ∈ createsTypes)
    (h : (bundlePaths root R T t).2 = (bundlePaths root' R' T' t').2) :
    R = R' ∧ T = T' ∧ t = t' := by
  have hdata := congrArg String.data h
  simp only [bundlePaths_eq, String.data_append, List.append_assoc] at hdata
  obtain ⟨hR, hb⟩ := append_slash_inj (slash_not_mem_basename hT ht)
    (slash_not_mem_basename hT' ht') (by simpa using hdata)
  exact ⟨String.ext hR, basename_inj ht ht' (String.ext hb)⟩

theorem pathJoin_basename {root T t : String} (hT : '/' ∉ T.data) (ht : t ∈ createsTypes) :
    pathJoin root (basename T t) = dirPrefix root ++ basename T t :=
  pathJoin_of_not_isabs (isabs_eq_false_of_slash_not_mem (slash_not_mem_basename hT ht))

/-- In one directory, a final path determines the tip and the type. -/
theorem final_inj {R R' T T' t t' root : String} (hT : '/' ∉ T.data)
    (hT' : '/' ∉ T'.data) (ht : t ∈ createsTypes) (ht' : t' ∈ createsTypes)
    (h : (bundlePaths root R T t).1 = (bundlePaths root R' T' t').1) : T = T' ∧ t = t' := by
  have hd := congrArg String.data h
  simp only [bundlePaths_eq, pathJoin_basename hT ht, pathJoin_basename hT' ht',
    String.data_append] at hd
  exact basename_inj ht ht' (String.ext (List.append_cancel_left hd))

theorem suffix_pathJoin (a b : String) : b.data <:+ (pathJoin a b).data := by
  unfold pathJoin
  split_ifs
  · exact List.suffix_refl _
  · exact List.suffix_append _ _
  · exact ⟨a.data ++ ['/'], by simp⟩

theorem getLast_final (root R T t : String) :
    (bundlePaths root R T t).1.data.getLast? = some 'g' := by
  obtain ⟨l, hl⟩ := suffix_pathJoin root (basename T t)
  have hg : (basename T t).data = (T.data ++ '.' :: t.data ++ ['.', 'h']) ++ ['g'] := by
    simp [basename_data, typeSuffix]
  rw [bundlePaths_eq, ← hl, hg, ← List.append_assoc, List.getLast?_concat]

/-- Below a directory that ends in `/`, the directory part is taken of the rest. -/
theorem dirPrefix_append_of_slash {P R : String} (hP : P.data.getLast? = some '/') :
    dirPrefix (P ++ R) = P ++ dirPrefix R := by
  have hne : P ++ R ≠ "" := fun h => by
    have hd : P.data ++ R.data = [] := congrArg String.data h
    simp [List.append_eq_nil.mp hd] at hP
  have hlast : (P ++ R).data.getLast? = some '/' ↔ R = "" ∨ R.data.getLast? = some '/' := by
    rcases hR : R.data.getLast? with _ | c
    · have : R = "" := String.ext (List.getLast?_eq_none_iff.mp hR)
      simp [this, hP]
    · have : R ≠ "" := fun h => by simp [h] at hR
      simp [hR, this]
  unfold dirPrefix
  by_cases h : R = "" ∨ R.data.getLast? = some '/'
  · rw [if_pos (Or.inr (hlast.mpr h)), if_pos h]
  · rw [if_neg (by simpa [hne] using mt hlast.mp h), if_neg h, String.append_assoc]

/-- Local bundle files of two repositories coincide only for the same tip, the same type, and
repository names that name the same directory (equal but for a trailing `/`). -/
theorem local_final_inj {R R' T T' t t' : String} (hR : isabs R = false) (hR' : isabs R' = false)
    (hT : '/' ∉ T.data) (hT' : '/' ∉ T'.data) (ht : t ∈ createsTypes) (ht' : t' ∈ createsTypes)
    (h : (bundlePaths (pathJoin bundleRoot R) R T t).1 =
      (bundlePaths (pathJoin bundleRoot R') R' T' t').1) :
    T = T' ∧ t = t' ∧ dirPrefix R = dirPrefix R' := by
  have hroot : dirPrefix bundleRoot = bundleRoot ++ "/" := by decide
  have hslash : (bundleRoot ++ "/").data.getLast? = some '/' := by decide
  have hne : ∀ X, bundleRoot ++ "/" ++ X ≠ "" := fun X h => by
    have hd : bundleRoot.data ++ ['/'] ++ X.data = [] := congrArg String.data h
    simp at hd
  simp only [bundlePaths_eq, pathJoin_basename hT ht, pathJoin_basename hT' ht',
    pathJoin_of_not_isabs hR, pathJoin_of_not_isabs hR', hroot] at h
  obtain ⟨hd, hb⟩ := dirPrefix_append_inj (hne R) (hne R') (slash_not_mem_basename hT ht)
    (slash_not_mem_basename hT' ht') h
  rw [dirPrefix_append_of_slash hslash, dirPrefix_append_of_slash hslash] at hd
  obtain ⟨rfl, rfl⟩ := basename_inj ht ht' hb
  exact ⟨rfl, rfl, String.ext (List.append_cancel_left (congrArg String.data hd))⟩

/-- A temporary path is never a final path. -/
theorem temp_ne_final (root root' R R' T T' t t' : String) :
    (bundlePaths root R T t).1 ++ ".tmp" ≠ (bundlePaths root' R' T' t').1 := fun h => by
  have := getLast_final root' R' T' t'
  rw [← h] at this
  simp at this

end HgBundles
