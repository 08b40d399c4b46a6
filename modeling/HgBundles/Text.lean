import Mathlib.Data.List.Basic

/-!
# HgBundles.Text — the Python string operations of the bundle script

A Python `str` is a Lean `String`; every operation here works on its character list, so its
lemmas are list lemmas.

* `startswith`, `isabs` and `pathJoin` (`posixpath.join` of two components);
* `split` (`str.split()`, on runs of `isSpace`), `splitOn` (`str.split(c)`), `splitOnce`
  (`str.split(c, 1)`) and `joinWith` (`c.join(...)`);
* `readlines` (`bytes.readlines()`), `replaceChar` (`str.replace` of one character) and
  `commas` (`'{:,}'.format`).

`split_joinWith` and `splitOn_joinWith` are the two round trips the clonebundles parser needs.
-/

namespace HgBundles

/-- `s.startswith(pre)`. -/
def startswith (s pre : String) : Bool := pre.data.isPrefixOf s.data

/-- `os.path.isabs(s)` on POSIX. -/
def isabs (s : String) : Bool := startswith s "/"

/-- `posixpath.join(a, b)`: `b` when it is absolute, else `a` and `b` with one `/` between. -/
def pathJoin (a b : String) : String :=
  if isabs b then b
  else if a = "" ∨ a.data.getLast? = some '/' then a ++ b
  else a ++ "/" ++ b

/-- The characters of Python's `str.isspace`, on which `str.split()` splits. -/
def isSpace (c : Char) : Bool :=
  let n := c.toNat
  (9 ≤ n && n ≤ 13) || (28 ≤ n && n ≤ 32) || n == 133 || n == 160 || n == 5760 ||
    (8192 ≤ n && n ≤ 8202) || n == 8232 || n == 8233 || n == 8239 || n == 8287 || n == 12288

/-- `s.split()`: the maximal runs of non-whitespace characters, in order. -/
def split (s : String) : List String :=
  ((s.data.splitOnP isSpace).filter (· ≠ [])).map String.mk

/-- `s.split(c)`. -/
def splitOn (s : String) (c : Char) : List String := (s.data.splitOn c).map String.mk

/-- `s.split(c, 1)`: the text before the first `c` and the text after it, or `[s]`. -/
def splitOnce (s : String) (c : Char) : List String :=
  if c ∈ s.data then
    [String.mk (s.data.takeWhile (· ≠ c)), String.mk ((s.data.dropWhile (· ≠ c)).drop 1)]
  else [s]

/-- `c.join(xs)` for a one-character separator. -/
def joinWith (c : Char) (xs : List String) : String :=
  String.mk ([c].intercalate (xs.map String.data))

/-- `bytes.readlines()`: each line keeps its `\n`; a last line without one is kept if nonempty. -/
def readlinesAux : List Char → List Char → List String
  | [], acc => if acc = [] then [] else [String.mk acc.reverse]
  | c :: cs, acc =>
    if c = '\n' then String.mk (c :: acc).reverse :: readlinesAux cs [] else readlinesAux cs (c :: acc)

/-- `bytes.readlines()`. -/
def readlines (s : String) : List String := readlinesAux s.data []

/-- `s.replace(a, b)` for one-character `a` and `b`. -/
def replaceChar (s : String) (a b : Char) : String :=
  String.mk (s.data.map fun c => if c = a then b else c)

/-- Digits, least significant first, with a comma after every third one that is not the last. -/
def groupThree : List Char → List Char
  | a :: b :: c :: d :: rest => a :: b :: c :: ',' :: groupThree (d :: rest)
  | ds => ds

/-- `'{:,}'.format(n)`: the decimal digits of `n` in groups of three separated by commas. -/
def commas (n : Nat) : String := String.mk (groupThree (Nat.toDigits 10 n).reverse).reverse

example : commas 1234567 = "1,234,567" := by decide

/-! ### Prefixes and paths -/

@[simp] theorem startswith_iff (s pre : String) : startswith s pre = true ↔ pre.data <+: s.data := by
  simp [startswith]

theorem startswith_append (a b : String) : startswith (a ++ b) a = true := by
  simp

/-- The directory part `posixpath.join` puts before a relative component. -/
def dirPrefix (a : String) : String :=
  if a = "" ∨ a.data.getLast? = some '/' then a else a ++ "/"

theorem pathJoin_of_not_isabs {a b : String} (h : isabs b = false) :
    pathJoin a b = dirPrefix a ++ b := by
  unfold pathJoin dirPrefix
  split_ifs <;> simp_all [String.append_assoc]

theorem isabs_eq_false_of_head {b : String} {c : Char} {cs : List Char} (hb : b.data = c :: cs)
    (hc : c ≠ '/') : isabs b = false := by
  simp [isabs, startswith, hb, List.isPrefixOf, Ne.symm hc]

/-! ### Splitting and joining -/

@[simp] theorem mk_comp_data : String.mk ∘ String.data = id := rfl

section Split

variable {c : Char} {ws : List String}

theorem splitOnP_intercalate {p : Char → Bool} (hc : p c) :
    ∀ {ls : List (List Char)}, ls ≠ [] → (∀ l ∈ ls, ∀ x ∈ l, p x = false) →
      ([c].intercalate ls).splitOnP p = ls
  | [], h, _ => absurd rfl h
  | [l], _, hl => by
    simpa [List.intercalate] using
      List.splitOnP_eq_single p l (fun x hx => by simp [hl l (by simp) x hx])
  | l :: l' :: ls, _, hl => by
    have hcat : [c].intercalate (l :: l' :: ls) = l ++ c :: [c].intercalate (l' :: ls) := by
      simp [List.intercalate, List.intersperse_cons_cons]
    rw [hcat, List.splitOnP_first p l (fun x hx => by simp [hl l (by simp) x hx]) c hc,
      splitOnP_intercalate hc (List.cons_ne_nil _ _) (fun l hm => hl l (by simp [hm]))]

/-- Words without whitespace, joined by single spaces, split back into the same words. -/
theorem split_joinWith (hw : ∀ w ∈ ws, w.data ≠ [] ∧ ∀ x ∈ w.data, isSpace x = false) :
    split (joinWith ' ' ws) = ws := by
  by_cases hne : ws = []
  · subst hne; rfl
  have hsp := @splitOnP_intercalate ' ' isSpace rfl (ws.map String.data)
    (by simpa using hne) (by simpa using fun w hm => (hw w hm).2)
  simp only [split, joinWith, hsp]
  rw [List.filter_eq_self.mpr (by simpa using fun w hm => (hw w hm).1)]
  simp

/-- Lines without the separator, joined by it, split back into the same lines. -/
theorem splitOn_joinWith (hc : ∀ w ∈ ws, c ∉ w.data) (hne : ws ≠ []) :
    splitOn (joinWith c ws) c = ws := by
  simp only [splitOn, joinWith]
  rw [List.splitOn_intercalate _ c (by simpa using hc) (by simpa using hne)]
  simp

theorem splitOnce_append {k v : String} (hk : c ∉ k.data) :
    splitOnce (k ++ String.mk [c] ++ v) c = [k, v] := by
  have hne : ∀ x ∈ k.data, decide (x ≠ c) = true := fun x hx => by
    simpa using fun h : x = c => hk (h ▸ hx)
  have hw : (k.data ++ c :: v.data).takeWhile (· ≠ c) = k.data := by
    rw [List.takeWhile_append_of_pos hne]; simp
  have hd : (k.data ++ c :: v.data).dropWhile (· ≠ c) = c :: v.data := by
    rw [List.dropWhile_append_of_pos hne]; simp
  have hdata : (k ++ String.mk [c] ++ v).data = k.data ++ c :: v.data := by simp
  rw [splitOnce, if_pos (by simp), hdata, hw, hd]
  rfl

end Split

end HgBundles
