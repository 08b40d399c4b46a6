import HgBundles.Fleet
import HgBundles.Manifest
import HgBundles.Progress

/-!
# HgBundles.Formats — the repository list `main` reads

`main -f FILE` reads `FILE` with `readlines`, strips each line on the right, splits it on
whitespace into a path and options, and splits each option at its first `=` (a bare name is
`True`). A list written one repository per line, as `repoListText` writes it, reads back as the
repositories and options it was written from:

* `Opt.render`, `repoLine`, `repoListText`: a repository line and a list file;
* `LineOk`: a line reads back when its words have no whitespace, option names are not empty,
  have no `=` and are not repeated (a value may hold `=`, and may be empty);
* `parseItem_repoLine`: one line parses to its path and options;
* `main_reads_repository_list`: reading a list file and parsing its lines gives the list back.
-/

namespace HgBundles

/-! ### Lines -/

/-- One option as a repository line writes it: `key=value`, or a bare `key` for `True`. -/
def Opt.render : String × Opt → String
  | (k, .str v) => k ++ "=" ++ v
  | (k, .flag) => k

/-- A repository line: the path, then its options, separated by single spaces. -/
def repoLine (repo : String) (opts : List (String × Opt)) : String :=
  joinWith ' ' (repo :: opts.map Opt.render)

/-- A list file: one repository line per repository, each ending in a newline. -/
def repoListText (repos : List (String × List (String × Opt))) : String :=
  String.join (repos.map fun r => repoLine r.1 r.2 ++ "\n")

/-- A repository line that reads back as written: no whitespace in its words, option names that
are not empty, have no `=` and are not repeated. -/
def LineOk (repo : String) (opts : List (String × Opt)) : Prop :=
  repo ≠ "" ∧ NoSpace repo ∧ (opts.map Prod.fst).Nodup ∧
    ∀ o ∈ opts, o.1 ≠ "" ∧ '=' ∉ o.1.data ∧ NoSpace (Opt.render o)

instance (repo : String) (opts : List (String × Opt)) : Decidable (LineOk repo opts) :=
  inferInstanceAs (Decidable (_ ∧ _ ∧ _ ∧ _))

theorem data_ne_nil {s : String} (h : s ≠ "") : s.data ≠ [] := fun hs =>
  h (String.ext hs)

theorem parseAttr_render {o : String × Opt} (hk : '=' ∉ o.1.data) : parseAttr (Opt.render o) = o := by
  obtain ⟨k, v | _⟩ := o
  · simp only [Opt.render, parseAttr]
    rw [show k ++ "=" ++ v = k ++ String.mk ['='] ++ v from rfl, splitOnce_append hk]
  · simp only [Opt.render, parseAttr, splitOnce, if_neg hk, List.headD_cons]

/-- Adding options with new, distinct names to `attrs` appends them in order. -/
theorem foldl_dictSet_render : ∀ {opts acc : List (String × Opt)}, (∀ o ∈ opts, '=' ∉ o.1.data) →
    ((acc ++ opts).map Prod.fst).Nodup →
    (opts.map Opt.render).foldl (fun attrs field => dictSet attrs (parseAttr field).1
      (parseAttr field).2) acc = acc ++ opts
  | [], _, _, _ => by simp
  | o :: opts, acc, hk, hnd => by
    have hnew : o.1 ∉ acc.map Prod.fst := fun hm =>
      (List.nodup_append.mp (List.map_append Prod.fst _ _ ▸ hnd)).2.2 hm
        (List.mem_map_of_mem _ (List.mem_cons_self o opts))
    rw [List.map_cons, List.foldl_cons, parseAttr_render (hk o (List.mem_cons_self _ _)),
      dictSet_of_not_mem hnew, foldl_dictSet_render (fun o' h => hk o' (List.mem_cons_of_mem _ h))
        (by simpa using hnd)]
    simp

/-- The words of a line that reads back have no whitespace and are not empty. -/
theorem words_repoLine {repo : String} {opts : List (String × Opt)} (h : LineOk repo opts) :
    ∀ w ∈ repo :: opts.map Opt.render, w.data ≠ [] ∧ ∀ x ∈ w.data, isSpace x = false := by
  obtain ⟨hr, hrs, -, ho⟩ := h
  simp only [List.mem_cons, List.mem_map]
  rintro w (rfl | ⟨o, hm, rfl⟩)
  · exact ⟨data_ne_nil hr, hrs⟩
  · refine ⟨?_, (ho o hm).2.2⟩
    obtain ⟨k, v | _⟩ := o
    · simp [Opt.render]
    · exact data_ne_nil (ho _ hm).1

theorem parseItem_repoLine {repo : String} {opts : List (String × Opt)} (h : LineOk repo opts) :
    parseItem (repoLine repo opts) = .ok (repo, opts) := by
  have hk : ∀ o ∈ opts, '=' ∉ o.1.data := fun o hm => (h.2.2.2 o hm).2.1
  simp only [parseItem, repoLine, split_joinWith (words_repoLine h), List.drop_one, List.tail_cons,
    @foldl_dictSet_render _ [] hk (by simpa using h.2.2.1), List.nil_append]

/-! ### List files -/

theorem data_foldl_append (l : List String) (acc : String) :
    (l.foldl (fun r s => r ++ s) acc).data = acc.data ++ (l.map String.data).flatten := by
  induction l generalizing acc with
  | nil => simp
  | cons s l ih => simp [ih]

/-- `''.join(l)`, as characters. -/
@[simp] theorem data_join (l : List String) : (String.join l).data = (l.map String.data).flatten := by
  simp [String.join, data_foldl_append]

/-- The last character of a line of words with no whitespace is not whitespace. -/
theorem getLast_joinWith : ∀ {ws : List String}, ws ≠ [] →
    (∀ w ∈ ws, w.data ≠ [] ∧ ∀ x ∈ w.data, isSpace x = false) →
    ∃ x, (joinWith ' ' ws).data.getLast? = some x ∧ isSpace x = false
  | [], hne, _ => absurd rfl hne
  | [w], _, hw => by
    obtain ⟨hne, hs⟩ := hw w (List.mem_singleton_self w)
    rw [joinWith_singleton]
    obtain ⟨x, hx⟩ := Option.ne_none_iff_exists'.mp (mt List.getLast?_eq_none_iff.mp hne)
    exact ⟨x, hx, hs x (List.mem_of_getLast?_eq_some hx)⟩
  | a :: b :: l, _, hw => by
    obtain ⟨x, hx, hs⟩ := getLast_joinWith (List.cons_ne_nil b l)
      fun w hm => hw w (List.mem_cons_of_mem _ hm)
    refine ⟨x, ?_, hs⟩
    rw [joinWith_cons_cons, String.data_append, List.getLast?_append, hx]
    rfl

/-- `(l + '\n').rstrip()` is `l` when `l` does not end in whitespace. -/
theorem rstrip_newline {l : String} (hl : ∀ x, l.data.getLast? = some x → isSpace x = false) :
    rstrip (l ++ "\n") = l := by
  apply String.ext
  have hd : (l.data.reverse).dropWhile isSpace = l.data.reverse := by
    cases hr : l.data.reverse with
    | nil => rfl
    | cons x xs =>
      have hx : isSpace x = false := hl x (by rw [← List.head?_reverse, hr]; rfl)
      simp [List.dropWhile_cons, hx]
  have hn : isSpace '\n' = true := rfl
  simp [rstrip, List.dropWhile_cons, hn, hd]

theorem readlinesAux_line {rest : List Char} : ∀ {l acc : List Char}, '\n' ∉ l →
    readlinesAux (l ++ '\n' :: rest) acc = String.mk (acc.reverse ++ l ++ ['\n']) :: readlinesAux rest []
  | [], acc, _ => by simp [readlinesAux]
  | c :: l, acc, hl => by
    rw [List.cons_append, readlinesAux, if_neg (fun h : c = '\n' => hl (h ▸ List.mem_cons_self _ _)),
      readlinesAux_line (fun h => hl (List.mem_cons_of_mem _ h))]
    simp

/-- `bytes.readlines()` of lines without a newline, each ended by one. -/
theorem readlines_join : ∀ {ls : List String}, (∀ l ∈ ls, '\n' ∉ l.data) →
    readlines (String.join (ls.map (· ++ "\n"))) = ls.map (· ++ "\n")
  | [], _ => rfl
  | l :: ls, h => by
    have hrest := readlines_join fun l' hm => h l' (List.mem_cons_of_mem _ hm)
    simp only [readlines, data_join, List.map_cons, List.map_map] at hrest ⊢
    rw [List.flatten_cons, show (l ++ "\n").data = l.data ++ ['\n'] by simp, List.append_assoc,
      List.singleton_append, readlinesAux_line (h l (List.mem_cons_self _ _)), hrest]
    simp only [List.reverse_nil, List.nil_append, List.cons.injEq, and_true]
    exact String.ext (by simp)

/-- Parsing lines that each read back gives their repositories, in order. -/
theorem parseItems_repoLines : ∀ {repos : List (String × List (String × Opt))},
    (∀ r ∈ repos, LineOk r.1 r.2) → ∀ w, parseItems (repos.map fun r => repoLine r.1 r.2) w = (.ok repos, w)
  | [], _, _ => rfl
  | (repo, opts) :: repos, h, w => by
    simp only [List.map_cons, parseItems, parseItem_repoLine (h _ (List.mem_cons_self _ _))]
    rw [Py.bind_ok (parseItems_repoLines (fun r hm => h r (List.mem_cons_of_mem _ hm)) w)]
    rfl

/-- A line that reads back holds no newline and does not end in whitespace. -/
theorem repoLine_clean {repo : String} {opts : List (String × Opt)} (h : LineOk repo opts) :
    '\n' ∉ (repoLine repo opts).data ∧
      ∀ x, (repoLine repo opts).data.getLast? = some x → isSpace x = false := by
  refine ⟨fun hm => ?_, fun x hx => ?_⟩
  · rcases mem_joinWith hm with hc | ⟨w, hw, hx⟩
    · cases hc
    · exact absurd ((words_repoLine h w hw).2 _ hx) (by decide)
  · obtain ⟨y, hy, hs⟩ := getLast_joinWith (List.cons_ne_nil _ _) (words_repoLine h)
    exact (Option.some.inj (hx.symm.trans hy)) ▸ hs

/-- **`main` reads a repository list as written.** A list file written one repository per line,
read with `-f`, gives `main`'s loop exactly the repositories and options it was written from, in
order, and changes nothing. -/
theorem main_reads_repository_list (env : Env) (path : String) (remaining : List String)
    (repos : List (String × List (String × Opt))) (w : World) (hp : path ≠ "")
    (hf : env.fault (.readlines path) = none)
    (hfile : w.store.files path = some (.text (repoListText repos)))
    (hok : ∀ r ∈ repos, LineOk r.1 r.2) :
    (readItems env (some path) remaining >>= parseItems) w =
      (.ok repos, ⟨w.store, w.log ++ [.call (.readlines path) true]⟩) := by
  have hlines : readlines (repoListText repos) = (repos.map fun r => repoLine r.1 r.2).map (· ++ "\n") := by
    rw [repoListText, ← readlines_join (fun l hl => by
      obtain ⟨r, hr, rfl⟩ := List.mem_map.mp hl
      exact (repoLine_clean (hok r hr)).1), List.map_map]
    rfl
  have hstrip : ((repos.map fun r => repoLine r.1 r.2).map (· ++ "\n")).map rstrip =
      repos.map fun r => repoLine r.1 r.2 := by
    simp only [List.map_map]
    exact List.map_congr_left fun r hr => rstrip_newline (repoLine_clean (hok r hr)).2
  simp only [readItems, if_neg hp]
  rw [Py.bind_apply, Py.bind_apply]
  simp only [perform, act, hf, IOCall.apply, hfile, hlines, Py.pure_apply, hstrip]
  exact parseItems_repoLines hok _

/-- A list of three repositories: a plain one, one with a bare option, one with a value. -/
def sampleRepos : List (String × List (String × Opt)) :=
  [("mozilla-central", []), ("integration/autoland", [("zstd_max", .flag)]),
    ("releases/mozilla-esr", [("copyfrom", .str "mozilla-central")])]

/-- The world holding `sampleRepos` as the list file `repos.txt`. -/
def sampleListWorld : World :=
  ⟨Store.empty.setFile "repos.txt" (some (.text (repoListText sampleRepos))), []⟩

theorem main_reads_repository_list_sample :
    "repos.txt" ≠ "" ∧ (quietEnv "").fault (.readlines "repos.txt") = none ∧
    sampleListWorld.store.files "repos.txt" = some (.text (repoListText sampleRepos)) ∧
    (∀ r ∈ sampleRepos, LineOk r.1 r.2) ∧
    (readItems (quietEnv "") (some "repos.txt") [] >>= parseItems) sampleListWorld =
      (.ok sampleRepos, ⟨sampleListWorld.store,
        sampleListWorld.log ++ [.call (.readlines "repos.txt") true]⟩) := by
  have hp : "repos.txt" ≠ "" := by decide
  have hfile : sampleListWorld.store.files "repos.txt" = some (.text (repoListText sampleRepos)) := by
    simp [sampleListWorld]
  have hok : ∀ r ∈ sampleRepos, LineOk r.1 r.2 := by decide
  exact ⟨hp, rfl, hfile, hok, main_reads_repository_list _ _ _ _ _ hp rfl hfile hok⟩

end HgBundles
