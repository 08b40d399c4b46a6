import HgBundles.Paths

/-!
# HgBundles.Manifest — the clonebundles manifest reads back as written

A client reads a manifest line by line (`splitOn` at `\n`), each line as whitespace-separated
words (`split`): a URL, then `key=value` parameters (`parseParam`). `parseManifest` is that
reading.

* `render_eq`: every line is its words joined by single spaces;
* `parseManifest_manifestText`: for a repository and a tip without whitespace, the manifest
  text reads back line by line as the URL and the parameters of each entry;
* `parse_manifest_described`: what `generate_bundles` assembles reads back as
  `describedManifest`, the manifest written out block by block from the constants.
-/

namespace HgBundles

/-! ### Reading a manifest -/

/-- `p.split('=', 1)` of a parameter, when it has an `=`. -/
def parseParam (p : String) : Option (String × String) :=
  match splitOnce p '=' with
  | [k, v] => some (k, v)
  | _ => none

/-- A manifest line: its first word is the URL, the others are parameters. -/
def parseLine (line : String) : Option (String × List (String × String)) :=
  match split line with
  | url :: params => (params.mapM parseParam).map fun ps => (url, ps)
  | [] => none

/-- The manifest read line by line. -/
def parseManifest (text : String) : List (Option (String × List (String × String))) :=
  (splitOn text '\n').map parseLine

/-! ### Lines as words -/

/-- No character of `s` is whitespace. -/
def NoSpace (s : String) : Prop := ∀ x ∈ s.data, isSpace x = false

instance (s : String) : Decidable (NoSpace s) := inferInstanceAs (Decidable (∀ x ∈ s.data, _))

@[simp] theorem noSpace_append (a b : String) : NoSpace (a ++ b) ↔ NoSpace a ∧ NoSpace b := by
  simp [NoSpace, or_imp, forall_and]

/-- The URL of a line. -/
def Entry.url : Entry → String
  | .cdn k _ => HgBundles.cdn ++ "/" ++ k
  | .s3 h b k _ _ => "https://" ++ h ++ "/" ++ b ++ "/" ++ k
  | .gcs b k _ _ => gcsEndpoint ++ "/" ++ b ++ "/" ++ k

/-- The parameters of a line, as written. -/
def Entry.params : Entry → List String
  | .cdn _ p => [p, "REQUIRESNI=true", "cdn=true"]
  | .s3 _ _ _ p n => [p, "ec2region=" ++ n]
  | .gcs _ _ p n => [p, "gceregion=" ++ n]

/-- The reading of one entry. -/
def Entry.read (e : Entry) : Option (String × List (String × String)) :=
  (e.params.mapM parseParam).map fun qs => (e.url, qs)

theorem joinWith_cons_cons (c : Char) (a b : String) (l : List String) :
    joinWith c (a :: b :: l) = a ++ String.mk [c] ++ joinWith c (b :: l) := by
  apply String.ext
  simp [joinWith, List.intercalate, List.intersperse_cons_cons]

theorem joinWith_singleton (c : Char) (a : String) : joinWith c [a] = a := by
  simp [joinWith, List.intercalate]

theorem mem_joinWith {c x : Char} :
    ∀ {ws : List String}, x ∈ (joinWith c ws).data → x = c ∨ ∃ w ∈ ws, x ∈ w.data
  | [], h => by simp [joinWith, List.intercalate] at h
  | [a], h => .inr ⟨a, List.mem_singleton_self a, by rwa [joinWith_singleton] at h⟩
  | a :: b :: l, h => by
    rw [joinWith_cons_cons] at h
    simp only [String.data_append, List.mem_append] at h
    rcases h with (h | h) | h
    · exact .inr ⟨a, List.mem_cons_self _ _, h⟩
    · exact .inl (by simpa using h)
    · rcases mem_joinWith h with h | ⟨w, hw, hx⟩
      · exact .inl h
      · exact .inr ⟨w, List.mem_cons_of_mem _ hw, hx⟩

/-- Every line is its URL and its parameters joined by single spaces. -/
theorem render_eq (e : Entry) : e.render = joinWith ' ' (e.url :: e.params) := by
  have h : " REQUIRESNI=true cdn=true" = " " ++ ("REQUIRESNI=true" ++ (" " ++ "cdn=true")) := by
    decide
  cases e <;>
    simp only [Entry.render, Entry.url, Entry.params, joinWith_cons_cons, joinWith_singleton, h,
      String.append_assoc] <;> rfl

/-- A line whose words hold no whitespace reads back as its URL and parameters. -/
theorem parseLine_joinWith {url : String} {ps : List String} (hu : url.data ≠ [] ∧ NoSpace url)
    (hp : ∀ p ∈ ps, p.data ≠ [] ∧ NoSpace p) :
    parseLine (joinWith ' ' (url :: ps)) = (ps.mapM parseParam).map fun qs => (url, qs) := by
  rw [parseLine, split_joinWith (by simpa [NoSpace] using And.intro hu hp)]

/-- An entry's words hold no whitespace when its key, parameter and names hold none. -/
def Entry.Clean : Entry → Prop
  | .cdn k p => NoSpace k ∧ NoSpace p ∧ p.data ≠ []
  | .s3 h b k p n => NoSpace (h ++ b ++ k ++ n) ∧ NoSpace p ∧ p.data ≠ []
  | .gcs b k p n => NoSpace (b ++ k ++ n) ∧ NoSpace p ∧ p.data ≠ []

theorem words_clean {e : Entry} (h : e.Clean) :
    ∀ w ∈ e.url :: e.params, w.data ≠ [] ∧ NoSpace w := by
  have hl : NoSpace HgBundles.cdn ∧ NoSpace "/" ∧ NoSpace "https://" ∧ NoSpace gcsEndpoint ∧
      NoSpace "REQUIRESNI=true" ∧ NoSpace "cdn=true" ∧ NoSpace "ec2region=" ∧
      NoSpace "gceregion=" := by decide
  cases e <;> simp only [Entry.Clean, noSpace_append] at h <;>
    simp [Entry.url, Entry.params, h, hl]

theorem no_newline {w : String} (h : NoSpace w) : '\n' ∉ w.data := fun hm => by
  simpa [isSpace] using h _ hm

/-- The manifest text of clean entries reads back entry by entry. -/
theorem parseManifest_manifestText {es : List Entry} (hne : es ≠ []) (h : ∀ e ∈ es, e.Clean) :
    parseManifest (manifestText es) = es.map Entry.read := by
  have hlines : ∀ l ∈ es.map Entry.render, '\n' ∉ l.data := by
    simp only [List.mem_map]
    rintro _ ⟨e, he, rfl⟩ hm
    rw [render_eq] at hm
    rcases mem_joinWith hm with hm | ⟨w, hw, hx⟩
    · exact absurd hm (by decide)
    · exact no_newline (words_clean (h e he) w hw).2 hx
  rw [parseManifest, manifestText, splitOn_joinWith hlines (by simpa using hne), List.map_map]
  refine List.map_congr_left fun e he => ?_
  rw [Function.comp_apply, render_eq, parseLine_joinWith (words_clean (h e he) _ (by simp))
    fun p hp => words_clean (h e he) p (List.mem_cons_of_mem _ hp)]
  rfl

/-! ### The manifest the run assembles -/

theorem parseParam_kv {k v : String} (hk : '=' ∉ k.data) : parseParam (k ++ String.mk ['='] ++ v) = some (k, v) := by
  rw [parseParam, splitOnce_append hk]

/-- The types a run generates, as the claim lists them: `gzip-v2`, `packed1`, and one of
`zstd-max` and `zstd`. -/
def generatedTypes (zstdMax : Bool) : List String :=
  ["gzip-v2", "packed1", if zstdMax then "zstd-max" else "zstd"]

/-- The `BUNDLESPEC` value `CLONEBUNDLES_ORDER` gives each type. -/
def bundlespec : String → String
  | "gzip-v2" => "gzip-v2"
  | "packed1" => "none-packed1;requirements%3Dgeneraldelta%2Crevlogv1"
  | _ => "zstd-v2"

/-- The block of type `t` whose bundle has key `key`: the CDN entry, one entry per S3 host, one
per GCP host, each with the type's `BUNDLESPEC`. -/
def describedBlock (t key : String) : List (String × List (String × String)) :=
  (HgBundles.cdn ++ "/" ++ key,
      [("BUNDLESPEC", bundlespec t), ("REQUIRESNI", "true"), ("cdn", "true")]) ::
    (s3Hosts.map fun (host, bucket, region) => ("https://" ++ host ++ "/" ++ bucket ++ "/" ++ key,
      [("BUNDLESPEC", bundlespec t), ("ec2region", region)])) ++
    gcpHosts.map fun (bucket, region) => (gcsEndpoint ++ "/" ++ bucket ++ "/" ++ key,
      [("BUNDLESPEC", bundlespec t), ("gceregion", region)])

/-- The manifest of repository `R` at tip `T` as the claim describes it: for each type of
`CLONEBUNDLES_ORDER` that is generated, its block, with key `R/T.t.hg`. -/
def describedManifest (R T : String) (zstdMax : Bool) : List (String × List (String × String)) :=
  (clonebundlesOrder.map Prod.fst).flatMap fun t =>
    if t ∈ generatedTypes zstdMax then describedBlock t (R ++ "/" ++ T ++ "." ++ t ++ ".hg") else []

@[simp] theorem read_cdn (k p : String) :
    (Entry.cdn k p).read = (parseParam p).map fun q =>
      (HgBundles.cdn ++ "/" ++ k, [q, ("REQUIRESNI", "true"), ("cdn", "true")]) := by
  have h₁ : parseParam "REQUIRESNI=true" = some ("REQUIRESNI", "true") := by decide
  have h₂ : parseParam "cdn=true" = some ("cdn", "true") := by decide
  cases hq : parseParam p <;>
    simp only [Entry.read, Entry.params, Entry.url, List.mapM_cons, List.mapM_nil, hq, h₁, h₂] <;> rfl

@[simp] theorem read_s3 (h b k p n : String) :
    (Entry.s3 h b k p n).read = (parseParam p).map fun q =>
      ("https://" ++ h ++ "/" ++ b ++ "/" ++ k, [q, ("ec2region", n)]) := by
  have e : "ec2region=" ++ n = "ec2region" ++ String.mk ['='] ++ n := by
    rw [show ("ec2region=" : String) = "ec2region" ++ String.mk ['='] by decide]
  cases hq : parseParam p <;> simp only [Entry.read, Entry.params, Entry.url, List.mapM_cons,
    List.mapM_nil, hq, e, parseParam_kv (show '=' ∉ "ec2region".data by decide),
    parseParam_kv (show '=' ∉ "gceregion".data by decide)] <;> rfl

@[simp] theorem read_gcs (b k p n : String) :
    (Entry.gcs b k p n).read = (parseParam p).map fun q =>
      (gcsEndpoint ++ "/" ++ b ++ "/" ++ k, [q, ("gceregion", n)]) := by
  have e : "gceregion=" ++ n = "gceregion" ++ String.mk ['='] ++ n := by
    rw [show ("gceregion=" : String) = "gceregion" ++ String.mk ['='] by decide]
  cases hq : parseParam p <;> simp only [Entry.read, Entry.params, Entry.url, List.mapM_cons,
    List.mapM_nil, hq, e, parseParam_kv (show '=' ∉ "ec2region".data by decide),
    parseParam_kv (show '=' ∉ "gceregion".data by decide)] <;> rfl

theorem read_typeEntries {t p k : String} (hp : parseParam p = some ("BUNDLESPEC", bundlespec t)) :
    (typeEntries k p).map Entry.read = (describedBlock t k).map some := by
  simp [typeEntries, describedBlock, hp, s3Hosts, gcpHosts]

/-- What a run assembles, for its selected types, reads back as the described manifest. -/
theorem read_manifestEntries (root R T : String) (zstdMax : Bool) :
    (manifestEntries root R T (selected zstdMax)).map Entry.read =
      (describedManifest R T zstdMax).map some := by
  have hp : ∀ e ∈ clonebundlesOrder, parseParam e.2 = some ("BUNDLESPEC", bundlespec e.1) := by
    decide
  have hsel : ∀ e ∈ clonebundlesOrder, (e.1 ∈ selected zstdMax ↔ e.1 ∈ generatedTypes zstdMax) := by
    cases zstdMax <;> decide
  rw [manifestEntries, describedManifest, List.map_flatMap, List.map_flatMap, List.flatMap_map]
  refine List.flatMap_congr fun ⟨t, p⟩ he => ?_
  have hs : t ∈ selected zstdMax ↔ t ∈ generatedTypes zstdMax := hsel _ he
  dsimp only
  by_cases ht : t ∈ generatedTypes zstdMax
  · rw [if_pos (hs.mpr ht), if_pos ht, read_typeEntries (hp _ he), bundlePaths_eq, basename]
    simp only [String.append_assoc]
  · rw [if_neg (mt hs.mp ht), if_neg ht]
    rfl

theorem clean_typeEntries {k p : String} (hk : NoSpace k) (hp : NoSpace p ∧ p.data ≠ []) :
    ∀ e ∈ typeEntries k p, e.Clean := by
  have hs3 : ∀ h ∈ s3Hosts, NoSpace (h.1 ++ h.2.1) ∧ NoSpace h.2.2 := by decide
  have hgcp : ∀ h ∈ gcpHosts, NoSpace h.1 ∧ NoSpace h.2 := by decide
  simp only [typeEntries, List.mem_cons, List.mem_append, List.mem_map]
  rintro e ((rfl | ⟨⟨h, b, n⟩, hh, rfl⟩) | ⟨⟨b, n⟩, hh, rfl⟩)
  · exact ⟨hk, hp⟩
  · have := hs3 _ hh
    simp_all [Entry.Clean]
  · have := hgcp _ hh
    simp_all [Entry.Clean]

theorem clean_manifestEntries {root R T : String} (types : List String) (hR : NoSpace R)
    (hT : NoSpace T) : ∀ e ∈ manifestEntries root R T types, e.Clean := by
  have ho : ∀ e ∈ clonebundlesOrder, NoSpace ("/" ++ "." ++ e.1 ++ ".hg") ∧ NoSpace e.2 ∧
      e.2.data ≠ [] := by decide
  simp only [manifestEntries, List.mem_flatMap]
  rintro e ⟨⟨t, p⟩, he, hm⟩
  split at hm
  · obtain ⟨h₁, h₂⟩ := ho _ he
    refine clean_typeEntries ?_ h₂ e hm
    simp only [noSpace_append] at h₁ ⊢
    simp [bundlePaths_eq, basename, hR, hT, h₁]
  · simp at hm

/-- **Manifest read back.** For a repository and a tip without whitespace, the manifest text a
run assembles reads back, line by line, as the manifest described block by block. -/
theorem parse_manifest_described (root R T : String) (zstdMax : Bool) (hR : NoSpace R)
    (hT : NoSpace T) :
    parseManifest (manifestText (manifestEntries root R T (selected zstdMax))) =
      (describedManifest R T zstdMax).map some := by
  have hne : manifestEntries root R T (selected zstdMax) ≠ [] :=
    List.ne_nil_of_mem (a := .cdn (bundlePaths root R T "gzip-v2").2 "BUNDLESPEC=gzip-v2") (by
      simp only [manifestEntries, List.mem_flatMap]
      exact ⟨("gzip-v2", "BUNDLESPEC=gzip-v2"), by decide, by simp [gzip_mem_selected, typeEntries]⟩)
  rw [parseManifest_manifestText hne (clean_manifestEntries _ hR hT), read_manifestEntries]

end HgBundles
