import HgBundles.Blocks

/-!
# HgBundles.Fleet — `main`: every repository, the two fleet summaries, `lastrun`

`main` reads the repository lines (from `-f`'s file or the remaining arguments), parses each into
a path and its keyword options, runs `generate_bundles` for each in turn (`generateAll`), and
catches `NoCredentialsError` and `OSError` from that loop only, returning `1`. Then it writes
`index.html` (`generateIndex`) and `bundles.json` (`generateJsonManifest`), uploads both when
uploading, and writes `lastrun`.

* `dictSet`: `d[k] = v` on a dict read as its items in insertion order;
* `parseItem`: `item.split()`, then `field.split('=', 1)` per option; a blank line raises
  `IndexError`;
* `callGenerate`: `generate_bundles(repo, upload=upload, **opts)`; a keyword other than
  `copyfrom` and `zstd_max` raises `TypeError`;
* `indexEntries`, `htmlIndex`: the rows and the page of `generate_index`;
* `jsonManifest`, `jsonDumps`: the document of `generate_json_manifest` and its text as
  `json.dumps(d, sort_keys=True, indent=4)` writes it;
* `putEverywhere`: the `put_object` loop shared by `upload_index` and `upload_json_manifest`.

`argparse` is left out: `main` takes the parsed `-f`, `--no-upload` and remaining arguments. The
`print` calls, the `basename` entry of a row's options (the row template does not use it) and the
`ContentType` and `CacheControl` of the uploads (the store keeps no object metadata) are left out
too; the two `utcnow().isoformat()` readings are arguments.
-/

namespace HgBundles

/-- A repository's result: `generate_bundles`'s mapping as its items, each type with its remote
path and size. -/
abbrev RepoPaths := List (String × String × Nat)

/-! ### Python dicts and the repository lines -/

/-- `d[k] = v`: an existing key keeps its place and takes the new value, a new one goes last. -/
def dictSet {α : Type} : List (String × α) → String → α → List (String × α)
  | [], k, v => [(k, v)]
  | (k', v') :: d, k, v => if k' = k then (k, v) :: d else (k', v') :: dictSet d k v

section Dict

variable {α : Type} {k k' : String} {v : α}

theorem lookup_cons_eq (d : List (String × α)) (k k' : String) (v : α) :
    ((k, v) :: d).lookup k' = if k' = k then some v else d.lookup k' := by
  simp only [List.lookup_cons, beq_iff_eq]
  split <;> simp_all

@[simp] theorem lookup_dictSet (d : List (String × α)) :
    (dictSet d k v).lookup k' = if k' = k then some v else d.lookup k' := by
  induction d with
  | nil => simp [dictSet, lookup_cons_eq]
  | cons e d ih =>
    obtain ⟨k₀, v₀⟩ := e
    by_cases h₀ : k₀ = k
    · subst h₀
      simp only [dictSet, if_true, lookup_cons_eq]
      split_ifs <;> simp_all [lookup_cons_eq]
    · simp only [dictSet, if_neg h₀, lookup_cons_eq, ih]
      split_ifs <;> simp_all

theorem lookup_isSome_iff {d : List (String × α)} : (d.lookup k).isSome ↔ k ∈ d.map Prod.fst := by
  induction d with
  | nil => simp
  | cons e d ih =>
    obtain ⟨k₀, v₀⟩ := e
    rw [lookup_cons_eq]
    by_cases h : k = k₀ <;> simp [h, ih]

theorem mem_of_lookup_eq_some {d : List (String × α)} (h : d.lookup k = some v) : (k, v) ∈ d := by
  induction d with
  | nil => simp at h
  | cons e d ih =>
    obtain ⟨k₀, v₀⟩ := e
    rw [lookup_cons_eq] at h
    split_ifs at h with hk
    · cases h
      exact hk ▸ List.mem_cons_self _ _
    · exact List.mem_cons_of_mem _ (ih h)

theorem lookup_eq_some_of_mem {d : List (String × α)} (hd : (d.map Prod.fst).Nodup)
    (h : (k, v) ∈ d) : d.lookup k = some v := by
  induction d with
  | nil => simp at h
  | cons e d ih =>
    obtain ⟨k₀, v₀⟩ := e
    simp only [List.map_cons, List.nodup_cons, List.mem_map] at hd
    rw [lookup_cons_eq]
    rcases List.mem_cons.mp h with he | h
    · obtain ⟨rfl, rfl⟩ := Prod.mk.inj he
      simp
    · rw [if_neg fun he => hd.1 ⟨_, h, he⟩]
      exact ih hd.2 h

theorem mem_keys_dictSet (d : List (String × α)) :
    k' ∈ (dictSet d k v).map Prod.fst ↔ k' = k ∨ k' ∈ d.map Prod.fst := by
  rw [← lookup_isSome_iff, ← lookup_isSome_iff, lookup_dictSet]
  split_ifs with h <;> simp [h]

theorem nodup_keys_dictSet {d : List (String × α)} (h : (d.map Prod.fst).Nodup) :
    ((dictSet d k v).map Prod.fst).Nodup := by
  induction d with
  | nil => simp [dictSet]
  | cons e d ih =>
    simp only [List.map_cons, List.nodup_cons] at h
    simp only [dictSet]
    split_ifs with he
    · simpa [← he] using h
    · simp only [List.map_cons, List.nodup_cons, mem_keys_dictSet, not_or]
      exact ⟨⟨he, h.1⟩, ih h.2⟩

theorem dictSet_of_not_mem {d : List (String × α)} (h : k ∉ d.map Prod.fst) :
    dictSet d k v = d ++ [(k, v)] := by
  induction d with
  | nil => rfl
  | cons e d ih =>
    simp only [List.map_cons, List.mem_cons, not_or] at h
    simp [dictSet, Ne.symm h.1, ih h.2]

end Dict

/-- `s.rstrip()`. -/
def rstrip (s : String) : String := String.mk (s.data.reverse.dropWhile isSpace).reverse

/-- One option after the repository path: `key=value`, or `True` for a bare `key`. -/
def parseAttr (field : String) : String × Opt :=
  match splitOnce field '=' with
  | [k, v] => (k, .str v)
  | vals => (vals.headD field, .flag)

/-- One repository line: `(fields[0], attrs)`; a line with no field raises `IndexError`. -/
def parseItem (item : String) : Except Err (String × List (String × Opt)) :=
  let fields := split item
  let attrs := (fields.drop 1).foldl (fun attrs field => dictSet attrs (parseAttr field).1
    (parseAttr field).2) []
  match fields with
  | repo :: _ => .ok (repo, attrs)
  | [] => .error .index

/-- The `zstd_max` keyword of a line, as `generate_bundles` reads it: `False` when absent. -/
def zstdMaxOpt (opts : List (String × Opt)) : Bool := ((opts.lookup "zstd_max").map Opt.truthy).getD false

section Main

variable (env : Env)

/-- The repository lines: `[l.rstrip() for l in fh]` of `-f`'s file when it is given (and not
empty), else the remaining arguments. -/
def readItems (f : Option String) (remaining : List String) : Py (List String) :=
  match f with
  | some path =>
    if path = "" then pure remaining
    else do
      let lines : List String ← perform env (.readlines path)
      pure (lines.map rstrip)
  | none => pure remaining

/-- `repos`: the lines parsed in order; the first line with no field raises. -/
def parseItems : List String → Py (List (String × List (String × Opt)))
  | [] => pure []
  | item :: items =>
    match parseItem item with
    | .ok r => do
      let rs ← parseItems items
      pure (r :: rs)
    | .error e => throw e

/-- `generate_bundles(repo, upload=upload, **opts)`: a keyword other than `copyfrom` and
`zstd_max` is a `TypeError`; `generate_bundles` reads only the truthiness of `zstd_max`. -/
def callGenerate (repo : String) (upload : Bool) (opts : List (String × Opt)) : Py RepoPaths :=
  if opts.all fun o => o.1 = "copyfrom" || o.1 = "zstd_max" then
    generateBundles env repo upload (opts.lookup "copyfrom") (zstdMaxOpt opts)
  else throw .type

/-- `for repo, opts in repos: paths[repo] = generate_bundles(...)`, from the mapping `paths`. -/
def generateAll (upload : Bool) :
    List (String × List (String × Opt)) → List (String × RepoPaths) → Py (List (String × RepoPaths))
  | [], paths => pure paths
  | (repo, opts) :: rest, paths => do
    let p ← callGenerate env repo upload opts
    generateAll upload rest (dictSet paths repo p)

end Main

/-! ### `generate_index` -/

/-- A cell of a row: `'<a href="{path}">{size:,}</a>'` for a type the repository has, else `'-'`. -/
def indexCell (p : RepoPaths) (t : String) : String :=
  match p.lookup t with
  | some (path, size) => "<a href=\"" ++ path ++ "\">" ++ commas size ++ "</a>"
  | none => "-"

/-- `HTML_ENTRY.format(**opts)`. -/
def htmlEntry (repo zstdEntry zstdMaxEntry gzipV2Entry packed1Entry : String) : String :=
  "<tr>\n  <td>" ++ repo ++ "</td>\n  <td class=\"numeric\">" ++ zstdEntry ++
  "</td>\n  <td class=\"numeric\">" ++ zstdMaxEntry ++ "</td>\n  <td class=\"numeric\">" ++
  gzipV2Entry ++ "</td>\n  <td class=\"numeric\">" ++ packed1Entry ++ "</td>\n</tr>"

/-- The row of one repository. -/
def indexEntry (repo : String) (p : RepoPaths) : String :=
  htmlEntry repo (indexCell p "zstd") (indexCell p "zstd-max") (indexCell p "gzip-v2")
    (indexCell p "packed1")

/-- `sorted(repos)`. -/
def sortedKeys {α : Type} (d : List (String × α)) : List String := (d.map Prod.fst).insertionSort (· ≤ ·)

/-- The repositories `generate_index` lists: in sorted order, those with a `gzip-v2` bundle. -/
def indexRepos (repos : List (String × RepoPaths)) : List String :=
  (sortedKeys repos).filter fun repo => (((repos.lookup repo).getD []).lookup "gzip-v2").isSome

/-- `entries`: the rows of the listed repositories. -/
def indexEntries (repos : List (String × RepoPaths)) : List String :=
  (indexRepos repos).map fun repo => indexEntry repo ((repos.lookup repo).getD [])

/-- `HTML_INDEX % (entries, time)`. -/
def htmlIndex (entries time : String) : String :=
  "<html>\n" ++
  "  <head>\n" ++
  "    <title>Mercurial Bundles</title>\n" ++
  "    <style>\n" ++
  "      .numeric \x7b\n" ++
  "        text-align: right;\n" ++
  "        font-variant-numeric: tabular-nums;\n" ++
  "      \x7d\n" ++
  "    </style>\n" ++
  "  </head>\n" ++
  "  <body>\n" ++
  "    <h1>Mercurial Bundles</h1>\n" ++
  "    <p>\n" ++
  "       This server contains Mercurial bundle files that can be used to seed\n" ++
  "       repository clones. If your Mercurial client is configured properly,\n" ++
  "       it should fetch one of these bundles automatically.\n" ++
  "    </p>\n" ++
  "    <p>\n" ++
  "      The table below lists all available repositories and their bundles.\n" ++
  "      Only the most recent bundle is shown. Previous bundles are expired 7 days\n" ++
  "      after they are superseded.\n" ++
  "    </p>\n" ++
  "    <p>\n" ++
  "      A <a href=\"bundles.json\">JSON document</a> exposes a machine-readable\n" ++
  "      representation of this data.\n" ++
  "    </p>\n" ++
  "    <p>\n" ++
  "      <strong>\n" ++
  "        Mercurial 4.1 or newer is required to unbundle zstd.\n" ++
  "        Please use gzip or stream for older versions.\n" ++
  "      </strong>\n" ++
  "    </p>\n" ++
  "    <p>\n" ++
  "       For more, see\n" ++
  "       <a href=\"https://mozilla-version-control-tools.readthedocs.io/en/latest/hgmo/bundleclone.html\">the official docs</a>.\n" ++
  "    </p>\n" ++
  "    <table border=\"1\">\n" ++
  "      <tr>\n" ++
  "        <th>Repository</th>\n" ++
  "        <th>zstd</th>\n" ++
  "        <th>zstd (max)</th>\n" ++
  "        <th>gzip (v2)</th>\n" ++
  "        <th>stream</th>\n" ++
  "      </tr>\n" ++
  "      " ++
  entries ++ "\n    </table>\n    <p>This page generated at " ++ time ++ ".</p>\n  </body>\n</html>"

/-! ### `generate_json_manifest` and `json.dumps` -/

/-- `d`: every repository with a nonempty mapping, each type with its path and size. -/
def jsonManifest (repos : List (String × RepoPaths)) : List (String × RepoPaths) :=
  repos.foldl (fun d r => if r.2 = [] then d else dictSet d r.1 r.2) []

/-- Four lowercase hexadecimal digits, as `'\\u{0:04x}'` writes them. -/
def hex4 (n : Nat) : String :=
  String.mk ([3, 2, 1, 0].map fun i => Nat.digitChar (n / 16 ^ i % 16))

/-- One character of a JSON string with `ensure_ascii`: the short escapes, printable ASCII as
itself, anything else as one `\\u` escape or a surrogate pair. -/
def jsonEscape (c : Char) : String :=
  if c = '"' then "\\\"" else if c = '\\' then "\\\\" else if c = '\n' then "\\n"
  else if c = '\r' then "\\r" else if c = '\t' then "\\t" else if c.toNat = 8 then "\\b"
  else if c.toNat = 12 then "\\f" else if 32 ≤ c.toNat ∧ c.toNat ≤ 126 then c.toString
  else if c.toNat < 65536 then "\\u" ++ hex4 c.toNat
  else "\\u" ++ hex4 (55296 + (c.toNat - 65536) / 1024) ++ "\\u" ++ hex4 (56320 + (c.toNat - 65536) % 1024)

/-- A JSON string. -/
def jsonString (s : String) : String := "\"" ++ String.join (s.data.map jsonEscape) ++ "\""

/-- Four spaces per level. -/
def indentAt (level : Nat) : String := String.mk (List.replicate (4 * level) ' ')

/-- A JSON object at nesting `level` with `indent=4`: one member per line, `{}` when empty. -/
def jsonObject (level : Nat) : List String → String
  | [] => "\x7b\x7d"
  | members => "\x7b\n" ++ String.intercalate ",\n" (members.map (indentAt (level + 1) ++ ·)) ++
    "\n" ++ indentAt level ++ "\x7d"

/-- A member `"key": value`. -/
def jsonMember (key value : String) : String := jsonString key ++ ": " ++ value

/-- The items of a dict in key order, as `sort_keys=True` writes them. -/
def sortedItems {α : Type} (d : List (String × α)) : List (String × α) :=
  d.insertionSort fun a b => a.1 ≤ b.1

/-- `json.dumps(d, sort_keys=True, indent=4)` of the document. -/
def jsonDumps (d : List (String × RepoPaths)) : String :=
  jsonObject 0 ((sortedItems d).map fun r => jsonMember r.1 (jsonObject 1 ((sortedItems r.2).map
    fun b => jsonMember b.1 (jsonObject 2 [jsonMember "path" (jsonString b.2.1),
      jsonMember "size" (Nat.repr b.2.2)]))))

section Main

variable (env : Env)

/-- `os.path.join(BUNDLE_ROOT, name)`. -/
def rootFile (name : String) : String := pathJoin bundleRoot name

/-- `generate_index(repos)`: write the page to `index.html` and return it. -/
def generateIndex (repos : List (String × RepoPaths)) (time : String) : Py String := do
  let html := htmlIndex (joinWith '\n' (indexEntries repos)) time
  perform env (.write (rootFile "index.html") html)
  pure html

/-- `generate_json_manifest(repos)`: write the document to `bundles.json` and return it. -/
def generateJsonManifest (repos : List (String × RepoPaths)) : Py String := do
  let data := jsonDumps (jsonManifest repos)
  perform env (.write (rootFile "bundles.json") data)
  pure data

/-- `for host, bucket, region in S3_HOSTS: client.put_object(Bucket=bucket, Key=key, Body=body)`. -/
def putEverywhere (key body : String) : List (String × String × String) → Py Unit
  | [] => pure ()
  | (_, bucket, region) :: hosts => do
    perform env (.putObject region bucket key body)
    putEverywhere key body hosts

/-- `upload_index(html)`. -/
def uploadIndex (html : String) : Py Unit := putEverywhere env "index.html" html s3Hosts

/-- `upload_json_manifest(data)`. -/
def uploadJsonManifest (data : String) : Py Unit := putEverywhere env "bundles.json" data s3Hosts

/-- The `except (NoCredentialsError, OSError)` of `main`'s repository loop. -/
def mainHandler (e : Err) : Py (Option (List (String × RepoPaths))) :=
  match e with
  | .noCredentials => pure none
  | .os _ => pure none
  | _ => throw e

/-- `main()` after argument parsing: `f` is `-f`, `noUpload` is `--no-upload`, `remaining` the
other arguments, and `indexTime` and `lastrunTime` what the two `utcnow().isoformat()` calls
return. It returns `some 1` for `return 1`, `none` when it falls off the end. -/
def main (f : Option String) (noUpload : Bool) (remaining : List String)
    (indexTime lastrunTime : String) : Py (Option Nat) := do
  let items ← readItems env f remaining
  let repos ← parseItems items
  let upload := !noUpload
  let r ← tryCatch (do pure (some (← generateAll env upload repos []))) (mainHandler)
  match r with
  | none => pure (some 1)
  | some paths => do
    let html ← generateIndex env paths indexTime
    let data ← generateJsonManifest env paths
    (if upload then do uploadIndex env html; uploadJsonManifest env data else pure ())
    perform env (.write (rootFile "lastrun") (lastrunTime ++ "Z\n"))
    pure none

end Main

end HgBundles
