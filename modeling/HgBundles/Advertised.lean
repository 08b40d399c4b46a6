import HgBundles.Contents
import HgBundles.Liveness

/-!
# HgBundles.Advertised — the fleet summaries link only bundles that are in every bucket

`main` keeps the result of each repository's last run in `paths`, and renders both summaries,
`index.html` and `bundles.json`, from `paths` once the repository loop has returned. A primary run
with uploads on returns only bundles it uploaded to every bucket (`primary_present`), a mirror run
returns `{}`, and no call removes an object, so:

* `Published s ps`: every bundle of `ps` is an object of every S3 and every GCS bucket of `s`;
* `generateAll_published`: when the loop returns with uploads on, every entry of the mapping it
  returns is published;
* `main_advertises_published`: from then to the end of `main`, whatever happens after the loop,
  every bundle of that mapping stays in every bucket.
-/

namespace HgBundles

/-- Every bundle of `ps` is an object of every S3 bucket and every GCS bucket of `s`. -/
def Published (s : Store) (ps : RepoPaths) : Prop :=
  ∀ b ∈ ps, (∀ host bucket region, (host, bucket, region) ∈ s3Hosts →
      (s.objects ⟨.s3, bucket, b.2.1⟩).isSome) ∧
    ∀ bucket region, (bucket, region) ∈ gcpHosts → (s.objects ⟨.gcs, bucket, b.2.1⟩).isSome

/-- A mapping stays published as long as the objects that were there stay. -/
theorem Published.mono {s s' : Store} {ps : RepoPaths}
    (hk : ∀ o, (s.objects o).isSome → (s'.objects o).isSome) (h : Published s ps) : Published s' ps :=
  fun b hb => ⟨fun _ _ _ hh => hk _ ((h b hb).1 _ _ _ hh), fun _ _ hg => hk _ ((h b hb).2 _ _ hg)⟩

/-- An item of `d[k] = v` is the new one or an item of `d`. -/
theorem mem_dictSet {α : Type} {d : List (String × α)} {k : String} {v : α} {e : String × α}
    (h : e ∈ dictSet d k v) : e = (k, v) ∨ e ∈ d := by
  induction d with
  | nil => simpa [dictSet] using h
  | cons e' d ih =>
    simp only [dictSet] at h
    split_ifs at h
    · exact (List.mem_cons.mp h).imp_right (List.mem_cons_of_mem _)
    · rcases List.mem_cons.mp h with rfl | h
      · exact .inr (List.mem_cons_self _ _)
      · exact (ih h).imp_right (List.mem_cons_of_mem _)

section Loop

variable {env : Env}

/-- A statement that keeps every object's content leaves every object that was there. -/
theorem Py.Guar.present_of_content {x : Py α} (hx : ∀ k c, Py.Guar (.content k c) x) {w w' : World}
    {r : Except Err α} (h : x w = (r, w')) (o : ObjKey) (ho : (w.store.objects o).isSome) :
    (w'.store.objects o).isSome := by
  obtain ⟨ob, hob⟩ := Option.isSome_iff_exists.mp ho
  have hc := hx o ob.content w (by simp [hob])
  rw [h] at hc
  simpa using congrArg Option.isSome hc

/-- A repository task that returns with uploads on returns published bundles. -/
theorem callGenerate_published {R : String} {opts : List (String × Opt)} {w w' : World} {p : RepoPaths}
    (h : callGenerate env R true opts w = (.ok p, w')) : Published w'.store p := by
  unfold callGenerate at h
  split at h
  · rcases generateBundles_ok h with ⟨-, -, -, rfl⟩ | ⟨hcf, -⟩
    · exact nofun
    · rw [generateBundles_primary hcf] at h
      obtain ⟨_, _, -, h⟩ := Py.bind_eq_ok h
      exact primary_present h
  · cases h

/-- The mapping the repository loop returns with uploads on is published when it returns: each
run's own bundles when the run returns, and the earlier ones because no run removes an object. -/
theorem generateAll_published : ∀ {repos : List (String × List (String × Opt))}
    {acc paths : List (String × RepoPaths)} {w w' : World},
    generateAll env true repos acc w = (.ok paths, w') → (∀ e ∈ acc, Published w.store e.2) →
      ∀ e ∈ paths, Published w'.store e.2
  | [], _, _, _, _, h, ha => by
    obtain ⟨rfl, rfl⟩ := Py.pure_eq_ok h
    exact ha
  | (_, _) :: _, _, _, _, _, h, ha => by
    obtain ⟨p, w₁, hc, h⟩ := Py.bind_eq_ok h
    refine generateAll_published h fun e he => ?_
    rcases mem_dictSet he with rfl | he
    · exact callGenerate_published hc
    · exact (ha e he).mono (Py.Guar.present_of_content
        (fun _ _ => .ite (guar_generateBundles (runAllows_content _) _ _ _) (.throw _)) hc)

theorem guar_keepsObject_putEverywhere (o : ObjKey) {key body : String} :
    ∀ hosts, Py.Guar (.keeps fun s => (s.objects o).isSome) (putEverywhere env key body hosts)
  | [] => .pure _
  | (_, _, _) :: hosts => .bind (guar_keepsObject_perform o _) fun _ => guar_keepsObject_putEverywhere o hosts

end Loop

/-- **The summaries link only published bundles.** When `main`'s repository loop returns with
uploads on, the mapping `paths` it returns, from which `main` renders `index.html` and
`bundles.json`, has every bundle in every S3 and every GCS bucket, before either summary is
written; and whatever happens after the loop, they are all still there when `main` ends. -/
theorem main_advertises_published (env : Env) (f : Option String) (remaining : List String)
    (indexTime lastrunTime : String) {w w₀ w₁ w₂ : World} {items : List String}
    {repos : List (String × List (String × Opt))} {paths : List (String × RepoPaths)}
    (hi : readItems env f remaining w = (.ok items, w₀)) (hp : parseItems items w₀ = (.ok repos, w₁))
    (hl : generateAll env true repos [] w₁ = (.ok paths, w₂)) :
    (∀ e ∈ paths, Published w₂.store e.2) ∧
      ∀ e ∈ paths, Published (main env f false remaining indexTime lastrunTime w).2.store e.2 := by
  have hpub := generateAll_published hl nofun
  refine ⟨hpub, fun e he => (hpub e he).mono fun o ho => ?_⟩
  have hx : (tryCatch (do pure (some (← generateAll env (!false) repos []))) mainHandler :
      Py (Option (List (String × RepoPaths)))) w₁ = (.ok (some paths), w₂) := by
    show Py.tryCatch _ _ w₁ = _
    simp only [Py.tryCatch, Py.bind_ok (show generateAll env (!false) repos [] w₁ = (.ok paths, w₂) from hl)]
  dsimp only [main]
  rw [Py.bind_ok hi, Py.bind_ok hp, Py.bind_ok hx]
  -- the summaries and `lastrun` are written and put, and no call removes an object
  exact (Py.Guar.bind (.bind (guar_keepsObject_perform o _) fun _ => .pure _) fun _ =>
    .bind (.bind (guar_keepsObject_perform o _) fun _ => .pure _) fun _ =>
    .bind (.ite (.bind (guar_keepsObject_putEverywhere o _) fun _ => guar_keepsObject_putEverywhere o _)
      (.pure _)) fun _ => .bind (guar_keepsObject_perform o _) fun _ => .pure _) w₂ ho

theorem main_advertises_published_quiet :
    ∃ paths w₂, readItems (quietEnv "abc") none ["r"] (generaldeltaWorld "r") =
        (.ok ["r"], generaldeltaWorld "r") ∧
      parseItems ["r"] (generaldeltaWorld "r") = (.ok [("r", [])], generaldeltaWorld "r") ∧
      generateAll (quietEnv "abc") true [("r", [])] [] (generaldeltaWorld "r") = (.ok paths, w₂) ∧
      (∀ e ∈ paths, Published w₂.store e.2) ∧
      ∀ e ∈ paths, Published (main (quietEnv "abc") none false ["r"] "T" "T" (generaldeltaWorld "r")).2.store e.2 := by
  obtain ⟨paths, w₂, hl, -⟩ := generateAll_completes (quietEnv_reliable "abc") true [("r", [])] []
    (generaldeltaWorld "r") fun r hr => by
      obtain rfl := List.mem_singleton.mp hr
      exact ⟨rfl, rfl, .inl ⟨fun _ h => Option.noConfusion h, _, generaldeltaWorld_requires "r", by decide⟩⟩
  exact ⟨paths, w₂, rfl, rfl, hl, main_advertises_published _ _ _ _ _ rfl rfl hl⟩

end HgBundles
