import HgBundles.Text

/-!
# HgBundles.Config — the module-level constants of the bundle script

`creates` lists the bundle types in generation order with the arguments of their `hg`
invocation; `clonebundlesOrder` lists them in manifest order with their `BUNDLESPEC`
parameter; `s3Hosts` and `gcpHosts` are the upload targets in manifest order.

The third component of each `CREATES` entry (an empty dict) is read by nobody and is left out.
`CONCURRENT_THREADS` is left out too: the pool is read sequentially, and
`HgBundles.Schedule` covers every interleaving whatever the pool size.
-/

namespace HgBundles

/-- `HG`: the `hg` used for bundle generation. -/
def hg : String := "/var/hg/venv_bundles/bin/hg"

/-- `CREATES`: the bundle types with the arguments of their `hg` invocation. -/
def creates : List (String × List String) :=
  [("gzip-v2", ["bundle", "-a", "-t", "gzip-v2"]),
   ("zstd", ["bundle", "-a", "-t", "zstd-v2"]),
   ("zstd-max", ["--config", "experimental.bundlecomplevel=20", "bundle", "-a", "-t", "zstd-v2"]),
   ("packed1", ["debugcreatestreamclonebundle"])]

/-- `CLONEBUNDLES_ORDER`: the manifest order, with the parameters of each type's lines. -/
def clonebundlesOrder : List (String × String) :=
  [("zstd-max", "BUNDLESPEC=zstd-v2"),
   ("zstd", "BUNDLESPEC=zstd-v2"),
   ("gzip-v2", "BUNDLESPEC=gzip-v2"),
   ("packed1", "BUNDLESPEC=none-packed1;requirements%3Dgeneraldelta%2Crevlogv1")]

/-- `S3_HOSTS`: (host, bucket, region). -/
def s3Hosts : List (String × String × String) :=
  [("s3-us-west-2.amazonaws.com", "moz-hg-bundles-us-west-2", "us-west-2"),
   ("s3-us-west-1.amazonaws.com", "moz-hg-bundles-us-west-1", "us-west-1"),
   ("s3-us-east-2.amazonaws.com", "moz-hg-bundles-us-east-2", "us-east-2"),
   ("s3-external-1.amazonaws.com", "moz-hg-bundles-us-east-1", "us-east-1"),
   ("s3-eu-central-1.amazonaws.com", "moz-hg-bundles-eu-central-1", "eu-central-1")]

/-- `GCP_HOSTS`: (bucket, region). -/
def gcpHosts : List (String × String) :=
  [("moz-hg-bundles-gcp-us-central1", "us-central1")]

/-- `GCS_ENDPOINT`. -/
def gcsEndpoint : String := "https://storage.googleapis.com"

/-- `CDN`. -/
def cdn : String := "https://hg.cdn.mozilla.net"

/-- `BUNDLE_ROOT`. -/
def bundleRoot : String := "/repo/hg/bundles"

/-- The root the repository paths are pinned to (the literal `'/repo/hg/mozilla'`). -/
def reposRoot : String := "/repo/hg/mozilla"

/-- The bundle types `generate_bundles` keeps from `CREATES`: `zstd` or `zstd-max`, not both. -/
def wanted (zstdMax : Bool) (t : String) : Bool :=
  !(t = "zstd" && zstdMax) && !(t = "zstd-max" && !zstdMax)

/-- The types of one run, in `CREATES` order. -/
def selected (zstdMax : Bool) : List String :=
  (creates.filter fun e => wanted zstdMax e.1).map Prod.fst

theorem selected_true : selected true = ["gzip-v2", "zstd-max", "packed1"] := by decide

theorem selected_false : selected false = ["gzip-v2", "zstd", "packed1"] := by decide

theorem gzip_mem_selected (zstdMax : Bool) : "gzip-v2" ∈ selected zstdMax := by
  cases zstdMax <;> decide

end HgBundles
