import HgBundles.World

/-!
# HgBundles.Upload — `upload_to_s3` and `upload_to_gcpstorage`

Both are pool jobs: a bounded retry loop around one attempt, where a `socket.error` (an
`OSError`) is followed by `time.sleep(15)` and another attempt, any other exception propagates,
and running out of attempts raises the script's own `Exception`.

* `s3Attempt`: `key.load()` decides between the refresh branch (`copy_from` onto itself) and
  the upload branch (`upload_file`); a `ClientError` other than `404` propagates.
* `gcsAttempt`: `blob.exists()` decides between the refresh branch (set the event-based hold,
  `patch`, clear it, `patch`) and the upload branch (`upload_from_filename`).

The `print` calls are left out.
-/

namespace HgBundles

/-- The body of `upload_to_s3`'s `try` block, in attempt `attempt`. -/
def s3Attempt (bucketName localPath remotePath : String) (attempt : Nat) : Job Unit := do
  Job.perform (.handle .s3Resource bucketName remotePath attempt)
  Job.perform (.handle .s3Bucket bucketName remotePath attempt)
  Job.perform (.handle .s3Object bucketName remotePath attempt)
  let present ← tryCatch (do Job.perform (.load bucketName remotePath attempt); pure true)
    fun e => match e with
      | .client code => if code ≠ "404" then throw e else pure false
      | _ => throw e
  if present then
    Job.perform (.copyFrom bucketName remotePath attempt)
  else
    Job.perform (.uploadFile localPath bucketName remotePath attempt)

/-- `upload_to_s3`'s message when it gives up. -/
def s3GiveUp (bucketName remotePath : String) (attempt : Nat) : Err :=
  .exception ("S3 upload of " ++ bucketName ++ ":" ++ remotePath ++ " not successful after " ++
    Nat.repr attempt ++ " attempts, giving up")

/-- `while attempt < 3: attempt += 1; try: ...; return; except socket.error: time.sleep(15)`,
with `fuel = 3 - attempt` iterations left, then the `raise` after the loop. -/
def s3Loop (bucketName localPath remotePath : String) : Nat → Nat → Job Unit
  | 0, attempt => throw (s3GiveUp bucketName remotePath attempt)
  | fuel + 1, attempt =>
    tryCatch (s3Attempt bucketName localPath remotePath (attempt + 1)) fun e =>
      match e with
      | .os _ => do
        Job.perform (.sleep 15)
        s3Loop bucketName localPath remotePath fuel (attempt + 1)
      | _ => throw e

/-- `upload_to_s3(region_name, bucket_name, local_path, remote_path)`. -/
def uploadToS3 (regionName bucketName localPath remotePath : String) : Job Unit := do
  Job.perform (.session regionName bucketName remotePath)
  s3Loop bucketName localPath remotePath 3 0

/-- The body of `upload_to_gcpstorage`'s `try` block, in iteration `attempt`. -/
def gcsAttempt (bucketName localPath remotePath : String) (attempt : Nat) : Job Unit := do
  Job.perform (.handle .gcsClient bucketName remotePath attempt)
  Job.perform (.handle .gcsGetBucket bucketName remotePath attempt)
  Job.perform (.handle .gcsBlob bucketName remotePath attempt)
  let present : Bool ← Job.perform (.blobExists bucketName remotePath attempt)
  if present then
    Job.perform (.patch bucketName remotePath true attempt)
    Job.perform (.patch bucketName remotePath false attempt)
  else
    Job.perform (.uploadFromFilename localPath bucketName remotePath attempt)

/-- `upload_to_gcpstorage`'s message when it gives up; the two literals of the source are
joined without a space. -/
def gcsGiveUp (bucketName remotePath : String) : Err :=
  .exception ("GCP cloud storage upload of " ++ bucketName ++ ":" ++ remotePath ++
    " not successful after" ++ "3 attempts, giving up")

/-- `for _attempt in range(3): try: ...; return; except socket.error: time.sleep(15)` from
`_attempt = attempt` with `fuel` iterations left, then the loop's `else: raise`. -/
def gcsLoop (bucketName localPath remotePath : String) : Nat → Nat → Job Unit
  | 0, _ => throw (gcsGiveUp bucketName remotePath)
  | fuel + 1, attempt =>
    tryCatch (gcsAttempt bucketName localPath remotePath attempt) fun e =>
      match e with
      | .os _ => do
        Job.perform (.sleep 15)
        gcsLoop bucketName localPath remotePath fuel (attempt + 1)
      | _ => throw e

/-- `upload_to_gcpstorage(region_name, bucket_name, local_path, remote_path)`; the region is
not used. -/
def uploadToGcpstorage (_regionName bucketName localPath remotePath : String) : Job Unit :=
  gcsLoop bucketName localPath remotePath 3 0

end HgBundles
