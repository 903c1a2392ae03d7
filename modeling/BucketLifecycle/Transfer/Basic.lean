import BucketLifecycle.Client.Basic
import BucketLifecycle.FileTree
import BucketLifecycle.Transfer.ContentType
import BucketLifecycle.Transfer.Naming

/-!
# Transfers

Moving files between a working directory and a bucket.  An upload reads its file before the first
request; a download writes its file after the last answer, so a download that fails on the way
leaves every file as it was.
-/

set_option autoImplicit false

namespace BucketLifecycle

open Http

/-- What a transfer comes to: its result, and the network and the files afterwards. -/
structure Transferred (α : Type) where
  result : Option (Except LifecycleError α)
  network : Network
  files : FileTree

/-- Makes a call under a retry policy; there is no result where the counter of attempts overflows.
-/
def repeated {α : Type} (p : RetryPolicy) (bucket : String) (operation : Operation)
    (call : Network → CallReply α) (n : Network) : Option (Except LifecycleError α) × Network :=
  let run := (p.execute (β := α) ()).run (fun _ _ n => call n) none 0 n
  match run.ending with
  | .finished (.ok a) => (some (.ok a), run.state)
  | .finished (.error e) => (some (.error (e.toLifecycle bucket operation)), run.state)
  | _ => (none, run.state)

/-- A failure of a file operation. -/
def LifecycleError.ofFile (e : FileError) : LifecycleError :=
  .io e.message

/-- The object and the content of a file that is to be uploaded. -/
def uploadSource (files : FileTree) (file : Path) (strip : Option Path) (dest : ObjectUri) :
    Except LifecycleError (ObjectUri × Bytes) := do
  let target ← objectNameFor file strip dest
  let content ← (files.read file).mapError LifecycleError.ofFile
  return (target, content)

/-- Uploads a file below a destination. -/
def uploadFile (c : Client) (p : RetryPolicy) (file : Path) (strip : Option Path) (dest : ObjectUri)
    (contentType : Option String) (n : Network) (files : FileTree) : Transferred ObjectInfo :=
  match uploadSource files file strip dest with
  | .error e => ⟨some (.error e), n, files⟩
  | .ok (target, content) =>
    let payload : Payload := ⟨contentType.getD (contentTypeOf file), content⟩
    let (result, n) := repeated p target.bucket.name .upload (c.upload target payload) n
    ⟨result, n, files⟩

/-- Puts content into a file, making its directory where it is missing.  Directories that were made
stay even where a later step fails. -/
def placeFile (files : FileTree) (file : Path) (content : Bytes) :
    Except LifecycleError Path × FileTree :=
  match files.makeParent file with
  | (.error e, made) => (.error (.ofFile e), made)
  | (.ok (), made) =>
    match made.write file content with
    | .error e => (.error (.ofFile e), made)
    | .ok after => (.ok file, after)

/-- Downloads an object into a directory. -/
def downloadTo (c : Client) (p : RetryPolicy) (source : ObjectUri) (strip : Option String)
    (dir : Path) (n : Network) (files : FileTree) : Transferred Path :=
  match localPathFor source strip dir with
  | .error e => ⟨some (.error e), n, files⟩
  | .ok file =>
    match repeated p source.bucket.name .download (c.download source) n with
    | (some (.ok content), n) =>
      let (result, files) := placeFile files file content
      ⟨some result, n, files⟩
    | (some (.error e), n) => ⟨some (.error e), n, files⟩
    | (none, n) => ⟨none, n, files⟩

end BucketLifecycle
