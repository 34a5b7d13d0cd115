import VulnOpsHub.Lib.Url
import VulnOpsHub.Sbom.Storable

set_option autoImplicit false

/-! # Reading raw bytes back

`parse_object_uri` and `get_object_bytes` of `object_storage/object_store.py` and `read_raw_bytes` of
`evidence/raw_store.py`, over the objects and files that the two `persist` functions write. -/

namespace VulnOpsHub

namespace Sbom

/-- What reading raises: `FileNotFoundError`, the service's error for a key it does not have, or
    another exception. -/
inductive ReadError where
  | fileNotFound
  | noSuchKey
  | raised (e : PyError)
deriving DecidableEq, Repr

section Reading

variable [UrlHost]

/-- `parse_object_uri`. -/
def parseObjectUri (uri : String) : Except PyError (String × String) := do
  let parsed ← Url.split uri.toList
  let key := parsed.path.dropWhile (· = '/')
  raiseIf (parsed.scheme ≠ ['s', '3'] ∨ parsed.netloc = [] ∨ key = [])
    (.valueError ("unsupported object URI: " ++ uri))
  pure (String.ofList parsed.netloc, String.ofList key)

/-- `filename.removesuffix(".json")`. -/
def removeJson (filename : List Char) : List Char :=
  if ".json".toList <:+ filename then filename.take (filename.length - 5) else filename

/-- `get_object_bytes` without an object store. -/
def localObjectBytes (files : Files) (key : String) : Except ReadError ByteArray :=
  match key.toList.splitOn '/' with
  | [first, organizationId, filename] =>
      if first = "sbom".toList then do
        let key ← (sbomObjectKey (String.ofList organizationId)
          (String.ofList (removeJson filename))).mapError .raised
        (files (localSbomPath key)).elim (.error .fileNotFound) .ok
      else .error .fileNotFound
  | _ => .error .fileNotFound

/-- `get_object_bytes`. -/
def getObjectBytes (settings : StorageSettings) (objects files : Files) (uri : String) :
    Except ReadError ByteArray := do
  let (bucket, key) ← (parseObjectUri uri).mapError ReadError.raised
  match settings.state with
  | .incomplete =>
      .error (.raised (.runtimeError
        ("OBJECT_STORAGE_ENDPOINT, ACCESS_KEY, and SECRET_KEY must all be set "
          ++ "together or left unset; partial configuration is not allowed")))
  | .enabled =>
      match settings.failure with
      | some e => .error (.raised e)
      | none => (objects (objectUri bucket key)).elim (.error .noSuchKey) .ok
  | .disabled => localObjectBytes files key

/-- The local paths that `read_raw_bytes` tries, in their order. -/
def localBytes (files : Files) (organizationId digest : String) :
    Except PyError (Option ByteArray) := do
  let key ← sbomObjectKey organizationId digest
  let path ← evidenceLocalPath organizationId digest
  pure ((files (localSbomPath key)).or (files path))

/-- `read_raw_bytes`. -/
def readRawBytes (settings : StorageSettings) (objects files : Files)
    (organizationId digest : String) (uri : Option String) : Except ReadError (Option ByteArray) := do
  let _ ← (validateOrganizationId organizationId).mapError ReadError.raised
  match uri.filter fun uri => "s3://".toList <+: uri.toList with
  | none => (localBytes files organizationId digest).mapError .raised
  | some uri =>
      match getObjectBytes settings objects files uri with
      | .ok rawBytes => pure (some rawBytes)
      | .error .fileNotFound => (localBytes files organizationId digest).mapError .raised
      | .error e => .error e

end Reading

/-! ## Calls -/

inductive RawKind where
  | sbom
  | evidence
deriving DecidableEq, Repr

/-- A call of `persist_sbom_raw_bytes` or `persist_evidence_bytes`, with the digest of its bytes. -/
structure RawCall where
  kind : RawKind
  organizationId : String
  rawBytes : ByteArray
  safe : unsafeSegment organizationId = false

section Calls

variable [Sha256]

def RawCall.digest (call : RawCall) : String := Sha256.hexdigest call.rawBytes

/-- One call: the URI that it returns, if it does, the objects and the files. -/
def RawCall.persist (settings : StorageSettings) (call : RawCall) (objects files : Files) :
    Except PyError (Option String × Files × Files) :=
  match call.kind with
  | .sbom => do
      let (uri, stores) ← persistSbomRawBytes settings call.rawBytes call.organizationId call.digest
        objects files
      pure (some uri, stores)
  | .evidence => do
      let files ← persistEvidenceBytes call.rawBytes call.organizationId call.digest files
      pure (none, objects, files)

/-- A sequence of calls, each with what it returns. -/
def persistAll (settings : StorageSettings) :
    List RawCall → Files → Files → Except PyError (List (RawCall × Option String) × Files × Files)
  | [], objects, files => .ok ([], objects, files)
  | call :: calls, objects, files => do
      let (uri, objects, files) ← call.persist settings objects files
      let (answers, stores) ← persistAll settings calls objects files
      pure ((call, uri) :: answers, stores)

end Calls

end Sbom

end VulnOpsHub
