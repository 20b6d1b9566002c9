import TriAI.Catalog.Model
import TriAI.GgufRegistry

/-!
Contract: the scan of the model sources (`model_sources.rs`).

Owns: `scan` with the scanners of GGUF directories and of Ollama manifests, and the
warnings they leave.

Does not own: the search for GGUF files and for manifests, the parsing of a manifest
and the registry of aliases, whose results are fields of the host; and what
`sha256sum` prints (`Storage.Sha256sum`).
-/

set_option autoImplicit false

namespace TriAI.Catalog

open TriAI.Chat (toAsciiLowercase)
open TriAI.GgufRegistry (GgufMetadata)
open TriAI.Library.FileTree
open TriAI.Storage

/-! ## The host -/

/-- The calls of a scan that may fail on a file that is there. -/
inductive HostCall where
  | openFile
  | sha256sum
  | metadata
deriving DecidableEq, Repr

/-- `GgufModel` of the registry's scan. -/
structure GgufModel where
  relativePath : String
  sizeBytes : Nat

structure OllamaLayer where
  mediaType : String
  digest : String
  size : Nat

structure OllamaManifest where
  layers : List OllamaLayer

/-- A file system that does not change, as a scan sees it. -/
structure ModelHost where
  /-- The regular file a path leads to. -/
  content : Path → Option ByteVec
  /-- Something that is no regular file. -/
  isOther : Path → Bool
  /-- Why a call fails, if it does. -/
  failure : HostCall → Path → Option IoFailure
  /-- `io::Error::fmt`. -/
  describe : IoFailure → String
  /-- `gguf_registry::scan`. -/
  ggufModels : Path → Except IoFailure (List GgufModel)
  /-- `gguf_registry::resolve_under`. -/
  resolveUnder : Path → String → Except IoFailure (Option Path)
  /-- `regular_files_under`. -/
  regularFilesUnder : Path → Except IoFailure (List Path)
  /-- `read_manifest`. -/
  readManifest : Path → Except IoFailure OllamaManifest
  /-- The alias `ModelRegistry` has for a name. -/
  registryAlias : String → Option String
  sha256sum : Sha256sum

structure SourceConfig where
  modelsDir : Path
  lmStudioRoots : List Path
  janRoots : List Path
  ollamaRoot : Option Path

structure CatalogScan where
  catalog : ModelCatalog := {}
  warnings : List String := []

namespace CatalogScan

def warn (result : CatalogScan) (warning : String) : CatalogScan :=
  { result with warnings := result.warnings ++ [warning] }

/-- The catalogue after an addition, or a warning that it was refused. -/
def addOrWarn (result : CatalogScan) (warning : CatalogError → String) :
    Except CatalogError ModelCatalog → CatalogScan
  | .ok catalog => { result with catalog }
  | .error error => result.warn (warning error)

end CatalogScan

/-- `CatalogError::fmt`. -/
def CatalogError.text : CatalogError → String
  | .invalidDigest digest =>
      s!"ungültiger SHA-256-Digest '{digest}': erwartet werden genau 64 Hex-Zeichen"

/-- `Path::display`. -/
def display (path : Path) : String := "/" ++ String.intercalate "/" path

def sourceLabel : SourceKind → String
  | .directGguf => "GGUF"
  | .ollama => "Ollama"
  | .lmStudio => "LM-Studio"
  | .jan => "Jan"

/-! ## Files -/

/-- `valid_sha256`. -/
def validSha256 (value : String) : Option String :=
  let hexadecimal := withoutScheme (trim value).toList
  if hexadecimal.length = 64 ∧ hexadecimal.all isHexDigit then
    some (String.ofList hexadecimal)
  else none

def ollamaModelMediaType : String := "application/vnd.ollama.image.model"

section Host

variable (host : ModelHost)

/-- The content of a file for a call that reads it. -/
def ModelHost.reads (call : HostCall) (path : Path) : Except IoFailure ByteVec :=
  match host.failure call path, host.content path with
  | some error, _ => .error error
  | none, some content => .ok content
  | none, none => .error { kind := .notFound }

/-- `gguf_registry::inspect` of a path. -/
def inspectPath (path : Path) : Except IoFailure GgufMetadata :=
  (host.reads .openFile path).bind GgufRegistry.inspect

/-- `sha256_file`. -/
def sha256File (path : Path) : Except IoFailure String :=
  match host.reads .sha256sum path with
  | .error error => .error error
  | .ok content =>
      match validSha256 (host.sha256sum.digest path content.bytes) with
      | some digest => .ok ("sha256:" ++ digest)
      | none => .error { kind := .invalidData, message := some "sha256sum ohne Digest" }

/-- `metadata_for_file`. -/
def metadataForFile (path : Path) (digest : String) (sizeBytes : Option Nat)
    (aliasName : Option String) : CatalogMetadata :=
  match inspectPath host path with
  | .ok gguf =>
      { digest, aliasName, sizeBytes
        family := gguf.architecture
        familyVerified := true
        format := some "gguf"
        parameters := gguf.parameterCount.map fun count => toString count.toNat
        quantization := gguf.quantization
        contextTokens := gguf.contextLength.map UInt64.toNat
        capabilities := ["completion"] }
  | .error error =>
      { digest, aliasName, sizeBytes
        format := some "gguf"
        unavailableReason := some ("GGUF-Metadaten ungültig: " ++ host.describe error) }

/-- `add_file`, which no scanner calls for Ollama. -/
def addFile (catalog : ModelCatalog) (source : SourceKind) (path : Path)
    (metadata : CatalogMetadata) : Except CatalogError ModelCatalog :=
  match source with
  | .directGguf => catalog.addDirectGguf path metadata
  | .ollama => catalog.addOllama path "" metadata
  | .lmStudio => catalog.addLmStudio path metadata
  | .jan => catalog.addJan path metadata

/-- One model of `scan_gguf_root`. -/
def scanGgufModel (root : Path) (source : SourceKind) (result : CatalogScan)
    (model : GgufModel) : CatalogScan :=
  match host.resolveUnder root model.relativePath with
  | .ok none => result
  | .error error =>
      result.warn (sourceLabel source ++ "-Datei '" ++ model.relativePath ++
        "' nicht sicher auflösbar: " ++ host.describe error)
  | .ok (some path) =>
      match sha256File host path with
      | .error error =>
          result.warn (sourceLabel source ++ "-Datei '" ++ model.relativePath ++
            "' nicht hashbar: " ++ host.describe error)
      | .ok digest =>
          result.addOrWarn (fun error => "Katalogeintrag ungültig: " ++ error.text)
            (addFile result.catalog source path
              (metadataForFile host path digest (some model.sizeBytes) none))

/-- `scan_gguf_root`. -/
def scanGgufRoot (source : SourceKind) (result : CatalogScan) (root : Path) : CatalogScan :=
  match host.ggufModels root with
  | .error error =>
      result.warn (sourceLabel source ++ "-Root '" ++ display root ++ "' nicht lesbar: " ++
        host.describe error)
  | .ok models => models.foldl (scanGgufModel host root source) result

/-! ## Ollama -/

/-- `ollama_name`. -/
def ollamaName (root manifest : Path) : Option String :=
  if root.isPrefixOf manifest then
    let parts := manifest.drop root.length
    if parts.length < 2 then none
    else
      let tag := parts.getLast?.getD ""
      let parts := parts.dropLast
      let parts :=
        if parts.head? = some "registry.ollama.ai" then
          (if parts.tail.head? = some "library" then parts.tail.tail else parts.tail)
        else parts
      if parts = [] then none else some (String.intercalate "/" parts ++ ":" ++ tag)
  else none

/-- The file of a layer. -/
def blobPath (root : Path) (hexDigest : String) : Path :=
  root ++ ["blobs", "sha256-" ++ hexDigest]

/-- The size of a blob, and what is wrong with its kind or size. -/
def blobSize (path : Path) (expected : Nat) : Option Nat × List String :=
  match host.failure .metadata path, host.content path with
  | some error, _ =>
      (none, ["Ollama-Blob fehlt oder ist nicht lesbar: " ++ host.describe error])
  | none, some content =>
      (some content.bytes.length,
        if content.bytes.length ≠ expected then
          [s!"Ollama-Blobgröße {content.bytes.length} stimmt nicht mit Manifestgröße {expected} überein"]
        else [])
  | none, none =>
      if host.isOther path then (none, ["Ollama-Blob ist keine reguläre Datei"])
      else
        (none, ["Ollama-Blob fehlt oder ist nicht lesbar: " ++
          host.describe { kind := .notFound }])

/-- What is wrong with the digest of a blob. -/
def blobDigest (path : Path) (expected : String) : List String :=
  match sha256File host path with
  | .ok actual =>
      if actual = expected then []
      else [s!"Ollama-Blob-Digest {actual} stimmt nicht mit {expected} überein"]
  | .error error => ["Ollama-Blob nicht hashbar: " ++ host.describe error]

/-- Everything that is wrong with a blob. -/
def blobFaults (path : Path) (expectedSize : Nat) (expectedDigest : String) : List String :=
  let (actualSize, faults) := blobSize host path expectedSize
  faults ++ (if actualSize.isSome then blobDigest host path expectedDigest else [])

/-- The metadata of the blob of a layer. -/
def ollamaMetadata (root : Path) (name hexDigest : String) (size : Nat) : CatalogMetadata :=
  let path := blobPath root hexDigest
  let metadata := metadataForFile host path ("sha256:" ++ hexDigest) (some size)
    (host.registryAlias name)
  let faults := blobFaults host path size ("sha256:" ++ hexDigest)
  if faults = [] then metadata
  else
    { metadata with
      unavailableReason := some (String.intercalate "; " faults)
      familyVerified := false }

/-- One manifest of `scan_ollama`. -/
def scanManifest (root : Path) (result : CatalogScan) (manifestPath : Path) : CatalogScan :=
  match ollamaName (root ++ ["manifests"]) manifestPath with
  | none => result
  | some name =>
      match host.readManifest manifestPath with
      | .error error =>
          result.warn ("Ollama-Manifest '" ++ name ++ "' ungültig: " ++ host.describe error)
      | .ok manifest =>
          match manifest.layers.filter fun layer => layer.mediaType = ollamaModelMediaType with
          | [layer] =>
              match validSha256 layer.digest with
              | none => result.warn ("Ollama-Manifest '" ++ name ++ "' hat ungültigen Model-Digest")
              | some hexDigest =>
                  result.addOrWarn
                    (fun error => "Ollama-Eintrag nicht katalogisierbar: " ++ error.text)
                    (result.catalog.addOllama (blobPath root hexDigest) name
                      (ollamaMetadata host root name hexDigest layer.size))
          | layers =>
              result.warn (s!"Ollama-Manifest '{name}' enthält {layers.length} Model-Layer statt genau einem")

/-- `scan_ollama`. -/
def scanOllama (result : CatalogScan) (root : Path) : CatalogScan :=
  match host.regularFilesUnder (root ++ ["manifests"]) with
  | .error error =>
      if error.kind = .notFound then result
      else
        result.warn ("Ollama-Manifeste '" ++ display (root ++ ["manifests"]) ++
          "' nicht lesbar: " ++ host.describe error)
  | .ok manifests => manifests.foldl (scanManifest host root) result

/-- `scan`. -/
def scan (config : SourceConfig) : CatalogScan :=
  let result := scanGgufRoot host .directGguf {} config.modelsDir
  let result := config.lmStudioRoots.foldl (scanGgufRoot host .lmStudio) result
  let result := config.janRoots.foldl (scanGgufRoot host .jan) result
  match config.ollamaRoot with
  | some root => scanOllama host result root
  | none => result

end Host

end TriAI.Catalog
