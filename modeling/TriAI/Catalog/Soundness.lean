import TriAI.Catalog.Digests

/-!
Contract: what the start locations of a scanned catalogue are.

Owns: the invariant of the catalogue under additions in any order; that an entry with a
reason keeps it; and that every start location is a GGUF file with the entry's digest
whose Ollama blobs are intact.

Does not own: the scan (`Catalog.Sources`).
-/

set_option autoImplicit false

namespace TriAI.Catalog

open TriAI.Library.FileTree
open TriAI.Storage

/-! ## Entries -/

/-- A startable entry has no reason against it. -/
theorem EntryAccumulator.reasons_of_startable {accumulator : EntryAccumulator}
    (startable : accumulator.toEntry.startable = true) :
    accumulator.unavailableReasons = ∅ := by
  have noReasons : accumulator.reasons = [] := by
    by_contra some
    have unavailable : accumulator.toEntry.startable = false := by
      simp [EntryAccumulator.toEntry, some]
    rw [unavailable] at startable
    cases startable
  unfold EntryAccumulator.reasons at noReasons
  have noneListed := (List.append_eq_nil_iff.mp noReasons).1
  have members : ∀ reason, reason ∉ accumulator.unavailableReasons := by
    intro reason member
    have listed := (Finset.mem_sort (· ≤ ·)).mpr member
    rw [noneListed] at listed
    cases listed
  exact Finset.eq_empty_of_forall_notMem members

/-- A reason that is not blank stays with the entry. -/
theorem EntryAccumulator.reasons_merge (accumulator : EntryAccumulator)
    (location : CatalogLocation) (ollamaName : Option String) (metadata : CatalogMetadata) :
    (accumulator.merge location ollamaName metadata).unavailableReasons = ∅ ↔
      accumulator.unavailableReasons = ∅ ∧ metadata.unavailableReason.bind cleaned = none := by
  show withOption _ _ = ∅ ↔ _
  unfold withOption
  rw [Finset.union_eq_empty]
  cases metadata.unavailableReason.bind cleaned with
  | none => simp
  | some reason => simp

section Invariant

variable (host : ModelHost)

/-- The identifier of a content. -/
def digestOf (content : ByteVec) : String := "sha256:" ++ host.sha256sum.hex content.bytes

/-- The file at a path has this digest, and the inspector accepts it. -/
def IsModel (id : String) (path : Path) : Prop :=
  ∃ content, host.content path = some content ∧ id = digestOf host content ∧
    GgufRegistry.Accepts content

/-- Every entry without a reason has models for its locations. -/
def CatalogSound (catalog : ModelCatalog) : Prop :=
  ∀ id accumulator, catalog.entries.lookup id = some accumulator →
    accumulator.unavailableReasons = ∅ →
    ∀ location ∈ accumulator.locations, IsModel host id location.path

/-- The entry has a reason against it. -/
def Blamed (id : String) (catalog : ModelCatalog) : Prop :=
  ∃ accumulator, catalog.entries.lookup id = some accumulator ∧
    accumulator.unavailableReasons ≠ ∅

variable {host} {catalog next : ModelCatalog} {source : SourceKind} {path : Path}
  {ollamaName : Option String} {metadata : CatalogMetadata}

/-- Inversion of an addition. -/
theorem add_eq_ok (added : catalog.add source path ollamaName metadata = .ok next) :
    ∃ digest, normalizeSha256 metadata.digest = .ok digest ∧
      next.entries = catalog.entries.insert digest
        (((catalog.entries.lookup digest).getD { digest }).merge { source, path } ollamaName
          metadata) := by
  unfold ModelCatalog.add at added
  cases normalized : normalizeSha256 metadata.digest with
  | error error =>
      rw [normalized] at added
      cases added
  | ok digest =>
      rw [normalized] at added
      cases added
      exact ⟨digest, rfl, rfl⟩

/-- Step lemma: an addition with no reason against it has to be a model. -/
theorem CatalogSound.add (sound : CatalogSound host catalog)
    (added : catalog.add source path ollamaName metadata = .ok next)
    (isModel : ∀ digest, normalizeSha256 metadata.digest = .ok digest →
      metadata.unavailableReason.bind cleaned = none → IsModel host digest path) :
    CatalogSound host next := by
  obtain ⟨digest, normalized, entries⟩ := add_eq_ok added
  intro id accumulator found noReasons location member
  rw [entries] at found
  by_cases same : id = digest
  · subst same
    rw [Finmap.lookup_insert] at found
    obtain rfl := Option.some.inj found
    obtain ⟨before, now⟩ := (EntryAccumulator.reasons_merge _ _ _ _).mp noReasons
    rcases Finset.mem_insert.mp member with rfl | earlier
    · exact isModel id normalized now
    · cases present : catalog.entries.lookup id with
      | none =>
          rw [present] at earlier
          cases earlier
      | some entry =>
          rw [present] at earlier before
          exact sound id entry present before location earlier
  · rw [Finmap.lookup_insert_of_ne _ same] at found
    exact sound id accumulator found noReasons location member

/-- An addition keeps a reason. -/
theorem Blamed.add {id : String} (blamed : Blamed id catalog)
    (added : catalog.add source path ollamaName metadata = .ok next) : Blamed id next := by
  obtain ⟨accumulator, found, reasons⟩ := blamed
  obtain ⟨digest, _, entries⟩ := add_eq_ok added
  by_cases same : id = digest
  · subst same
    refine ⟨_, by rw [entries, Finmap.lookup_insert], ?_⟩
    rw [found]
    intro none
    exact reasons ((EntryAccumulator.reasons_merge _ _ _ _).mp none).1
  · exact ⟨accumulator, by rw [entries, Finmap.lookup_insert_of_ne _ same, found], reasons⟩

/-- An addition with a reason puts it to the entry. -/
theorem Blamed.of_add {id : String}
    (added : catalog.add source path ollamaName metadata = .ok next)
    (normalized : normalizeSha256 metadata.digest = .ok id)
    (reason : metadata.unavailableReason.bind cleaned ≠ none) : Blamed id next := by
  obtain ⟨digest, normalized', entries⟩ := add_eq_ok added
  obtain rfl := Except.ok.inj (normalized.symm.trans normalized')
  refine ⟨_, by rw [entries, Finmap.lookup_insert], ?_⟩
  intro none
  exact reason ((EntryAccumulator.reasons_merge _ _ _ _).mp none).2

end Invariant

/-! ## Files -/

section Host

variable {host : ModelHost}

theorem content_of_reads {call : HostCall} {path : Path} {content : ByteVec}
    (reads : host.reads call path = .ok content) : host.content path = some content := by
  unfold ModelHost.reads at reads
  split at reads
  · cases reads
  · rename_i found
    cases reads
    exact found
  · cases reads

/-- The digest of a file that can be hashed is its identifier. -/
theorem sha256File_eq_ok (lawful : host.sha256sum.Lawful) {path : Path} {digest : String}
    (hashed : sha256File host path = .ok digest) :
    ∃ content, host.content path = some content ∧ digest = digestOf host content := by
  unfold sha256File at hashed
  split at hashed
  · cases hashed
  · rename_i content reads
    split at hashed
    · rename_i digits valid
      cases hashed
      exact ⟨content, content_of_reads reads, by rw [validSha256_digest lawful valid]; rfl⟩
    · cases hashed

theorem normalizeSha256_digestOf (lawful : host.sha256sum.Lawful) (content : ByteVec) :
    normalizeSha256 (digestOf host content) = .ok (digestOf host content) :=
  (lowerDigits_hex lawful content.bytes).normalizeSha256_eq

@[simp] theorem metadataForFile_digest (path : Path) (digest : String) (sizeBytes : Option Nat)
    (aliasName : Option String) :
    (metadataForFile host path digest sizeBytes aliasName).digest = digest := by
  unfold metadataForFile
  split <;> rfl

/-- A file without a reason against it is accepted by the inspector. -/
theorem accepts_of_metadataForFile {path : Path} {digest : String} {sizeBytes : Option Nat}
    {aliasName : Option String}
    (noReason : (metadataForFile host path digest sizeBytes aliasName).unavailableReason.bind
      cleaned = none) :
    ∃ content, host.content path = some content ∧ GgufRegistry.Accepts content := by
  unfold metadataForFile at noReason
  split at noReason
  · rename_i gguf inspected
    unfold inspectPath at inspected
    cases reads : host.reads .openFile path with
    | error error =>
        rw [reads] at inspected
        cases inspected
    | ok content =>
        rw [reads] at inspected
        exact ⟨content, content_of_reads reads, gguf, inspected⟩
  · rename_i error _
    have visible : 'G' ∈ ("GGUF-Metadaten ungültig: " ++ host.describe error).toList := by
      rw [String.toList_append, List.mem_append]
      exact .inl (by decide +kernel)
    simp only [Option.bind_some] at noReason
    exact absurd noReason (cleaned_ne_none visible (by decide))

/-- An addition that is warned of leaves the catalogue alone. -/
theorem CatalogScan.addOrWarn_catalog {Holds : ModelCatalog → Prop} {result : CatalogScan}
    {warning : CatalogError → String} {outcome : Except CatalogError ModelCatalog}
    (before : Holds result.catalog) (added : ∀ next, outcome = .ok next → Holds next) :
    Holds (result.addOrWarn warning outcome).catalog := by
  cases outcome with
  | error error => exact before
  | ok next => exact added next rfl

theorem addFile_eq_add (catalog : ModelCatalog) (source : SourceKind) (path : Path)
    (metadata : CatalogMetadata) :
    ∃ name, addFile catalog source path metadata = catalog.add source path name metadata := by
  cases source
  · exact ⟨none, rfl⟩
  · exact ⟨cleaned "", rfl⟩
  · exact ⟨none, rfl⟩
  · exact ⟨none, rfl⟩

/-! ## GGUF directories -/

/-- What is kept by every addition of a file by its own digest and metadata. -/
theorem scanGgufModel_keeps {Holds : ModelCatalog → Prop} {root : Path} {source : SourceKind}
    {result : CatalogScan} {model : GgufModel}
    (adds : ∀ catalog path digest size name next, Holds catalog →
      sha256File host path = .ok digest →
      catalog.add source path name (metadataForFile host path digest (some size) none) = .ok next →
      Holds next) (before : Holds result.catalog) :
    Holds (scanGgufModel host root source result model).catalog := by
  unfold scanGgufModel
  split
  · exact before
  · exact before
  · split
    · exact before
    · rename_i path _ _ digest hashed
      obtain ⟨name, same⟩ := addFile_eq_add result.catalog source path
        (metadataForFile host path digest (some model.sizeBytes) none)
      apply CatalogScan.addOrWarn_catalog before
      intro next added
      rw [same] at added
      exact adds result.catalog path digest model.sizeBytes name next before hashed added

theorem scanGgufRoot_keeps {Holds : ModelCatalog → Prop} {root : Path} {source : SourceKind}
    {result : CatalogScan}
    (adds : ∀ catalog path digest size name next, Holds catalog →
      sha256File host path = .ok digest →
      catalog.add source path name (metadataForFile host path digest (some size) none) = .ok next →
      Holds next) (before : Holds result.catalog) :
    Holds (scanGgufRoot host source result root).catalog := by
  unfold scanGgufRoot
  split
  · exact before
  · rename_i models listed
    clear listed
    induction models generalizing result with
    | nil => exact before
    | cons model rest inductionHypothesis =>
        exact inductionHypothesis (scanGgufModel_keeps adds before)

/-- An addition of a file by its own digest and metadata is an addition of a model. -/
theorem CatalogSound.add_file (lawful : host.sha256sum.Lawful) {catalog next : ModelCatalog}
    {path : Path} {digest : String} {size : Nat} {name : Option String} {source : SourceKind}
    (sound : CatalogSound host catalog) (hashed : sha256File host path = .ok digest)
    (added : catalog.add source path name (metadataForFile host path digest (some size) none) =
      .ok next) : CatalogSound host next := by
  apply sound.add added
  intro id normalized noReason
  obtain ⟨content, isContent, rfl⟩ := sha256File_eq_ok lawful hashed
  obtain ⟨inspected, isInspected, accepts⟩ := accepts_of_metadataForFile noReason
  obtain rfl := Option.some.inj (isContent.symm.trans isInspected)
  rw [metadataForFile_digest, normalizeSha256_digestOf lawful] at normalized
  exact ⟨content, isContent, (Except.ok.inj normalized).symm, accepts⟩

/-! ## Ollama -/

/-- The blob of a layer is there, and has the size and the digest the manifest gives it
and a content the inspector accepts. -/
def IntactBlob (host : ModelHost) (root : Path) (hexDigest : String) (size : Nat) : Prop :=
  ∃ content, host.content (blobPath root hexDigest) = some content ∧
    content.bytes.length = size ∧ "sha256:" ++ hexDigest = digestOf host content ∧
    GgufRegistry.Accepts content

private theorem visible_blobSize {path : Path} {size : Nat} {fault : String}
    (member : fault ∈ (blobSize host path size).2) : 'O' ∈ fault.toList := by
  unfold blobSize at member
  split at member
  · obtain rfl := List.mem_singleton.mp member
    simp
  · split at member
    · obtain rfl := List.mem_singleton.mp member
      simp [ToString.toString]
    · cases member
  · split at member
    · obtain rfl := List.mem_singleton.mp member
      simp
    · obtain rfl := List.mem_singleton.mp member
      simp

private theorem visible_blobDigest {path : Path} {digest fault : String}
    (member : fault ∈ blobDigest host path digest) : 'O' ∈ fault.toList := by
  unfold blobDigest at member
  split at member
  · split at member
    · cases member
    · obtain rfl := List.mem_singleton.mp member
      simp [ToString.toString]
  · obtain rfl := List.mem_singleton.mp member
    simp

/-- Every fault is said in words. -/
private theorem visible_blobFaults {path : Path} {size : Nat} {digest fault : String}
    (member : fault ∈ blobFaults host path size digest) : 'O' ∈ fault.toList := by
  rcases List.mem_append.mp member with ofSize | ofDigest
  · exact visible_blobSize ofSize
  · by_cases known : (blobSize host path size).1.isSome
    · have faults : fault ∈ if (blobSize host path size).1.isSome then
          blobDigest host path digest else [] := ofDigest
      rw [if_pos known] at faults
      exact visible_blobDigest faults
    · have faults : fault ∈ if (blobSize host path size).1.isSome then
          blobDigest host path digest else [] := ofDigest
      rw [if_neg known] at faults
      cases faults

/-- A text of several faults begins with the first one. -/
private theorem mem_intercalate {first : String} {rest : List String} {c : Char}
    (member : c ∈ first.toList) : c ∈ (String.intercalate "; " (first :: rest)).toList := by
  cases rest with
  | nil => simpa using member
  | cons second rest =>
      rw [String.intercalate_cons_cons]
      simp [member]

/-- A blob without faults is there, with the expected size and digest. -/
private theorem blob_of_noFaults (lawful : host.sha256sum.Lawful) {path : Path} {size : Nat}
    {digest : String} (noFaults : blobFaults host path size digest = []) :
    ∃ content, host.content path = some content ∧ content.bytes.length = size ∧
      digest = digestOf host content := by
  obtain ⟨noSizeFault, noDigestFault⟩ := List.append_eq_nil_iff.mp noFaults
  have noDigestFault : (if (blobSize host path size).1.isSome then
      blobDigest host path digest else []) = [] := noDigestFault
  have noSizeFault : (blobSize host path size).2 = [] := noSizeFault
  cases failed : host.failure .metadata path with
  | some error =>
      simp only [blobSize, failed] at noSizeFault
      cases noSizeFault
  | none =>
      cases isContent : host.content path with
      | none =>
          simp only [blobSize, failed, isContent] at noSizeFault
          split at noSizeFault
          · cases noSizeFault
          · cases noSizeFault
      | some content =>
          simp only [blobSize, failed, isContent] at noSizeFault noDigestFault
          have sameSize : content.bytes.length = size := by
            by_contra different
            rw [if_pos different] at noSizeFault
            cases noSizeFault
          rw [if_pos (by rfl)] at noDigestFault
          unfold blobDigest at noDigestFault
          split at noDigestFault
          · rename_i actual hashed
            split at noDigestFault
            · rename_i same
              obtain ⟨hashedContent, found, isDigest⟩ := sha256File_eq_ok lawful hashed
              obtain rfl := Option.some.inj (isContent.symm.trans found)
              exact ⟨content, rfl, sameSize, same ▸ isDigest⟩
            · cases noDigestFault
          · cases noDigestFault

@[simp] theorem ollamaMetadata_digest (root : Path) (name hexDigest : String) (size : Nat) :
    (ollamaMetadata host root name hexDigest size).digest = "sha256:" ++ hexDigest := by
  unfold ollamaMetadata
  simp only
  split <;> simp

/-- The blob of an addition without a reason against it is intact. -/
theorem intactBlob_of_noReason (lawful : host.sha256sum.Lawful) {root : Path}
    {name hexDigest : String} {size : Nat}
    (noReason : (ollamaMetadata host root name hexDigest size).unavailableReason.bind cleaned =
      none) : IntactBlob host root hexDigest size := by
  unfold ollamaMetadata at noReason
  simp only at noReason
  cases faults : blobFaults host (blobPath root hexDigest) size ("sha256:" ++ hexDigest) with
  | nil =>
      rw [faults, if_pos rfl] at noReason
      obtain ⟨content, isContent, sameSize, sameDigest⟩ := blob_of_noFaults lawful faults
      obtain ⟨inspected, isInspected, accepts⟩ := accepts_of_metadataForFile noReason
      obtain rfl := Option.some.inj (isContent.symm.trans isInspected)
      exact ⟨content, isContent, sameSize, sameDigest, accepts⟩
  | cons first rest =>
      rw [faults, if_neg (List.cons_ne_nil first rest)] at noReason
      have member : first ∈ first :: rest := List.mem_cons_self ..
      rw [← faults] at member
      have said := visible_blobFaults member
      simp only [Option.bind_some] at noReason
      exact absurd noReason (cleaned_ne_none (mem_intercalate said) (by decide))

/-- A manifest the scan accepts: it has a name, can be read, and has exactly one layer of
a model, with a valid digest. -/
structure NamesBlob (host : ModelHost) (root manifestPath : Path) (hexDigest : String)
    (size : Nat) : Prop where
  named : (ollamaName (root ++ ["manifests"]) manifestPath).isSome
  layer : ∃ manifest layer, host.readManifest manifestPath = .ok manifest ∧
    (manifest.layers.filter fun layer => layer.mediaType = ollamaModelMediaType) = [layer] ∧
    validSha256 layer.digest = some hexDigest ∧ layer.size = size

/-- What is kept by every addition of a blob. -/
theorem scanManifest_keeps {Holds : ModelCatalog → Prop} {root manifestPath : Path}
    {result : CatalogScan}
    (adds : ∀ catalog name hexDigest size next, Holds catalog →
      catalog.addOllama (blobPath root hexDigest) name
        (ollamaMetadata host root name hexDigest size) = .ok next → Holds next)
    (before : Holds result.catalog) :
    Holds (scanManifest host root result manifestPath).catalog := by
  unfold scanManifest
  split
  · exact before
  · rename_i name _
    split
    · exact before
    · split
      · rename_i layer _
        split
        · exact before
        · rename_i hexDigest _
          apply CatalogScan.addOrWarn_catalog before
          exact fun next added => adds result.catalog name hexDigest layer.size next before added
      · exact before

/-- A manifest of a blob that is not intact puts a reason to its entry. -/
theorem scanManifest_blames (lawful : host.sha256sum.Lawful) {root manifestPath : Path}
    {result : CatalogScan} {hexDigest id : String} {size : Nat}
    (names : NamesBlob host root manifestPath hexDigest size)
    (normalized : normalizeSha256 ("sha256:" ++ hexDigest) = .ok id)
    (damaged : ¬ IntactBlob host root hexDigest size) :
    Blamed id (scanManifest host root result manifestPath).catalog := by
  obtain ⟨name, isName⟩ := Option.isSome_iff_exists.mp names.named
  obtain ⟨manifest, layer, read, single, valid, rfl⟩ := names.layer
  unfold scanManifest
  rw [isName]
  simp only [read, single, valid]
  cases outcome : result.catalog.addOllama (blobPath root hexDigest) name
      (ollamaMetadata host root name hexDigest layer.size) with
  | error error =>
      unfold ModelCatalog.addOllama ModelCatalog.add at outcome
      rw [ollamaMetadata_digest, normalized] at outcome
      cases outcome
  | ok next =>
      apply Blamed.of_add outcome
      · rw [ollamaMetadata_digest, normalized]
      · intro noReason
        exact damaged (intactBlob_of_noReason lawful noReason)

/-- An addition of a blob is one of a model, unless there is a reason against it. -/
theorem CatalogSound.add_blob (lawful : host.sha256sum.Lawful) {catalog next : ModelCatalog}
    {root : Path} {name hexDigest : String} {size : Nat} (sound : CatalogSound host catalog)
    (added : catalog.addOllama (blobPath root hexDigest) name
      (ollamaMetadata host root name hexDigest size) = .ok next) : CatalogSound host next := by
  apply sound.add added
  intro id normalized noReason
  obtain ⟨content, isContent, _, isDigest, accepts⟩ := intactBlob_of_noReason lawful noReason
  rw [ollamaMetadata_digest, isDigest, normalizeSha256_digestOf lawful] at normalized
  exact ⟨content, isContent, (Except.ok.inj normalized).symm, accepts⟩

/-! ## The scan -/

theorem CatalogScan.foldl_keeps {ι : Type} {Holds : ModelCatalog → Prop}
    {step : CatalogScan → ι → CatalogScan}
    (keeps : ∀ result item, Holds result.catalog → Holds (step result item).catalog)
    (items : List ι) {result : CatalogScan} (before : Holds result.catalog) :
    Holds (items.foldl step result).catalog := by
  induction items generalizing result with
  | nil => exact before
  | cons item rest inductionHypothesis => exact inductionHypothesis (keeps result item before)

section Additions

variable {Holds : ModelCatalog → Prop} (config : SourceConfig)
    (files : ∀ source catalog path digest size name next, Holds catalog →
      sha256File host path = .ok digest →
      catalog.add source path name (metadataForFile host path digest (some size) none) = .ok next →
      Holds next)
    (blobs : ∀ root catalog name hexDigest size next, Holds catalog →
      catalog.addOllama (blobPath root hexDigest) name
        (ollamaMetadata host root name hexDigest size) = .ok next → Holds next)

include files blobs

/-- What every addition keeps, a scan keeps from the models directory on. -/
theorem scan_keeps_direct
    (direct : Holds (scanGgufRoot host .directGguf {} config.modelsDir).catalog) :
    Holds (scan host config).catalog := by
  have root : ∀ source result root, Holds result.catalog →
      Holds (scanGgufRoot host source result root).catalog :=
    fun source _ _ => scanGgufRoot_keeps (files source)
  have lmStudio := CatalogScan.foldl_keeps (root .lmStudio) config.lmStudioRoots direct
  have jan := CatalogScan.foldl_keeps (root .jan) config.janRoots lmStudio
  unfold scan
  cases config.ollamaRoot with
  | none => exact jan
  | some root =>
      unfold scanOllama
      simp only
      split
      · split
        · exact jan
        · exact jan
      · exact CatalogScan.foldl_keeps (fun _ _ => scanManifest_keeps (blobs root)) _ jan

/-- Run lemma: what every addition of a scan keeps, the scan keeps. -/
theorem scan_keeps (empty : Holds {}) : Holds (scan host config).catalog :=
  scan_keeps_direct config files blobs (scanGgufRoot_keeps (files _) empty)

end Additions

/-- The catalogue of a scan is sound. -/
theorem catalogSound_scan (lawful : host.sha256sum.Lawful) (config : SourceConfig) :
    CatalogSound host (scan host config).catalog := by
  apply scan_keeps
  · intro source catalog path digest size name next sound hashed added
    exact sound.add_file lawful hashed added
  · intro root catalog name hexDigest size next sound added
    exact sound.add_blob lawful added
  · intro id accumulator found
    cases found

/-- A manifest of a blob that is not intact leaves a reason in the scanned catalogue. -/
theorem blamed_scan (lawful : host.sha256sum.Lawful) {config : SourceConfig}
    {root manifestPath : Path} {manifests : List Path} {hexDigest id : String} {size : Nat}
    (isRoot : config.ollamaRoot = some root)
    (listed : host.regularFilesUnder (root ++ ["manifests"]) = .ok manifests)
    (member : manifestPath ∈ manifests) (names : NamesBlob host root manifestPath hexDigest size)
    (normalized : normalizeSha256 ("sha256:" ++ hexDigest) = .ok id)
    (damaged : ¬ IntactBlob host root hexDigest size) :
    Blamed id (scan host config).catalog := by
  obtain ⟨before, after, rfl⟩ := List.append_of_mem member
  unfold scan
  simp only [isRoot, scanOllama, listed, List.foldl_append, List.foldl_cons]
  have keeps : ∀ result manifest, Blamed id result.catalog →
      Blamed id (scanManifest host root result manifest).catalog :=
    fun _ _ => scanManifest_keeps fun _ _ _ _ _ blamed added => blamed.add added
  exact CatalogScan.foldl_keeps keeps after (scanManifest_blames lawful names normalized damaged)

end Host

/-- Every start location of a scanned catalogue is a GGUF file with the digest it is
filed under; and an entry whose digest an accepted Ollama manifest names for a blob that
is not intact is not startable. -/
theorem scan_sound (host : ModelHost) (lawful : host.sha256sum.Lawful) (config : SourceConfig)
    (id : String) :
    (∀ source path, (scan host config).catalog.startLocation id = some (source, path) →
      IsModel host id path) ∧
    ∀ root manifests manifestPath hexDigest size, config.ollamaRoot = some root →
      host.regularFilesUnder (root ++ ["manifests"]) = .ok manifests →
      manifestPath ∈ manifests → NamesBlob host root manifestPath hexDigest size →
      normalizeSha256 ("sha256:" ++ hexDigest) = .ok id →
      ¬ IntactBlob host root hexDigest size →
      ∃ entry, (scan host config).catalog.entries.lookup id = some entry ∧
        entry.toEntry.startable = false := by
  constructor
  · intro source path starts
    obtain ⟨entry, found, startable, member⟩ := ModelCatalog.startLocation_eq_some starts
    exact catalogSound_scan lawful config id entry found
      (EntryAccumulator.reasons_of_startable startable) ⟨source, path⟩ member
  · intro root manifests manifestPath hexDigest size isRoot listed member names normalized damaged
    obtain ⟨entry, found, reasons⟩ :=
      blamed_scan lawful isRoot listed member names normalized damaged
    refine ⟨entry, found, ?_⟩
    rw [← Bool.not_eq_true]
    exact fun startable => reasons (EntryAccumulator.reasons_of_startable startable)

/-! ## Two manifests -/

/-- A GGUF file without metadata and tensors. -/
def emptyGguf : ByteVec where
  bytes := [71, 71, 85, 70, 3, 0, 0, 0, 0, 0, 0, 0, 0, 0, 0, 0, 0, 0, 0, 0, 0, 0, 0, 0]
  fits := by decide

/-- The digits of its digest. -/
def emptyGgufDigits : List Char :=
  ['a', '4', 'e', '5', 'e', '1', '5', '6', 'd', 'd', 'e', 'c', '2', '7', 'e', '2',
    '8', '6', 'f', '7', '5', '3', '2', '8', '7', '8', '4', 'd', '7', '1', '0', '6',
    'b', '6', '0', 'a', '4', 'e', 'b', '1', 'd', '2', '4', '6', 'e', '9', '5', '0',
    'a', '0', '0', '1', 'a', '3', 'f', '9', '4', '4', 'f', 'b', 'd', 'a', '9', '9']

def emptyGgufHex : String := String.ofList emptyGgufDigits

/-- The layer of a manifest for this file. -/
def emptyGgufLayer : OllamaLayer where
  mediaType := ollamaModelMediaType
  digest := "sha256:" ++ emptyGgufHex
  size := 24

/-- `sha256sum` where this file is the only one. -/
def emptyGgufTool : Sha256sum where
  hex := fun _ => emptyGgufHex
  escapes := fun c => c ∈ ['\\', '\n', '\r']

theorem emptyGgufTool_lawful : emptyGgufTool.Lawful where
  length := by
    intro content
    show (String.ofList emptyGgufDigits).length = 64
    rw [String.length_ofList]
    decide
  digits := by
    intro content c member
    have digits : emptyGgufDigits.all (fun c => c.isDigit || c ∈ ['a', 'b', 'c', 'd', 'e', 'f'])
        = true := by
      decide +kernel
    rw [show emptyGgufTool.hex content = String.ofList emptyGgufDigits from rfl,
      String.toList_ofList] at member
    have digit := List.all_eq_true.mp digits c member
    rw [Bool.or_eq_true, decide_eq_true_eq] at digit
    exact digit
  escapes := fun _ escaped => of_decide_eq_true escaped

/-- A host with this file in its models directory and a manifest of these layers, but
without its blob. -/
def hostWithLayers (layers : List OllamaLayer) : ModelHost where
  content := fun path => if path = ["models", "a.gguf"] then some emptyGguf else none
  isOther := fun _ => false
  failure := fun _ _ => none
  describe := fun _ => "No such file or directory (os error 2)"
  ggufModels := fun _ => .ok [{ relativePath := "a.gguf", sizeBytes := 24 }]
  resolveUnder := fun _ _ => .ok (some ["models", "a.gguf"])
  regularFilesUnder := fun _ => .ok [["ollama", "manifests", "m", "latest"]]
  readManifest := fun _ => .ok { layers }
  registryAlias := fun _ => none
  sha256sum := emptyGgufTool

def ollamaConfig : SourceConfig where
  modelsDir := ["models"]
  lmStudioRoots := []
  janRoots := []
  ollamaRoot := some ["ollama"]

/-- The file is found by its digest; where a manifest of one layer names that digest for
the missing blob, it cannot be started. -/
theorem scan_sound_emptyGguf :
    IsModel (hostWithLayers []) ("sha256:" ++ emptyGgufHex) ["models", "a.gguf"] ∧
      ∃ entry, (scan (hostWithLayers [emptyGgufLayer]) ollamaConfig).catalog.entries.lookup
          ("sha256:" ++ emptyGgufHex) = some entry ∧ entry.toEntry.startable = false := by
  constructor
  · exact (scan_sound (hostWithLayers []) emptyGgufTool_lawful ollamaConfig
      ("sha256:" ++ emptyGgufHex)).1 .directGguf ["models", "a.gguf"] (by decide +kernel)
  · apply (scan_sound (hostWithLayers [emptyGgufLayer]) emptyGgufTool_lawful ollamaConfig
      ("sha256:" ++ emptyGgufHex)).2 ["ollama"] [["ollama", "manifests", "m", "latest"]]
      ["ollama", "manifests", "m", "latest"] emptyGgufHex 24 rfl rfl (List.mem_singleton.mpr rfl)
    · exact {
        named := by decide +kernel
        layer := ⟨_, emptyGgufLayer, rfl, by simp [emptyGgufLayer], by decide +kernel, rfl⟩ }
    · exact (lowerDigits_hex emptyGgufTool_lawful []).normalizeSha256_eq
    · rintro ⟨content, isContent, _⟩
      have missing : (hostWithLayers [emptyGgufLayer]).content
          (blobPath ["ollama"] emptyGgufHex) = none := by decide +kernel
      rw [missing] at isContent
      cases isContent

/-- A manifest with two layers of the model is passed over, so the missing blob is no
reason against the file in the models directory. -/
theorem scan_twoLayers :
    (scan (hostWithLayers [emptyGgufLayer, emptyGgufLayer]) ollamaConfig).catalog.startLocation
      ("sha256:" ++ emptyGgufHex) = some (.directGguf, ["models", "a.gguf"]) ∧
    (hostWithLayers [emptyGgufLayer, emptyGgufLayer]).content
      (blobPath ["ollama"] emptyGgufHex) = none := by
  constructor
  · decide +kernel
  · decide +kernel

end TriAI.Catalog
