import TriAI.Chat.Prompt
import TriAI.Storage.Calls

/-!
Contract: the model catalogue of `model_catalog.rs`.

Owns: the metadata a scanner delivers, the accumulator of a digest with `merge` and
`to_entry`, and the catalogue with its additions, its views and `start_location`.

Does not own: the scanners (`Catalog.Sources`), and how the views are serialised.

The ordered sets and the ordered map of the source are finite sets and a finite map;
where the source iterates over them, the elements are sorted.
-/

set_option autoImplicit false

namespace TriAI.Catalog

open TriAI.Chat (isWhitespace toAsciiLowercase trimEnd trimStart)

/-! ## Sources -/

inductive SourceKind where
  | directGguf
  | ollama
  | lmStudio
  | jan
deriving DecidableEq, Repr

/-- The place in the order of the enumeration. -/
def SourceKind.rank : SourceKind → Nat
  | .directGguf => 0
  | .ollama => 1
  | .lmStudio => 2
  | .jan => 3

theorem SourceKind.rank_injective : Function.Injective SourceKind.rank := by
  intro left right same
  cases left <;> cases right <;> first | rfl | cases same

instance : LinearOrder SourceKind := LinearOrder.lift' SourceKind.rank SourceKind.rank_injective

inductive BackendKind where
  | llamaCpp
deriving DecidableEq, Repr

instance : LinearOrder BackendKind :=
  LinearOrder.lift' (fun _ => 0) fun left right _ => by cases left; cases right; rfl

/-- `BackendKind::fmt`. -/
def BackendKind.text : BackendKind → String
  | .llamaCpp => "llama_cpp"

structure CatalogLocation where
  source : SourceKind
  path : Path
deriving DecidableEq, Repr

/-- The fields in their order. -/
def CatalogLocation.key (location : CatalogLocation) : Lex (SourceKind × Path) :=
  toLex (location.source, location.path)

theorem CatalogLocation.key_injective : Function.Injective CatalogLocation.key := by
  rintro ⟨source, path⟩ ⟨source', path'⟩ same
  cases same
  rfl

instance : LinearOrder CatalogLocation :=
  LinearOrder.lift' CatalogLocation.key CatalogLocation.key_injective

/-! ## Texts -/

/-- `str::trim`. -/
def trim (text : String) : String := trimStart (trimEnd text)

def cleaned (value : String) : Option String :=
  let trimmed := trim value
  if trimmed = "" then none else some trimmed

def canonicalToken (value : String) : Option String := (cleaned value).map toAsciiLowercase

/-- `u8::is_ascii_hexdigit`, of a character. -/
def isHexDigit (c : Char) : Bool :=
  decide ((0x30 ≤ c.toNat ∧ c.toNat ≤ 0x39) ∨ (0x61 ≤ c.toNat ∧ c.toNat ≤ 0x66) ∨
    (0x41 ≤ c.toNat ∧ c.toNat ≤ 0x46))

/-- `strip_prefix("sha256:")`, or else `strip_prefix("sha256-")`, or else the text. -/
def withoutScheme (text : List Char) : List Char :=
  match text with
  | 's' :: 'h' :: 'a' :: '2' :: '5' :: '6' :: ':' :: rest => rest
  | 's' :: 'h' :: 'a' :: '2' :: '5' :: '6' :: '-' :: rest => rest
  | other => other

inductive CatalogError where
  | invalidDigest (digest : String)
deriving DecidableEq, Repr

/-- `normalize_sha256`. -/
def normalizeSha256 (value : String) : Except CatalogError String :=
  let hexadecimal := withoutScheme (toAsciiLowercase (trim value)).toList
  if hexadecimal.length = 64 ∧ hexadecimal.all isHexDigit then
    .ok ("sha256:" ++ String.ofList hexadecimal)
  else .error (.invalidDigest (trim value))

/-- `relative_file_name`. -/
def relativeFileName (path : Path) : Option String :=
  path.getLast?.bind cleaned

/-! ## Metadata -/

/-- `CatalogMetadata` of a scanner. -/
structure CatalogMetadata where
  digest : String
  aliasName : Option String := none
  sizeBytes : Option Nat := none
  backend : BackendKind := .llamaCpp
  family : Option String := none
  familyVerified : Bool := false
  format : Option String := none
  parameters : Option String := none
  quantization : Option String := none
  contextTokens : Option Nat := none
  capabilities : List String := []
  unavailableReason : Option String := none
deriving DecidableEq, Repr

structure CatalogEntry where
  id : String
  digest : String
  displayName : String
  aliases : List String
  sources : List SourceKind
  sizeBytes : Option Nat
  backend : Option BackendKind
  family : Option String
  format : Option String
  parameters : Option String
  quantization : Option String
  contextTokens : Option Nat
  capabilities : List String
  startable : Bool
  unavailableReason : Option String
  pagedSupported : Bool
deriving DecidableEq, Repr

/-- `ModelSummary`. -/
structure ModelSummary where
  id : String
  displayName : String
  digest : String
  aliases : List String
  sources : List SourceKind
  sizeBytes : Option Nat
  backend : Option BackendKind
  family : Option String
  format : Option String
  parameters : Option String
  quantization : Option String
  contextTokens : Option Nat
  capabilities : List String
  startable : Bool
  unavailableReason : Option String
  pagedSupported : Bool
deriving DecidableEq, Repr

/-- `ModelSummary::from`. -/
def ModelSummary.from (entry : CatalogEntry) : ModelSummary where
  id := entry.id
  displayName := entry.displayName
  digest := entry.digest
  aliases := entry.aliases
  sources := entry.sources
  sizeBytes := entry.sizeBytes
  backend := entry.backend
  family := entry.family
  format := entry.format
  parameters := entry.parameters
  quantization := entry.quantization
  contextTokens := entry.contextTokens
  capabilities := entry.capabilities
  startable := entry.startable
  unavailableReason := entry.unavailableReason
  pagedSupported := entry.pagedSupported

/-! ## Accumulators -/

structure EntryAccumulator where
  digest : String
  names : Finset (Lex (Nat × String)) := ∅
  aliases : Finset String := ∅
  locations : Finset CatalogLocation := ∅
  sizes : Finset Nat := ∅
  backends : Finset BackendKind := ∅
  families : Finset String := ∅
  verifiedFamilies : Finset String := ∅
  formats : Finset String := ∅
  parameters : Finset String := ∅
  quantizations : Finset String := ∅
  contextLengths : Finset Nat := ∅
  capabilities : Finset String := ∅
  unavailableReasons : Finset String := ∅

/-- The values with one more, if there is one. -/
def withOption {T : Type} [DecidableEq T] (value : Option T) (values : Finset T) : Finset T :=
  values ∪ value.toFinset

namespace EntryAccumulator

variable (accumulator : EntryAccumulator)

/-- `merge`. -/
def merge (location : CatalogLocation) (ollamaName : Option String)
    (metadata : CatalogMetadata) : EntryAccumulator :=
  let aliasName := metadata.aliasName.bind cleaned
  let family := metadata.family.bind canonicalToken
  { accumulator with
    names := withOption ((relativeFileName location.path).map fun name => toLex (2, name))
      (withOption (ollamaName.map fun name => toLex (1, name))
        (withOption (aliasName.map fun name => toLex (0, name)) accumulator.names))
    aliases := withOption aliasName accumulator.aliases
    locations := insert location accumulator.locations
    sizes := withOption metadata.sizeBytes accumulator.sizes
    backends := insert metadata.backend accumulator.backends
    families := withOption family accumulator.families
    verifiedFamilies :=
      if metadata.familyVerified then withOption family accumulator.verifiedFamilies
      else accumulator.verifiedFamilies
    formats := withOption (metadata.format.bind canonicalToken) accumulator.formats
    parameters := withOption (metadata.parameters.bind cleaned) accumulator.parameters
    quantizations :=
      withOption (metadata.quantization.bind canonicalToken) accumulator.quantizations
    contextLengths := withOption metadata.contextTokens accumulator.contextLengths
    capabilities :=
      accumulator.capabilities ∪ (metadata.capabilities.filterMap canonicalToken).toFinset
    unavailableReasons :=
      withOption (metadata.unavailableReason.bind cleaned) accumulator.unavailableReasons }

/-- `single_value`. -/
def singleValue {T : Type} [LinearOrder T] (values : Finset T) : Option T :=
  if values.card = 1 then values.sort.head? else none

/-- `record_conflict`, as the conflict it records. -/
def conflict {T : Type} [LinearOrder T] (field : String) (values : Finset T)
    (text : T → String) : Option String :=
  if 1 < values.card then
    some (field ++ "=[" ++ String.intercalate "," (values.sort.map text) ++ "]")
  else none

/-- The conflicts of an entry, in the order in which they are recorded. -/
def conflicts : List String :=
  [conflict "size_bytes" accumulator.sizes toString,
    conflict "backend" accumulator.backends BackendKind.text,
    conflict "family" accumulator.families id,
    conflict "format" accumulator.formats id,
    conflict "parameters" accumulator.parameters id,
    conflict "quantization" accumulator.quantizations id,
    conflict "context_tokens" accumulator.contextLengths toString].filterMap id

/-- Why an entry is not available. -/
def reasons : List String :=
  accumulator.unavailableReasons.sort ++
    (if accumulator.conflicts = [] then []
    else ["widersprüchliche Metadaten für denselben Digest: " ++
      String.intercalate "; " accumulator.conflicts])

/-- `to_entry`. -/
def toEntry : CatalogEntry :=
  let family := singleValue accumulator.families
  let familyVerified := family.any (· ∈ accumulator.verifiedFamilies)
  let names := accumulator.names.sort.map fun name => (ofLex name).2
  let displayName := names.head?.getD accumulator.digest
  let unavailableReason :=
    if accumulator.reasons = [] then none
    else some (String.intercalate "; " accumulator.reasons)
  { id := accumulator.digest
    digest := accumulator.digest
    displayName
    aliases := ((names.toFinset ∪ accumulator.aliases).erase displayName).sort
    sources := (accumulator.locations.image CatalogLocation.source).sort
    sizeBytes := singleValue accumulator.sizes
    backend := singleValue accumulator.backends
    family
    format := singleValue accumulator.formats
    parameters := singleValue accumulator.parameters
    quantization := singleValue accumulator.quantizations
    contextTokens := singleValue accumulator.contextLengths
    capabilities := accumulator.capabilities.sort
    startable := unavailableReason.isNone
    unavailableReason
    pagedSupported := decide (accumulator.conflicts = [] ∧ accumulator.unavailableReasons = ∅ ∧
      familyVerified = true ∧ family = some "qwen2") }

end EntryAccumulator

/-! ## The catalogue -/

structure ModelCatalog where
  entries : Finmap fun _ : String => EntryAccumulator := ∅

namespace ModelCatalog

variable (catalog : ModelCatalog)

/-- `add`. -/
def add (source : SourceKind) (path : Path) (ollamaName : Option String)
    (metadata : CatalogMetadata) : Except CatalogError ModelCatalog :=
  (normalizeSha256 metadata.digest).map fun digest =>
    let entry := (catalog.entries.lookup digest).getD { digest }
    { entries := catalog.entries.insert digest
        (entry.merge { source, path } ollamaName metadata) }

def addDirectGguf (path : Path) (metadata : CatalogMetadata) : Except CatalogError ModelCatalog :=
  catalog.add .directGguf path none metadata

def addOllama (path : Path) (ollamaName : String) (metadata : CatalogMetadata) :
    Except CatalogError ModelCatalog :=
  catalog.add .ollama path (cleaned ollamaName) metadata

def addLmStudio (path : Path) (metadata : CatalogMetadata) : Except CatalogError ModelCatalog :=
  catalog.add .lmStudio path none metadata

def addJan (path : Path) (metadata : CatalogMetadata) : Except CatalogError ModelCatalog :=
  catalog.add .jan path none metadata

/-- `entries`, sorted by their identifiers. -/
def entryList : List CatalogEntry :=
  catalog.entries.keys.sort.filterMap fun id =>
    (catalog.entries.lookup id).map EntryAccumulator.toEntry

/-- `summaries`. -/
def summaries : List ModelSummary := catalog.entryList.map ModelSummary.from

/-- `start_location`. -/
def startLocation (id : String) : Option (SourceKind × Path) := do
  let entry ← catalog.entries.lookup id
  let location ← if entry.toEntry.startable then entry.locations.sort.head? else none
  return (location.source, location.path)

variable {catalog} in
/-- Inversion of a start location. -/
theorem startLocation_eq_some {id : String} {source : SourceKind} {path : Path}
    (starts : catalog.startLocation id = some (source, path)) :
    ∃ entry, catalog.entries.lookup id = some entry ∧ entry.toEntry.startable = true ∧
      ⟨source, path⟩ ∈ entry.locations := by
  unfold startLocation at starts
  cases found : catalog.entries.lookup id with
  | none =>
      rw [found] at starts
      cases starts
  | some entry =>
      rw [found] at starts
      by_cases startable : entry.toEntry.startable = true
      · simp only [Option.bind_eq_bind, Option.bind_some, if_pos startable] at starts
        obtain ⟨location, first, same⟩ := Option.bind_eq_some_iff.mp starts
        cases same
        have member := (Finset.mem_sort (· ≤ ·)).mp (List.mem_of_mem_head? first)
        exact ⟨entry, rfl, startable, member⟩
      · simp [startable] at starts

end ModelCatalog

/-- The additions scanners make. -/
inductive Addition where
  | directGguf (path : Path) (metadata : CatalogMetadata)
  | ollama (path : Path) (ollamaName : String) (metadata : CatalogMetadata)
  | lmStudio (path : Path) (metadata : CatalogMetadata)
  | jan (path : Path) (metadata : CatalogMetadata)

namespace Addition

def metadata : Addition → CatalogMetadata
  | .directGguf _ metadata | .ollama _ _ metadata | .lmStudio _ metadata | .jan _ metadata =>
      metadata

def location : Addition → CatalogLocation
  | .directGguf path _ => ⟨.directGguf, path⟩
  | .ollama path _ _ => ⟨.ollama, path⟩
  | .lmStudio path _ => ⟨.lmStudio, path⟩
  | .jan path _ => ⟨.jan, path⟩

def apply (catalog : ModelCatalog) : Addition → Except CatalogError ModelCatalog
  | .directGguf path metadata => catalog.addDirectGguf path metadata
  | .ollama path ollamaName metadata => catalog.addOllama path ollamaName metadata
  | .lmStudio path metadata => catalog.addLmStudio path metadata
  | .jan path metadata => catalog.addJan path metadata

end Addition

/-- The catalogue after an addition; one that is refused changes nothing. -/
def ModelCatalog.receive (catalog : ModelCatalog) (addition : Addition) : ModelCatalog :=
  match addition.apply catalog with
  | .ok after => after
  | .error _ => catalog

end TriAI.Catalog
