import TriAI.Config
import TriAI.Http.Segmentation

/-!
Contract: who may use the server (`http.rs`).

Owns: `is_authorized`, `route_requires_auth` and `constant_time_equal`, the gate in front of
the routes, and which connections pass it under a configuration that was loaded.

Does not own: the routes behind the gate, and how long the comparison of two tokens takes.
-/

set_option autoImplicit false

namespace TriAI.Http

open TriAI.Chat (isWhitespace)
open TriAI.Configuration
open TriAI.Library
open TriAI.Library.TextLines
open TriAI.Storage

/-! ## The gate -/

/-- `constant_time_equal`. -/
def constantTimeEqual (left right : List UInt8) : Bool :=
  let difference := (List.range (max left.length right.length)).foldl
    (fun difference index => difference ||| (if left[index]? ≠ right[index]? then 1 else 0))
    (left.length ^^^ right.length)
  difference == 0

/-- `str::strip_prefix`. -/
def stripPrefix (leading text : String) : Option String :=
  if leading.toList <+: text.toList then some (String.ofList (text.toList.drop leading.length))
  else none

/-- The token that a request brings. -/
def ParsedRequest.provided (request : ParsedRequest) : String :=
  ((request.headers "x-tri-auth").or
    ((request.headers "authorization").bind (stripPrefix "Bearer "))).getD ""

/-- `is_authorized`. -/
def isAuthorized (request : ParsedRequest) (expected : Option String) : Bool :=
  match expected.filter (· ≠ "") with
  | none => true
  | some expected => constantTimeEqual (utf8Bytes request.provided) (utf8Bytes expected)

/-- `route_requires_auth`. -/
def routeRequiresAuth (path : String) : Bool := path ≠ "/health"

/-- How `handle_connection` begins. -/
inductive Admission where
  /-- It answers 400. -/
  | invalid (error : IoFailure)
  /-- It answers 401. -/
  | unauthorized
  | admitted (request : ParsedRequest)

/-- `handle_connection` up to its routes. -/
def admission (config : Config) (process : UInt32) (sequence : UInt64)
    (reads : List SocketRead) : Admission :=
  match readRequest process sequence reads with
  | .error error => .invalid error
  | .ok request =>
      if routeRequiresAuth request.path ∧ !isAuthorized request config.server.authToken then
        .unauthorized
      else .admitted request

/-! ## Comparing tokens -/

private theorem compare_fold (left right : List UInt8) (indices : List Nat) (difference : Nat) :
    indices.foldl
        (fun difference index => difference ||| (if left[index]? ≠ right[index]? then 1 else 0))
        difference = 0 ↔
      difference = 0 ∧ ∀ index ∈ indices, left[index]? = right[index]? := by
  induction indices generalizing difference with
  | nil => simp
  | cons index rest inductionHypothesis =>
      rw [List.foldl_cons, inductionHypothesis, Nat.or_eq_zero_iff, List.forall_mem_cons]
      by_cases same : left[index]? = right[index]?
      · simp [same]
      · simp [same]

/-- The comparison is equality. -/
theorem constantTimeEqual_iff (left right : List UInt8) :
    constantTimeEqual left right = true ↔ left = right := by
  rw [constantTimeEqual, beq_iff_eq, compare_fold, Nat.xor_eq_zero_iff]
  constructor
  · intro equal
    apply List.ext_getElem?
    intro index
    by_cases within : index < max left.length right.length
    · exact equal.2 index (List.mem_range.mpr within)
    · rw [List.getElem?_eq_none (by omega), List.getElem?_eq_none (by omega)]
  · rintro rfl
    simp

/-! ## Headers -/

/-- The value of the last header with a name. -/
def lastValue (headerText name : String) : Option String :=
  (((lines headerText).tail.filterMap headerOf).reverse.find? (·.1 = name)).map Prod.snd

theorem parseHeaders_eq (headerText name : String) :
    parseHeaders headerText name = lastValue headerText name := by
  unfold parseHeaders lastValue
  induction (lines headerText).tail.filterMap headerOf using List.reverseRecOn with
  | nil => rfl
  | append_singleton front header inductionHypothesis =>
      rw [List.foldl_append, List.foldl_cons, List.foldl_nil, List.reverse_append,
        List.reverse_singleton, List.singleton_append, List.find?_cons]
      by_cases named : header.1 = name
      · simp [named]
      · rw [Function.update_of_ne (Ne.symm named)]
        simpa [named] using inductionHypothesis

/-- A token stands in the last `X-Tri-Auth` header, or without such a header in the last
`Authorization` header. -/
def Presents (headerText token : String) : Prop :=
  lastValue headerText "x-tri-auth" = some token ∨
    lastValue headerText "x-tri-auth" = none ∧
      lastValue headerText "authorization" = some ("Bearer " ++ token)

/-! ## What a request is read from -/

/-- The bytes that a connection brings until a read fails. -/
def bytesOf : List SocketRead → List UInt8
  | [] => []
  | .data bytes :: rest => bytes ++ bytesOf rest
  | .interrupted :: rest => bytesOf rest
  | .failed _ :: _ => []

theorem bytesOf_readRetryingEintr {reads rest : List SocketRead} {bytes : List UInt8}
    (read : readRetryingEintr reads = (.ok bytes, rest)) :
    bytesOf reads = bytes ++ bytesOf rest := by
  induction reads with
  | nil =>
      cases read
      rfl
  | cons next reads inductionHypothesis =>
      cases next with
      | data brought =>
          cases read
          rfl
      | interrupted => exact inductionHypothesis read
      | failed error => cases read

/-- The header that is read is the beginning of what the connection brings. -/
theorem readHeader_bytes {buf : List UInt8} {reads : List SocketRead} {header : HeaderRead}
    (read : readHeader buf reads = .ok header) :
    findHeaderEnd header.buf = some header.position ∧
      header.buf ++ bytesOf header.rest = buf ++ bytesOf reads := by
  fun_induction readHeader buf reads with
  | case1 buf reads position found =>
      cases read
      exact ⟨found, rfl⟩
  | case2 => cases read
  | case3 => cases read
  | case4 => cases read
  | case5 buf reads missing small first others rest next inductionHypothesis =>
      obtain ⟨found, whole⟩ := inductionHypothesis read
      rw [bytesOf_readRetryingEintr next, ← List.append_assoc]
      exact ⟨found, whole⟩

theorem parseHead_headers {headerText : String} {head : RequestHead}
    (parsed : parseHead headerText = .ok head) : head.headers = parseHeaders headerText := by
  unfold parseHead at parsed
  simp only at parsed
  split at parsed
  · cases parsed
  · obtain ⟨length, _, parsed⟩ := bind_eq_ok.mp parsed
    split at parsed
    · cases parsed
    · rw [← Except.ok.inj parsed]

/-- The headers of a request are those in front of the first blank line. -/
theorem readRequest_headers {process : UInt32} {sequence : UInt64} {reads : List SocketRead}
    {request : ParsedRequest} (read : readRequest process sequence reads = .ok request) :
    ∃ position, findHeaderEnd (bytesOf reads) = some position ∧
      request.headers = parseHeaders (fromUtf8Lossy ((bytesOf reads).take position)) := by
  unfold readRequest at read
  obtain ⟨header, readHead, read⟩ := bind_eq_ok.mp read
  obtain ⟨head, parsed, read⟩ := bind_eq_ok.mp read
  obtain ⟨buf, _, read⟩ := bind_eq_ok.mp read
  obtain ⟨found, whole⟩ := readHeader_bytes readHead
  rw [List.nil_append] at whole
  have within := findHeaderEnd_le found
  refine ⟨header.position, ?_, ?_⟩
  · rw [← whole, findHeaderEnd_append within]
    exact found
  · rw [← whole, List.take_append_of_le_length (by omega)]
    cases read
    exact parseHead_headers parsed

/-! ## The gate under a loaded configuration -/

theorem provided_iff {request : ParsedRequest} {headerText token : String}
    (headers : request.headers = parseHeaders headerText) (notEmpty : token ≠ "") :
    request.provided = token ↔ Presents headerText token := by
  unfold ParsedRequest.provided Presents
  rw [headers, parseHeaders_eq, parseHeaders_eq]
  cases lastValue headerText "x-tri-auth" with
  | some value => simp
  | none =>
      cases lastValue headerText "authorization" with
      | none => simpa using Ne.symm notEmpty
      | some value =>
          have isBearer : (stripPrefix "Bearer " value).getD "" = token ↔
              value = "Bearer " ++ token := by
            unfold stripPrefix
            by_cases starts : "Bearer ".toList <+: value.toList
            · rw [if_pos starts]
              obtain ⟨rest, whole⟩ := starts
              have isRest : value.toList.drop "Bearer ".length = rest := by
                rw [← whole]
                exact List.drop_left
              rw [isRest, Option.getD_some]
              constructor
              · rintro rfl
                apply String.toList_injective
                rw [← whole, String.toList_append]
                exact congrArg ("Bearer ".toList ++ ·) String.toList_ofList.symm
              · rintro rfl
                rw [String.toList_append] at whole
                rw [List.append_cancel_left whole, String.ofList_toList]
            · rw [if_neg starts]
              apply iff_of_false (Ne.symm notEmpty)
              rintro rfl
              exact starts (by rw [String.toList_append]; exact List.prefix_append _ _)
          simpa using isBearer

private theorem utf8Bytes_injective : Function.Injective utf8Bytes := by
  intro left right same
  apply Option.some.inj
  rw [← fromUtf8_utf8Bytes left, same, fromUtf8_utf8Bytes]

theorem isAuthorized_iff {request : ParsedRequest} {token : String} (notEmpty : token ≠ "") :
    isAuthorized request (some token) = true ↔ request.provided = token := by
  have kept : (some token).filter (· ≠ "") = some token := by simp [Option.filter, notEmpty]
  unfold isAuthorized
  rw [kept]
  show constantTimeEqual _ _ = true ↔ _
  rw [constantTimeEqual_iff, utf8Bytes_injective.eq_iff]

/-- Under a configuration that was loaded and listens beyond the loopback interface there is
a token such that exactly those requests pass the gate that ask for `/health` or carry it in
their headers, whatever the connection brings. -/
theorem admission_iff {sources : Sources} {config : Config} (loaded : load sources = .ok config)
    (external : isLoopbackBind config.server.listenAddr = false) :
    ∃ token, token ≠ "" ∧ ∀ process sequence reads request,
      admission config process sequence reads = .admitted request ↔
        readRequest process sequence reads = .ok request ∧
          (request.path = "/health" ∨
            ∃ position, findHeaderEnd (bytesOf reads) = some position ∧
              Presents (fromUtf8Lossy ((bytesOf reads).take position)) token) := by
  obtain ⟨token, configured, notEmpty⟩ := (wellFormed_of_load loaded).guarded external
  refine ⟨token, notEmpty, fun process sequence reads request => ?_⟩
  unfold admission
  cases read : readRequest process sequence reads with
  | error error => simp
  | ok parsed =>
      obtain ⟨position, found, headers⟩ := readRequest_headers read
      have authorized : isAuthorized parsed config.server.authToken = true ↔
          Presents (fromUtf8Lossy ((bytesOf reads).take position)) token := by
        rw [configured, isAuthorized_iff notEmpty, provided_iff headers notEmpty]
      by_cases isPublic : parsed.path = "/health"
      · have notAsked : ¬ (routeRequiresAuth parsed.path ∧
            !isAuthorized parsed config.server.authToken) := by
          simp [routeRequiresAuth, isPublic]
        simp only [if_neg notAsked, Admission.admitted.injEq, Except.ok.injEq]
        constructor
        · rintro rfl
          exact ⟨rfl, .inl isPublic⟩
        · exact fun same => same.1
      · by_cases isAllowed : isAuthorized parsed config.server.authToken = true
        · have passes : ¬ (routeRequiresAuth parsed.path ∧
              !isAuthorized parsed config.server.authToken) := by
            simp [isAllowed]
          simp only [if_neg passes, Admission.admitted.injEq, Except.ok.injEq]
          constructor
          · rintro rfl
            exact ⟨rfl, .inr ⟨position, found, authorized.mp isAllowed⟩⟩
          · exact fun same => same.1
        · have turnedAway : routeRequiresAuth parsed.path ∧
              !isAuthorized parsed config.server.authToken := by
            simp [routeRequiresAuth, isPublic, isAllowed]
          simp only [if_pos turnedAway, Except.ok.injEq]
          apply iff_of_false (by simp)
          rintro ⟨rfl, asked | ⟨other, foundOther, presents⟩⟩
          · exact isPublic asked
          · rw [found] at foundOther
            obtain rfl := Option.some.inj foundOther
            exact isAllowed (authorized.mpr presents)

theorem admission_iff_external :
    ∃ token, token ≠ "" ∧ ∀ process sequence reads request,
      admission externalConfig process sequence reads = .admitted request ↔
        readRequest process sequence reads = .ok request ∧
          (request.path = "/health" ∨
            ∃ position, findHeaderEnd (bytesOf reads) = some position ∧
              Presents (fromUtf8Lossy ((bytesOf reads).take position)) token) :=
  admission_iff load_externalSources (by decide +kernel)

end TriAI.Http
