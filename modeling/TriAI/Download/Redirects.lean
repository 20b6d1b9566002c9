import TriAI.Download.Addresses
import TriAI.Download.LocalCalls
import TriAI.Library.Fallible
import TriAI.Library.Json

/-!
Contract: what a download contacts, whatever redirects the server answers with.

Owns: the URLs a run requests; what the HTTP client does on the network; and the bounds of
both, for every run of an accepted request.

Does not own: the checks of `create` (`Download.Client`) and the filter of addresses
(`Download.Addresses`).
-/

set_option autoImplicit false

namespace TriAI.Download

open TriAI.Library.FileTree
open TriAI.Library.Interaction
open TriAI.Storage

/-! ## Requests -/

/-- The text of a URL is parsed back to it. -/
structure UrlLibrary.Lawful (urls : UrlLibrary) : Prop where
  parse_text : ∀ base location next, urls.join base location = .ok next →
    urls.parse next.text = .ok next

/-- The text is a URL with the scheme. -/
def UrlLibrary.HasScheme (urls : UrlLibrary) (scheme url : String) : Prop :=
  ∃ parsed, urls.parse url = .ok parsed ∧ parsed.scheme = scheme

/-- The URL that a call requests. -/
def DownloadOp.requested : DownloadOp → Option String
  | .outside (.get url _) => some url
  | _ => none

/-- The URLs that are requested, in their order. -/
def requested (trace : List (Event DownloadOp DownloadOp.Reply)) : List String :=
  trace.filterMap fun event => event.op.requested

@[simp] theorem requested_append (first second : List (Event DownloadOp DownloadOp.Reply)) :
    requested (first ++ second) = requested first ++ requested second :=
  List.filterMap_append

/-- A call that requests nothing. -/
abbrev DownloadOp.Silent (op : DownloadOp) : Prop := op.requested = none

theorem silent_local : AllowsLocal DownloadOp.Silent where
  store := fun _ => rfl
  handle := fun _ => rfl

section Traces

variable {α : Type} {trace : List (Event DownloadOp DownloadOp.Reply)} {urls : UrlLibrary}
  {scheme : String}

theorem requested_silent {program : Prog DownloadOp DownloadOp.Reply α} {value : α}
    (silent : program.Only DownloadOp.Silent) (returns : Prog.Returns program trace value) :
    requested trace = [] := by
  induction returns with
  | ret value => rfl
  | call reply _ inductionHypothesis =>
      have first := silent.1
      have rest := inductionHypothesis (silent.2 reply)
      unfold requested at rest ⊢
      rw [List.filterMap_cons, first]
      exact rest

/-- A program that is over requests nothing. -/
private theorem requested_ended {value result : α}
    (returns : Prog.Returns (.ret value : Prog DownloadOp DownloadOp.Reply α) trace result) :
    requested trace = [] := by
  rw [(Fallible.returns_ret.mp returns).1]
  rfl

/-- At most so many requests, all with the scheme. -/
structure RequestsWithin (urls : UrlLibrary) (scheme : String) (bound : Nat)
    (requests : List String) : Prop where
  few : requests.length ≤ bound
  schemes : ∀ url ∈ requests, urls.HasScheme scheme url

theorem RequestsWithin.nil {bound : Nat} : RequestsWithin urls scheme bound [] :=
  ⟨Nat.zero_le _, by simp⟩

theorem RequestsWithin.cons {bound : Nat} {url : String} {requests : List String}
    (first : urls.HasScheme scheme url) (rest : RequestsWithin urls scheme bound requests) :
    RequestsWithin urls scheme (bound + 1) (url :: requests) :=
  ⟨Nat.succ_le_succ rest.few, List.forall_mem_cons.mpr ⟨first, rest.schemes⟩⟩

/-- A call of `get` is one request. -/
private theorem returns_get {url : String} {first : Option UInt64}
    {result : Except DownloadFailure Response}
    (returns : Prog.Returns (Client.get url first).run trace result) : requested trace = [url] := by
  obtain ⟨answer, performed, _⟩ := Fallible.returns_attempt.mp returns
  rw [Fallible.returns_perform.mp performed]
  rfl

/-- The target of a redirect has the scheme. -/
private theorem hasScheme_redirectTarget (lawful : urls.Lawful) {currentUrl next : String}
    {response : Response}
    (target : redirectTarget urls scheme currentUrl response = .ok next) :
    urls.HasScheme scheme next := by
  unfold redirectTarget at target
  cases isLocation : response.location with
  | none => simp [isLocation] at target
  | some location =>
      cases joins : (urls.parse currentUrl).bind fun base => urls.join base location with
      | error error => simp [isLocation, joins] at target
      | ok url =>
          cases parses : urls.parse currentUrl with
          | error error => simp [parses, Except.bind] at joins
          | ok base =>
              have joined : urls.join base location = .ok url := by
                simpa [parses, Except.bind] using joins
              by_cases same : url.scheme = scheme
              · simp only [isLocation, joins, same, ne_eq, not_true_eq_false, if_false,
                  Except.ok.injEq] at target
                rw [← target]
                exact ⟨url, lawful.parse_text base location url joined, same⟩
              · simp [isLocation, joins, same] at target

/-- Run lemma of the loop over redirects. -/
theorem requests_fetch (lawful : urls.Lawful) {resumeFrom : UInt64} (remaining : Nat)
    {url : String} {result : Except DownloadFailure Response}
    (hasScheme : urls.HasScheme scheme url)
    (returns : Prog.Returns (fetch urls scheme resumeFrom remaining url).run trace result) :
    RequestsWithin urls scheme (remaining + 1) (requested trace) := by
  induction remaining generalizing url trace with
  | zero =>
      unfold fetch at returns
      rcases Fallible.returns_bind.mp returns with
        ⟨error, requests, _⟩ | ⟨first, second, response, rfl, requests, rest⟩
      · rw [returns_get requests]
        exact .cons hasScheme .nil
      · have silent : requested second = [] := by
          split at rest
          · exact requested_ended rest
          · exact requested_ended rest
        rw [requested_append, returns_get requests, silent]
        exact .cons hasScheme .nil
  | succ remaining inductionHypothesis =>
      unfold fetch at returns
      rcases Fallible.returns_bind.mp returns with
        ⟨error, requests, _⟩ | ⟨first, second, response, rfl, requests, rest⟩
      · rw [returns_get requests]
        exact .cons hasScheme .nil
      · rw [requested_append, returns_get requests]
        refine .cons hasScheme ?_
        split at rest
        · rcases Fallible.returns_bind.mp rest with
            ⟨error, fails, _⟩ | ⟨none, later, next, rfl, target, goesOn⟩
          · rw [requested_ended fails]
            exact .nil
          · obtain ⟨rfl, same⟩ := Fallible.returns_ret.mp target
            exact inductionHypothesis (hasScheme_redirectTarget lawful same.symm) goesOn
        · rw [requested_ended rest]
          exact .nil

/-- The loop over the body requests nothing. -/
private theorem silent_readBody {root : Path} {blockId : String} {generation : UInt64}
    (rounds : Nat) : Fallible.Only DownloadOp.Silent (readBody root blockId generation rounds) := by
  induction rounds with
  | zero => exact Fallible.Only.result _
  | succ rounds inductionHypothesis =>
      have polls : Fallible.Only DownloadOp.Silent Client.cancelRequested :=
        Fallible.Only.lift (only_perform rfl)
      unfold readBody
      apply polls.bind
      intro cancelled
      split
      · apply Fallible.Only.bind (silent_local.ignore _)
        intro _
        exact Fallible.Only.bind (silent_local.onHandle _) fun _ => Fallible.Only.result _
      · have reads : Fallible.Only DownloadOp.Silent Client.read :=
          Fallible.Only.attempt (only_perform rfl)
        apply reads.bind
        intro chunk
        split
        · exact Fallible.Only.result _
        · apply Fallible.Only.bind (silent_local.stage _ _)
          intro _
          exact Fallible.Only.bind (silent_local.onHandle _) fun _ => inductionHypothesis

/-- Only the loop over redirects of a connection requests anything. -/
theorem requests_connect (lawful : urls.Lawful) {job : Job}
    {result : Except DownloadFailure (UInt64 × Option UInt64)}
    (hasScheme : urls.HasScheme scheme job.request.url)
    (returns : Prog.Returns (job.connect urls scheme).run trace result) :
    RequestsWithin urls scheme (maxRedirects + 1) (requested trace) := by
  unfold Job.connect at returns
  have opens : Fallible.Only DownloadOp.Silent
      (openPart job.root job.blockId job.generation "Staging-Datei nicht oeffenbar: ") :=
    silent_local.openPart _
  rcases Fallible.returns_bind.mp returns with
    ⟨error, opened, _⟩ | ⟨first, later, resumeFrom, rfl, opened, rest⟩
  · rw [requested_silent opens opened]
    exact .nil
  · rw [requested_append, requested_silent opens opened, List.nil_append]
    rcases Fallible.returns_bind.mp rest with
      ⟨error, fetched, _⟩ | ⟨requests, last, response, rfl, fetched, rest⟩
    · exact requests_fetch lawful maxRedirects hasScheme fetched
    · have silent : requested last = [] := by
        refine requested_silent ?_ rest
        apply Fallible.Only.bind (silent_local.bodyStart _ _)
        intro start
        apply Fallible.Only.bind (silent_local.onHandle _)
        intro _
        exact Fallible.Only.bind (Fallible.Only.result _) fun _ => Fallible.Only.result _
      rw [requested_append, silent, List.append_nil]
      exact requests_fetch lawful maxRedirects hasScheme fetched

/-- Run lemma: the requests of a whole download. -/
theorem requests_runDownload (lawful : urls.Lawful) {job : Job} {rounds : Nat} {result : Unit}
    (hasScheme : urls.HasScheme "https" job.request.url)
    (returns : Prog.Returns (job.runDownload urls rounds) trace result) :
    RequestsWithin urls "https" (maxRedirects + 1) (requested trace) := by
  unfold Job.runDownload at returns
  obtain ⟨tried, concluded, outcome, rfl, triedReturns, concludes⟩ := returns.split
  rw [requested_append, requested_silent (silent_local.conclude outcome) concludes,
    List.append_nil]
  unfold Job.tryDownload at triedReturns
  rcases Fallible.returns_bind.mp triedReturns with
    ⟨error, connected, _⟩ | ⟨first, later, ⟨start, announced⟩, rfl, connected, rest⟩
  · exact requests_connect lawful hasScheme connected
  · have silent : requested later = [] := by
      refine requested_silent ?_ rest
      apply Fallible.Only.bind (silent_readBody rounds)
      exact fun reached => silent_local.afterBody start announced reached
    rw [requested_append, silent, List.append_nil]
    exact requests_connect lawful hasScheme connected

end Traces

/-! ## The network -/

/-- What the HTTP client does on the network. -/
inductive NetEvent where
  /-- The resolver is asked, and the name resolution gives this answer. -/
  | resolved (netloc : String) (answer : Except IoFailure (List SocketAddr))
  | connected (addr : SocketAddr)

/-- The client connects only to addresses that its resolver returned. -/
def HonoursResolver (network : List NetEvent) : Prop :=
  ∀ addr, .connected addr ∈ network → ∃ netloc answer addrs, .resolved netloc answer ∈ network ∧
    SafeResolver.resolve netloc answer = .ok addrs ∧ addr ∈ addrs

/-- The calls of a run, each with what the client does on the network meanwhile. -/
abbrev Traffic : Type := List (Event DownloadOp DownloadOp.Reply × List NetEvent)

def Traffic.calls (traffic : Traffic) : List (Event DownloadOp DownloadOp.Reply) :=
  traffic.map Prod.fst

def Traffic.network (traffic : Traffic) : List NetEvent := traffic.flatMap Prod.snd

/-- Every address that the client connects to has passed the filter. -/
theorem routable_of_honours {network : List NetEvent} (honours : HonoursResolver network)
    {addr : SocketAddr} (connected : .connected addr ∈ network) :
    isGloballyRoutable addr.ip = true := by
  obtain ⟨netloc, answer, addrs, _, resolved, member⟩ := honours addr connected
  exact (SafeResolver.resolve_eq_ok.mp resolved).2.2 addr member

/-- An accepted request has an `https` URL. -/
theorem hasScheme_of_accepted {urls : UrlLibrary} {request : DownloadRequest}
    (accepted : checkRequest urls request = .ok ()) : urls.HasScheme "https" request.url := by
  obtain ⟨_, _, rest⟩ := Library.bind_eq_ok.mp accepted
  obtain ⟨_, checked, _⟩ := Library.bind_eq_ok.mp rest
  unfold checkUrl at checked
  cases parses : urls.parse request.url with
  | error error => simp [parses] at checked
  | ok parsed =>
      by_cases same : parsed.scheme = "https"
      · exact ⟨parsed, parses, same⟩
      · simp [parses, same] at checked

/-- A download of an accepted request sends at most one request more than it may follow
redirects, requests only `https` URLs and contacts only addresses that pass the filter. The
client may connect to what was resolved for earlier downloads. -/
theorem runDownload_contactsSafely {urls : UrlLibrary} (lawful : urls.Lawful) {job : Job}
    (accepted : checkRequest urls job.request = .ok ()) {rounds : Nat} {traffic : Traffic}
    {result : Unit} (returns : Prog.Returns (job.runDownload urls rounds) traffic.calls result)
    {earlier : List NetEvent} (honours : HonoursResolver (earlier ++ traffic.network)) :
    RequestsWithin urls "https" (maxRedirects + 1) (requested traffic.calls) ∧
      ∀ addr, .connected addr ∈ traffic.network → isGloballyRoutable addr.ip = true := by
  constructor
  · exact requests_runDownload lawful (hasScheme_of_accepted accepted) returns
  · intro addr connected
    exact routable_of_honours honours (List.mem_append_right earlier connected)

/-! ## A recorded run -/

/-- Absolute `https` URLs. -/
def sampleUrls : UrlLibrary where
  parse := fun text =>
    if "https://".toList <+: text.toList then
      .ok ⟨"https", some (String.ofList ((text.toList.drop 8).takeWhile (· ≠ '/'))), text⟩
    else .error "relative URL without a base"
  join := fun _ location =>
    if "https://".toList <+: location.toList then
      .ok ⟨"https", some (String.ofList ((location.toList.drop 8).takeWhile (· ≠ '/'))), location⟩
    else .error "relative URL without a base"

theorem lawful_sampleUrls : sampleUrls.Lawful where
  parse_text := by
    intro base location next joins
    simp only [sampleUrls] at joins ⊢
    split at joins
    · rename_i isHttps
      obtain rfl := Except.ok.inj joins
      rw [if_pos isHttps]
    · cases joins

def redirectJob : Job where
  root := ["stage"]
  modelsDir := ["models"]
  blockId := "m.gguf"
  generation := 7
  processId := 1
  nanos := 0
  request := ⟨"https://a.example/m.gguf", "m.gguf", none, none⟩

def sampleAddr : SocketAddr := ⟨.v4 ⟨93, 184, 215, 14⟩, 443⟩

/-- A redirect to another host, whose connection breaks. -/
def redirectTraffic : Traffic :=
  [(⟨.store (.openAppend ["stage", "m.gguf.7.part"]), .ok ()⟩, []),
    (⟨.store (.length ["stage", "m.gguf.7.part"]), .ok 0⟩, []),
    (⟨.handle (.setBytesDownloaded 0), ()⟩, []),
    (⟨.outside (.get "https://a.example/m.gguf" none),
        .ok ⟨302, some "https://b.example/m.gguf", none⟩⟩,
      [.resolved "a.example:443" (.ok [sampleAddr]), .connected sampleAddr]),
    (⟨.outside (.get "https://b.example/m.gguf" none), .error "connection reset"⟩,
      [.resolved "b.example:443" (.ok [sampleAddr]), .connected sampleAddr]),
    (⟨.handle .phase, DownloadPhase.downloading⟩, []),
    (⟨.handle (.setMessage ⟨"Download fehlgeschlagen: connection reset", none⟩), ()⟩, []),
    (⟨.handle (.setPhase .failed), ()⟩, [])]

private theorem returns_redirectTraffic :
    Prog.Returns (redirectJob.runDownload sampleUrls 0) redirectTraffic.calls () :=
  .call _ (.call _ (.call _ (.call _ (.call _ (.call _ (.call _ (.call _ (.ret _))))))))

private theorem honours_redirectTraffic : HonoursResolver ([] ++ redirectTraffic.network) := by
  intro addr connected
  have isSample : addr = sampleAddr := by
    simpa [Traffic.network, redirectTraffic] using connected
  refine ⟨"a.example:443", .ok [sampleAddr], [sampleAddr], ?_, by decide, by simp [isSample]⟩
  simp [Traffic.network, redirectTraffic]

/-- Two requests, and the addresses contacted are public. -/
theorem runDownload_contactsSafely_redirected :
    RequestsWithin sampleUrls "https" (maxRedirects + 1) (requested redirectTraffic.calls) ∧
      ∀ addr, .connected addr ∈ redirectTraffic.network → isGloballyRoutable addr.ip = true :=
  runDownload_contactsSafely lawful_sampleUrls (by decide) returns_redirectTraffic
    honours_redirectTraffic

end TriAI.Download
