import AdvisorAI.Contracts.Core
import AdvisorAI.Lib.Local
import AdvisorAI.Lib.PyValue

/-!
# The HTTP client of the connectors

`SafeHttpClient.request` sends a request, and sends it again when the network
failed or the server asked for patience, as often as it was told. It counts the
failures; after enough of them its circuit is open, and for a time nothing is
sent at all.

What the network does with the requests of a client, one after the other, and
what its clock shows, is a `Network`. The requests that were sent are kept in
the client here, so that one can speak of them.
-/

namespace AdvisorAI

open Lib List Local

/-- An address, taken apart as `urlsplit` does. -/
structure Url where
  scheme : String
  hasCredentials : Bool
  hostname : String
  path : String
  query : List (String × String)

structure HttpRequest where
  method : String
  url : Url
  body : Option PyValue

/-- What `json.loads` makes of a body. -/
inductive ResponseBody where
  | empty
  | malformed
  | json (value : PyValue)

structure HttpResponse where
  statusCode : ℕ
  body : ResponseBody

inductive NetworkAnswer where
  | response (response : HttpResponse)
  | unreachable (timeout : Bool)
  | raised (e : PyError)

structure HttpTransportError where
  message : String
  statusCode : Option ℕ
  retriable : Bool
  errorType : Option String

inductive HttpFailure where
  | transport (e : HttpTransportError)
  | other (e : PyError)

structure HttpClientConfig where
  allowedHosts : List String
  maxRetries : ℕ
  requestsPerSecond : ℚ
  circuitFailureThreshold : ℕ
  circuitResetSeconds : ℚ
  maxRetries_le : maxRetries ≤ 5
  requestsPerSecond_pos : 0 < requestsPerSecond
  circuitFailureThreshold_pos : 1 ≤ circuitFailureThreshold
  circuitResetSeconds_pos : 0 < circuitResetSeconds

/-- The network and the clock of a client: the answer to its request of each
number, and what each look at the clock shows. -/
structure Network where
  answer : ℕ → NetworkAnswer
  clock : ℕ → ℚ

structure SafeHttpClient where
  nextRequestAt : ℚ
  failureCount : ℕ
  circuitOpenedAt : Option ℚ
  requestCount : ℕ
  /-- How often the client has looked at its clock. -/
  readings : ℕ
  /-- The requests it has sent. -/
  sent : List HttpRequest

abbrev Http := EStateM HttpFailure SafeHttpClient

/-- What a client is built with, and the texts it makes of others. -/
structure HttpSettings where
  config : HttpClientConfig
  network : Network
  /-- Whether the sink for failed responses rejects one. -/
  sinkRejects : HttpResponse → Bool
  redact : String → String
  describe : HttpResponse → String

namespace SafeHttpClient

variable (settings : HttpSettings)

/-! ## The address -/

def transportError (message : String) (statusCode : Option ℕ) (retriable : Bool)
    (errorType : Option String) : HttpFailure :=
  .transport ⟨message, statusCode, retriable, errorType⟩

/-- `host.lower().rstrip(".")`. -/
def hostName (host : String) : String :=
  String.ofList ((lower host).toList.reverse.dropWhile fun c => c = '.').reverse

theorem hostName_ofList {l : List Char}
    (h : (((l.map lowerChar).reverse.dropWhile fun c => c = '.').reverse) = l) :
    hostName (String.ofList l) = String.ofList l := by
  unfold hostName lower
  rw [String.toList_ofList, String.toList_ofList, h]

/-- The path names a withdrawal or a transfer. -/
def isTransferPath (path : String) : Bool :=
  ["/withdraw", "/transfer"].any fun token => containsText token (lower path)

def validateUrl (url : Url) : Except HttpFailure Unit :=
  if url.scheme ≠ "https" ∨ url.hostname = "" then
    .error (transportError "external connectors require an absolute HTTPS URL" none false none)
  else if url.hasCredentials then
    .error (transportError "external connector URLs cannot contain credentials" none false none)
  else if isTransferPath url.path then
    .error (transportError "external connector rejected a transfer/withdrawal path" none false none)
  else if hostName url.hostname ∉ settings.config.allowedHosts then
    .error (transportError
      ("external host is not reviewed: " ++ settings.redact (hostName url.hostname)) none false none)
  else .ok ()

theorem validateUrl_ok {settings : HttpSettings} {url : Url} (hscheme : url.scheme = "https")
    (hhost : url.hostname ≠ "") (hcredentials : url.hasCredentials = false)
    (hpath : isTransferPath url.path = false)
    (hallowed : hostName url.hostname ∈ settings.config.allowedHosts) :
    validateUrl settings url = .ok () := by
  unfold validateUrl
  rw [if_neg (not_or.mpr ⟨not_not_intro hscheme, hhost⟩), hcredentials,
    if_neg Bool.false_ne_true, hpath, if_neg Bool.false_ne_true,
    if_neg (not_not_intro hallowed)]

/-! ## One attempt -/

/-- `self._clock()`. -/
def readClock : Http ℚ := fun c =>
  .ok (settings.network.clock c.readings) { c with readings := c.readings + 1 }

/-- The circuit is closed, or has been open for long enough. -/
def LetsThrough (c : SafeHttpClient) (now : ℚ) : Prop :=
  ∀ openedAt ∈ c.circuitOpenedAt, ¬now - openedAt < settings.config.circuitResetSeconds

/-- `_before_request`. Waiting only lets the clock go on. -/
def beforeRequest : Http Unit := do
  let now ← readClock settings
  match ← Local.read fun c => c.circuitOpenedAt with
  | some openedAt =>
    if now - openedAt < settings.config.circuitResetSeconds then
      Local.raise (transportError "external connector circuit is open" none true none)
    else Local.modify fun c => { c with circuitOpenedAt := none, failureCount := 0 }
  | none => pure ()
  let later ← readClock settings
  Local.modify fun c => { c with
    nextRequestAt := max c.nextRequestAt later + 1 / settings.config.requestsPerSecond }

def failure : Http Unit := do
  Local.modify fun c => { c with failureCount := c.failureCount + 1 }
  if settings.config.circuitFailureThreshold ≤ (← Local.read fun c => c.failureCount) then do
    let now ← readClock settings
    Local.modify fun c => { c with circuitOpenedAt := some now }
  else pure ()

def success : Http Unit := Local.modify fun c => { c with failureCount := 0 }

def send (request : HttpRequest) : Http NetworkAnswer := fun c =>
  .ok (settings.network.answer c.requestCount)
    { c with requestCount := c.requestCount + 1, sent := c.sent ++ [request] }

/-- `status == 429 or status >= 500`. -/
def isRetriable (status : ℕ) : Bool := status = 429 || 500 ≤ status

/-- The pass of the loop in `request`, with the passes that are left after it. -/
def attempt (acceptable : List ℕ) (request : HttpRequest) (again : Option (Http HttpResponse)) :
    Http HttpResponse := do
  beforeRequest settings
  match ← send settings request with
  | .raised e => Local.raise (.other e)
  | .unreachable timeout => do
    failure settings
    again.getD (Local.raise (transportError "external connector request failed" none true
      (some (if timeout then "timeout" else "network"))))
  | .response response =>
    if response.statusCode ∈ acceptable then do
      success
      pure response
    else if settings.sinkRejects response then
      Local.raise (transportError
        "external connector failed-response spool rejected the response"
        (some response.statusCode) false none)
    else if isRetriable response.statusCode then do
      failure settings
      again.getD (Local.raise (transportError (settings.describe response)
        (some response.statusCode) true none))
    else Local.raise (transportError (settings.describe response) (some response.statusCode)
      false none)

/-- The loop of `request`, with so many retries left. -/
def attempts (acceptable : List ℕ) (request : HttpRequest) : ℕ → Http HttpResponse
  | 0 => attempt settings acceptable request none
  | retries + 1 => attempt settings acceptable request (some (attempts acceptable request retries))

def request (request : HttpRequest) (acceptable : List ℕ) (maxRetries : Option ℕ) :
    Http HttpResponse := do
  Local.lift (validateUrl settings request.url)
  let retries := maxRetries.getD settings.config.maxRetries
  if 5 < retries then
    Local.raise (.other (valueError "per-request max_retries must be between 0 and 5"))
  else attempts settings acceptable request retries

/-! ## What is sent -/

variable {settings : HttpSettings} {acceptable : List ℕ} {request : HttpRequest}

theorem readClock_ok (c : SafeHttpClient) : readClock settings c
    = .ok (settings.network.clock c.readings) { c with readings := c.readings + 1 } :=
  rfl

def admitted (settings : HttpSettings) (c : SafeHttpClient) : SafeHttpClient := { c with
  circuitOpenedAt := none
  failureCount := if c.circuitOpenedAt.isSome then 0 else c.failureCount
  readings := c.readings + 2
  nextRequestAt := max c.nextRequestAt (settings.network.clock (c.readings + 1)) +
    1 / settings.config.requestsPerSecond }

variable {c : SafeHttpClient}

theorem beforeRequest_ok (h : LetsThrough settings c (settings.network.clock c.readings)) :
    beforeRequest settings c = .ok () (c.admitted settings) := by
  rcases c with ⟨next, failures, opened, requests, readings, sent⟩
  cases opened with
  | none => rfl
  | some openedAt =>
    have hlong := h openedAt rfl
    refine (bind_ok (readClock_ok _)).trans ?_
    refine (bind_ok (read_ok _ _)).trans ?_
    dsimp only
    rw [if_neg hlong]
    rfl

theorem beforeRequest_refused (h : ¬LetsThrough settings c (settings.network.clock c.readings)) :
    beforeRequest settings c
      = .error (transportError "external connector circuit is open" none true none)
        { c with readings := c.readings + 1 } := by
  rcases c with ⟨next, failures, opened, requests, readings, sent⟩
  cases opened with
  | none => exact absurd (fun openedAt ho => nomatch ho) h
  | some openedAt =>
    have hsoon : settings.network.clock readings - openedAt < settings.config.circuitResetSeconds := by
      by_contra hlong
      refine h fun o ho => ?_
      cases ho
      exact hlong
    refine (bind_ok (readClock_ok _)).trans ?_
    refine (bind_ok (read_ok _ _)).trans ?_
    dsimp only
    rw [if_pos hsoon]
    rfl

def failed (settings : HttpSettings) (c : SafeHttpClient) : SafeHttpClient :=
  if settings.config.circuitFailureThreshold ≤ c.failureCount + 1 then { c with
    failureCount := c.failureCount + 1
    circuitOpenedAt := some (settings.network.clock c.readings)
    readings := c.readings + 1 }
  else { c with failureCount := c.failureCount + 1 }

theorem failure_ok (c : SafeHttpClient) : failure settings c = .ok () (c.failed settings) := by
  refine (bind_ok (modify_ok _ _)).trans ?_
  refine (bind_ok (read_ok _ _)).trans ?_
  unfold failed
  by_cases hopen : settings.config.circuitFailureThreshold ≤ c.failureCount + 1
  · rw [if_pos hopen, if_pos hopen]
    rfl
  · rw [if_neg hopen, if_neg hopen]
    rfl

theorem failed_sent (c : SafeHttpClient) : (c.failed settings).sent = c.sent := by
  unfold failed
  split <;> rfl

def Retried (settings : HttpSettings) (acceptable : List ℕ) : NetworkAnswer → Prop
  | .raised _ => False
  | .unreachable _ => True
  | .response response => response.statusCode ∉ acceptable ∧
      settings.sinkRejects response = false ∧ isRetriable response.statusCode = true

def requested (settings : HttpSettings) (c : SafeHttpClient) (request : HttpRequest) :
    SafeHttpClient :=
  { c.admitted settings with
    requestCount := c.requestCount + 1
    sent := c.sent ++ [request] }

/-- **One pass of the loop** sends one request, or none when it is refused. After
an answer that is retried the rest of the loop goes on. -/
theorem attempt_sent (settings : HttpSettings) (acceptable : List ℕ) (request : HttpRequest)
    (again : Option (Http HttpResponse)) (c : SafeHttpClient) :
    (LetsThrough settings c (settings.network.clock c.readings) →
      (Retried settings acceptable (settings.network.answer c.requestCount) →
        (Local.after (attempt settings acceptable request again) c).sent
          = again.elim (c.sent ++ [request]) fun next =>
            (Local.after next ((c.requested settings request).failed settings)).sent) ∧
      (¬Retried settings acceptable (settings.network.answer c.requestCount) →
        (Local.after (attempt settings acceptable request again) c).sent = c.sent ++ [request])) ∧
    (¬LetsThrough settings c (settings.network.clock c.readings) →
      (Local.after (attempt settings acceptable request again) c).sent = c.sent) := by
  have hsend : send settings request (c.admitted settings)
      = .ok (settings.network.answer c.requestCount) (c.requested settings request) := rfl
  have hrest : ∀ e, (Local.after (again.getD (Local.raise e))
      ((c.requested settings request).failed settings)).sent
        = again.elim (c.sent ++ [request]) fun next =>
          (Local.after next ((c.requested settings request).failed settings)).sent := by
    intro e
    cases again with
    | none => exact failed_sent _
    | some next => rfl
  refine ⟨fun hthrough => ?_, fun hrefused => ?_⟩
  · unfold attempt
    rw [after_bind_ok (beforeRequest_ok hthrough), after_bind_ok hsend]
    cases settings.network.answer c.requestCount with
    | raised e => exact ⟨fun hretried => hretried.elim, fun _ => rfl⟩
    | unreachable timeout =>
      refine ⟨fun _ => ?_, fun hnot => absurd trivial hnot⟩
      rw [after_bind_ok (failure_ok _)]
      exact hrest _
    | response response =>
      dsimp only [Retried]
      by_cases hacceptable : response.statusCode ∈ acceptable
      · rw [if_pos hacceptable]
        exact ⟨fun hretried => absurd hacceptable hretried.1, fun _ => rfl⟩
      · rw [if_neg hacceptable]
        by_cases hsink : settings.sinkRejects response = true
        · rw [if_pos hsink]
          refine ⟨fun hretried => ?_, fun _ => rfl⟩
          rw [hretried.2.1] at hsink
          cases hsink
        · rw [if_neg hsink]
          by_cases hretriable : isRetriable response.statusCode = true
          · rw [if_pos hretriable]
            refine ⟨fun _ => ?_, fun hnot => absurd ⟨hacceptable, by simpa using hsink, hretriable⟩ hnot⟩
            rw [after_bind_ok (failure_ok _)]
            exact hrest _
          · rw [if_neg hretriable]
            exact ⟨fun hretried => absurd hretried.2.2 hretriable, fun _ => rfl⟩
  · unfold attempt
    rw [after_bind_error (beforeRequest_refused hrefused)]

theorem attempts_sent (settings : HttpSettings) (acceptable : List ℕ) (request : HttpRequest)
    (retries : ℕ) (c : SafeHttpClient) : ∃ n ≤ retries + 1,
    (Local.after (attempts settings acceptable request retries) c).sent
      = c.sent ++ List.replicate n request := by
  induction retries generalizing c with
  | zero =>
    show ∃ n ≤ 1, (Local.after (attempt settings acceptable request none) c).sent = _
    obtain ⟨hthrough, hrefused⟩ := attempt_sent settings acceptable request none c
    by_cases h : LetsThrough settings c (settings.network.clock c.readings)
    · refine ⟨1, le_rfl, ?_⟩
      by_cases hretried : Retried settings acceptable (settings.network.answer c.requestCount)
      · exact (hthrough h).1 hretried
      · exact (hthrough h).2 hretried
    · exact ⟨0, Nat.zero_le 1, (hrefused h).trans (append_nil _).symm⟩
  | succ retries ih =>
    show ∃ n ≤ retries + 2, (Local.after (attempt settings acceptable request
      (some (attempts settings acceptable request retries))) c).sent = _
    obtain ⟨hthrough, hrefused⟩ := attempt_sent settings acceptable request
      (some (attempts settings acceptable request retries)) c
    by_cases h : LetsThrough settings c (settings.network.clock c.readings)
    · by_cases hretried : Retried settings acceptable (settings.network.answer c.requestCount)
      · obtain ⟨n, hn, hsent⟩ := ih ((c.requested settings request).failed settings)
        refine ⟨n + 1, by omega, ?_⟩
        rw [(hthrough h).1 hretried, Option.elim_some, hsent, failed_sent, replicate_succ]
        exact append_assoc _ _ _
      · exact ⟨1, by omega, (hthrough h).2 hretried⟩
    · exact ⟨0, Nat.zero_le _, (hrefused h).trans (append_nil _).symm⟩

theorem attempts_refused (acceptable : List ℕ) (request : HttpRequest) (retries : ℕ)
    (h : ¬LetsThrough settings c (settings.network.clock c.readings)) :
    (Local.after (attempts settings acceptable request retries) c).sent = c.sent := by
  cases retries with
  | zero => exact (attempt_sent settings acceptable request none c).2 h
  | succ retries => exact (attempt_sent settings acceptable request (some _) c).2 h

theorem attempts_through (acceptable : List ℕ) (request : HttpRequest) (retries : ℕ)
    (h : LetsThrough settings c (settings.network.clock c.readings)) : ∃ n, 1 ≤ n ∧
      (Local.after (attempts settings acceptable request retries) c).sent
        = c.sent ++ List.replicate n request := by
  have hone : c.sent ++ [request] = c.sent ++ List.replicate 1 request := rfl
  by_cases hretried : Retried settings acceptable (settings.network.answer c.requestCount)
  · cases retries with
    | zero => exact ⟨1, le_rfl, ((attempt_sent settings acceptable request none c).1 h).1 hretried⟩
    | succ retries =>
      obtain ⟨n, -, hsent⟩ := attempts_sent settings acceptable request retries ((c.requested settings request).failed settings)
      refine ⟨n + 1, Nat.le_add_left 1 n, (((attempt_sent settings acceptable request (some _) c).1 h).1 hretried).trans ?_⟩
      rw [Option.elim_some, hsent, failed_sent, replicate_succ]
      exact append_assoc _ _ _
  · refine ⟨1, le_rfl, ?_⟩
    cases retries with
    | zero => exact ((attempt_sent settings acceptable request none c).1 h).2 hretried
    | succ retries => exact ((attempt_sent settings acceptable request (some _) c).1 h).2 hretried

/-- A first attempt that is sent and retried, with the circuit still closed, or
opened by it and closed again in time. -/
def Repeats (settings : HttpSettings) (acceptable : List ℕ) (c : SafeHttpClient) : Prop :=
  LetsThrough settings c (settings.network.clock c.readings) ∧
    Retried settings acceptable (settings.network.answer c.requestCount) ∧
    (settings.config.circuitFailureThreshold
        ≤ (if c.circuitOpenedAt.isSome then 0 else c.failureCount) + 1 →
      settings.config.circuitResetSeconds
        ≤ settings.network.clock (c.readings + 3) - settings.network.clock (c.readings + 2))

theorem letsThrough_second (settings : HttpSettings) (request : HttpRequest) (c : SafeHttpClient) :
    LetsThrough settings ((c.requested settings request).failed settings)
        (settings.network.clock ((c.requested settings request).failed settings).readings) ↔
      (settings.config.circuitFailureThreshold
          ≤ (if c.circuitOpenedAt.isSome then 0 else c.failureCount) + 1 →
        settings.config.circuitResetSeconds
          ≤ settings.network.clock (c.readings + 3) - settings.network.clock (c.readings + 2)) := by
  unfold failed
  by_cases hopen : settings.config.circuitFailureThreshold
      ≤ (c.requested settings request).failureCount + 1
  · rw [if_pos hopen]
    constructor
    · intro hthrough _
      exact not_lt.mp (hthrough _ rfl)
    · intro hlong openedAt ho
      cases ho
      exact not_lt.mpr (hlong hopen)
  · rw [if_neg hopen]
    constructor
    · intro _ hthreshold
      exact absurd hthreshold hopen
    · intro _ openedAt ho
      cases ho

/-- **A request that may be retried leaves twice** exactly when its first attempt is. -/
theorem attempts_once_iff (settings : HttpSettings) (acceptable : List ℕ) (request : HttpRequest)
    (retries : ℕ) (c : SafeHttpClient) :
    (Local.after (attempts settings acceptable request (retries + 1)) c).sent.length
        ≤ c.sent.length + 1 ↔ ¬Repeats settings acceptable c := by
  show (Local.after (attempt settings acceptable request
    (some (attempts settings acceptable request retries))) c).sent.length ≤ _ ↔ _
  obtain ⟨hthrough, hrefused⟩ := attempt_sent settings acceptable request
    (some (attempts settings acceptable request retries)) c
  by_cases h : LetsThrough settings c (settings.network.clock c.readings)
  · by_cases hretried : Retried settings acceptable (settings.network.answer c.requestCount)
    · have hfirst : ((c.requested settings request).failed settings).sent = c.sent ++ [request] :=
        failed_sent _
      have hsecond := letsThrough_second settings request c
      rw [(hthrough h).1 hretried, Option.elim_some]
      by_cases hagain : LetsThrough settings ((c.requested settings request).failed settings)
          (settings.network.clock ((c.requested settings request).failed settings).readings)
      · obtain ⟨n, hn, hsent⟩ := attempts_through acceptable request retries hagain
        rw [hsent, hfirst]
        refine iff_of_false ?_ (not_not_intro ⟨h, hretried, hsecond.mp hagain⟩)
        simp only [length_append, length_singleton, length_replicate]
        omega
      · rw [attempts_refused acceptable request retries hagain, hfirst]
        refine iff_of_true ?_ fun hrepeats => hagain (hsecond.mpr hrepeats.2.2)
        rw [length_append, length_singleton]
    · rw [(hthrough h).2 hretried, length_append, length_singleton]
      exact iff_of_true le_rfl fun hrepeats => hretried hrepeats.2.1
  · rw [hrefused h]
    exact iff_of_true (Nat.le_succ _) fun hrepeats => h hrepeats.1

end SafeHttpClient

end AdvisorAI
