import AdvisorAI.Integrations.BinanceSpot
import AdvisorAI.Integrations.CoinbaseExchange

/-!
# How often a write leaves

A write whose answer was lost must not be repeated before the order manager has
asked the venue. What one call of a transport sends is a list of requests that
the client appends to what it has sent before, and `Issues` bounds the writes in
it. Only the Binance transport tells the client not to retry them.
-/

namespace AdvisorAI

open Lib List Local SafeHttpClient

/-! ## Counting the writes -/

def HttpRequest.isWrite (request : HttpRequest) : Bool :=
  request.method = "POST" || request.method = "DELETE"

/-- From one client to the other some requests were sent, with so many writes at most. -/
def SafeHttpClient.Grows (n : ℕ) (c c' : SafeHttpClient) : Prop :=
  ∃ more, c'.sent = c.sent ++ more ∧ more.countP HttpRequest.isWrite ≤ n

namespace SafeHttpClient.Grows

variable {m n : ℕ} {c c' c'' : SafeHttpClient}

theorem refl (n : ℕ) (c : SafeHttpClient) : Grows n c c :=
  ⟨[], (append_nil _).symm, Nat.zero_le n⟩

theorem mono (h : Grows m c c') (hmn : m ≤ n) : Grows n c c' := by
  obtain ⟨more, hsent, hcount⟩ := h
  exact ⟨more, hsent, hcount.trans hmn⟩

theorem trans (h : Grows m c c') (h' : Grows n c' c'') : Grows (m + n) c c'' := by
  obtain ⟨more, hsent, hcount⟩ := h
  obtain ⟨more', hsent', hcount'⟩ := h'
  refine ⟨more ++ more', ?_, ?_⟩
  · rw [hsent', hsent, append_assoc]
  · rw [countP_append]
    omega

theorem not_of_replicate {request : HttpRequest} (hwrite : request.isWrite = true)
    (hn : 1 < n) (hsent : c'.sent = c.sent ++ List.replicate n request) : ¬Grows 1 c c' := by
  rintro ⟨more, hmore, hcount⟩
  obtain rfl := append_cancel_left (hmore.symm.trans hsent)
  rw [countP_replicate, if_pos hwrite] at hcount
  omega

end SafeHttpClient.Grows

/-- The computation sends at most so many writes, wherever it starts. -/
def Issues {τ ε α : Type} (client : τ → SafeHttpClient) (n : ℕ) (x : EStateM ε τ α) : Prop :=
  ∀ t, (client t).Grows n (client (Local.after x t))

namespace Issues

variable {τ ε α β : Type} {client : τ → SafeHttpClient} {m n : ℕ} {x y : EStateM ε τ α}

theorem mono (h : Issues client m x) (hmn : m ≤ n) : Issues client n x :=
  fun t => (h t).mono hmn

variable {f : α → EStateM ε τ β}

theorem bind (hx : Issues client m x) (hf : ∀ a, Issues client n (f a)) :
    Issues client (m + n) (x >>= f) := by
  intro t
  have hfirst := hx t
  unfold Local.after at hfirst
  cases hrun : x t with
  | ok a t' =>
    rw [hrun] at hfirst
    rw [after_bind_ok hrun]
    exact hfirst.trans (hf a t')
  | error e t' =>
    rw [hrun] at hfirst
    rw [after_bind_error hrun]
    exact hfirst.mono (Nat.le_add_right m n)

theorem bind_quiet (hx : Issues client 0 x) (hf : ∀ a, Issues client n (f a)) :
    Issues client n (x >>= f) :=
  (hx.bind hf).mono (Nat.zero_add n).le

theorem ite {c : Prop} [Decidable c] (hx : Issues client n x) (hy : Issues client n y) :
    Issues client n (if c then x else y) := by
  split
  · exact hx
  · exact hy

theorem pure (a : α) : Issues client n (Pure.pure a : EStateM ε τ α) := fun t => .refl n (client t)

theorem raise (e : ε) : Issues client n (Local.raise e : EStateM ε τ α) :=
  fun t => .refl n (client t)

theorem read (f : τ → α) : Issues client n (Local.read f : EStateM ε τ α) :=
  fun t => .refl n (client t)

theorem lift (x : Except ε α) : Issues client n (Local.lift x : EStateM ε τ α) := by
  cases x with
  | ok a => exact pure a
  | error e => exact raise e

theorem modify {f : τ → τ} (h : ∀ t, client (f t) = client t) :
    Issues client n (Local.modify f : EStateM ε τ Unit) := by
  intro t
  show (client t).Grows n (client (f t))
  rw [h]
  exact .refl n _

theorem onClient {σ : Type} {get : τ → σ} {set : σ → τ → τ} (view : σ → SafeHttpClient)
    {x : EStateM VenueFailure σ α} (h : Issues view n x)
    (hget : ∀ t, client t = view (get t)) (hset : ∀ s t, client (set s t) = view s) :
    Issues client n (AdvisorAI.onClient get set x) := by
  intro t
  have hx := h (get t)
  rw [← hget] at hx
  unfold Local.after at hx
  unfold Local.after AdvisorAI.onClient
  cases hrun : x (get t) with
  | ok a s =>
    rw [hrun] at hx
    exact (hset s t) ▸ hx
  | error e s =>
    rw [hrun] at hx
    exact (hset s t) ▸ hx

theorem decodeBody (message : String) (body : ResponseBody) :
    Issues client 0 (AdvisorAI.decodeBody message body) := by
  cases body with
  | empty => exact pure _
  | json value => exact pure _
  | malformed => exact raise _

theorem object (message : String) (value : PyValue) :
    Issues client 0 (AdvisorAI.object message value) := by
  unfold AdvisorAI.object
  cases mappingEntries value with
  | none => exact raise _
  | some entries => exact pure _

theorem records (venue label : String) (value : PyValue) :
    Issues client 0 (AdvisorAI.records venue label value) := by
  unfold AdvisorAI.records
  cases recordsOf value with
  | none => exact raise _
  | some entries => exact pure _

theorem onStatus {client : τ → SafeHttpClient} {status : ℕ} {x : EStateM VenueFailure τ α}
    {next : α → EStateM VenueFailure τ β} {absent : EStateM VenueFailure τ β}
    (hx : Issues client 0 x) (hnext : ∀ a, Issues client n (next a))
    (habsent : Issues client n absent) : Issues client n (AdvisorAI.onStatus status x next absent) := by
  intro t
  have hfirst := hx t
  rw [← Nat.zero_add n]
  unfold Local.after at hfirst
  unfold Local.after AdvisorAI.onStatus
  cases hrun : x t with
  | ok a t' =>
    rw [hrun] at hfirst
    exact hfirst.trans (hnext a t')
  | error e t' =>
    rw [hrun] at hfirst
    cases e with
    | other e => exact hfirst.mono (Nat.le_add_right 0 n)
    | venue message code =>
      dsimp only
      by_cases hcode : code = some status
      · rw [if_pos hcode]
        exact hfirst.trans (habsent t')
      · rw [if_neg hcode]
        exact hfirst.mono (Nat.le_add_right 0 n)

end Issues

/-! ## The client -/

namespace HttpSettings

variable (settings : HttpSettings) {message : String} {request : HttpRequest}
  {acceptable : List ℕ} {maxRetries : Option ℕ}

theorem call_sent (c : SafeHttpClient) :
    (Local.after (settings.wire.call message request acceptable maxRetries) c).sent
      = (Local.after (SafeHttpClient.request settings request acceptable maxRetries) c).sent := by
  unfold Local.after Wire.call wire
  dsimp only
  cases SafeHttpClient.request settings request acceptable maxRetries c with
  | ok response c' => rfl
  | error e c' => cases e <;> rfl

theorem request_sent {c : SafeHttpClient}
    (hurl : SafeHttpClient.validateUrl settings request.url = .ok ())
    (hretries : maxRetries.getD settings.config.maxRetries ≤ 5) :
    (Local.after (SafeHttpClient.request settings request acceptable maxRetries) c).sent
      = (Local.after (SafeHttpClient.attempts settings acceptable request
        (maxRetries.getD settings.config.maxRetries)) c).sent := by
  unfold SafeHttpClient.request
  rw [hurl]
  refine congrArg SafeHttpClient.sent ((after_bind_ok (a := ()) rfl).trans ?_)
  rw [if_neg (not_lt.mpr hretries)]

theorem request_refused (c : SafeHttpClient)
    (hurl : SafeHttpClient.validateUrl settings request.url ≠ .ok ()) :
    (Local.after (SafeHttpClient.request settings request acceptable maxRetries) c).sent
      = c.sent := by
  unfold SafeHttpClient.request
  cases hbad : SafeHttpClient.validateUrl settings request.url with
  | ok u => exact absurd hbad hurl
  | error e => exact congrArg SafeHttpClient.sent (after_bind_error rfl)

theorem issues_call : Issues id (if request.isWrite then
    maxRetries.getD settings.config.maxRetries + 1 else 0)
      (settings.wire.call message request acceptable maxRetries) := by
  intro c
  show SafeHttpClient.Grows _ c _
  show ∃ more, (Local.after (settings.wire.call message request acceptable maxRetries) c).sent
    = c.sent ++ more ∧ _
  rw [call_sent]
  have hcount : ∀ k ≤ maxRetries.getD settings.config.maxRetries + 1,
      (List.replicate k request).countP HttpRequest.isWrite ≤ if request.isWrite then
        maxRetries.getD settings.config.maxRetries + 1 else 0 := by
    intro k hk
    rw [countP_replicate]
    split
    · exact hk
    · exact le_rfl
  by_cases hurl : SafeHttpClient.validateUrl settings request.url = .ok ()
  · by_cases hretries : maxRetries.getD settings.config.maxRetries ≤ 5
    · rw [request_sent settings hurl hretries]
      obtain ⟨k, hk, hsent⟩ := attempts_sent settings acceptable request
        (maxRetries.getD settings.config.maxRetries) c
      exact ⟨_, hsent, hcount k hk⟩
    · refine ⟨[], ?_, Nat.zero_le _⟩
      unfold SafeHttpClient.request
      rw [hurl]
      refine (congrArg SafeHttpClient.sent ((after_bind_ok (a := ()) rfl).trans ?_)).trans
        (append_nil _).symm
      rw [if_pos (not_le.mp hretries)]
      rfl
  · refine ⟨[], ?_, Nat.zero_le _⟩
    exact (request_refused settings c hurl).trans (append_nil _).symm

end HttpSettings

/-! ## Binance -/

namespace BinanceSpotTestnetTransport

variable {http : HttpSettings} {settings : BinanceSettings SafeHttpClient}

theorem issues_pathUrl (path : String) (params : List (String × String)) (authenticated : Bool) :
    Issues client 0 (pathUrl settings path params authenticated) := by
  refine Issues.ite (Issues.bind_quiet (Issues.read _) fun _ => Issues.ite (Issues.raise _)
    (Issues.pure _)) (Issues.pure _)

/-- **A request of the Binance transport** is a write once, or none at all. -/
theorem issues_request (hwire : settings.wire = http.wire) (method path : String)
    (params : List (String × String)) (authenticated write : Bool)
    (hread : write = false → method = "GET") :
    Issues client (if write then 1 else 0)
      (request settings method path params authenticated write) := by
  refine Issues.bind_quiet (issues_pathUrl _ _ _) fun url => ?_
  refine (Issues.bind (n := 0) (Issues.onClient id ?_ (fun _ => rfl) fun _ _ => rfl)
    fun response => Issues.decodeBody _ _).mono (Nat.add_zero _).le
  rw [hwire]
  refine Issues.mono (http.issues_call) ?_
  cases write with
  | true =>
    split
    · exact le_refl 1
    · exact Nat.zero_le 1
  | false =>
    rw [hread rfl]
    exact le_refl 0

theorem issues_get (hwire : settings.wire = http.wire) (path : String)
    (params : List (String × String)) (authenticated : Bool) :
    Issues client 0 (request settings "GET" path params authenticated false) :=
  issues_request hwire "GET" path params authenticated false fun _ => rfl

theorem issues_openOrdersOf (hwire : settings.wire = http.wire) (symbols : List String) :
    Issues client 0 (openOrdersOf settings symbols) := by
  induction symbols with
  | nil => exact Issues.pure _
  | cons symbol symbols ih =>
    refine Issues.bind_quiet (issues_get hwire _ _ _) fun payload => ?_
    refine Issues.bind_quiet (Issues.records _ _ _) fun found => ?_
    exact Issues.bind_quiet (Issues.lift _) fun _ => Issues.bind_quiet ih fun _ => Issues.pure _

theorem remember_client (record : VenueRecord) (t : BinanceSpotTestnetTransport SafeHttpClient) :
    (remember settings record t).client = t.client := by
  unfold remember
  dsimp only
  split <;> rfl

theorem issues_listOpenOrders (hwire : settings.wire = http.wire) :
    Issues client 0 (listOpenOrders settings) := by
  refine Issues.bind_quiet (Issues.read _) fun symbols => ?_
  refine Issues.bind_quiet (issues_openOrdersOf hwire symbols) fun found => ?_
  refine Issues.bind_quiet (Issues.modify fun t => ?_) fun _ => Issues.pure _
  induction found generalizing t with
  | nil => rfl
  | cons record found ih => exact (ih _).trans (remember_client record t)

theorem issues_queriedOrder (localId candidate : String) (payload : PyValue) :
    Issues client 0 (queriedOrder settings localId candidate payload) := by
  refine Issues.bind_quiet (Issues.object _ _) fun record => ?_
  refine Issues.bind_quiet (Issues.lift _) fun normalized => ?_
  exact Issues.ite (Issues.raise _)
    (Issues.bind_quiet (Issues.modify fun t => rfl) fun _ => Issues.pure _)

theorem issues_queryCandidates (hwire : settings.wire = http.wire) (localId : String)
    (candidates : List String) : Issues client 0 (queryCandidates settings localId candidates) := by
  induction candidates with
  | nil => exact Issues.pure _
  | cons candidate candidates ih =>
    exact Issues.onStatus (issues_get hwire _ _ _) (fun payload => Issues.bind_quiet
      (issues_queriedOrder localId candidate payload) fun record => Issues.pure _) ih

theorem issues_queryOrder (hwire : settings.wire = http.wire) (id : String) :
    Issues client 0 (queryOrder settings id) := by
  refine Issues.ite (Issues.raise _) (Issues.bind_quiet (Issues.read _) fun symbols => ?_)
  exact Issues.ite (issues_queryCandidates hwire _ symbols)
    (Issues.bind_quiet (issues_listOpenOrders hwire) fun _ => Issues.pure _)

theorem issues_validateOrder (payload : VenueRecord) :
    Issues client 0 (validateOrder settings payload) := by
  refine Issues.ite (Issues.raise _) (Issues.ite (Issues.raise _) ?_)
  refine Issues.bind_quiet (Issues.bind_quiet (Issues.read _) fun found => ?_) fun spec => ?_
  · cases found with
    | none => exact Issues.raise _
    | some spec => exact Issues.pure _
  · refine Issues.bind_quiet (Issues.lift _) fun quantity => ?_
    refine Issues.bind_quiet (Issues.lift _) fun _ => ?_
    refine Issues.ite (Issues.raise _) (Issues.ite (Issues.pure _) ?_)
    exact Issues.bind_quiet (Issues.lift _) fun _ => Issues.pure _

/-- **One call of the Binance transport sends one write at most.** -/
theorem issues_submitOrder (hwire : settings.wire = http.wire) (payload : VenueRecord) :
    Issues client 1 (submitOrder settings payload) := by
  refine Issues.bind_quiet (issues_validateOrder payload) fun order => ?_
  refine Issues.bind (n := 0) (issues_request hwire "POST" _ _ true true nofun) fun response => ?_
  refine Issues.bind_quiet (Issues.object _ _) fun record => ?_
  refine Issues.bind_quiet (Issues.lift _) fun normalized => Issues.ite (Issues.raise _) ?_
  exact Issues.bind_quiet (Issues.modify fun t => rfl) fun _ => Issues.pure _

theorem issues_cancelUnder (hwire : settings.wire = http.wire) (id symbol : String) :
    Issues client 1 (cancelUnder settings id symbol) := by
  refine Issues.ite (Issues.pure _) ?_
  refine Issues.bind (n := 0) (issues_request hwire "DELETE" _ _ true true nofun) fun response => ?_
  refine Issues.bind_quiet (Issues.object _ _) fun record => ?_
  exact Issues.bind_quiet (Issues.lift _) fun normalized => Issues.pure _

theorem issues_cancelOrder (hwire : settings.wire = http.wire) (id : String) :
    Issues client 1 (cancelOrder settings id) := by
  refine Issues.ite (Issues.raise _) (Issues.bind_quiet ?_ fun symbol =>
    issues_cancelUnder hwire _ symbol)
  refine Issues.bind_quiet (Issues.read _) fun found => ?_
  cases found with
  | some symbol => exact Issues.pure _
  | none =>
    refine Issues.bind_quiet (issues_queryOrder hwire _) fun answer => ?_
    cases answer.bind mappingEntries with
    | some record => exact Issues.pure _
    | none => exact Issues.pure _

end BinanceSpotTestnetTransport

/-! ## Coinbase -/

namespace CoinbaseExchangeSandboxTransport

variable {http : HttpSettings} {settings : CoinbaseSettings SafeHttpClient}

/-- **A request of the Coinbase transport** is retried whatever its method. -/
theorem issues_request (hwire : settings.wire = http.wire) (method path : String)
    (payload : Option VenueRecord) (authenticated : Bool) :
    Issues client (if (⟨method, urlOf path [], payload.map PyValue.map⟩ : HttpRequest).isWrite then
        http.config.maxRetries + 1 else 0)
      (request settings method path payload authenticated) := by
  refine Issues.ite (Issues.raise _) (Issues.bind_quiet (Issues.read _) fun _ => ?_)
  refine Issues.ite (Issues.raise _) ((Issues.bind (n := 0) (Issues.onClient id ?_
    (fun _ => rfl) fun _ _ => rfl) fun response => Issues.decodeBody _ _).mono (Nat.add_zero _).le)
  rw [hwire]
  exact http.issues_call

theorem issues_get (hwire : settings.wire = http.wire) (path : String) :
    Issues client 0 (request settings "GET" path none true) :=
  issues_request hwire "GET" path none true

theorem remember_client (record : VenueRecord) (t : CoinbaseExchangeSandboxTransport SafeHttpClient) :
    (remember settings record t).client = t.client := by
  unfold remember
  split
  · split <;> rfl
  · rfl

theorem rememberAll_client (found : List VenueRecord)
    (t : CoinbaseExchangeSandboxTransport SafeHttpClient) :
    (found.foldl (fun t record => remember settings record t) t).client = t.client := by
  induction found generalizing t with
  | nil => rfl
  | cons record found ih => exact (ih _).trans (remember_client record t)

theorem issues_listOpenOrders (hwire : settings.wire = http.wire) :
    Issues client 0 (listOpenOrders settings) := by
  refine Issues.bind_quiet (issues_get hwire _) fun payload => ?_
  refine Issues.bind_quiet (Issues.records _ _ _) fun found => ?_
  refine Issues.bind_quiet (Issues.lift _) fun normalized => ?_
  exact Issues.bind_quiet (Issues.modify fun t => rememberAll_client normalized t)
    fun _ => Issues.pure _

theorem issues_queriedOrder (localId : String) (payload : PyValue) :
    Issues client 0 (queriedOrder settings localId payload) := by
  refine Issues.bind_quiet (Issues.object _ _) fun record => ?_
  refine Issues.bind_quiet (Issues.lift _) fun normalized => ?_
  exact Issues.ite (Issues.raise _) (Issues.pure _)

theorem issues_queryOrder (hwire : settings.wire = http.wire) (id : String) :
    Issues client 0 (queryOrder settings id) := by
  refine Issues.ite (Issues.raise _) (Issues.bind_quiet (Issues.read _) fun venueId => ?_)
  refine Issues.ite ?_ (Issues.bind_quiet (issues_listOpenOrders hwire) fun _ => Issues.pure _)
  exact Issues.onStatus (issues_get hwire _) (fun payload => Issues.bind_quiet
    (issues_queriedOrder _ payload) fun record => Issues.pure _) (Issues.pure _)

theorem issues_submitOrder (hwire : settings.wire = http.wire) (payload : VenueRecord) :
    Issues client (http.config.maxRetries + 1) (submitOrder settings payload) := by
  refine Issues.bind_quiet ?_ fun order => ?_
  · refine Issues.ite (Issues.raise _) (Issues.bind_quiet (Issues.bind_quiet (Issues.read _)
      fun found => ?_) fun product => ?_)
    · cases found with
      | none => exact Issues.raise _
      | some product => exact Issues.pure _
    · refine Issues.bind_quiet (Issues.lift _) fun quantity => ?_
      refine Issues.ite (Issues.raise _) (Issues.ite (Issues.raise _) (Issues.ite ?_ (Issues.pure _)))
      exact Issues.bind_quiet (Issues.lift _) fun _ => Issues.pure _
  · refine Issues.bind (n := 0) (issues_request hwire "POST" _ _ true) fun response => ?_
    refine Issues.bind_quiet (Issues.object _ _) fun record => ?_
    refine Issues.bind_quiet (Issues.lift _) fun normalized => Issues.ite (Issues.raise _) ?_
    exact Issues.bind_quiet (Issues.modify fun t => rfl) fun _ => Issues.pure _

theorem issues_cancelUnder (hwire : settings.wire = http.wire) (id venueId : String) :
    Issues client (http.config.maxRetries + 1) (cancelUnder settings id venueId) :=
  Issues.ite (Issues.pure _)
    (Issues.bind (n := 0) (issues_request hwire "DELETE" _ _ true) fun _ => Issues.pure _)

theorem issues_cancelOrder (hwire : settings.wire = http.wire) (id : String) :
    Issues client (http.config.maxRetries + 1) (cancelOrder settings id) := by
  refine Issues.ite (Issues.raise _) (Issues.bind_quiet ?_ fun venueId =>
    issues_cancelUnder hwire _ venueId)
  refine Issues.bind_quiet (Issues.read _) fun found => ?_
  cases found with
  | some venueId => exact Issues.pure _
  | none =>
    refine Issues.bind_quiet (issues_queryOrder hwire _) fun answer => ?_
    cases answer.bind mappingEntries with
    | some record => exact Issues.pure _
    | none => exact Issues.pure _

end CoinbaseExchangeSandboxTransport

/-! ## The generic transport -/

namespace PaperTestnetVenueTransport

variable {t : PaperTestnetVenueTransport} {http : HttpSettings}

theorem issues_requestPayload (http : HttpSettings) (method path : String)
    (payload : Option VenueRecord) :
    Issues id (if (⟨method, t.url path, payload.map PyValue.map⟩ : HttpRequest).isWrite then
        http.config.maxRetries + 1 else 0) (t.requestPayload http.wire method path payload) := by
  refine Issues.ite (Issues.raise _) (Issues.ite (Issues.raise _) ?_)
  refine (Issues.bind (n := 0) http.issues_call fun response => ?_).mono (Nat.add_zero _).le
  refine Issues.bind_quiet (Issues.decodeBody _ _) fun decoded => ?_
  exact Issues.bind_quiet (Issues.object _ _) fun entries => Issues.pure _

/-- **A request of the generic transport** is retried whatever its method. -/
theorem issues_request (http : HttpSettings) (method path : String) (payload : Option VenueRecord) :
    Issues id (if (⟨method, t.url path, payload.map PyValue.map⟩ : HttpRequest).isWrite then
        http.config.maxRetries + 1 else 0) (t.request http.wire method path payload) :=
  (Issues.bind (n := 0) (issues_requestPayload http method path payload) fun result =>
    Issues.object _ result).mono (Nat.add_zero _).le

theorem issues_submitOrder (payload : VenueRecord) :
    Issues id (http.config.maxRetries + 1) (t.submitOrder http.wire payload) :=
  Issues.ite (Issues.raise _) (Issues.bind (n := 0) (issues_request http "POST" _ _)
    fun _ => Issues.pure _)

theorem issues_cancelOrder (clientOrderId : String) :
    Issues id (http.config.maxRetries + 1) (t.cancelOrder http.wire clientOrderId) :=
  Issues.ite (Issues.raise _) (Issues.bind (n := 0) (issues_request http "DELETE" _ _)
    fun _ => Issues.pure _)

end PaperTestnetVenueTransport

/-! ## One write for one call -/

inductive VenueKind where
  | binance
  | coinbase
  | paper
deriving DecidableEq

/-- No call of the transport sends more than one write. -/
def OneWrite {τ : Type} (native : NativeTransport τ) (client : τ → SafeHttpClient) : Prop :=
  (∀ payload, Issues client 1 (native.submitOrder payload)) ∧
    ∀ clientOrderId, Issues client 1 (native.cancelOrder clientOrderId)

/-- No call of a transport of this kind does, whatever the network answers and when,
with a client that retries so often. -/
def OneWritePerCall (maxRetries : ℕ) : VenueKind → Prop
  | .binance => ∀ (http : HttpSettings) (settings : BinanceSettings SafeHttpClient),
      http.config.maxRetries = maxRetries → settings.wire = http.wire →
        OneWrite (BinanceSpotTestnetTransport.native settings) BinanceSpotTestnetTransport.client
  | .coinbase => ∀ (http : HttpSettings) (settings : CoinbaseSettings SafeHttpClient),
      http.config.maxRetries = maxRetries → settings.wire = http.wire →
        OneWrite (CoinbaseExchangeSandboxTransport.native settings)
          CoinbaseExchangeSandboxTransport.client
  | .paper => ∀ (http : HttpSettings) (t : PaperTestnetVenueTransport),
      http.config.maxRetries = maxRetries → OneWrite (t.native http.wire) id

theorem Issues.not_grows_bind {τ ε α β : Type} {client : τ → SafeHttpClient} {k m n : ℕ}
    {x : EStateM ε τ α} {f : α → EStateM ε τ β} {t : τ} (hx : Issues client k x)
    (hf : ∀ a, Issues client m (f a)) (h : ¬(client t).Grows n (client (Local.after x t))) :
    ¬(client t).Grows n (client (Local.after (x >>= f) t)) := by
  rintro ⟨more, hsent, hcount⟩
  apply h
  obtain ⟨first, hfirst, -⟩ := hx t
  refine ⟨first, hfirst, ?_⟩
  unfold Local.after at hfirst
  cases hrun : x t with
  | ok a t' =>
    obtain ⟨rest, hrest, -⟩ := hf a t'
    rw [hrun] at hfirst
    rw [after_bind_ok hrun, hrest, hfirst, append_assoc] at hsent
    rw [← append_cancel_left hsent, countP_append] at hcount
    omega
  | error e t' =>
    rw [hrun] at hfirst
    rw [after_bind_error hrun, hfirst] at hsent
    rwa [← append_cancel_left hsent] at hcount

/-! ## A network that does not answer -/

/-- A client of a venue that never answers, and that retries so often. -/
theorem five_pos : (0 : ℚ) < 5 := by norm_num

theorem one_le_five : 1 ≤ 5 := by norm_num

theorem sixty_pos : (0 : ℚ) < 60 := by norm_num

def deadSettings (host : String) (maxRetries : ℕ) (h : maxRetries ≤ 5) : HttpSettings where
  config := {
    allowedHosts := [host]
    maxRetries := maxRetries
    requestsPerSecond := 5
    circuitFailureThreshold := 5
    circuitResetSeconds := 60
    maxRetries_le := h
    requestsPerSecond_pos := five_pos
    circuitFailureThreshold_pos := one_le_five
    circuitResetSeconds_pos := sixty_pos }
  network := ⟨fun _ => .unreachable true, fun _ => 0⟩
  sinkRejects := fun _ => false
  redact := id
  describe := fun _ => ""

def SafeHttpClient.fresh : SafeHttpClient := ⟨0, 0, none, 0, 0, []⟩

theorem dead_repeats {host message : String} {r : ℕ} (h : r + 1 ≤ 5) {request : HttpRequest}
    {acceptable : List ℕ} (hwrite : request.isWrite = true)
    (hurl : SafeHttpClient.validateUrl (deadSettings host (r + 1) h) request.url = .ok ()) :
    ¬SafeHttpClient.fresh.Grows 1 (Local.after ((deadSettings host (r + 1) h).wire.call message
      request acceptable none) .fresh) := by
  have hrepeats : SafeHttpClient.Repeats (deadSettings host (r + 1) h) acceptable .fresh := by
    refine ⟨?_, trivial, fun hthreshold => absurd hthreshold (by decide : ¬5 ≤ 0 + 1)⟩
    intro openedAt hopened
    cases hopened
  obtain ⟨n, -, hsent⟩ := attempts_sent (deadSettings host (r + 1) h) acceptable
    request (r + 1) .fresh
  have hmany : 1 < n := by
    have hlength := (attempts_once_iff (deadSettings host (r + 1) h) acceptable
      request r .fresh).not.mpr (not_not_intro hrepeats)
    rw [hsent, length_append, length_replicate] at hlength
    omega
  refine SafeHttpClient.Grows.not_of_replicate hwrite hmany ?_
  rw [HttpSettings.call_sent]
  exact (HttpSettings.request_sent _ hurl (show Option.getD none (r + 1) ≤ 5 from h)).trans hsent

/-- What Python makes of the values in an answer, where nothing is asked. -/
def paperVenue : VenueOutside where
  str
    | .str s => s
    | _ => ""
  decimal := fun _ => none
  fixed := id
  plain := id
  upper := id
  fromMilliseconds := fun _ => none
  fromSeconds := fun _ => none
  readsIso := fun _ => true
  signature := fun _ => ""
  str_str := Eq.refl

/-- A transport for a venue whose orders are at its root. -/
def rootTransport : PaperTestnetVenueTransport where
  outside := paperVenue
  baseUrl := ⟨"https", false, "v", "", []⟩
  ordersPath := ""
  cancelPath := ["/", ""]
  canSign := true
  ordersPath_admitted := by decide
  cancelPath_place := le_rfl

theorem paper_repeats {r : ℕ} (h : r + 1 ≤ 5) :
    ¬OneWrite (rootTransport.native (deadSettings "v" (r + 1) h).wire) id := by
  intro hone
  have hpath : isProhibited (rootTransport.cancelPathOf "a") = false := by decide +kernel
  have hurl : SafeHttpClient.validateUrl (deadSettings "v" (r + 1) h)
      (rootTransport.url (rootTransport.cancelPathOf "a")) = .ok () := by
    have htransfer : SafeHttpClient.isTransferPath
        (rootTransport.url (rootTransport.cancelPathOf "a")).path = false := by decide +kernel
    exact validateUrl_ok rfl (by decide) rfl htransfer
      (by decide : SafeHttpClient.hostName "v" ∈ ["v"])
  refine Issues.not_grows_bind (n := 1) (k := r + 2) (m := 0) (t := SafeHttpClient.fresh)
    (PaperTestnetVenueTransport.issues_request (t := rootTransport) (deadSettings "v" (r + 1) h)
      "DELETE" (rootTransport.cancelPathOf "a") none)
    (fun record => Issues.pure (PyValue.map record)) ?_ (hone.2 "a" .fresh)
  refine Issues.not_grows_bind (n := 1) (k := r + 2) (m := 0)
    (PaperTestnetVenueTransport.issues_requestPayload (t := rootTransport)
      (deadSettings "v" (r + 1) h) "DELETE" (rootTransport.cancelPathOf "a") none)
    (fun result => Issues.object _ _) ?_
  unfold PaperTestnetVenueTransport.requestPayload
  have hsign : rootTransport.canSign = true := rfl
  rw [hpath, hsign, if_neg Bool.false_ne_true, if_neg (nofun : ¬true = false)]
  refine Issues.not_grows_bind (n := 1) (k := r + 2) (m := 0)
    (HttpSettings.issues_call (deadSettings "v" (r + 1) h)) (fun response =>
      Issues.bind_quiet (Issues.decodeBody _ _) fun decoded =>
        Issues.bind_quiet (Issues.object _ _) fun entries => Issues.pure _) ?_
  exact dead_repeats h rfl hurl

theorem CoinbaseExchangeSandboxTransport.withClient_client {α σ : Type}
    (x : EStateM VenueFailure σ α) (t : CoinbaseExchangeSandboxTransport σ) :
    (Local.after (withClient x) t).client = Local.after x t.client := by
  cases hrun : x t.client <;> simp [withClient, onClient, Local.after, hrun]

/-- A Coinbase transport that knows the venue's identity of one order. -/
def knowingTransport : CoinbaseExchangeSandboxTransport SafeHttpClient :=
  ⟨.fresh, Dict.empty, Dict.empty.set "a" "b", none⟩

/-- A cancellation by the Coinbase transport that is not answered. -/
theorem coinbase_repeats {r : ℕ} (h : r + 1 ≤ 5) :
    ¬OneWrite (CoinbaseExchangeSandboxTransport.native
      ⟨(deadSettings "api-public.sandbox.exchange.coinbase.com" (r + 1) h).wire, paperVenue,
        fun _ => true⟩) CoinbaseExchangeSandboxTransport.client := by
  intro hone
  have hpath : CoinbaseExchangeSandboxTransport.isProhibited
      (CoinbaseExchangeSandboxTransport.orderPath "b") = false := by decide +kernel
  have hurl : SafeHttpClient.validateUrl
      (deadSettings "api-public.sandbox.exchange.coinbase.com" (r + 1) h)
      (CoinbaseExchangeSandboxTransport.urlOf
        (CoinbaseExchangeSandboxTransport.orderPath "b") []) = .ok () := by
    have htransfer : SafeHttpClient.isTransferPath
        (CoinbaseExchangeSandboxTransport.orderPath "b") = false := by decide +kernel
    refine validateUrl_ok rfl (by decide) rfl htransfer ?_
    exact mem_singleton.mpr (hostName_ofList (by decide))
  have hstrip : strip "a" = "a" := by decide
  have hknown : knowingTransport.localToVenue.get "a" = some "b" := Dict.get_set_self _ _ _
  have hid : CoinbaseExchangeSandboxTransport.cancelVenueId
      ⟨(deadSettings "api-public.sandbox.exchange.coinbase.com" (r + 1) h).wire, paperVenue,
        fun _ => true⟩ "a" knowingTransport = .ok "b" knowingTransport := by
    refine (bind_ok (read_ok _ _)).trans ?_
    rw [hknown]
    rfl
  refine absurd (hone.2 "a" knowingTransport) ?_
  show ¬SafeHttpClient.Grows 1 _ (CoinbaseExchangeSandboxTransport.client
    (Local.after (CoinbaseExchangeSandboxTransport.cancelOrder _ "a") knowingTransport))
  unfold CoinbaseExchangeSandboxTransport.cancelOrder
  rw [hstrip, if_neg (by decide), after_bind_ok hid]
  unfold CoinbaseExchangeSandboxTransport.cancelUnder
  rw [if_neg (by decide)]
  have hissues := CoinbaseExchangeSandboxTransport.issues_request
    (rfl : (⟨(deadSettings "api-public.sandbox.exchange.coinbase.com" (r + 1) h).wire, paperVenue,
      fun _ => true⟩ : CoinbaseSettings SafeHttpClient).wire = _) "DELETE"
      (CoinbaseExchangeSandboxTransport.orderPath "b") none true
  refine Issues.not_grows_bind (n := 1) (m := 0) hissues (fun response => Issues.pure _) ?_
  unfold CoinbaseExchangeSandboxTransport.request
  rw [hpath, if_neg Bool.false_ne_true, after_bind_ok (read_ok _ _),
    if_neg (nofun : ¬(true && !true) = true)]
  refine Issues.not_grows_bind (n := 1) (m := 0)
    (Issues.onClient id (HttpSettings.issues_call _) (fun _ => rfl) fun _ _ => rfl)
    (fun response => Issues.decodeBody _ _) ?_
  rw [CoinbaseExchangeSandboxTransport.withClient_client]
  exact dead_repeats h rfl hurl

/-- **One call sends one write** exactly over Binance, or where nothing is retried. -/
theorem one_write_iff (kind : VenueKind) (config : HttpClientConfig) :
    OneWritePerCall config.maxRetries kind ↔ kind = .binance ∨ config.maxRetries = 0 := by
  have hretries : config.maxRetries ≠ 0 → ∃ r, config.maxRetries = r + 1 ∧ r + 1 ≤ 5 := by
    intro hne
    obtain ⟨r, hr⟩ := Nat.exists_eq_succ_of_ne_zero hne
    have hle := config.maxRetries_le
    exact ⟨r, hr, by omega⟩
  cases kind with
  | binance =>
    refine iff_of_true (fun http settings _ hwire => ?_) (Or.inl rfl)
    exact ⟨BinanceSpotTestnetTransport.issues_submitOrder hwire,
      BinanceSpotTestnetTransport.issues_cancelOrder hwire⟩
  | coinbase =>
    constructor
    · intro hone
      by_contra hnot
      obtain ⟨r, hr, hr5⟩ := hretries fun hzero => hnot (Or.inr hzero)
      rw [hr] at hone
      exact coinbase_repeats hr5 (hone _ _ rfl rfl)
    · rintro (hbinance | hzero)
      · cases hbinance
      · intro http settings hconfig hwire
        have hone : http.config.maxRetries + 1 = 1 := by rw [hconfig, hzero]
        exact ⟨fun payload => hone ▸ CoinbaseExchangeSandboxTransport.issues_submitOrder hwire payload,
          fun id => hone ▸ CoinbaseExchangeSandboxTransport.issues_cancelOrder hwire id⟩
  | paper =>
    constructor
    · intro hone
      by_contra hnot
      obtain ⟨r, hr, hr5⟩ := hretries fun hzero => hnot (Or.inr hzero)
      rw [hr] at hone
      exact paper_repeats hr5 (hone _ _ rfl)
    · rintro (hbinance | hzero)
      · cases hbinance
      · intro http t hconfig
        have hone : http.config.maxRetries + 1 = 1 := by rw [hconfig, hzero]
        exact ⟨fun payload => hone ▸ PaperTestnetVenueTransport.issues_submitOrder payload,
          fun id => hone ▸ PaperTestnetVenueTransport.issues_cancelOrder id⟩

/-- With the two retries that are the default, a cancellation over Coinbase that is not
answered is sent again. -/
theorem coinbase_cancels_twice : ¬∀ kind, OneWritePerCall 2 kind := by
  intro hone
  exact coinbase_repeats (by decide : 1 + 1 ≤ 5) (hone .coinbase _ _ rfl rfl)

end AdvisorAI
