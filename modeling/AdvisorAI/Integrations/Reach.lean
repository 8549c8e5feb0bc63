import AdvisorAI.Integrations.Writes

/-!
# Which calls reach the venue

An order that was sent has to stay within reach: the order manager asks for it
and cancels it under the same identifier. A submission carries the identifier in
its body. The other calls put it, or the identity the venue gave the order, into
the path of their request, and there it can meet the guard against other
endpoints, of the transport or of the client.

`submitted_reachable_iff` says for which identifiers it does not.
-/

namespace AdvisorAI

open Lib List Local SafeHttpClient
open Issues hiding raise

/-! ## What is sent -/

/-- From `t`, the computation sends a request. -/
def Sends {τ ε α : Type} (client : τ → SafeHttpClient) (x : EStateM ε τ α) (t : τ) : Prop :=
  (client t).sent.length < (client (Local.after x t)).sent.length

namespace Sends

variable {τ ε α β : Type} {client : τ → SafeHttpClient} {x : EStateM ε τ α}
  {f : α → EStateM ε τ β} {t t' : τ} {n : ℕ}

theorem mono (hx : Issues client n x) (t : τ) :
    (client t).sent.length ≤ (client (Local.after x t)).sent.length := by
  obtain ⟨more, hsent, -⟩ := hx t
  rw [hsent, length_append]
  exact Nat.le_add_right _ _

theorem bind (hx : Sends client x t) (hf : ∀ a, Issues client n (f a)) :
    Sends client (x >>= f) t := by
  unfold Sends at hx ⊢
  unfold Local.after at hx
  cases hrun : x t with
  | ok a t' =>
    rw [hrun] at hx
    rw [after_bind_ok hrun]
    exact lt_of_lt_of_le hx (mono (hf a) t')
  | error e t' =>
    rw [hrun] at hx
    rw [after_bind_error hrun]
    exact hx

theorem bind_ok_iff (hrun : x t = .ok a t') (hclient : client t' = client t) :
    Sends client (x >>= f) t ↔ Sends client (f a) t' := by
  unfold Sends
  rw [after_bind_ok hrun, hclient]

theorem not_raise (e : ε) : ¬Sends client (Local.raise e : EStateM ε τ α) t :=
  lt_irrefl _

theorem not_pure (a : α) : ¬Sends client (pure a : EStateM ε τ α) t :=
  lt_irrefl _

theorem of_bind (hx : Local.Keeps id x) (h : Sends client (x >>= f) t) :
    ∃ a, x t = .ok a t ∧ Sends client (f a) t := by
  cases hrun : x t with
  | ok a t' =>
    cases hx.ok hrun
    exact ⟨a, rfl, (bind_ok_iff hrun rfl).mp h⟩
  | error e t' =>
    cases hx.error hrun
    unfold Sends at h
    rw [after_bind_error hrun] at h
    exact absurd h (lt_irrefl _)

theorem onClient_iff {σ : Type} {get : τ → σ} {set : σ → τ → τ} {v : σ → SafeHttpClient}
    {x : EStateM VenueFailure σ α} (hget : ∀ t, client t = v (get t))
    (hset : ∀ s t, client (set s t) = v s) :
    Sends client (onClient get set x) t ↔ Sends v x (get t) := by
  have hafter : client (Local.after (onClient get set x) t) = v (Local.after x (get t)) := by
    cases hrun : x (get t) with
    | ok | error => simp [onClient, Local.after, hrun, hset]
  unfold Sends
  rw [hafter, hget]

theorem onStatus {status : ℕ} {x : EStateM VenueFailure τ α}
    {next : α → EStateM VenueFailure τ β} {absent : EStateM VenueFailure τ β}
    (hx : Sends client x t) (hnext : ∀ a, Issues client n (next a))
    (habsent : Issues client n absent) : Sends client (onStatus status x next absent) t := by
  unfold Sends at hx ⊢
  unfold Local.after at hx
  unfold Local.after AdvisorAI.onStatus
  cases hrun : x t with
  | ok a t' =>
    rw [hrun] at hx
    exact lt_of_lt_of_le hx (mono (hnext a) t')
  | error e t' =>
    rw [hrun] at hx
    cases e with
    | other e => exact hx
    | venue message code =>
      dsimp only
      by_cases hcode : code = some status
      · rw [if_pos hcode]
        exact lt_of_lt_of_le hx (mono habsent t')
      · rw [if_neg hcode]
        exact hx

end Sends

/-- The computation raises, and nothing was sent. -/
def Refused {τ ε α : Type} (client : τ → SafeHttpClient) (x : EStateM ε τ α) (t : τ) : Prop :=
  ∃ e t', x t = .error e t' ∧ (client t').sent = (client t).sent

namespace Refused

variable {τ ε α β : Type} {client : τ → SafeHttpClient} {x : EStateM ε τ α}
  {f : α → EStateM ε τ β} {t t' : τ} {a : α}

theorem raise (e : ε) : Refused client (Local.raise e : EStateM ε τ α) t := ⟨e, t, rfl, rfl⟩

theorem not_reaches (h : Refused client x t) : ¬Sends client x t := by
  obtain ⟨e, t', hrun, hsent⟩ := h
  unfold Sends Local.after
  rw [hrun]
  rw [hsent]
  exact lt_irrefl _

theorem bind (h : Refused client x t) : Refused client (x >>= f) t := by
  obtain ⟨e, t', hrun, hsent⟩ := h
  exact ⟨e, t', bind_error hrun, hsent⟩

theorem bind_ok (hrun : x t = .ok a t') (hclient : client t' = client t)
    (h : Refused client (f a) t') : Refused client (x >>= f) t := by
  obtain ⟨e, t'', hrest, hsent⟩ := h
  exact ⟨e, t'', (Local.bind_ok hrun).trans hrest, hsent.trans (by rw [hclient])⟩

theorem onClient {σ : Type} {get : τ → σ} {set : σ → τ → τ} {v : σ → SafeHttpClient}
    {x : EStateM VenueFailure σ α} (hget : ∀ t, client t = v (get t))
    (hset : ∀ s t, client (set s t) = v s) (h : Refused v x (get t)) :
    Refused client (AdvisorAI.onClient get set x) t := by
  obtain ⟨e, s, hrun, hsent⟩ := h
  refine ⟨e, set s t, ?_, ?_⟩
  · unfold AdvisorAI.onClient
    rw [hrun]
  · rw [hset, hget, hsent]

theorem not_reaches_onStatus {status : ℕ} {x : EStateM VenueFailure τ α}
    {next : α → EStateM VenueFailure τ β} {b : β} (h : Refused client x t) :
    ¬Sends client (AdvisorAI.onStatus status x next (pure b)) t := by
  obtain ⟨e, t', hrun, hsent⟩ := h
  have hsame : (client (Local.after (AdvisorAI.onStatus status x next (pure b)) t)).sent
      = (client t).sent := by
    unfold Local.after AdvisorAI.onStatus
    rw [hrun]
    cases e with
    | other e => exact hsent
    | venue message code =>
      dsimp only
      by_cases hcode : code = some status
      · rw [if_pos hcode]
        exact hsent
      · rw [if_neg hcode]
        exact hsent
  unfold Sends
  rw [hsame]
  exact lt_irrefl _

end Refused

/-! ## The client -/

namespace HttpSettings

variable {http : HttpSettings} {message : String} {request : HttpRequest}
  {acceptable : List ℕ} {maxRetries : Option ℕ} {c : SafeHttpClient}

theorem call_refused (hurl : SafeHttpClient.validateUrl http request.url ≠ .ok ()) :
    Refused id (http.wire.call message request acceptable maxRetries) c := by
  have hrun : ∃ e, SafeHttpClient.request http request acceptable maxRetries c = .error e c := by
    unfold SafeHttpClient.request
    cases hbad : SafeHttpClient.validateUrl http request.url with
    | ok u => exact absurd hbad hurl
    | error e => exact ⟨e, bind_error rfl⟩
  obtain ⟨e, hrun⟩ := hrun
  unfold Refused Wire.call wire
  dsimp only
  rw [hrun]
  cases e with
  | transport e => exact ⟨_, c, rfl, rfl⟩
  | other e => exact ⟨_, c, rfl, rfl⟩

/-- **A client that lets a request through** sends it exactly when its address is admitted. -/
theorem reaches_call_iff (hthrough : SafeHttpClient.LetsThrough http c (http.network.clock c.readings))
    (hretries : maxRetries.getD http.config.maxRetries ≤ 5) :
    Sends id (http.wire.call message request acceptable maxRetries) c ↔
      SafeHttpClient.validateUrl http request.url = .ok () := by
  constructor
  · intro hreaches
    by_contra hurl
    exact (call_refused hurl).not_reaches hreaches
  · intro hurl
    show c.sent.length
      < (Local.after (http.wire.call message request acceptable maxRetries) c).sent.length
    rw [call_sent, request_sent http hurl hretries]
    obtain ⟨n, hn, hsent⟩ := attempts_through acceptable request
      (maxRetries.getD http.config.maxRetries) hthrough
    rw [hsent, length_append, length_replicate]
    omega

end HttpSettings

/-- A client whose circuit does not hold the next request back. -/
def HttpSettings.Open (http : HttpSettings) (c : SafeHttpClient) : Prop :=
  SafeHttpClient.LetsThrough http c (http.network.clock c.readings)

/-- The host of this address is one of those that were reviewed. -/
def HttpSettings.AllowsHost (http : HttpSettings) (host : String) : Prop :=
  SafeHttpClient.hostName host ∈ http.config.allowedHosts

/-- An address is admitted when it is one of a reviewed host without credentials, and not one
of a transfer. -/
theorem SafeHttpClient.validateUrl_iff {http : HttpSettings} {url : Url} :
    validateUrl http url = .ok () ↔ url.scheme = "https" ∧ url.hostname ≠ "" ∧
      url.hasCredentials = false ∧ isTransferPath url.path = false ∧ http.AllowsHost url.hostname := by
  refine ⟨fun h => ?_, fun ⟨hs, hh, hc, hp, ha⟩ => validateUrl_ok hs hh hc hp ha⟩
  unfold validateUrl at h
  split_ifs at h with hs hc hp ha
  obtain ⟨hscheme, hhost⟩ := not_or.mp hs
  exact ⟨not_not.mp hscheme, hhost, by simpa using hc, by simpa using hp, by simpa [HttpSettings.AllowsHost] using ha⟩

/-! ## Binance -/

namespace BinanceSpotTestnetTransport

variable {http : HttpSettings} {settings : BinanceSettings SafeHttpClient}
  {t : BinanceSpotTestnetTransport SafeHttpClient}

def Ready (http : HttpSettings) (settings : BinanceSettings SafeHttpClient)
    (t : BinanceSpotTestnetTransport SafeHttpClient) : Prop :=
  http.Open t.client ∧ 0 < settings.timestamp t.client

/-- The address of the venue is one of the reviewed ones. -/
def Reviewed (http : HttpSettings) : Prop := http.AllowsHost "testnet.binance.vision"

variable {path symbol clientOrderId : String}

theorem validateUrl_urlOf {params : List (String × String)} :
    SafeHttpClient.validateUrl http (urlOf path params) = .ok () ↔
      SafeHttpClient.isTransferPath path = false ∧ Reviewed http := by
  refine validateUrl_iff.trans ⟨fun h => h.2.2.2, fun h => ⟨rfl, ?_, rfl, h⟩⟩
  exact (by decide : "testnet.binance.vision" ≠ "")

theorem request_reaches (hwire : settings.wire = http.wire) (hready : Ready http settings t)
    (hreviewed : Reviewed http) (hpath : SafeHttpClient.isTransferPath path = false)
    (method : String) (params : List (String × String)) (write : Bool) :
    Sends client (request settings method path params true write) t := by
  have hurl : ∃ query, pathUrl settings path params true t = .ok (urlOf path query) t := by
    unfold pathUrl
    rw [if_pos rfl, Local.bind_ok (read_ok _ _), if_neg (not_le.mpr hready.2)]
    exact ⟨_, rfl⟩
  obtain ⟨query, hurl⟩ := hurl
  refine (Sends.bind_ok_iff hurl rfl).mpr ?_
  refine Sends.bind (n := 0) ?_ fun response => Issues.decodeBody _ _
  refine (Sends.onClient_iff (v := id) (fun _ => rfl) fun _ _ => rfl).mpr ?_
  rw [hwire]
  refine (HttpSettings.reaches_call_iff hready.1 ?_).mpr (validateUrl_urlOf.mpr ⟨hpath, hreviewed⟩)
  cases write with
  | true => exact Nat.zero_le 5
  | false => exact http.config.maxRetries_le

theorem request_refused (hwire : settings.wire = http.wire) (hreviewed : ¬Reviewed http)
    (method path : String) (params : List (String × String)) (authenticated write : Bool) :
    Refused client (request settings method path params authenticated write) t := by
  cases hurl : pathUrl settings path params authenticated t with
  | error e t' =>
    cases (pathUrl_keeps (p := id) path params authenticated).error hurl
    exact .bind ⟨e, _, hurl, rfl⟩
  | ok url t' =>
    cases (pathUrl_keeps (p := id) path params authenticated).ok hurl
    obtain ⟨query, rfl⟩ := pathUrl_path hurl
    refine .bind_ok hurl rfl (.bind (.onClient (v := id) (fun _ => rfl) (fun _ _ => rfl) ?_))
    rw [hwire]
    exact HttpSettings.call_refused fun h => hreviewed (validateUrl_urlOf.mp h).2

theorem order_path : SafeHttpClient.isTransferPath "/api/v3/order" = false := by decide +kernel

theorem verifiedSymbol_keeps {γ : Type} {p : BinanceSpotTestnetTransport SafeHttpClient → γ}
    (symbol : String) : Local.Keeps p (verifiedSymbol settings symbol) := by
  refine .bind (.read _) fun found => ?_
  cases found with
  | none => exact .raise _
  | some spec => exact .pure _

variable (payload : VenueRecord)

theorem validateOrder_keeps {γ : Type} {p : BinanceSpotTestnetTransport SafeHttpClient → γ} :
    Local.Keeps p (validateOrder settings payload) := by
  refine .ite (.raise _) (.ite (.raise _) (.bind (verifiedSymbol_keeps _) fun spec => ?_))
  refine .bind (.lift _) fun quantity => .bind (.lift _) fun _ => .ite (.raise _) ?_
  exact .ite (.pure _) (.bind (.lift _) fun _ => .pure _)

theorem verifiedSymbolIds_ne_nil {spec : BinanceSpotSymbolSpec}
    (h : t.verifiedSymbols.get symbol = some spec) : verifiedSymbolIds t ≠ [] := by
  have hmem : symbol ∈ verifiedSymbolIds t := by
    exact mem_mergeSort.mpr (Dict.mem_keys_iff.mpr ⟨spec, h⟩)
  exact ne_nil_of_mem hmem

theorem submitOrder_reaches (hwire : settings.wire = http.wire) {payload : VenueRecord}
    (h : Sends client (submitOrder settings payload) t) :
    Reviewed http ∧ verifiedSymbolIds t ≠ [] ∧
      settings.outside.word payload ["client_order_id"] "" ≠ "" := by
  obtain ⟨order, hvalid, hsent⟩ := Sends.of_bind (validateOrder_keeps payload) h
  have hreviewed : Reviewed http := by
    by_contra hnot
    exact (Refused.bind (request_refused hwire hnot _ _ _ _ _)).not_reaches hsent
  unfold validateOrder at hvalid
  split_ifs at hvalid with hid hadmissible
  · cases hvalid
  · cases hvalid
  · refine ⟨hreviewed, ?_, (not_or.mp hid).1⟩
    obtain ⟨spec, t', hspec, -⟩ := of_bind_ok hvalid
    exact verifiedSymbolIds_ne_nil (verifiedSymbol_ok hspec).2

theorem queryCandidates_reaches (hwire : settings.wire = http.wire)
    (hready : Ready http settings t) (hreviewed : Reviewed http) (localId : String)
    {candidates : List String} (h : candidates ≠ []) :
    Sends client (queryCandidates settings localId candidates) t := by
  obtain ⟨candidate, rest, rfl⟩ := exists_cons_of_ne_nil h
  exact Sends.onStatus (request_reaches hwire hready hreviewed order_path _ _ _)
    (fun payload => bind_quiet (issues_queriedOrder _ candidate payload)
      fun record => Issues.pure _) (issues_queryCandidates hwire _ rest)

/-- **A query under Binance** is sent, whatever the identifier. -/
theorem queryOrder_reaches (hwire : settings.wire = http.wire) (hready : Ready http settings t)
    (hreviewed : Reviewed http) (hverified : verifiedSymbolIds t ≠ [])
    (hid : strip clientOrderId ≠ "") : Sends client (queryOrder settings clientOrderId) t := by
  unfold queryOrder
  rw [if_neg hid]
  refine (Sends.bind_ok_iff (read_ok _ _) rfl).mpr ?_
  cases hget : t.localToSymbol.get (strip clientOrderId) with
  | some symbol =>
    rw [if_pos (cons_ne_nil _ _)]
    exact queryCandidates_reaches hwire hready hreviewed _ (cons_ne_nil _ _)
  | none =>
    rw [if_pos hverified]
    exact queryCandidates_reaches hwire hready hreviewed _ hverified

theorem cancelOrder_reaches_iff (hwire : settings.wire = http.wire)
    (hready : Ready http settings t) (hreviewed : Reviewed http)
    (hverified : verifiedSymbolIds t ≠ []) (hid : strip clientOrderId ≠ "") :
    Sends client (cancelOrder settings clientOrderId) t ↔
      t.localToSymbol.get (strip clientOrderId) ≠ some "" := by
  unfold cancelOrder
  rw [if_neg hid]
  cases hget : t.localToSymbol.get (strip clientOrderId) with
  | none =>
    refine iff_of_true (Sends.bind ?_ fun symbol => issues_cancelUnder hwire _ symbol) nofun
    refine (Sends.bind_ok_iff (read_ok _ _) rfl).mpr ?_
    rw [hget]
    refine Sends.bind (n := 0) (queryOrder_reaches hwire hready hreviewed hverified ?_)
      fun answer => ?_
    · rwa [strip_strip]
    · cases answer.bind mappingEntries with
      | some record => exact Issues.pure _
      | none => exact Issues.pure _
  | some symbol =>
    have hsymbol : cancelSymbol settings (strip clientOrderId) t = .ok symbol t := by
      refine (Local.bind_ok (read_ok _ _)).trans ?_
      rw [hget]
      rfl
    refine (Sends.bind_ok_iff hsymbol rfl).trans ?_
    unfold cancelUnder
    by_cases hempty : symbol = ""
    · rw [if_pos hempty]
      exact iff_of_false (Sends.not_pure _) (not_not_intro (congrArg some hempty))
    · rw [if_neg hempty]
      refine iff_of_true ?_ fun h => hempty (Option.some.inj h)
      refine Sends.bind (n := 0) (request_reaches hwire hready hreviewed order_path _ _ _)
        fun response => bind_quiet (Issues.object _ _) fun record => ?_
      exact bind_quiet (Issues.lift _) fun normalized => Issues.pure _

/-! The symbols that were verified stay. -/

theorem withClient_keeps {α : Type} (x : EStateM VenueFailure SafeHttpClient α) :
    Local.Keeps verifiedSymbols (withClient x) := by
  refine onClient_keeps ?_ x
  intro c t
  rfl

theorem request_keeps (method path : String) (params : List (String × String))
    (authenticated write : Bool) :
    Local.Keeps verifiedSymbols (request settings method path params authenticated write) :=
  .bind (pathUrl_keeps _ _ _) fun _ => .bind (withClient_keeps _) fun _ => decodeBody_keeps _ _

theorem openOrdersOf_keeps (symbols : List String) :
    Local.Keeps verifiedSymbols (openOrdersOf settings symbols) := by
  induction symbols with
  | nil => exact .pure _
  | cons symbol symbols ih =>
    exact .bind (request_keeps _ _ _ _ _) fun _ => .bind (records_keeps _ _ _) fun _ =>
      .bind (.lift _) fun _ => .bind ih fun _ => .pure _

theorem rememberAll_keeps (found : List VenueRecord)
    (t : BinanceSpotTestnetTransport SafeHttpClient) :
    (found.foldl (fun t record => remember settings record t) t).verifiedSymbols
      = t.verifiedSymbols := by
  induction found generalizing t with
  | nil => rfl
  | cons record found ih =>
    refine (ih _).trans ?_
    unfold remember
    dsimp only
    split <;> rfl

theorem listOpenOrders_keeps : Local.Keeps verifiedSymbols (listOpenOrders settings) :=
  .bind (.read _) fun _ => .bind (openOrdersOf_keeps _) fun found =>
    .bind (.modify (rememberAll_keeps found)) fun _ => .pure _

theorem queriedOrder_keeps (localId candidate : String) (payload : PyValue) :
    Local.Keeps verifiedSymbols (queriedOrder settings localId candidate payload) :=
  .bind (object_keeps _ _) fun _ => .bind (.lift _) fun _ =>
    .ite (.raise _) (.bind (.modify fun _ => rfl) fun _ => .pure _)

theorem queryCandidates_keeps (localId : String) (candidates : List String) :
    Local.Keeps verifiedSymbols (queryCandidates settings localId candidates) := by
  induction candidates with
  | nil => exact .pure _
  | cons candidate candidates ih =>
    exact onStatus_keeps (request_keeps _ _ _ _ _)
      (fun payload => .bind (queriedOrder_keeps _ _ payload) fun _ => .pure _) ih

theorem queryOrder_keeps (clientOrderId : String) :
    Local.Keeps verifiedSymbols (queryOrder settings clientOrderId) :=
  .ite (.raise _) (.bind (.read _) fun _ => .ite (queryCandidates_keeps _ _)
    (.bind listOpenOrders_keeps fun _ => .pure _))

theorem submitOrder_keeps : Local.Keeps verifiedSymbols (submitOrder settings payload) :=
  .bind (validateOrder_keeps payload) fun _ => .bind (request_keeps _ _ _ _ _) fun _ =>
    .bind (object_keeps _ _) fun _ => .bind (.lift _) fun _ =>
      .ite (.raise _) (.bind (.modify fun _ => rfl) fun _ => .pure _)

theorem cancelOrder_keeps (clientOrderId : String) :
    Local.Keeps verifiedSymbols (cancelOrder settings clientOrderId) := by
  refine .ite (.raise _) (.bind (.bind (.read _) fun known => ?_) fun symbol => .ite (.pure _) ?_)
  · cases known with
    | some symbol => exact .pure _
    | none =>
      refine .bind (queryOrder_keeps _) fun answer => ?_
      cases answer.bind mappingEntries with
      | some record => exact .pure _
      | none => exact .pure _
  · exact .bind (request_keeps _ _ _ _ _) fun _ => .bind (object_keeps _ _) fun _ =>
      .bind (.lift _) fun _ => .pure _

end BinanceSpotTestnetTransport

/-! ## Coinbase -/

namespace CoinbaseExchangeSandboxTransport

variable {http : HttpSettings} {settings : CoinbaseSettings SafeHttpClient}
  {t : CoinbaseExchangeSandboxTransport SafeHttpClient}

def Ready (http : HttpSettings) (settings : CoinbaseSettings SafeHttpClient)
    (t : CoinbaseExchangeSandboxTransport SafeHttpClient) : Prop :=
  http.Open t.client ∧ settings.canSign t.client = true

/-- The address of the venue is one of the reviewed ones. -/
def Reviewed (http : HttpSettings) : Prop :=
  http.AllowsHost "api-public.sandbox.exchange.coinbase.com"

/-- A path that neither the transport nor its client takes for another endpoint. -/
def PathAdmitted (path : String) : Prop :=
  isProhibited path = false ∧ SafeHttpClient.isTransferPath path = false

variable {path clientOrderId : String}

theorem validateUrl_urlOf {params : List (String × String)} :
    SafeHttpClient.validateUrl http (urlOf path params) = .ok () ↔
      SafeHttpClient.isTransferPath path = false ∧ Reviewed http := by
  refine validateUrl_iff.trans ⟨fun h => h.2.2.2, fun h => ⟨rfl, ?_, rfl, h⟩⟩
  exact (by decide : "api-public.sandbox.exchange.coinbase.com" ≠ "")

theorem request_reaches (hwire : settings.wire = http.wire) (hready : Ready http settings t)
    (hreviewed : Reviewed http) (hpath : PathAdmitted path) (method : String)
    (payload : Option VenueRecord) :
    Sends client (request settings method path payload true) t := by
  unfold request
  rw [hpath.1, if_neg Bool.false_ne_true]
  refine (Sends.bind_ok_iff (read_ok _ _) rfl).mpr ?_
  rw [hready.2, if_neg (nofun : ¬(true && !true) = true)]
  refine Sends.bind (n := 0) ?_ fun response => Issues.decodeBody _ _
  refine (Sends.onClient_iff (v := id) (fun _ => rfl) fun _ _ => rfl).mpr ?_
  rw [hwire]
  refine (HttpSettings.reaches_call_iff hready.1 ?_).mpr
    (validateUrl_urlOf.mpr ⟨hpath.2, hreviewed⟩)
  exact http.config.maxRetries_le

theorem request_refused (hwire : settings.wire = http.wire)
    (h : ¬(PathAdmitted path ∧ Reviewed http)) (method : String) (payload : Option VenueRecord)
    (authenticated : Bool) :
    Refused client (request settings method path payload authenticated) t := by
  unfold request
  by_cases hguard : isProhibited path = true
  · rw [if_pos hguard]
    exact .raise _
  · rw [if_neg hguard]
    refine .bind_ok (read_ok _ _) rfl ?_
    split
    · exact .raise _
    · refine .bind (.onClient (v := id) (fun _ => rfl) (fun _ _ => rfl) ?_)
      rw [hwire]
      refine HttpSettings.call_refused fun hurl => h ?_
      obtain ⟨htransfer, hreviewed⟩ := validateUrl_urlOf.mp hurl
      exact ⟨⟨by simpa using hguard, htransfer⟩, hreviewed⟩

theorem orders_path : PathAdmitted "/orders" := by
  unfold PathAdmitted
  decide +kernel

theorem verifiedProduct_keeps (productId : String) :
    Local.Keeps id (verifiedProduct settings productId) := by
  refine .bind (.read _) fun found => ?_
  cases found with
  | none => exact .raise _
  | some product => exact .pure _

theorem validateOrder_keeps (payload : VenueRecord) :
    Local.Keeps id (validateOrder settings payload) := by
  refine .ite (.raise _) (.bind (verifiedProduct_keeps _) fun product => .bind (.lift _) ?_)
  intro quantity
  refine .ite (.raise _) (.ite (.raise _) (.ite (.bind (.lift _) fun _ => .pure _) (.pure _)))

theorem submitOrder_reaches (hwire : settings.wire = http.wire) {payload : VenueRecord}
    (h : Sends client (submitOrder settings payload) t) :
    Reviewed http ∧ settings.outside.word payload ["client_order_id"] "" ≠ "" := by
  obtain ⟨order, hvalid, hsent⟩ := Sends.of_bind (validateOrder_keeps payload) h
  have hreviewed : Reviewed http := by
    by_contra hnot
    exact (Refused.bind (request_refused hwire (fun h => hnot h.2) _ _ _)).not_reaches hsent
  refine ⟨hreviewed, fun hid => ?_⟩
  unfold validateOrder at hvalid
  rw [if_pos (Or.inl hid)] at hvalid
  cases hvalid

theorem listOpenOrders_reaches (hwire : settings.wire = http.wire) (hready : Ready http settings t)
    (hreviewed : Reviewed http) : Sends client (listOpenOrders settings) t := by
  refine Sends.bind (n := 0) (request_reaches hwire hready hreviewed orders_path _ _)
    fun payload => ?_
  refine bind_quiet (Issues.records _ _ _) fun found => ?_
  refine bind_quiet (Issues.lift _) fun normalized => ?_
  exact bind_quiet (Issues.modify fun t => rememberAll_client normalized t)
    fun _ => Issues.pure _

theorem queryOpenOrders_reaches (hwire : settings.wire = http.wire)
    (hready : Ready http settings t) (hreviewed : Reviewed http) (localId : String) :
    Sends client (queryOpenOrders settings localId) t :=
  Sends.bind (n := 0) (listOpenOrders_reaches hwire hready hreviewed) fun _ => Issues.pure _

/-- **A query under Coinbase** is sent when the path of the order is admitted. -/
theorem queryOrder_reaches_iff (hwire : settings.wire = http.wire)
    (hready : Ready http settings t) (hreviewed : Reviewed http) (hid : strip clientOrderId ≠ "") :
    Sends client (queryOrder settings clientOrderId) t ↔
      ∀ venueId, t.localToVenue.get (strip clientOrderId) = some venueId → venueId ≠ "" →
        PathAdmitted (orderPath venueId) := by
  unfold queryOrder
  rw [if_neg hid]
  refine (Sends.bind_ok_iff (read_ok _ _) rfl).trans ?_
  unfold Dict.getD
  cases hget : t.localToVenue.get (strip clientOrderId) with
  | none =>
    rw [Option.getD_none, if_neg (not_not_intro rfl)]
    exact iff_of_true (queryOpenOrders_reaches hwire hready hreviewed _) nofun
  | some venueId =>
    rw [Option.getD_some]
    by_cases hempty : venueId = ""
    · rw [if_neg (not_not_intro hempty)]
      refine iff_of_true (queryOpenOrders_reaches hwire hready hreviewed _) fun v hv hne => ?_
      exact absurd ((Option.some.inj hv).symm.trans hempty) hne
    · rw [if_pos hempty]
      by_cases hpath : PathAdmitted (orderPath venueId)
      · refine iff_of_true ?_ fun v hv _ => (Option.some.inj hv) ▸ hpath
        refine Sends.onStatus (n := 0) (request_reaches hwire hready hreviewed hpath _ _)
          (fun payload => ?_) (Issues.pure _)
        exact bind_quiet (issues_queriedOrder _ payload) fun _ => Issues.pure _
      · refine iff_of_false ?_ fun h => hpath (h venueId rfl hempty)
        exact (request_refused hwire (fun h => hpath h.1) _ _ _).not_reaches_onStatus

/-- A cancellation under Coinbase is, when the path is and the identity is not empty. -/
theorem cancelOrder_reaches_iff (hwire : settings.wire = http.wire)
    (hready : Ready http settings t) (hreviewed : Reviewed http) (hid : strip clientOrderId ≠ "") :
    Sends client (cancelOrder settings clientOrderId) t ↔
      ∀ venueId, t.localToVenue.get (strip clientOrderId) = some venueId → venueId ≠ "" ∧
        PathAdmitted (orderPath venueId) := by
  unfold cancelOrder
  rw [if_neg hid]
  cases hget : t.localToVenue.get (strip clientOrderId) with
  | none =>
    refine iff_of_true (Sends.bind ?_ fun venueId => issues_cancelUnder hwire _ venueId) nofun
    refine (Sends.bind_ok_iff (read_ok _ _) rfl).mpr ?_
    rw [hget]
    refine Sends.bind (n := 0) ?_ fun answer => ?_
    · refine (queryOrder_reaches_iff hwire hready hreviewed (by rwa [strip_strip])).mpr ?_
      rw [strip_strip, hget]
      nofun
    · cases answer.bind mappingEntries with
      | some record => exact Issues.pure _
      | none => exact Issues.pure _
  | some venueId =>
    have hvenue : cancelVenueId settings (strip clientOrderId) t = .ok venueId t := by
      refine (Local.bind_ok (read_ok _ _)).trans ?_
      rw [hget]
      rfl
    refine (Sends.bind_ok_iff hvenue rfl).trans ?_
    unfold cancelUnder
    by_cases hempty : venueId = ""
    · rw [if_pos hempty]
      exact iff_of_false (Sends.not_pure _) fun h => (h venueId rfl).1 hempty
    · rw [if_neg hempty]
      by_cases hpath : PathAdmitted (orderPath venueId)
      · refine iff_of_true ?_ fun v hv => (Option.some.inj hv) ▸ ⟨hempty, hpath⟩
        exact Sends.bind (n := 0) (request_reaches hwire hready hreviewed hpath _ _)
          fun _ => Issues.pure _
      · refine iff_of_false ?_ fun h => hpath (h venueId rfl).2
        exact (Refused.bind (request_refused hwire (fun h => hpath h.1) _ _ _)).not_reaches

theorem withinReach_iff (hwire : settings.wire = http.wire) (hready : Ready http settings t)
    (hreviewed : Reviewed http) (hid : strip clientOrderId ≠ "") :
    Sends client (queryOrder settings clientOrderId) t ∧
        Sends client (cancelOrder settings clientOrderId) t ↔
      ∀ venueId, t.localToVenue.get (strip clientOrderId) = some venueId → venueId ≠ "" ∧
        PathAdmitted (orderPath venueId) := by
  rw [queryOrder_reaches_iff hwire hready hreviewed hid,
    cancelOrder_reaches_iff hwire hready hreviewed hid]
  exact and_iff_right_of_imp fun h venueId hv _ => (h venueId hv).2

end CoinbaseExchangeSandboxTransport

/-! ## The generic transport -/

namespace PaperTestnetVenueTransport

variable {t : PaperTestnetVenueTransport} {http : HttpSettings} {c : SafeHttpClient}

/-- A path that neither the transport nor the client takes for another endpoint. -/
def PathAdmitted (t : PaperTestnetVenueTransport) (path : String) : Prop :=
  isProhibited path = false ∧ SafeHttpClient.isTransferPath (t.url path).path = false

/-- The transport can sign, and its address is one of the reviewed ones. -/
def Reviewed (t : PaperTestnetVenueTransport) (http : HttpSettings) : Prop :=
  t.canSign = true ∧ t.baseUrl.scheme = "https" ∧ t.baseUrl.hostname ≠ "" ∧
    t.baseUrl.hasCredentials = false ∧ http.AllowsHost t.baseUrl.hostname

variable {path clientOrderId : String}

theorem validateUrl_url (hsign : t.canSign = true) :
    SafeHttpClient.validateUrl http (t.url path) = .ok () ↔
      SafeHttpClient.isTransferPath (t.url path).path = false ∧ t.Reviewed http := by
  have hscheme : (t.url path).scheme = t.baseUrl.scheme := by simp only [url]
  have hhost : (t.url path).hostname = t.baseUrl.hostname := by simp only [url]
  have hcredentials : (t.url path).hasCredentials = t.baseUrl.hasCredentials := by simp only [url]
  rw [validateUrl_iff, hscheme, hhost, hcredentials]
  refine ⟨fun h => ?_, fun h => ?_⟩
  · exact ⟨h.2.2.2.1, hsign, h.1, h.2.1, h.2.2.1, h.2.2.2.2⟩
  · exact ⟨h.2.2.1, h.2.2.2.1, h.2.2.2.2.1, h.1, h.2.2.2.2.2⟩

theorem request_reaches (hopen : http.Open c) (hreviewed : t.Reviewed http)
    (hpath : t.PathAdmitted path) (method : String) (payload : Option VenueRecord) :
    Sends id (t.request http.wire method path payload) c := by
  refine Sends.bind (n := 0) ?_ fun result => Issues.object _ _
  unfold requestPayload
  rw [hpath.1, if_neg Bool.false_ne_true, hreviewed.1, if_neg (nofun : ¬true = false)]
  refine Sends.bind (n := 0) ?_ fun response => bind_quiet (Issues.decodeBody _ _)
    fun decoded => bind_quiet (Issues.object _ _) fun entries => Issues.pure _
  refine (HttpSettings.reaches_call_iff hopen ?_).mpr
    ((validateUrl_url hreviewed.1).mpr ⟨hpath.2, hreviewed⟩)
  exact http.config.maxRetries_le

theorem request_refused (h : ¬(t.PathAdmitted path ∧ t.Reviewed http)) (method : String)
    (payload : Option VenueRecord) : Refused id (t.request http.wire method path payload) c := by
  refine .bind ?_
  unfold requestPayload
  by_cases hguard : isProhibited path = true
  · rw [if_pos hguard]
    exact .raise _
  · rw [if_neg hguard]
    by_cases hsign : t.canSign = false
    · rw [if_pos hsign]
      exact .raise _
    · rw [if_neg hsign]
      refine .bind (HttpSettings.call_refused fun hurl => h ?_)
      obtain ⟨htransfer, hreviewed⟩ := (validateUrl_url (by simpa using hsign)).mp hurl
      exact ⟨⟨by simpa using hguard, htransfer⟩, hreviewed⟩

theorem submitOrder_reaches {payload : VenueRecord}
    (h : Sends id (t.submitOrder http.wire payload) c) :
    t.Reviewed http ∧ t.outside.word payload ["client_order_id"] "" ≠ "" := by
  unfold submitOrder at h
  by_cases hid : t.outside.word payload ["client_order_id"] "" = ""
  · rw [if_pos hid] at h
    exact absurd h (Sends.not_raise _)
  · rw [if_neg hid] at h
    refine ⟨?_, hid⟩
    by_contra hnot
    exact (Refused.bind (request_refused (fun h => hnot h.2) _ _)).not_reaches h

theorem queryOrder_reaches_iff (hopen : http.Open c) (hreviewed : t.Reviewed http)
    (hid : strip clientOrderId ≠ "") :
    Sends id (t.queryOrder http.wire clientOrderId) c ↔
      t.PathAdmitted (t.orderPath clientOrderId) := by
  unfold queryOrder
  rw [if_neg (fun hblank => hid (isBlank_iff.mp hblank))]
  by_cases hpath : t.PathAdmitted (t.orderPath clientOrderId)
  · exact iff_of_true (Sends.onStatus (n := 0) (request_reaches hopen hreviewed hpath _ _)
      (fun _ => Issues.pure _) (Issues.pure _)) hpath
  · exact iff_of_false (request_refused (fun h => hpath h.1) _ _).not_reaches_onStatus hpath

theorem cancelOrder_reaches_iff (hopen : http.Open c) (hreviewed : t.Reviewed http)
    (hid : strip clientOrderId ≠ "") :
    Sends id (t.cancelOrder http.wire clientOrderId) c ↔
      t.PathAdmitted (t.cancelPathOf clientOrderId) := by
  unfold cancelOrder
  rw [if_neg (fun hblank => hid (isBlank_iff.mp hblank))]
  by_cases hpath : t.PathAdmitted (t.cancelPathOf clientOrderId)
  · exact iff_of_true (Sends.bind (n := 0) (request_reaches hopen hreviewed hpath _ _)
      fun _ => Issues.pure _) hpath
  · exact iff_of_false (Refused.bind (request_refused (fun h => hpath h.1) _ _)).not_reaches hpath

end PaperTestnetVenueTransport

/-! ## Orders that were sent -/

/-- One of the three transports, and the settings of its client. -/
inductive VenueTransport where
  | binance (http : HttpSettings) (settings : BinanceSettings SafeHttpClient)
      (hwire : settings.wire = http.wire)
  | coinbase (http : HttpSettings) (settings : CoinbaseSettings SafeHttpClient)
      (hwire : settings.wire = http.wire)
  | paper (http : HttpSettings) (t : PaperTestnetVenueTransport)

namespace VenueTransport

abbrev State : VenueTransport → Type
  | binance _ _ _ => BinanceSpotTestnetTransport SafeHttpClient
  | coinbase _ _ _ => CoinbaseExchangeSandboxTransport SafeHttpClient
  | paper _ _ => SafeHttpClient

def native : (v : VenueTransport) → NativeTransport v.State
  | binance _ settings _ => BinanceSpotTestnetTransport.native settings
  | coinbase _ settings _ => CoinbaseExchangeSandboxTransport.native settings
  | paper http t => t.native http.wire

def client : (v : VenueTransport) → v.State → SafeHttpClient
  | binance _ _ _ => BinanceSpotTestnetTransport.client
  | coinbase _ _ _ => CoinbaseExchangeSandboxTransport.client
  | paper _ _ => id

/-- Its circuit is closed, and a request can be signed. -/
def Ready : (v : VenueTransport) → v.State → Prop
  | binance http settings _ => BinanceSpotTestnetTransport.Ready http settings
  | coinbase http settings _ => CoinbaseExchangeSandboxTransport.Ready http settings
  | paper http _ => http.Open

/-- What else happens to a transport: others use its client, the server time is
read, and its symbols are verified again, of which there has to be one. -/
def Aside : (v : VenueTransport) → v.State → v.State → Prop
  | binance _ _ _ => fun t t' => t'.localToVenue = t.localToVenue ∧
      t'.localToSymbol = t.localToSymbol ∧
      (t'.verifiedSymbols = t.verifiedSymbols ∨ t'.verifiedSymbolIds ≠ [])
  | coinbase _ _ _ => fun t t' => t'.localToVenue = t.localToVenue
  | paper _ _ => fun _ _ => True

variable (v : VenueTransport)

/-- A call of the adapter, or something else. -/
def Step (t t' : v.State) : Prop :=
  (∃ call : VenueCall, t' = call.run v.native t) ∨ v.Aside t t'

/-- From here both calls for an order reach the venue. -/
def WithinReach (t : v.State) (clientOrderId : String) : Prop :=
  Sends v.client (v.native.queryOrder clientOrderId) t ∧
    Sends v.client (v.native.cancelOrder clientOrderId) t

/-- No guard takes what the order is asked for under for something else. -/
def Addressable : (v : VenueTransport) → v.State → String → Prop
  | binance _ _ _ => fun t clientOrderId => t.localToSymbol.get (strip clientOrderId) ≠ some ""
  | coinbase _ _ _ => fun t clientOrderId =>
      ∀ venueId, t.localToVenue.get (strip clientOrderId) = some venueId → venueId ≠ "" ∧
        CoinbaseExchangeSandboxTransport.PathAdmitted
          (CoinbaseExchangeSandboxTransport.orderPath venueId)
  | paper _ t => fun _ clientOrderId => t.PathAdmitted (t.orderPath clientOrderId) ∧
      t.PathAdmitted (t.cancelPathOf clientOrderId)

def StaysWithinReach : Prop :=
  ∀ (payload : VenueRecord) (clientOrderId : String) (t t' : v.State),
    lookupEntry "client_order_id" payload = some (.str clientOrderId) →
    Sends v.client (v.native.submitOrder payload) t →
    Relation.ReflTransGen v.Step (Local.after (v.native.submitOrder payload) t) t' →
    v.Ready t' → v.WithinReach t' clientOrderId

end VenueTransport

theorem BinanceSpotTestnetTransport.step_verified {http : HttpSettings}
    {settings : BinanceSettings SafeHttpClient} {hwire : settings.wire = http.wire}
    {t t' : BinanceSpotTestnetTransport SafeHttpClient}
    (hstep : (VenueTransport.binance http settings hwire).Step t t')
    (h : verifiedSymbolIds t ≠ []) : verifiedSymbolIds t' ≠ [] := by
  have hsame : t'.verifiedSymbols = t.verifiedSymbols → verifiedSymbolIds t' ≠ [] := by
    intro heq
    unfold verifiedSymbolIds at h ⊢
    rwa [heq]
  rcases hstep with ⟨call, rfl⟩ | ⟨-, -, heq | hne⟩
  · refine hsame ?_
    simp only [VenueTransport.native, native]
    cases call with
    | submit payload =>
      simp only [VenueCall.run]
      exact submitOrder_keeps payload t
    | query clientOrderId =>
      simp only [VenueCall.run]
      exact queryOrder_keeps clientOrderId t
    | listOpen =>
      simp only [VenueCall.run]
      exact listOpenOrders_keeps t
    | cancel clientOrderId =>
      simp only [VenueCall.run]
      exact cancelOrder_keeps clientOrderId t
  · exact hsame heq
  · exact hne

theorem VenueOutside.word_client_order_id (outside : VenueOutside) {payload : VenueRecord}
    {id : String} (h : lookupEntry "client_order_id" payload = some (.str id)) :
    outside.word payload ["client_order_id"] "" = strip id := by
  unfold word field
  rw [List.findSome?_cons, h]
  exact congrArg strip (outside.str_str id)

/-- **What was sent stays within reach** exactly as long as no guard takes its
path for that of another endpoint. -/
theorem submitted_reachable_iff (v : VenueTransport) {payload : VenueRecord}
    {clientOrderId : String} {t t' : v.State}
    (hid : lookupEntry "client_order_id" payload = some (.str clientOrderId))
    (hsent : Sends v.client (v.native.submitOrder payload) t)
    (hlater : Relation.ReflTransGen v.Step (Local.after (v.native.submitOrder payload) t) t')
    (hready : v.Ready t') : v.WithinReach t' clientOrderId ↔ v.Addressable t' clientOrderId := by
  unfold VenueTransport.WithinReach
  cases v with
  | binance http settings hwire =>
    simp only [VenueTransport.client, VenueTransport.native,
      BinanceSpotTestnetTransport.native] at hsent hlater ⊢
    obtain ⟨hreviewed, hverified, hword⟩ :=
      BinanceSpotTestnetTransport.submitOrder_reaches hwire hsent
    rw [settings.outside.word_client_order_id hid] at hword
    have hkept : (Local.after (BinanceSpotTestnetTransport.submitOrder settings payload)
        t).verifiedSymbols = t.verifiedSymbols :=
      BinanceSpotTestnetTransport.submitOrder_keeps payload t
    have hstill : BinanceSpotTestnetTransport.verifiedSymbolIds t' ≠ [] := by
      clear hready
      induction hlater with
      | refl =>
        unfold BinanceSpotTestnetTransport.verifiedSymbolIds at hverified ⊢
        rwa [hkept]
      | tail _ hstep ih => exact BinanceSpotTestnetTransport.step_verified hstep ih
    rw [and_iff_right (BinanceSpotTestnetTransport.queryOrder_reaches hwire hready hreviewed
      hstill hword)]
    exact BinanceSpotTestnetTransport.cancelOrder_reaches_iff hwire hready hreviewed hstill hword
  | coinbase http settings hwire =>
    simp only [VenueTransport.client, VenueTransport.native,
      CoinbaseExchangeSandboxTransport.native] at hsent ⊢
    obtain ⟨hreviewed, hword⟩ := CoinbaseExchangeSandboxTransport.submitOrder_reaches hwire hsent
    rw [settings.outside.word_client_order_id hid] at hword
    exact CoinbaseExchangeSandboxTransport.withinReach_iff hwire hready hreviewed hword
  | paper http venue =>
    simp only [VenueTransport.client, VenueTransport.native,
      PaperTestnetVenueTransport.native] at hsent ⊢
    obtain ⟨hreviewed, hword⟩ := PaperTestnetVenueTransport.submitOrder_reaches hsent
    rw [venue.outside.word_client_order_id hid] at hword
    rw [PaperTestnetVenueTransport.queryOrder_reaches_iff hready hreviewed hword,
      PaperTestnetVenueTransport.cancelOrder_reaches_iff hready hreviewed hword]
    rfl

/-! ## Two identifiers -/

theorem zero_le_five : 0 ≤ 5 := Nat.zero_le 5

def onceSettings : HttpSettings := deadSettings "v" 0 zero_le_five

def testnetOrder (clientOrderId : String) : VenueRecord :=
  [("client_order_id", .str clientOrderId)]

theorem onceSettings_open : onceSettings.Open .fresh := by
  intro openedAt hopened
  cases hopened

theorem rootTransport_reviewed : rootTransport.Reviewed onceSettings :=
  ⟨rfl, rfl, (by decide : "v" ≠ ""), rfl,
    (by decide : SafeHttpClient.hostName "v" ∈ ["v"])⟩

theorem rootTransport_submits {clientOrderId : String} (hid : strip clientOrderId ≠ "") :
    Sends id (rootTransport.submitOrder onceSettings.wire (testnetOrder clientOrderId)) .fresh := by
  unfold PaperTestnetVenueTransport.submitOrder
  rw [VenueOutside.word_client_order_id _ (rfl : lookupEntry "client_order_id"
    (testnetOrder clientOrderId) = some (.str clientOrderId)), if_neg hid]
  refine Sends.bind (n := 0) (PaperTestnetVenueTransport.request_reaches onceSettings_open
    rootTransport_reviewed ?_ _ _) fun _ => Issues.pure _
  unfold PaperTestnetVenueTransport.PathAdmitted
  decide +kernel

def rootVenue : VenueTransport := .paper onceSettings rootTransport

theorem rootVenue_sends {clientOrderId : String} (hid : strip clientOrderId ≠ "") :
    Sends rootVenue.client (rootVenue.native.submitOrder (testnetOrder clientOrderId))
      SafeHttpClient.fresh := by
  simp only [rootVenue, VenueTransport.client, VenueTransport.native,
    PaperTestnetVenueTransport.native]
  exact rootTransport_submits hid

theorem rootVenue_later (t : SafeHttpClient) :
    Relation.ReflTransGen rootVenue.Step t SafeHttpClient.fresh := by
  refine .single (Or.inr ?_)
  exact trivial

theorem rootVenue_ready : rootVenue.Ready SafeHttpClient.fresh := onceSettings_open

theorem a_within_reach : rootVenue.WithinReach SafeHttpClient.fresh "a" := by
  have hid : lookupEntry "client_order_id" (testnetOrder "a") = some (.str "a") := rfl
  have hpaths : rootTransport.PathAdmitted (rootTransport.orderPath "a") ∧
      rootTransport.PathAdmitted (rootTransport.cancelPathOf "a") := by
    unfold PaperTestnetVenueTransport.PathAdmitted
    decide +kernel
  exact (submitted_reachable_iff rootVenue hid (rootVenue_sends (by decide)) (rootVenue_later _)
    rootVenue_ready).mpr hpaths

/-- An order whose identifier names another endpoint is sent, and cannot be asked for. -/
theorem live_out_of_reach : ¬∀ v : VenueTransport, v.StaysWithinReach := by
  intro h
  have hid : lookupEntry "client_order_id" (testnetOrder "live") = some (.str "live") := rfl
  have hreach := (h rootVenue _ "live" _ _ hid (rootVenue_sends (by decide)) (rootVenue_later _)
    rootVenue_ready).1
  simp only [rootVenue, VenueTransport.client, VenueTransport.native,
    PaperTestnetVenueTransport.native] at hreach
  have hpath := (PaperTestnetVenueTransport.queryOrder_reaches_iff onceSettings_open
    rootTransport_reviewed (by decide : strip "live" ≠ "")).mp hreach
  have hprohibited : isProhibited (rootTransport.orderPath "live") = true := by decide +kernel
  rw [hpath.1] at hprohibited
  cases hprohibited

end AdvisorAI
