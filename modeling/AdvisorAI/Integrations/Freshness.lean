import AdvisorAI.Integrations.Snapshots
import Mathlib.Data.Int.ConditionallyCompleteOrder

/-!
# How old a snapshot is

A snapshot of the venue's account is stamped with a time of the venue, by which
the reconciliation service sees that the local account is older than the data it
is compared with. The transport asks for that time once and remembers it, so the
stamp of a later snapshot can be older than its data: `snapshots_fresh_iff` says
which stamps of a run are not.
-/

namespace AdvisorAI

open Lib Local

/-! ## The provider's clock -/

/-- The answers of a provider whose clock does not go back, and which tells its time
under one path. -/
structure ProviderClock {σ : Type} (wire : Wire σ) (path : String)
    (timeIn : ResponseBody → Option Timestamp) (now : σ → Timestamp) : Prop where
  advances : ∀ request acceptable maxRetries,
    Local.Rises now (wire.request request acceptable maxRetries)
  tells : ∀ request acceptable maxRetries s response s',
    wire.request request acceptable maxRetries s = .ok response s' → request.url.path = path →
      ∀ time ∈ timeIn response.body, now s ≤ time

variable {σ : Type} {message : String}

theorem Wire.call_ok {wire : Wire σ} {request : HttpRequest} {acceptable : List ℕ}
    {maxRetries : Option ℕ} {s s' : σ} {response : HttpResponse}
    (h : wire.call message request acceptable maxRetries s = .ok response s') :
    wire.request request acceptable maxRetries s = .ok response s' := by
  unfold call at h
  split at h
  · next heq =>
    cases h
    exact heq
  · cases h
  · cases h

theorem Wire.call_rises {wire : Wire σ} {now : σ → Timestamp} {request : HttpRequest}
    {acceptable : List ℕ} {maxRetries : Option ℕ}
    (h : Local.Rises now (wire.request request acceptable maxRetries)) :
    Local.Rises now (wire.call message request acceptable maxRetries) := by
  intro s
  have hrise := h s
  unfold Local.after at hrise ⊢
  unfold call
  cases hrun : wire.request request acceptable maxRetries s with
  | ok response s' =>
    rw [hrun] at hrise
    exact hrise
  | error e s' =>
    rw [hrun] at hrise
    cases e with
    | transport e => exact hrise
    | other e => exact hrise

variable {τ α γ ε : Type} {x : EStateM VenueFailure σ α}

theorem onClient_ok {get : τ → σ} {set : σ → τ → τ} {t t' : τ} {a : α}
    (h : onClient get set x t = .ok a t') : ∃ c, x (get t) = .ok a c ∧ t' = set c t := by
  unfold onClient at h
  cases hrun : x (get t) with
  | ok b c =>
    rw [hrun] at h
    cases h
    exact ⟨c, rfl, rfl⟩
  | error e c =>
    rw [hrun] at h
    cases h

theorem onClient_rises [Preorder γ] {get : τ → σ} {set : σ → τ → τ} {p : σ → γ}
    (hset : ∀ c t, get (set c t) = c) (h : Local.Rises p x) :
    Local.Rises (fun t => p (get t)) (onClient get set x) := by
  intro t
  have hrise := h (get t)
  unfold Local.after at hrise ⊢
  unfold onClient
  cases hrun : x (get t) with
  | ok | error =>
    rw [hrun] at hrise
    dsimp only
    rwa [hset]

theorem decodeBody_ok {body : ResponseBody} {value : PyValue} {t t' : τ}
    (h : decodeBody message body t = .ok value t') :
    t' = t ∧ (value = .map [] ∨ body = .json value) := by
  cases body with
  | empty =>
    cases h
    exact ⟨rfl, Or.inl rfl⟩
  | json value =>
    cases h
    exact ⟨rfl, Or.inr rfl⟩
  | malformed => cases h

theorem object_ok {value : PyValue} {entries : VenueRecord} {t t' : τ}
    (h : object message value t = .ok entries t') : t' = t ∧ value = .map entries := by
  cases value with
  | map found =>
    cases h
    exact ⟨rfl, rfl⟩
  | _ => cases h

theorem lift_ok {x : Except ε α} {t t' : τ} {a : α}
    (h : (Local.lift x : EStateM ε τ α) t = .ok a t') : t' = t ∧ x = .ok a := by
  cases x with
  | ok b =>
    cases h
    exact ⟨rfl, rfl⟩
  | error e => cases h

/-! ## Binance -/

namespace BinanceSpotTestnetTransport

variable {settings : BinanceSettings σ} {now : σ → Timestamp}
  {t t' : BinanceSpotTestnetTransport σ}

def timeIn (outside : VenueOutside) : ResponseBody → Option Timestamp
  | .json (.map entries) =>
    (outside.decimalOf "Binance" "server time" true (lookupEntry "serverTime" entries)).toOption.bind
      outside.fromMilliseconds
  | _ => none

/-- The provider behind the transport has a clock. -/
def Clocked (settings : BinanceSettings σ) (now : σ → Timestamp) : Prop :=
  ProviderClock settings.wire "/api/v3/time" (timeIn settings.outside) now

theorem request_rises (hclock : Clocked settings now) (method path : String)
    (params : List (String × String)) (authenticated write : Bool) :
    Local.Rises (fun t => now (client t))
      (request settings method path params authenticated write) := by
  refine .bind (.of_keeps (pathUrl_keeps _ _ _)) fun url => .bind ?_ fun response =>
    .of_keeps (decodeBody_keeps _ _)
  exact onClient_rises (fun _ _ => rfl) (Wire.call_rises (hclock.advances _ _ _))

theorem request_ok {method path : String} {params : List (String × String)}
    {authenticated write : Bool} {value : PyValue}
    (h : request settings method path params authenticated write t = .ok value t') :
    ∃ query acceptable maxRetries response c,
      settings.wire.request ⟨method, urlOf path query, none⟩ acceptable maxRetries t.client
        = .ok response c ∧ t' = { t with client := c } ∧
      (value = .map [] ∨ response.body = .json value) := by
  obtain ⟨url, t₁, hurl, hrest⟩ := of_bind_ok h
  cases (pathUrl_keeps (p := id) path params authenticated).ok hurl
  obtain ⟨query, rfl⟩ := pathUrl_path hurl
  obtain ⟨response, t₂, hcall, hdecode⟩ := of_bind_ok hrest
  obtain ⟨c, hrequest, rfl⟩ := onClient_ok hcall
  obtain ⟨rfl, hvalue⟩ := decodeBody_ok hdecode
  exact ⟨query, _, _, response, c, Wire.call_ok hrequest, rfl, hvalue⟩

theorem serverTime_ok (hclock : Clocked settings now) {payload : VenueRecord}
    (h : serverTime settings t = .ok payload t') :
    ∃ time, t'.lastServerTime = some time ∧ now t.client ≤ time := by
  obtain ⟨value, t₁, hrequest, hafter⟩ := of_bind_ok h
  obtain ⟨entries, t₂, hobject, hread⟩ := of_bind_ok hafter
  obtain ⟨milliseconds, t₃, hlift, hrest⟩ := of_bind_ok hread
  obtain ⟨rfl, rfl⟩ := object_ok hobject
  obtain ⟨rfl, hdecimal⟩ := lift_ok hlift
  cases htime : settings.outside.fromMilliseconds milliseconds with
  | none =>
    rw [htime] at hrest
    cases hrest
  | some time =>
    rw [htime] at hrest
    cases hrest
    refine ⟨time, rfl, ?_⟩
    obtain ⟨query, acceptable, maxRetries, response, c, hanswer, -, hvalue⟩ := request_ok hrequest
    refine hclock.tells _ _ _ _ _ _ hanswer rfl time ?_
    rcases hvalue with hempty | hbody
    · -- an object without entries has no time
      cases hempty
      cases hdecimal
    · rw [hbody]
      unfold timeIn
      dsimp only
      rw [hdecimal]
      exact htime

theorem request_keeps_time (method path : String) (params : List (String × String))
    (authenticated write : Bool) :
    Local.Keeps lastServerTime (request settings method path params authenticated write) := by
  refine .bind (pathUrl_keeps _ _ _) fun url => .bind ?_ fun response => decodeBody_keeps _ _
  refine onClient_keeps ?_ _
  intro c t
  rfl

theorem accountState_ok (hclock : Clocked settings now) {payload : VenueRecord}
    (h : accountState settings t = .ok payload t') :
    t'.lastServerTime = t.lastServerTime ∧ now t.client ≤ now t'.client := by
  have hkeeps : Local.Keeps lastServerTime (accountState settings) :=
    .bind (request_keeps_time _ _ _ _ _) fun _ => .bind (object_keeps _ _) fun _ =>
      .ite (.raise _) (.ite (.raise _) (.pure _))
  have hrises : Local.Rises (fun t => now (client t)) (accountState settings) :=
    .bind (request_rises hclock _ _ _ _ _) fun _ => .of_keeps (.bind (object_keeps _ _) fun _ =>
      .ite (.raise _) (.ite (.raise _) (.pure _)))
  exact ⟨hkeeps.ok h, hrises.ok h⟩

theorem rememberedTime_fresh_iff (hclock : Clocked settings now) {time : Timestamp}
    (h : rememberedTime settings t = .ok time t') (at_ : Timestamp) (hat : at_ ≤ now t.client) :
    at_ ≤ time ↔ ∀ remembered ∈ t.lastServerTime, at_ ≤ remembered := by
  obtain ⟨found, t₁, hread, hrest⟩ := of_bind_ok h
  cases hread
  dsimp only at hrest
  cases hlast : t.lastServerTime with
  | some remembered =>
    rw [hlast] at hrest
    cases hrest
    simp
  | none =>
    rw [hlast] at hrest
    obtain ⟨payload, t₂, hserver, hrest⟩ := of_bind_ok hrest
    obtain ⟨told, htold, hlate⟩ := serverTime_ok hclock hserver
    obtain ⟨again, t₃, hread, hrest⟩ := of_bind_ok hrest
    cases hread
    dsimp only at hrest
    rw [htold] at hrest
    cases hrest
    exact iff_of_true (hat.trans hlate) nofun

/-- **The stamp of a snapshot is no earlier than its data** exactly when the time
that is remembered is not. -/
theorem fetchAccountSnapshot_fresh_iff (hclock : Clocked settings now)
    {snapshot : VenueAccountSnapshot ℚ} (h : fetchAccountSnapshot settings t = .ok snapshot t') :
    now t.client ≤ snapshot.asOf ↔
      ∀ remembered ∈ t.lastServerTime, now t.client ≤ remembered := by
  obtain ⟨payload, t₁, haccount, h₁⟩ := of_bind_ok h
  obtain ⟨balances, t₂, hbalances, h₂⟩ := of_bind_ok h₁
  obtain ⟨verified, t₃, hverified, h₃⟩ := of_bind_ok h₂
  obtain ⟨projection, t₄, hprojection, h₄⟩ := of_bind_ok h₃
  obtain ⟨asOf, t₅, htime, h₅⟩ := of_bind_ok h₄
  obtain ⟨free, t₆, hfree, hmade⟩ := of_bind_ok h₅
  cases (records_keeps (p := id) _ _ _).ok hbalances
  cases hverified
  cases (Local.Keeps.lift (p := id) _).ok hprojection
  have hstamp := (VenueAccountSnapshot.check_ok (constructed_ok (lift_ok hmade).2)).1
  obtain ⟨hsame, hlate⟩ := accountState_ok hclock haccount
  rw [hstamp, rememberedTime_fresh_iff hclock htime _ hlate, hsame]

end BinanceSpotTestnetTransport

/-! ## Coinbase -/

namespace CoinbaseExchangeSandboxTransport

variable {settings : CoinbaseSettings σ} {now : σ → Timestamp}
  {t t' : CoinbaseExchangeSandboxTransport σ}

def timeIn (outside : VenueOutside) : ResponseBody → Option Timestamp
  | .json (.map entries) =>
    (outside.decimalOf "Coinbase" "server epoch" true (lookupEntry "epoch" entries)).toOption.bind
      outside.fromSeconds
  | _ => none

/-- The provider behind the transport has a clock. -/
def Clocked (settings : CoinbaseSettings σ) (now : σ → Timestamp) : Prop :=
  ProviderClock settings.wire "/time" (timeIn settings.outside) now

theorem request_rises (hclock : Clocked settings now) (method path : String)
    (payload : Option VenueRecord) (authenticated : Bool) :
    Local.Rises (fun t => now (client t)) (request settings method path payload authenticated) := by
  unfold request
  by_cases hguard : isProhibited path = true
  · rw [if_pos hguard]
    exact .of_keeps (.raise _)
  · rw [if_neg hguard]
    refine .bind (.of_keeps (.read _)) fun canSign => ?_
    split
    · exact .of_keeps (.raise _)
    · refine .bind ?_ fun response => .of_keeps (decodeBody_keeps _ _)
      exact onClient_rises (fun _ _ => rfl) (Wire.call_rises (hclock.advances _ _ _))

theorem request_ok {method path : String} {payload : Option VenueRecord} {authenticated : Bool}
    {value : PyValue} (h : request settings method path payload authenticated t = .ok value t') :
    ∃ acceptable maxRetries response c,
      settings.wire.request ⟨method, urlOf path [], payload.map PyValue.map⟩ acceptable maxRetries
        t.client = .ok response c ∧ t' = { t with client := c } ∧
      (value = .map [] ∨ response.body = .json value) := by
  unfold request at h
  split at h
  · cases h
  · obtain ⟨canSign, t₁, hread, hrest⟩ := of_bind_ok h
    cases hread
    split at hrest
    · cases hrest
    · obtain ⟨response, t₂, hcall, hdecode⟩ := of_bind_ok hrest
      obtain ⟨c, hrequest, rfl⟩ := onClient_ok hcall
      obtain ⟨rfl, hvalue⟩ := decodeBody_ok hdecode
      exact ⟨_, _, response, c, Wire.call_ok hrequest, rfl, hvalue⟩

/-- The time that is remembered is no earlier than when it was asked for. -/
theorem serverTime_ok (hclock : Clocked settings now) {payload : VenueRecord}
    (h : serverTime settings t = .ok payload t') :
    ∃ time, t'.lastServerTime = some time ∧ now t.client ≤ time := by
  obtain ⟨value, t₁, hrequest, hafter⟩ := of_bind_ok h
  obtain ⟨entries, t₂, hobject, hread⟩ := of_bind_ok hafter
  obtain ⟨epoch, t₃, hlift, hrest⟩ := of_bind_ok hread
  obtain ⟨rfl, rfl⟩ := object_ok hobject
  obtain ⟨rfl, hdecimal⟩ := lift_ok hlift
  cases htime : settings.outside.fromSeconds epoch with
  | none =>
    rw [htime] at hrest
    cases hrest
  | some time =>
    rw [htime] at hrest
    obtain ⟨done, t₄, hmodify, hchecked⟩ := of_bind_ok hrest
    cases hmodify
    have hkept : t'.lastServerTime = some time := by
      have hchecks : ∀ value, Local.Keeps lastServerTime (do
          Local.lift (checkIso settings "server ISO time" value)
          pure entries : Coinbase σ VenueRecord) :=
        fun value => .bind (.lift _) fun _ => .pure _
      cases hiso : lookupEntry "iso" entries with
      | none =>
        rw [hiso] at hchecked
        cases hchecked
        rfl
      | some value =>
        rw [hiso] at hchecked
        cases value with
        | none =>
          cases hchecked
          rfl
        | _ => exact (hchecks _).ok hchecked
    refine ⟨time, hkept, ?_⟩
    obtain ⟨acceptable, maxRetries, response, c, hanswer, -, hvalue⟩ := request_ok hrequest
    refine hclock.tells _ _ _ _ _ _ hanswer rfl time ?_
    rcases hvalue with hempty | hbody
    · -- an object without entries has no time
      cases hempty
      cases hdecimal
    · rw [hbody]
      unfold timeIn
      dsimp only
      rw [hdecimal]
      exact htime

theorem request_keeps_time (method path : String) (payload : Option VenueRecord)
    (authenticated : Bool) :
    Local.Keeps lastServerTime (request settings method path payload authenticated) := by
  refine .ite (.raise _) (.bind (.read _) fun canSign => .ite (.raise _) (.bind ?_ fun response =>
    decodeBody_keeps _ _))
  refine onClient_keeps ?_ _
  intro c t
  rfl

theorem accounts_ok (hclock : Clocked settings now) {found : List VenueRecord}
    (h : accounts settings t = .ok found t') :
    t'.lastServerTime = t.lastServerTime ∧ now t.client ≤ now t'.client := by
  have hkeeps : Local.Keeps lastServerTime (accounts settings) :=
    .bind (request_keeps_time _ _ _ _) fun _ => records_keeps _ _ _
  have hrises : Local.Rises (fun t => now (client t)) (accounts settings) :=
    .bind (request_rises hclock _ _ _ _) fun _ => .of_keeps (records_keeps _ _ _)
  exact ⟨hkeeps.ok h, hrises.ok h⟩

theorem rememberedTime_fresh_iff (hclock : Clocked settings now) {time : Timestamp}
    (h : rememberedTime settings t = .ok time t') (at_ : Timestamp) (hat : at_ ≤ now t.client) :
    at_ ≤ time ↔ ∀ remembered ∈ t.lastServerTime, at_ ≤ remembered := by
  obtain ⟨found, t₁, hread, hrest⟩ := of_bind_ok h
  cases hread
  dsimp only at hrest
  cases hlast : t.lastServerTime with
  | some remembered =>
    rw [hlast] at hrest
    cases hrest
    simp
  | none =>
    rw [hlast] at hrest
    obtain ⟨payload, t₂, hserver, hrest⟩ := of_bind_ok hrest
    obtain ⟨told, htold, hlate⟩ := serverTime_ok hclock hserver
    obtain ⟨again, t₃, hread, hrest⟩ := of_bind_ok hrest
    cases hread
    dsimp only at hrest
    rw [htold] at hrest
    cases hrest
    exact iff_of_true (hat.trans hlate) nofun

/-- **The stamp of a snapshot is no earlier than its data** exactly when the time
that is remembered is not. -/
theorem fetchAccountSnapshot_fresh_iff (hclock : Clocked settings now)
    {snapshot : VenueAccountSnapshot ℚ} (h : fetchAccountSnapshot settings t = .ok snapshot t') :
    now t.client ≤ snapshot.asOf ↔
      ∀ remembered ∈ t.lastServerTime, now t.client ≤ remembered := by
  obtain ⟨found, t₁, hfound, h₁⟩ := of_bind_ok h
  obtain ⟨verified, t₂, hverified, h₂⟩ := of_bind_ok h₁
  obtain ⟨projection, t₃, hprojection, h₃⟩ := of_bind_ok h₂
  obtain ⟨asOf, t₄, htime, hmade⟩ := of_bind_ok h₃
  cases hverified
  cases (Local.Keeps.lift (p := id) _).ok hprojection
  have hstamp := (VenueAccountSnapshot.check_ok (constructed_ok (lift_ok hmade).2)).1
  obtain ⟨hsame, hlate⟩ := accounts_ok hclock hfound
  rw [hstamp, rememberedTime_fresh_iff hclock htime _ hlate, hsame]

end CoinbaseExchangeSandboxTransport

/-! ## Runs -/

/-- One of the two transports, over a provider with a clock. -/
inductive TimedVenue where
  | binance (σ : Type) (settings : BinanceSettings σ) (now : σ → Timestamp)
      (hclock : BinanceSpotTestnetTransport.Clocked settings now)
  | coinbase (σ : Type) (settings : CoinbaseSettings σ) (now : σ → Timestamp)
      (hclock : CoinbaseExchangeSandboxTransport.Clocked settings now)

namespace TimedVenue

abbrev State : TimedVenue → Type
  | binance σ _ _ _ => BinanceSpotTestnetTransport σ
  | coinbase σ _ _ _ => CoinbaseExchangeSandboxTransport σ

def native : (v : TimedVenue) → NativeTransport v.State
  | binance _ settings _ _ => BinanceSpotTestnetTransport.native settings
  | coinbase _ settings _ _ => CoinbaseExchangeSandboxTransport.native settings

def serverTime : (v : TimedVenue) → EStateM VenueFailure v.State VenueRecord
  | binance _ settings _ _ => BinanceSpotTestnetTransport.serverTime settings
  | coinbase _ settings _ _ => CoinbaseExchangeSandboxTransport.serverTime settings

def fetchAccountSnapshot : (v : TimedVenue) →
    EStateM VenueFailure v.State (VenueAccountSnapshot ℚ)
  | binance _ settings _ _ => BinanceSpotTestnetTransport.fetchAccountSnapshot settings
  | coinbase _ settings _ _ => CoinbaseExchangeSandboxTransport.fetchAccountSnapshot settings

def now : (v : TimedVenue) → v.State → Timestamp
  | binance _ _ now _ => fun t => now t.client
  | coinbase _ _ now _ => fun t => now t.client

def remembered : (v : TimedVenue) → v.State → Option Timestamp
  | binance _ _ _ _ => BinanceSpotTestnetTransport.lastServerTime
  | coinbase _ _ _ _ => CoinbaseExchangeSandboxTransport.lastServerTime

end TimedVenue

/-- A call of a transport, or the state it has when time has passed and its client
and symbols were used by others. -/
inductive TimedCall (v : TimedVenue) where
  | call (call : VenueCall)
  | serverTime
  | snapshot
  | pass (t : v.State)

namespace TimedVenue

variable (v : TimedVenue)

/-- The state after a call. Time does not pass backwards, and nobody else changes the
time that is remembered. -/
def step (t : v.State) : TimedCall v → v.State
  | .call call => call.run v.native t
  | .serverTime => Local.after v.serverTime t
  | .snapshot => Local.after v.fetchAccountSnapshot t
  | .pass t' => if v.now t ≤ v.now t' ∧ v.remembered t' = v.remembered t then t' else t

/-- The snapshots of a run, each with the state in which its request was made. -/
def taken (t : v.State) : List (TimedCall v) → List (v.State × VenueAccountSnapshot ℚ)
  | [] => []
  | .snapshot :: calls =>
    match v.fetchAccountSnapshot t with
    | .ok snapshot t' => (t, snapshot) :: taken t' calls
    | .error _ t' => taken t' calls
  | call :: calls => taken (v.step t call) calls

end TimedVenue

/-- The service reports that a local account is older than data of this time. -/
def LagReported (requestedAt : Timestamp) (snapshot : VenueAccountSnapshot ℚ) : Prop :=
  ∀ (service : ReconciliationService ℚ) (ledgers : Option (List OrderEvent))
    (account : AccountState ℚ) (orders : OrderManager)
    (accountLedger : Option (Dict String (Payload ℚ))) (r : Reconciliation),
    account.asOf < requestedAt →
    (service.run ledgers account orders accountLedger (some snapshot)).1 = .ok r →
    "local_account_state_lags_venue_snapshot" ∈ r.discrepancies

/-- The stamp is no earlier than the request, and lags are reported by it. -/
def TimedVenue.Fresh (v : TimedVenue) (p : v.State × VenueAccountSnapshot ℚ) : Prop :=
  v.now p.1 ≤ p.2.asOf ∧ LagReported (v.now p.1) p.2

/-- No time is remembered that is earlier than the provider's. -/
def TimedVenue.Unread (v : TimedVenue) (t : v.State) : Prop :=
  ∀ time ∈ v.remembered t, v.now t ≤ time

variable {snapshot : VenueAccountSnapshot ℚ}

theorem lagReported_of_le {requestedAt : Timestamp} (h : requestedAt ≤ snapshot.asOf) :
    LagReported requestedAt snapshot := by
  intro service ledgers account orders accountLedger r hold hrun
  obtain ⟨shown, hshown, hdiscrepancies⟩ := ReconciliationService.discrepancies_of_run hrun
  have hlag : shown.asOf < snapshot.asOf := by
    rw [(ReconciliationService.shown_of_snapshot hshown).2.2.2.2]
    exact lt_of_lt_of_le hold h
  rw [hdiscrepancies]
  refine List.mem_map.mpr ⟨.localAccountStateLagsVenueSnapshot, ?_, rfl⟩
  unfold discrepanciesOf venueDiscrepancies
  dsimp only
  rw [if_pos hlag]
  simp

theorem TimedVenue.fresh_iff_le (v : TimedVenue) (p : v.State × VenueAccountSnapshot ℚ) :
    v.Fresh p ↔ v.now p.1 ≤ p.2.asOf :=
  ⟨fun h => h.1, fun h => ⟨h, lagReported_of_le h⟩⟩

theorem TimedVenue.fresh_iff (v : TimedVenue) {t t' : v.State}
    (h : v.fetchAccountSnapshot t = .ok snapshot t') : v.Fresh (t, snapshot) ↔ v.Unread t := by
  rw [fresh_iff_le]
  cases v with
  | binance σ settings now hclock =>
    exact BinanceSpotTestnetTransport.fetchAccountSnapshot_fresh_iff hclock h
  | coinbase σ settings now hclock =>
    exact CoinbaseExchangeSandboxTransport.fetchAccountSnapshot_fresh_iff hclock h

/-- **Every snapshot of a run is fresh** exactly when each was taken by a transport
that had not remembered an earlier time of the server. -/
theorem snapshots_fresh_iff (v : TimedVenue) (t : v.State) (calls : List (TimedCall v)) :
    (∀ p ∈ v.taken t calls, v.Fresh p) ↔ ∀ p ∈ v.taken t calls, v.Unread p.1 := by
  induction calls generalizing t with
  | nil => exact ⟨nofun, nofun⟩
  | cons call calls ih =>
    cases call with
    | snapshot =>
      unfold TimedVenue.taken
      cases hrun : v.fetchAccountSnapshot t with
      | ok snapshot t' =>
        simp only [List.forall_mem_cons]
        exact and_congr (v.fresh_iff hrun) (ih t')
      | error e t' => exact ih t'
    | call | serverTime | pass => exact ih _

/-! ## A remembered time -/

def tickingWire : Wire ℕ where
  request request _ _ s := .ok ⟨200, .json (if request.url.path = "/api/v3/time" then
      .map [("serverTime", .str (String.ofList (List.replicate s 'i')))]
    else .map [("accountType", .str "SPOT"), ("canTrade", .bool true),
      ("balances", .seq [.map [("asset", .str "USDT")]])])⟩ (s + 1)

theorem binance_ne : isBlank "binance" = false := by decide

def tallyVenue : VenueOutside where
  str := fun value => match value with
    | .str s => s
    | _ => ""
  decimal := fun s => some s.length
  fixed := id
  plain := id
  upper := id
  fromMilliseconds := fun q => some q.floor
  fromSeconds := fun _ => none
  readsIso := fun _ => true
  signature := fun _ => ""
  str_str := fun _ => rfl

def tickingSettings : BinanceSettings ℕ := ⟨tickingWire, tallyVenue, 5000, fun _ => 1⟩

theorem ticking_clocked :
    BinanceSpotTestnetTransport.Clocked tickingSettings (fun s => (s : Timestamp)) where
  advances request acceptable maxRetries s := by
    exact Int.ofNat_le.mpr (Nat.le_succ s)
  tells := by
    intro request acceptable maxRetries s response s' hanswer hpath time htime
    cases hanswer
    rw [if_pos hpath] at htime
    have htold : tallyVenue.decimalOf "Binance" "server time" true
        (some (.str (String.ofList (List.replicate s 'i'))))
          = if decide ((s : ℚ) ≤ 0) then
              .error (.venue "Binance response has invalid server time" none) else .ok (s : ℚ) := by
      unfold VenueOutside.decimalOf tallyVenue
      dsimp only
      rw [String.length_ofList, List.length_replicate]
      rfl
    obtain ⟨q, hq, hfloor⟩ := Option.bind_eq_some_iff.mp htime
    have hok := ok_of_toOption hq
    have hlookup : lookupEntry "serverTime"
        [("serverTime", PyValue.str (String.ofList (List.replicate s 'i')))]
          = some (.str (String.ofList (List.replicate s 'i'))) := rfl
    rw [show tickingSettings.outside = tallyVenue from rfl, hlookup, htold] at hok
    split_ifs at hok
    cases hok
    have hfloored : some (s : ℚ).floor = some time := hfloor
    rw [← Option.some.inj hfloored]
    exact (Rat.floor_intCast s).ge

def btcSpec : BinanceSpotSymbolSpec where
  symbol := "BTCUSDT"
  baseAsset := "BTC"
  quoteAsset := "USDT"
  status := "TRADING"
  baseIncrement := 1
  quoteIncrement := 1
  baseMinQty := 1
  baseMaxQty := none
  minNotional := none
  baseIncrement_pos := one_pos
  quoteIncrement_pos := one_pos
  baseMinQty_pos := one_pos
  symbol_eq := by decide

def tickingVenue : TimedVenue :=
  .binance ℕ tickingSettings (fun s => (s : Timestamp)) ticking_clocked

def tickingTransport : BinanceSpotTestnetTransport ℕ :=
  ⟨1, Dict.empty.set "BTCUSDT" btcSpec, Dict.empty, Dict.empty, none⟩

/-- The server's time is read, and the account after it. -/
theorem stamp_before_data :
    ¬∀ (v : TimedVenue) (t : v.State) (calls : List (TimedCall v)),
      ∀ p ∈ v.taken t calls, v.Fresh p := by
  intro h
  have hstale : (tickingVenue.taken tickingTransport [.serverTime, .snapshot]).any
      (fun p => decide (p.2.asOf < tickingVenue.now p.1)) = true := by
    decide +kernel
  obtain ⟨p, hp, hlate⟩ := List.any_eq_true.mp hstale
  have hfresh := (h tickingVenue tickingTransport _ p hp).1
  exact absurd hfresh (not_le.mpr (of_decide_eq_true hlate))

end AdvisorAI
