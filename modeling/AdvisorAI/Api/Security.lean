import AdvisorAI.Contracts.Core
import AdvisorAI.Lib.Dict
import Mathlib.Tactic.Linarith

/-!
# Signing in

The limiter keeps the failures of a key for the length of its window, and a key with too many of
them is refused. The store keeps the sessions of the console: a step-up token is issued to one of
them, and is consumed once, before it expires.

The texts that `token_urlsafe` draws are arguments of the operations that draw them.
-/

namespace AdvisorAI

open Lib
open List hiding after get
open Dict hiding get mk

/-! ## The limiter -/

structure LoginLimits where
  maxAttempts : ℕ := 5
  windowSeconds : ℚ := 300
  blockSeconds : ℚ := 900

structure LoginRateLimiter where
  failures : Dict String (List ℚ) := Dict.empty
  blockedUntil : Dict String ℚ := Dict.empty

/-- What comes of the attempts that are let through. -/
inductive LoginOutcome where
  | failed (recordedAt : ℚ)
  | succeeded
deriving DecidableEq

structure LoginAttempt where
  key : String
  time : ℚ
  outcome : LoginOutcome
deriving DecidableEq

namespace LoginRateLimiter

variable (limits : LoginLimits) (s : LoginRateLimiter) (key : String) (now : ℚ)

/-- The failures that the window still holds. -/
def recent (attempts : List ℚ) : List ℚ :=
  attempts.filter fun value => now - value < limits.windowSeconds

def prune : List ℚ × LoginRateLimiter :=
  let attempts := recent limits now (s.failures.getD key [])
  (attempts, { s with failures :=
    if attempts ≠ [] then s.failures.set key attempts else s.failures.erase key })

def allowed : Bool × LoginRateLimiter :=
  let until_ := s.blockedUntil.getD key 0
  if now < until_ then (false, s)
  else
    let s := if until_ ≠ 0 then { s with blockedUntil := s.blockedUntil.erase key } else s
    let pruned := prune limits s key now
    (decide (pruned.1.length < limits.maxAttempts), pruned.2)

def recordFailure : LoginRateLimiter :=
  let pruned := prune limits s key now
  let attempts := pruned.1 ++ [now]
  { failures := pruned.2.failures.set key attempts
    blockedUntil := if limits.maxAttempts ≤ attempts.length
      then s.blockedUntil.set key (now + limits.blockSeconds) else s.blockedUntil }

def reset : LoginRateLimiter :=
  { failures := s.failures.erase key, blockedUntil := s.blockedUntil.erase key }

/-- What an attempt leaves of the limiter, and the failure it records: the endpoint asks first,
and records a failure or resets the key when it was let through. -/
def attempt (a : LoginAttempt) : LoginRateLimiter × List ℚ :=
  match allowed limits s a.key a.time with
  | (false, s') => (s', [])
  | (true, s') =>
    match a.outcome with
    | .failed recordedAt => (recordFailure limits s' a.key recordedAt, [recordedAt])
    | .succeeded => (reset s' a.key, [])

/-- The failures that a sequence of attempts records for a key. -/
def recorded : LoginRateLimiter → List LoginAttempt → List ℚ
  | _, [] => []
  | s, a :: rest =>
    (if a.key = key then (attempt limits s a).2 else []) ++ recorded (attempt limits s a).1 rest

/-- The failures in the window that begins at a time. -/
def inWindow (start : ℚ) (failures : List ℚ) : List ℚ :=
  failures.filter fun t => start ≤ t ∧ t < start + limits.windowSeconds

end LoginRateLimiter

namespace LoginAttempt

def times (a : LoginAttempt) : List ℚ :=
  match a.outcome with
  | .failed recordedAt => [a.time, recordedAt]
  | .succeeded => [a.time]

/-- The times of a sequence of attempts do not decrease. -/
def Chronological (attempts : List LoginAttempt) : Prop :=
  (attempts.flatMap times).Pairwise (· ≤ ·)

instance (attempts : List LoginAttempt) : Decidable (Chronological attempts) :=
  inferInstanceAs (Decidable (List.Pairwise _ _))

end LoginAttempt

namespace LoginRateLimiter

variable {limits : LoginLimits} {s s' : LoginRateLimiter} {key : String} {now : ℚ} {later : ℚ}

theorem recent_recent (h : now ≤ later) (attempts : List ℚ) :
    recent limits later (recent limits now attempts) = recent limits later attempts := by
  unfold recent
  rw [filter_filter]
  refine filter_congr ?_
  intro t _
  rw [Bool.and_eq_left_iff_imp, decide_eq_true_eq, decide_eq_true_eq]
  intro hlater
  linarith

theorem recent_prune (s : LoginRateLimiter) (key other : String) (h : now ≤ later) :
    recent limits later ((prune limits s other now).2.failures.getD key [])
      = recent limits later (s.failures.getD key []) := by
  have hnone : recent limits now (s.failures.getD other []) = [] →
      recent limits later (s.failures.getD other []) = [] := by
    intro hempty
    rw [← recent_recent h, hempty]
    rfl
  unfold prune
  dsimp only
  by_cases hkey : key = other
  · subst hkey
    by_cases hempty : recent limits now (s.failures.getD key []) = []
    · rw [if_neg (not_not.mpr hempty), hnone hempty]
      unfold Dict.getD
      rw [get_erase, if_pos rfl]
      rfl
    · rw [if_pos hempty]
      show recent limits later (Option.getD (Dict.get _ key) []) = _
      rw [get_set_self]
      exact recent_recent h _
  · unfold Dict.getD
    split
    · rw [get_set_ne _ hkey]
    · rw [get_erase, if_neg hkey]

theorem recent_allowed (s : LoginRateLimiter) (key other : String) (h : now ≤ later) :
    recent limits later ((allowed limits s other now).2.failures.getD key [])
      = recent limits later (s.failures.getD key []) := by
  unfold allowed
  dsimp only
  split
  · rfl
  · rw [recent_prune _ _ _ h]
    split <;> rfl

theorem length_of_allowed (h : allowed limits s key now = (true, s')) (hlater : now ≤ later) :
    (recent limits later (s'.failures.getD key [])).length < limits.maxAttempts := by
  have hs' : s' = (allowed limits s key now).2 := by
    rw [h]
  unfold allowed at h
  dsimp only at h
  split at h
  · cases h
  · have hlength := of_decide_eq_true (congrArg Prod.fst h)
    rw [hs', recent_allowed s key key hlater, ← recent_recent hlater]
    refine lt_of_le_of_lt (length_filter_le _ _) ?_
    refine lt_of_le_of_lt (le_of_eq ?_) hlength
    unfold prune
    split <;> rfl

theorem length_recordFailure (s : LoginRateLimiter) (key other : String) (h : now ≤ later) :
    (recent limits later ((recordFailure limits s other now).failures.getD key [])).length
      = (recent limits later (s.failures.getD key [])).length
        + (if other = key then (recent limits later [now]).length else 0) := by
  unfold recordFailure
  by_cases hkey : other = key
  · subst hkey
    rw [if_pos rfl]
    show (recent limits later (Option.getD (Dict.get _ other) [])).length = _
    rw [get_set_self]
    show (recent limits later (recent limits now _ ++ [now])).length = _
    unfold recent
    rw [filter_append, length_append]
    exact congrArg (·.length + _) (recent_recent h _)
  · rw [if_neg hkey, add_zero]
    show (recent limits later (Option.getD (Dict.get _ key) [])).length = _
    rw [get_set_ne _ (Ne.symm hkey)]
    exact congrArg List.length (recent_prune s key other h)

/-- What is recorded since the key was reset: the limiter holds all of it that later windows do,
and no window holds too much. -/
structure Tracks (limits : LoginLimits) (s : LoginRateLimiter) (key : String) (clock : ℚ)
    (log : List ℚ) : Prop where
  held : ∀ later, clock ≤ later →
    (recent limits later log).length ≤ (recent limits later (s.failures.getD key [])).length
  windows : ∀ start, (inWindow limits start log).length ≤ limits.maxAttempts

variable {clock : ℚ} {log : List ℚ}

theorem Tracks.advance (h : Tracks limits s key clock log) (hclock : clock ≤ now)
    (hkeeps : ∀ later, now ≤ later → recent limits later (s'.failures.getD key [])
      = recent limits later (s.failures.getD key [])) : Tracks limits s' key now log where
  held := by
    intro later hlater
    rw [hkeeps later hlater]
    exact h.held later (hclock.trans hlater)
  windows := h.windows

theorem Tracks.record (h : Tracks limits s key clock log) (hclock : clock ≤ now)
    (hroom : (recent limits now (s.failures.getD key [])).length < limits.maxAttempts) :
    Tracks limits (recordFailure limits s key now) key now (log ++ [now]) where
  held := by
    intro later hlater
    rw [length_recordFailure s key key hlater, if_pos rfl]
    show (List.filter _ (log ++ [now])).length ≤ _
    rw [filter_append, length_append]
    exact Nat.add_le_add_right (h.held later (hclock.trans hlater)) _
  windows := by
    intro start
    unfold inWindow
    rw [filter_append, length_append]
    by_cases hin : start ≤ now ∧ now < start + limits.windowSeconds
    · -- What shares a window with the new failure is recent to it.
      have hsub : (log.filter fun t => decide (start ≤ t ∧ t < start + limits.windowSeconds)).Sublist
          (recent limits now log) := by
        refine monotone_filter_right log ?_
        intro t ht
        rw [decide_eq_true_eq] at ht ⊢
        linarith [ht.1, hin.2]
      have hone : ([now].filter fun t => decide (start ≤ t ∧ t < start + limits.windowSeconds)).length
          ≤ 1 := length_filter_le _ _
      have hlength := hsub.length_le
      have hheld := h.held now hclock
      omega
    · have hout : ([now].filter fun t => decide (start ≤ t ∧ t < start + limits.windowSeconds))
          = [] := by
        rw [filter_eq_nil_iff]
        intro t ht
        rw [mem_singleton.mp ht, decide_eq_true_eq]
        exact hin
      rw [hout]
      exact h.windows start

/-- **Step lemma.** An attempt that does not reset the key. -/
theorem Tracks.attempt (h : Tracks limits s key clock log) {a : LoginAttempt}
    (hreset : a.key = key → a.outcome ≠ .succeeded) (hclock : ∀ t ∈ a.times, clock ≤ t)
    (hordered : a.times.Pairwise (· ≤ ·)) :
    ∃ last ∈ a.times, Tracks limits (LoginRateLimiter.attempt limits s a).1 key last
      (log ++ if a.key = key then (LoginRateLimiter.attempt limits s a).2 else []) := by
  unfold LoginAttempt.times at hclock hordered ⊢
  unfold LoginRateLimiter.attempt
  cases hallowed : allowed limits s a.key a.time with
  | mk ok s' =>
    have hadvanced : clock ≤ a.time → Tracks limits s' key a.time log := by
      intro htime
      have hs' : s' = (allowed limits s a.key a.time).2 := by
        rw [hallowed]
      rw [hs']
      exact h.advance htime fun later => recent_allowed s key a.key
    cases houtcome : a.outcome with
    | succeeded =>
      rw [houtcome] at hclock
      have hother : key ≠ a.key := fun hkey => hreset hkey.symm houtcome
      refine ⟨a.time, mem_singleton_self _, ?_⟩
      rw [if_neg hother.symm, append_nil]
      have htime := hadvanced (hclock _ (mem_singleton_self _))
      cases ok with
      | false => exact htime
      | true =>
        refine htime.advance le_rfl ?_
        intro later _
        show recent limits later (Option.getD (Dict.get (Dict.erase _ a.key) key) []) = _
        rw [get_erase, if_neg hother]
        rfl
    | failed recordedAt =>
      rw [houtcome] at hclock hordered
      have hle : a.time ≤ recordedAt :=
        (pairwise_cons.mp hordered).1 _ (mem_singleton_self _)
      refine ⟨recordedAt, mem_cons_of_mem _ (mem_singleton_self _), ?_⟩
      have htime := hadvanced (hclock _ mem_cons_self)
      cases ok with
      | false =>
        show Tracks limits s' key recordedAt (log ++ if a.key = key then [] else [])
        rw [ite_self, append_nil]
        exact htime.advance hle fun _ _ => rfl
      | true =>
        by_cases hkey : a.key = key
        · rw [if_pos hkey]
          subst hkey
          exact htime.record hle (length_of_allowed hallowed hle)
        · rw [if_neg hkey, append_nil]
          refine htime.advance hle ?_
          intro later hlater
          show recent limits later (Option.getD (Dict.get (Dict.set _ a.key _) key) []) = _
          rw [get_set_ne _ (Ne.symm hkey)]
          exact recent_prune s' key a.key hlater

/-- **Run lemma.** Whatever the limiter holds at first, attempts that do not reset the key record
no more failures in a window than are allowed. -/
theorem windows_bounded {attempts : List LoginAttempt}
    (hordered : LoginAttempt.Chronological attempts)
    (hreset : ∀ a ∈ attempts, a.key = key → a.outcome ≠ .succeeded) (s : LoginRateLimiter)
    (start : ℚ) :
    (inWindow limits start (recorded limits key s attempts)).length ≤ limits.maxAttempts := by
  unfold LoginAttempt.Chronological at hordered
  have hfirst : ∃ clock, ∀ t ∈ attempts.flatMap LoginAttempt.times, clock ≤ t := by
    cases htimes : attempts.flatMap LoginAttempt.times with
    | nil => exact ⟨0, fun t ht => absurd ht not_mem_nil⟩
    | cons first rest =>
      rw [htimes, pairwise_cons] at hordered
      exact ⟨first, forall_mem_cons.mpr ⟨le_rfl, hordered.1⟩⟩
  obtain ⟨clock, hclock⟩ := hfirst
  have hrun : ∀ log, Tracks limits s key clock log →
      (inWindow limits start (log ++ recorded limits key s attempts)).length
        ≤ limits.maxAttempts := by
    induction attempts generalizing s clock with
    | nil =>
      intro log h
      show (inWindow limits start (log ++ [])).length ≤ _
      rw [append_nil]
      exact h.windows start
    | cons a rest ih =>
      intro log h
      rw [flatMap_cons] at hordered hclock
      obtain ⟨hfirst, hrest, hbefore⟩ := pairwise_append.mp hordered
      obtain ⟨last, hlast, hnext⟩ := h.attempt (hreset a mem_cons_self)
        (fun t ht => hclock t (mem_append_left _ ht)) hfirst
      have hafter := ih hrest (fun b hb => hreset b (mem_cons_of_mem _ hb)) _ last
        (hbefore last hlast) _ hnext
      rwa [append_assoc] at hafter
  exact hrun [] ⟨fun _ _ => Nat.zero_le _, fun _ => Nat.zero_le _⟩

end LoginRateLimiter

/-! ## The sessions -/

structure AuthConfiguration where
  sessionTtlSeconds : ℤ := 28800
  idleTtlSeconds : ℤ := 1800
  stepUpTtlSeconds : ℤ := 300

structure Session where
  subject : String
  authenticatedAt : Timestamp
  csrfToken : String
  expiresAt : Timestamp
  lastSeenAt : Timestamp
  stepUpToken : Option String := none
  stepUpExpiresAt : Option Timestamp := none

abbrev SessionStore := Dict String Session

inductive SessionOp where
  | create (subject sessionId csrfToken : String) (now : Timestamp)
  | get (sessionId : Option String) (now : Timestamp)
  | revoke (sessionId : Option String)
  | issueStepUp (sessionId : Option String) (token : String) (now : Timestamp)
  | consumeStepUp (sessionId token : Option String) (now : Timestamp)
  | csrfMatches (sessionId token : Option String)
deriving DecidableEq

namespace SessionStore

variable (config : AuthConfiguration) (store : SessionStore) (now : Timestamp)

def seconds (n : ℤ) : Timestamp := n * 1000000

/-- `hmac.compare_digest` of texts. -/
def compareDigest (a b : String) : Except PyError Bool :=
  if a.toList.all (·.val < 128) && b.toList.all (·.val < 128) then .ok (decide (a = b))
  else .error ⟨"TypeError", "comparing strings with non-ASCII characters is not supported"⟩

def create (subject sessionId csrfToken : String) : SessionStore :=
  if subject = "" then store
  else store.set sessionId
    { subject
      authenticatedAt := now
      csrfToken
      expiresAt := now + seconds config.sessionTtlSeconds
      lastSeenAt := now }

/-- The session under an id, unless it has expired or been idle for too long, and the store in
which it was seen or dropped. -/
def get (sessionId : Option String) : Option (String × Session) × SessionStore :=
  match sessionId with
  | none => (none, store)
  | some id =>
    if id = "" then (none, store)
    else
      match Dict.get store id with
      | none => (none, store)
      | some session =>
        if session.expiresAt ≤ now ∨ seconds config.idleTtlSeconds ≤ now - session.lastSeenAt then
          (none, store.erase id)
        else
          let session := { session with lastSeenAt := now }
          (some (id, session), store.set id session)

def revoke (sessionId : Option String) : SessionStore :=
  match sessionId with
  | none => store
  | some id => if id = "" then store else store.erase id

/-- Issue a short-lived, session-bound, one-time control token. -/
def issueStepUp (sessionId : Option String) (token : String) :
    Option (String × Timestamp) × SessionStore :=
  match get config store now sessionId with
  | (none, store) => (none, store)
  | (some (id, session), store) =>
    let expiresAt := now + seconds config.stepUpTtlSeconds
    (some (token, expiresAt), store.set id
      { session with stepUpToken := some token, stepUpExpiresAt := some expiresAt })

/-- Consume a valid token exactly once and reject stale/session-mismatched values. -/
def consumeStepUp (sessionId token : Option String) : Except PyError Bool × SessionStore :=
  match get config store now sessionId with
  | (none, store) => (.ok false, store)
  | (some (id, session), store) =>
    match token, session.stepUpToken, session.stepUpExpiresAt with
    | some token, some stepUpToken, some expiresAt =>
      if token = "" ∨ stepUpToken = "" ∨ expiresAt ≤ now then (.ok false, store)
      else
        match compareDigest stepUpToken token with
        | .ok true =>
          (.ok true, store.set id { session with stepUpToken := none, stepUpExpiresAt := none })
        | refused => (refused, store)
    | _, _, _ => (.ok false, store)

def csrfMatches (sessionId token : Option String) : Except PyError Bool :=
  match Dict.get store (sessionId.getD ""), token with
  | some session, some token =>
    if token = "" then .ok false else compareDigest session.csrfToken token
  | _, _ => .ok false

def step : SessionOp → SessionStore
  | .create subject sessionId csrfToken now => create config store now subject sessionId csrfToken
  | .get sessionId now => (get config store now sessionId).2
  | .revoke sessionId => revoke store sessionId
  | .issueStepUp sessionId token now => (issueStepUp config store now sessionId token).2
  | .consumeStepUp sessionId token now => (consumeStepUp config store now sessionId token).2
  | .csrfMatches _ _ => store

/-- The store after a sequence of operations. -/
def run (ops : List SessionOp) : SessionStore := ops.foldl (step config) Dict.empty

def issued : SessionOp → Option String
  | .issueStepUp _ token _ => some token
  | _ => none

/-- `consume_step_up` returns True in a store. -/
def Consumes (sessionId : Option String) (token : String) : Prop :=
  (consumeStepUp config store now sessionId (some token)).1 = .ok true

instance (sessionId : Option String) (token : String) :
    Decidable (Consumes config store now sessionId token) :=
  inferInstanceAs (Decidable (_ = _))

/-- A session can consume a token before a time. -/
def Holds (id token : String) (expiresAt : Timestamp) : Prop :=
  ∃ session, Dict.get store id = some session ∧ session.stepUpToken = some token ∧
    session.stepUpExpiresAt = some expiresAt

variable {config store now} {id token : String} {expiresAt : Timestamp} {sessionId : Option String}

theorem get_some {session : Session} {store' : SessionStore}
    (h : get config store now sessionId = (some (id, session), store')) :
    sessionId = some id ∧ Dict.get store' id = some session := by
  unfold get at h
  split at h
  · cases h
  · split at h
    · cases h
    · split at h
      · cases h
      · split at h
        · cases h
        · cases h
          exact ⟨rfl, get_set_self _ _ _⟩

theorem Holds.of_set {key : String} {session : Session}
    (h : Holds (store.set key session) id token expiresAt) :
    key = id ∧ session.stepUpToken = some token ∧ session.stepUpExpiresAt = some expiresAt ∨
      Holds store id token expiresAt := by
  obtain ⟨holder, hget, hheld⟩ := h
  rw [get_set] at hget
  split at hget
  · next hid =>
    cases hget
    exact .inl ⟨hid.symm, hheld⟩
  · exact .inr ⟨holder, hget, hheld⟩

theorem Holds.of_erase {key : String} (h : Holds (store.erase key) id token expiresAt) :
    Holds store id token expiresAt := by
  obtain ⟨holder, hget, hheld⟩ := h
  rw [get_erase] at hget
  split at hget
  · cases hget
  · exact ⟨holder, hget, hheld⟩

theorem holds_get (h : Holds (get config store now sessionId).2 id token expiresAt) :
    Holds store id token expiresAt := by
  unfold get at h
  split at h
  · exact h
  · split at h
    · exact h
    · split at h
      · exact h
      · next other _ session hsession =>
        split at h
        · exact h.of_erase
        · rcases h.of_set with ⟨rfl, hheld⟩ | h
          · exact ⟨session, hsession, hheld⟩
          · exact h

/-- **Step lemma.** A token is held after an operation that was held before, or that was issued. -/
theorem holds_step {op : SessionOp} (h : Holds (step config store op) id token expiresAt) :
    Holds store id token expiresAt ∨ ∃ now, op = .issueStepUp (some id) token now ∧
      expiresAt = now + seconds config.stepUpTtlSeconds := by
  cases op with
  | create subject sessionId csrfToken now =>
    left
    change Holds (create config store now subject sessionId csrfToken) id token expiresAt at h
    unfold create at h
    split at h
    · exact h
    · exact h.of_set.resolve_left fun hnew => nomatch hnew.2.1
  | get sessionId now => exact .inl (holds_get h)
  | revoke sessionId =>
    left
    change Holds (revoke store sessionId) id token expiresAt at h
    unfold revoke at h
    split at h
    · exact h
    · split at h
      · exact h
      · exact h.of_erase
  | issueStepUp sessionId drawn now =>
    change Holds (issueStepUp config store now sessionId drawn).2 id token expiresAt at h
    have hlookup : Holds (get config store now sessionId).2 id token expiresAt →
        Holds store id token expiresAt := holds_get
    unfold issueStepUp at h
    rcases hget : get config store now sessionId with ⟨_ | found, store'⟩
    · rw [hget] at h hlookup
      exact .inl (hlookup h)
    · rw [hget] at h hlookup
      rcases h.of_set with ⟨hid, htoken, hexpires⟩ | h
      · cases htoken
        cases hexpires
        right
        rw [(get_some hget).1, hid]
        exact ⟨now, rfl, rfl⟩
      · exact .inl (hlookup h)
  | consumeStepUp sessionId offered now =>
    left
    change Holds (consumeStepUp config store now sessionId offered).2 id token expiresAt at h
    have hlookup : Holds (get config store now sessionId).2 id token expiresAt →
        Holds store id token expiresAt := holds_get
    unfold consumeStepUp at h
    rcases hget : get config store now sessionId with ⟨_ | found, store'⟩
    · rw [hget] at h hlookup
      exact hlookup h
    · rw [hget] at h hlookup
      dsimp only at h
      split at h
      · split at h
        · exact hlookup h
        · split at h
          · exact hlookup (h.of_set.resolve_left fun hnew => nomatch hnew.2.1)
          · exact hlookup h
      · exact hlookup h
  | csrfMatches sessionId offered => exact .inl h

/-- **A token is consumed** by the session that holds it, before it expires, and is held by it no
longer. -/
theorem consumes_held (h : Consumes config store now sessionId token) :
    ∃ id expiresAt, sessionId = some id ∧ Holds store id token expiresAt ∧ now < expiresAt ∧
      ∀ later, ¬Holds (step config store (.consumeStepUp sessionId (some token) now)) id token
        later := by
  have hlookup : ∀ id expiresAt, Holds (get config store now sessionId).2 id token expiresAt →
      Holds store id token expiresAt := fun _ _ => holds_get
  unfold Consumes at h
  show ∃ id expiresAt, _ ∧ _ ∧ _ ∧ ∀ later,
    ¬Holds (consumeStepUp config store now sessionId (some token)).2 id token later
  unfold consumeStepUp at h ⊢
  cases hget : get config store now sessionId with
  | mk found store' =>
    rw [hget] at h hlookup
    cases found with
    | none => cases h
    | some found =>
      obtain ⟨id, session⟩ := found
      obtain ⟨hid, hsession⟩ := get_some hget
      dsimp only at h ⊢
      split at h
      · next offered stepUpToken expiresAt hoffered htoken hexpires =>
        cases hoffered
        by_cases hguard : token = "" ∨ stepUpToken = "" ∨ expiresAt ≤ now
        · rw [if_pos hguard] at h
          cases h
        · rw [if_neg hguard] at h
          rw [not_or, not_or, not_le] at hguard
          have hcompare : compareDigest stepUpToken token = .ok true := by
            cases hsame : compareDigest stepUpToken token with
            | error e =>
              rw [hsame] at h
              cases h
            | ok same =>
              rw [hsame] at h
              cases same with
              | false => cases h
              | true => rfl
          have hsame : stepUpToken = token := by
            unfold compareDigest at hcompare
            split at hcompare
            · exact of_decide_eq_true (Except.ok.inj hcompare)
            · cases hcompare
          refine ⟨id, expiresAt, hid, hlookup id expiresAt ⟨session, hsession,
            htoken.trans (congrArg some hsame), hexpires⟩, hguard.2.2, ?_⟩
          intro later hheld
          rw [if_neg (by rw [not_or, not_or, not_le]; exact hguard), hcompare] at hheld
          obtain ⟨holder, hholder, hholderToken, -⟩ := hheld
          rw [get_set_self] at hholder
          cases hholder
          cases hholderToken
      · cases h

variable {ops : List SessionOp}

theorem issued_of_holds (h : Holds (run config ops) id token expiresAt) :
    ∃ now, .issueStepUp (some id) token now ∈ ops ∧
      expiresAt = now + seconds config.stepUpTtlSeconds := by
  induction ops using List.reverseRecOn with
  | nil =>
    obtain ⟨session, hget, -⟩ := h
    cases hget
  | append_singleton ops op ih =>
    unfold run at h ih
    rw [foldl_append] at h
    rcases holds_step h with h | ⟨now, rfl, hexpires⟩
    · obtain ⟨now, hmem, hexpires⟩ := ih h
      exact ⟨now, mem_append_left _ hmem, hexpires⟩
    · exact ⟨now, mem_append_right _ (mem_singleton_self _), hexpires⟩

theorem eq_of_issued (hnodup : (ops.filterMap issued).Nodup) {a b : SessionOp} (ha : a ∈ ops)
    (hb : b ∈ ops) (hia : issued a = some token) (hib : issued b = some token) : a = b := by
  by_contra hne
  have : Std.Symm fun a b : SessionOp =>
      ∀ u, issued a = some u → ∀ v, issued b = some v → u ≠ v :=
    ⟨fun _ _ h u hu v hv heq => h v hv u hu heq.symm⟩
  exact (pairwise_filterMap.mp hnodup).forall ha hb hne token hia token hib rfl

theorem not_holds_foldl {store : SessionStore} (hissued : ∀ op ∈ ops, issued op ≠ some token)
    (h : ∀ id expiresAt, ¬Holds store id token expiresAt) :
    ∀ id expiresAt, ¬Holds (ops.foldl (step config) store) id token expiresAt := by
  induction ops generalizing store with
  | nil => exact h
  | cons op rest ih =>
    refine ih (fun o ho => hissued o (mem_cons_of_mem _ ho)) ?_
    intro id expiresAt hheld
    rcases holds_step hheld with hheld | ⟨now, rfl, -⟩
    · exact h id expiresAt hheld
    · exact hissued _ mem_cons_self rfl

/-! ## Where a session comes from -/

/-- What of a session is fixed when it is created. -/
def identity (session : Session) : String × String × Timestamp × Timestamp :=
  (session.subject, session.csrfToken, session.authenticatedAt, session.expiresAt)

/-- The store has a session of this identity under an id. -/
def Has (store : SessionStore) (id : String) (session : Session) : Prop :=
  ∃ old, Dict.get store id = some old ∧ identity old = identity session

variable {session : Session}

theorem has_get (h : Has (get config store now sessionId).2 id session) :
    Has store id session := by
  unfold get at h
  obtain ⟨old, hget, hold⟩ := h
  grind [Has, identity, get_set, get_erase]

/-- **Step lemma.** A session was there before and was not revoked, or it was created. -/
theorem has_step {op : SessionOp} (hid : id ≠ "") (h : Has (step config store op) id session) :
    Has store id session ∧ op ≠ .revoke (some id) ∨ ∃ subject csrfToken now, subject ≠ "" ∧
      op = .create subject id csrfToken now ∧ identity session
        = (subject, csrfToken, now, now + seconds config.sessionTtlSeconds) := by
  have hfound := @get_some config store
  cases op with
  | create subject key csrfToken now =>
    obtain ⟨old, hget, hold⟩ := h
    grind [step, create, Has, identity, get_set]
  | get key now => exact .inl ⟨has_get h, by simp⟩
  | revoke key =>
    obtain ⟨old, hget, hold⟩ := h
    cases key <;> grind [step, revoke, Has, get_erase]
  | issueStepUp key drawn now =>
    refine .inl ⟨@has_get config store now id key session ?_, by simp⟩
    obtain ⟨old, hget, hold⟩ := h
    grind [step, issueStepUp, Has, identity, get_set]
  | consumeStepUp key offered now =>
    refine .inl ⟨@has_get config store now id key session ?_, by simp⟩
    obtain ⟨old, hget, hold⟩ := h
    grind [step, consumeStepUp, Has, identity, get_set]
  | csrfMatches key offered => exact .inl ⟨h, by simp⟩

end SessionStore

/-! ## Both -/

open LoginRateLimiter SessionStore in
/-- **What sign-in keeps.** Without a success of the key in between, which clears its record, no
window holds more failures than are allowed. A step-up token is consumed once, by the session that
it was issued to, before it expires. -/
theorem sign_in_bounded (limits : LoginLimits) (config : AuthConfiguration) :
    (∀ (s : LoginRateLimiter) (attempts : List LoginAttempt) (key : String) (start : ℚ),
      LoginAttempt.Chronological attempts →
      (∀ a ∈ attempts, a.key = key → a.outcome ≠ .succeeded) →
      (inWindow limits start (recorded limits key s attempts)).length ≤ limits.maxAttempts) ∧
    ∀ (before after : List SessionOp) (sessionId : Option String) (token : String)
      (now : Timestamp),
      ((before ++ .consumeStepUp sessionId (some token) now :: after).filterMap issued).Nodup →
      Consumes config (run config before) now sessionId token →
      (∃ id issuedAt, sessionId = some id ∧ .issueStepUp (some id) token issuedAt ∈ before ∧
        now < issuedAt + seconds config.stepUpTtlSeconds) ∧
      ∀ middle rest again later,
        after = middle ++ .consumeStepUp again (some token) later :: rest →
        ¬Consumes config (run config (before ++ .consumeStepUp sessionId (some token) now :: middle))
          later again token := by
  refine ⟨fun s attempts key start hordered hreset => windows_bounded hordered hreset s start, ?_⟩
  intro before after sessionId token now hnodup hconsumes
  obtain ⟨id, expiresAt, rfl, hheld, hbefore, hdropped⟩ := consumes_held hconsumes
  obtain ⟨issuedAt, hmem, rfl⟩ := issued_of_holds hheld
  refine ⟨⟨id, issuedAt, rfl, hmem, hbefore⟩, ?_⟩
  rintro middle rest again later rfl hagain
  rw [filterMap_append, nodup_append] at hnodup
  obtain ⟨hfirst, -, hapart⟩ := hnodup
  have hissued : token ∈ before.filterMap issued := mem_filterMap.mpr ⟨_, hmem, rfl⟩
  -- The token was issued to this session only, which holds it no longer.
  have hnobody : ∀ other expires, ¬Holds (step config (run config before)
      (.consumeStepUp (some id) (some token) now)) other token expires := by
    intro other expires hother
    rcases holds_step hother with hheld' | ⟨_, hop, -⟩
    · obtain ⟨_, hmem', -⟩ := issued_of_holds hheld'
      have hsame := eq_of_issued hfirst hmem hmem' rfl rfl
      cases hsame
      exact hdropped expires hother
    · cases hop
  obtain ⟨_, _, -, hlater, -⟩ := consumes_held hagain
  unfold run at hlater
  rw [foldl_append, foldl_cons] at hlater
  refine not_holds_foldl ?_ hnobody _ _ hlater
  intro op hop hsome
  refine hapart token hissued token ?_ rfl
  exact mem_filterMap.mpr ⟨op, mem_cons_of_mem _ (mem_append_left _ hop), hsome⟩

/-- A run of attempts of one key, a second apart. -/
def attemptsOf (outcomes : List Bool) : List LoginAttempt :=
  outcomes.zipIdx.map fun (failed, n) =>
    ⟨"10.0.0.7", n, if failed then .failed n else .succeeded⟩

/-- Six failures, of which the last is not recorded, and a token that is consumed once. -/
theorem sign_in_bounded_six :
    (LoginRateLimiter.inWindow {} 0 (LoginRateLimiter.recorded {} "10.0.0.7" {}
      (attemptsOf [true, true, true, true, true, true]))).length ≤ 5 ∧
    ¬SessionStore.Consumes {} (SessionStore.run {} [.create "owner" "s-1" "c-1" 0,
        .issueStepUp (some "s-1") "t-1" 1, .consumeStepUp (some "s-1") (some "t-1") 2])
      3 (some "s-1") "t-1" :=
  ⟨(sign_in_bounded {} {}).1 {} _ "10.0.0.7" 0 (by decide +kernel) (by decide +kernel),
    ((sign_in_bounded {} {}).2 [.create "owner" "s-1" "c-1" 0, .issueStepUp (some "s-1") "t-1" 1]
      [.consumeStepUp (some "s-1") (some "t-1") 3] (some "s-1") "t-1" 2 (by decide +kernel)
      (by decide +kernel)).2 [] [] (some "s-1") 3 rfl⟩

/-- A success between failures clears the record: seven failures are recorded within seconds. -/
theorem success_clears_record : ¬∀ (limits : LoginLimits) (attempts : List LoginAttempt)
    (key : String) (start : ℚ), LoginAttempt.Chronological attempts →
    (LoginRateLimiter.inWindow limits start
      (LoginRateLimiter.recorded limits key {} attempts)).length ≤ limits.maxAttempts := by
  intro h
  have hseven := h {} (attemptsOf [true, true, true, true, false, true, true, true]) "10.0.0.7" 0
    (by decide +kernel)
  revert hseven
  decide +kernel

end AdvisorAI
