import AdvisorAI.Collectors.MarketRecovery
import AdvisorAI.Lib.Local

/-!
# What a recovered book is

A recovery that passes has folded the snapshot with the updates that were not
stale, in order and without a gap, and no book on the way was crossed. Updates that
are already covered make no difference, and one bad update makes the recovery fail.
A stale update is not looked into: its levels may be anything.
-/

namespace AdvisorAI

open Lib Sequenced

section Recovery

variable (o : TextOutside) (symbol : String)

/-- The recovery as a receiver of numbered updates. -/
def depthFeed : Feed DepthBook DepthUpdate PyError where
  range := depthEvent o symbol
  apply := fun book u => book.applyUpdate o u
  gap := sequenceGap

/-- The loop does what the receiver does. -/
theorem recoverUpdates_run (l : List DepthUpdate) (p : RecoveryProgress) :
    match (depthFeed o symbol).run (p.expected - 1, p.book) l with
    | .error e => ∃ p', recoverUpdates o symbol p l = (some e, p')
    | .ok (_, book) => ∃ p', recoverUpdates o symbol p l = (none, p') ∧ p'.book = book ∧
        (p'.firstApplied = none ↔
          p.firstApplied = none ∧ (depthFeed o symbol).fresh (p.expected - 1) l = []) := by
  induction l generalizing p with
  | nil => exact ⟨p, rfl, rfl, by simp [Feed.fresh]⟩
  | cons u rest ih =>
    unfold Feed.run Feed.step recoverUpdates recoverUpdate Feed.fresh Feed.advance
    cases hevent : depthEvent o symbol u with
    | error e =>
      have hrange : (depthFeed o symbol).range u = .error e := hevent
      rw [hrange]
      exact ⟨_, rfl⟩
    | ok ends =>
      obtain ⟨first, last⟩ := ends
      have hrange : (depthFeed o symbol).range u = .ok (first, last) := hevent
      rw [hrange]
      dsimp only
      by_cases hstale : last < p.expected
      · rw [if_pos (by omega : last ≤ p.expected - 1), if_pos hstale,
          if_neg (by omega : ¬p.expected - 1 < max (p.expected - 1) last)]
        exact ih { p with
          received := p.received + 1
          repeated := p.repeated + 1
          discarded := p.discarded + 1 }
      · rw [if_neg (by omega : ¬last ≤ p.expected - 1), if_neg hstale]
        by_cases hgap : p.expected < first
        · rw [if_pos (by omega : p.expected - 1 + 1 < first), if_pos hgap]
          exact ⟨_, rfl⟩
        · rw [if_neg (by omega : ¬p.expected - 1 + 1 < first), if_neg hgap,
            if_pos (by omega : p.expected - 1 < max (p.expected - 1) last)]
          cases happly : p.book.applyUpdate o u with
          | error e =>
            have hfeed : (depthFeed o symbol).apply p.book u = .error e := happly
            rw [hfeed]
            exact ⟨_, rfl⟩
          | ok book =>
            have hfeed : (depthFeed o symbol).apply p.book u = .ok book := happly
            rw [hfeed]
            have hrest := ih { p with
              received := p.received + 1
              book := book
              firstApplied := p.firstApplied.or (some first)
              lastApplied := some last
              expected := last + 1 }
            dsimp only at hrest ⊢
            rw [show last + 1 - 1 = last by omega] at hrest
            cases hrun : (depthFeed o symbol).run (last, book) rest with
            | error e =>
              rw [hrun] at hrest
              exact hrest
            | ok r =>
              rw [hrun] at hrest
              obtain ⟨p', hloop, hbook, hfirst⟩ := hrest
              refine ⟨p', hloop, hbook, ?_⟩
              rw [hfirst]
              -- an applied update synchronizes for good
              cases p.firstApplied <;> simp

/-- The book that a snapshot and its updates come to. -/
def Reconstructs (snapshot : DepthSnapshot) (updates : List DepthUpdate) (book : DepthBook) :
    Prop :=
  ∃ start n, DepthBook.fromSnapshot o snapshot = .ok start ∧
    (depthFeed o symbol).run (start.lastUpdateId, start) updates = .ok (n, book) ∧
    (depthFeed o symbol).fresh start.lastUpdateId updates ≠ []

variable {o symbol} {δ : Type} {sha256 : List Char → δ} {snapshot : DepthSnapshot}
  {updates : List DepthUpdate} {reacquired : Bool} {r : SequenceRecoveryResult δ}

theorem Reconstructs.unique {a b : DepthBook} (ha : Reconstructs o symbol snapshot updates a)
    (hb : Reconstructs o symbol snapshot updates b) : a = b := by
  obtain ⟨start, n, hstart, hrun, -⟩ := ha
  obtain ⟨start', n', hstart', hrun', -⟩ := hb
  rw [hstart] at hstart'
  cases hstart'
  rw [hrun] at hrun'
  cases hrun'
  rfl

/-- **A recovery passes or fails closed.** It passes with the digest of the book its
snapshot and updates come to, and without one there is no digest. -/
theorem recover_spec (h : recoverBinanceDepth o symbol sha256 snapshot updates reacquired = .ok r) :
    (∃ book, Reconstructs o symbol snapshot updates book ∧ r.state = .pass ∧
      r.reconstructedBookSha256 = some (book.digest sha256)) ∨
    ((∀ book, ¬Reconstructs o symbol snapshot updates book) ∧ r.state = .failedClosed ∧
      r.reconstructedBookSha256 = none) := by
  unfold recoverBinanceDepth at h
  split at h
  · cases h
  · cases hstart : DepthBook.fromSnapshot o snapshot with
    | error e =>
      rw [hstart] at h
      cases h
      right
      refine ⟨?_, rfl, rfl⟩
      rintro book ⟨start, n, hstart', -⟩
      rw [hstart] at hstart'
      cases hstart'
    | ok start =>
      rw [hstart] at h
      dsimp only at h
      have hloop := recoverUpdates_run o symbol updates (.start start)
      have hid : (RecoveryProgress.start start).expected - 1 = start.lastUpdateId := by
        show start.lastUpdateId + 1 - 1 = start.lastUpdateId
        omega
      rw [hid] at hloop
      change match (depthFeed o symbol).run (start.lastUpdateId, start) updates with
        | .error e => _
        | .ok (_, book) => _ at hloop
      cases hrun : (depthFeed o symbol).run (start.lastUpdateId, start) updates with
      | error e =>
        rw [hrun] at hloop
        obtain ⟨p, hp⟩ := hloop
        rw [hp] at h
        cases h
        right
        refine ⟨?_, rfl, rfl⟩
        rintro book ⟨start', n, hstart', hrun', -⟩
        rw [hstart] at hstart'
        cases hstart'
        rw [hrun] at hrun'
        cases hrun'
      | ok ends =>
        obtain ⟨n, book⟩ := ends
        rw [hrun] at hloop
        obtain ⟨p, hp, hbook, hfirst⟩ := hloop
        rw [hp] at h
        cases h
        by_cases hsync : p.firstApplied = none
        · right
          have herror : p.unsynchronized ≠ none := by
            unfold RecoveryProgress.unsynchronized
            rw [if_pos hsync]
            exact Option.some_ne_none _
          have hisNone := Option.isNone_eq_false_iff.mpr (Option.isSome_iff_ne_none.mpr herror)
          unfold RecoveryProgress.result
          rw [hisNone]
          refine ⟨?_, rfl, rfl⟩
          rintro book' ⟨start', n', hstart', -, hfresh⟩
          rw [hstart] at hstart'
          cases hstart'
          exact hfresh (hfirst.mp hsync).2
        · left
          have herror : p.unsynchronized = none := by
            unfold RecoveryProgress.unsynchronized
            rw [if_neg hsync]
          rw [herror]
          refine ⟨book, ⟨start, n, hstart, hrun, ?_⟩, rfl, ?_⟩
          · intro hfresh
            exact hsync (hfirst.mpr ⟨rfl, hfresh⟩)
          · rw [← hbook]
            rfl

end Recovery

/-! ## Crossed books and malformed updates -/

def DepthBook.Crossed (book : DepthBook) : Prop :=
  ∃ bid ∈ book.bids.levels.keys, ∃ ask ∈ book.asks.levels.keys, ask ≤ bid

theorem not_crossed_of_validate {book : DepthBook} (h : book.validate = .ok ()) :
    ¬book.Crossed := by
  unfold DepthBook.validate at h
  rintro ⟨bid, hbid, ask, hask, hle⟩
  cases hmax : book.bids.levels.keys.max? with
  | none =>
    rw [List.max?_eq_none_iff] at hmax
    rw [hmax] at hbid
    cases hbid
  | some best =>
    rw [hmax] at h
    cases hmin : book.asks.levels.keys.min? with
    | none =>
      rw [List.min?_eq_none_iff] at hmin
      rw [hmin] at hask
      cases hask
    | some lowest =>
      rw [hmin] at h
      have hbest := (List.max?_eq_some_iff.mp hmax).2 bid hbid
      have hlowest := (List.min?_eq_some_iff.mp hmin).2 ask hask
      dsimp only at h
      rw [if_pos (le_trans hlowest (le_trans hle hbest))] at h
      cases h

def MalformedLevels (o : TextOutside) (label : String) (raw : RawLevels) : Prop :=
  raw = none ∨ ∃ levels ∈ raw, ∃ level ∈ levels, ∃ e, readLevel o label level = .error e

/-- An update with levels that cannot be read. -/
def DepthUpdate.Malformed (o : TextOutside) (u : DepthUpdate) : Prop :=
  MalformedLevels o "update bids" u.bids ∨ MalformedLevels o "update asks" u.asks

section Applying

variable {o : TextOutside} {label : String} {side side' : BookSide}

theorem applyLevels_malformed {raw : RawLevels} (h : MalformedLevels o label raw) :
    applyLevels o label true side raw ≠ .ok side' := by
  rcases h with rfl | ⟨levels, hlevels, level, hlevel, e, hread⟩
  · intro hok
    cases hok
  · rw [Option.mem_def] at hlevels
    subst hlevels
    show levels.foldlM (applyLevel o label true) side ≠ .ok side'
    induction levels generalizing side with
    | nil => cases hlevel
    | cons first rest ih =>
      rw [List.foldlM_cons]
      intro hok
      obtain ⟨between, hfirst, hrest⟩ := ok_of_bind_ok hok
      rcases List.mem_cons.mp hlevel with rfl | hlater
      · unfold applyLevel at hfirst
        rw [hread] at hfirst
        cases hfirst
      · exact ih hlater hrest

theorem applyUpdate_malformed {u : DepthUpdate} (h : u.Malformed o) (book next : DepthBook) :
    book.applyUpdate o u ≠ .ok next := by
  intro hok
  obtain ⟨bids, hbids, hok⟩ := ok_of_bind_ok hok
  obtain ⟨asks, hasks, -⟩ := ok_of_bind_ok hok
  rcases h with hmalformed | hmalformed
  · exact applyLevels_malformed hmalformed hbids
  · exact applyLevels_malformed hmalformed hasks

theorem applyUpdate_validated {u : DepthUpdate} {book next : DepthBook}
    (h : book.applyUpdate o u = .ok next) : ¬next.Crossed := by
  obtain ⟨bids, -, h⟩ := ok_of_bind_ok h
  obtain ⟨asks, -, h⟩ := ok_of_bind_ok h
  obtain ⟨last, -, h⟩ := ok_of_bind_ok h
  obtain ⟨⟨⟩, hvalid, h⟩ := ok_of_bind_ok h
  cases h
  exact not_crossed_of_validate hvalid

theorem fromSnapshot_validated {snapshot : DepthSnapshot} {book : DepthBook}
    (h : DepthBook.fromSnapshot o snapshot = .ok book) : ¬book.Crossed := by
  obtain ⟨last, -, h⟩ := ok_of_bind_ok h
  obtain ⟨bids, -, h⟩ := ok_of_bind_ok h
  obtain ⟨asks, -, h⟩ := ok_of_bind_ok h
  obtain ⟨⟨⟩, hvalid, h⟩ := ok_of_bind_ok h
  cases h
  exact not_crossed_of_validate hvalid

end Applying

/-- An update that a recovery at `n` cannot take: its header is malformed, it leaves
a gap, or it is not stale and its levels are malformed. -/
def DepthUpdate.Stops (o : TextOutside) (symbol : String) (n : Int) (u : DepthUpdate) : Prop :=
  match depthEvent o symbol u with
  | .error _ => True
  | .ok (first, last) => n + 1 < first ∨ n < last ∧ u.Malformed o

theorem depthEvent_le {o : TextOutside} {symbol : String} {u : DepthUpdate} {first last : Int}
    (h : depthEvent o symbol u = .ok (first, last)) : first ≤ last := by
  unfold depthEvent at h
  split at h
  · cases h
  · split at h
    · cases h
    · obtain ⟨f, -, h⟩ := ok_of_bind_ok h
      obtain ⟨l, -, h⟩ := ok_of_bind_ok h
      split at h
      · cases h
      · next hle =>
        cases h
        omega

theorem bad_of_stops {o : TextOutside} {symbol : String} {n : Int} {u : DepthUpdate}
    (h : u.Stops o symbol n) : (depthFeed o symbol).Bad n u := by
  unfold DepthUpdate.Stops at h
  unfold Feed.Bad
  cases hevent : depthEvent o symbol u with
  | error e =>
    have hrange : (depthFeed o symbol).range u = .error e := hevent
    rw [hrange]
    trivial
  | ok ends =>
    obtain ⟨first, last⟩ := ends
    have hrange : (depthFeed o symbol).range u = .ok (first, last) := hevent
    rw [hrange]
    rw [hevent] at h
    rcases h with hgap | ⟨hfresh, hmalformed⟩
    · have hle := depthEvent_le hevent
      exact ⟨by omega, Or.inl hgap⟩
    · exact ⟨hfresh, Or.inr (applyUpdate_malformed hmalformed)⟩

/-! ## The recovery -/

theorem recover_returns {δ : Type} {o : TextOutside} {symbol : String}
    {sha256 : List Char → δ} {snapshot : DepthSnapshot} {updates : List DepthUpdate}
    {reacquired : Bool} {r : SequenceRecoveryResult δ}
    (h : recoverBinanceDepth o symbol sha256 snapshot updates reacquired = .ok r)
    (other : List DepthUpdate) :
    ∃ r', recoverBinanceDepth o symbol sha256 snapshot other reacquired = .ok r' := by
  unfold recoverBinanceDepth at h ⊢
  split at h
  · cases h
  · next hsymbol =>
    rw [if_neg hsymbol]
    split
    · exact ⟨_, rfl⟩
    · split
      · exact ⟨_, rfl⟩
      · exact ⟨_, rfl⟩

/-- **What a recovery comes to.** It passes only with the fold of the updates that are
not stale, which cover their ids without a gap and cross no book; covered updates can
be put in anywhere; a gap, a malformed header and malformed levels of an update that is
not stale make it fail without a digest. -/
theorem recovered_book_sound {δ : Type} (o : TextOutside) (symbol : String)
    (sha256 : List Char → δ) (snapshot : DepthSnapshot) (updates : List DepthUpdate) (reacquired : Bool) :
    let recover := fun l => recoverBinanceDepth o symbol sha256 snapshot l reacquired
    let feed := depthFeed o symbol
    (∀ r, recover updates = .ok r → r.state = .pass →
      ∃ start book, DepthBook.fromSnapshot o snapshot = .ok start ∧
        r.reconstructedBookSha256 = some (book.digest sha256) ∧
        feed.fold start (feed.fresh start.lastUpdateId updates) = .ok book ∧
        feed.Contiguous start.lastUpdateId (feed.fresh start.lastUpdateId updates) ∧
        ∀ before, before <+: feed.fresh start.lastUpdateId updates →
          ∃ between, feed.fold start before = .ok between ∧ ¬between.Crossed) ∧
    (∀ start, DepthBook.fromSnapshot o snapshot = .ok start →
      ∀ padded, feed.Padded start.lastUpdateId updates padded →
      ∀ r, recover updates = .ok r → r.state = .pass →
        ∃ r', recover padded = .ok r' ∧ r'.state = .pass ∧
          r'.reconstructedBookSha256 = r.reconstructedBookSha256) ∧
    (∀ start, DepthBook.fromSnapshot o snapshot = .ok start →
      ∀ before u after, updates = before ++ u :: after →
      u.Stops o symbol (feed.current start.lastUpdateId before) →
      ∀ r, recover updates = .ok r →
        r.state = .failedClosed ∧ r.reconstructedBookSha256 = none) := by
  intro recover feed
  refine ⟨?_, ?_, ?_⟩
  · intro r hr hpass
    rcases recover_spec hr with ⟨book, ⟨start, n, hstart, hrun, -⟩, -, hdigest⟩ | ⟨-, hfailed, -⟩
    · obtain ⟨hfold, hcontiguous, -⟩ := Feed.run_spec hrun
      refine ⟨start, book, hstart, hdigest, hfold, hcontiguous, ?_⟩
      rintro before ⟨rest, hrest⟩
      rw [← hrest] at hfold
      obtain ⟨between, hbetween, -⟩ := Feed.fold_prefix hfold
      refine ⟨between, hbetween, ?_⟩
      exact Feed.fold_holds (P := fun book => ¬book.Crossed) (fromSnapshot_validated hstart)
        (fun _ _ _ => applyUpdate_validated) hbetween
    · rw [hpass] at hfailed
      cases hfailed
  · intro start hstart padded hpadded r hr hpass
    rcases recover_spec hr with ⟨book, hbook, -, hdigest⟩ | ⟨-, hfailed, -⟩
    · obtain ⟨start', n, hstart', hrun, hfresh⟩ := hbook
      rw [hstart] at hstart'
      cases hstart'
      have hpaddedBook : Reconstructs o symbol snapshot padded book :=
        ⟨start, n, hstart, Feed.run_padded hpadded hrun, by rwa [Feed.fresh_padded hpadded]⟩
      obtain ⟨r', hr'⟩ := recover_returns hr padded
      rcases recover_spec hr' with ⟨book', hbook', hpass', hdigest'⟩ | ⟨hnone, -, -⟩
      · refine ⟨r', hr', hpass', ?_⟩
        rw [hdigest', hdigest, hbook'.unique hpaddedBook]
      · exact absurd hpaddedBook (hnone book)
    · rw [hpass] at hfailed
      cases hfailed
  · intro start hstart before u after hsplit hstops r hr
    rcases recover_spec hr with ⟨book, ⟨start', n, hstart', hrun, -⟩, -⟩ | ⟨-, hfailed, hdigest⟩
    · rw [hstart] at hstart'
      cases hstart'
      rw [hsplit] at hrun
      exact absurd hrun (Feed.run_of_bad (bad_of_stops hstops) _)
    · exact ⟨hfailed, hdigest⟩

def plainDecimal (text : String) : Option ParsedDecimal :=
  let whole := text.toList.takeWhile fun c => c ≠ '.'
  let fraction := (text.toList.dropWhile fun c => c ≠ '.').drop 1
  if whole ≠ [] ∧ (whole ++ fraction).all Char.isDigit then
    some (.finite ⟨false, Nat.ofDigitChars 10 (whole ++ fraction) 0, -(fraction.length : Int)⟩)
  else none

def plainText : TextOutside := ⟨id, plainDecimal⟩

def depthSnapshot : DepthSnapshot := ⟨some 100, some [some ("100", "1")], some [some ("101", "1")]⟩

def paperUpdate (first last : Int) (bids asks : RawLevels) : DepthUpdate :=
  ⟨some "depthUpdate", "BTCUSDT", some first, some last, bids, asks⟩

/-- An update that raises the bid, one before it that is stale and has no levels, and
one that leaves a gap. -/
def freshUpdate : DepthUpdate := paperUpdate 101 101 (some [some ("100", "2")]) (some [])

def staleUpdate : DepthUpdate := paperUpdate 99 100 none none

def gapUpdate : DepthUpdate := paperUpdate 103 103 (some []) (some [])

def recoverPaper (updates : List DepthUpdate) :
    Except PyError (SequenceRecoveryResult (List Char)) :=
  recoverBinanceDepth plainText "BTCUSDT" id depthSnapshot updates true

/-- A book with one update, the same with a covered update, and one with a gap. -/
theorem recovered_book_sound_paper :
    (∃ start book, DepthBook.fromSnapshot plainText depthSnapshot = .ok start ∧
      (depthFeed plainText "BTCUSDT").fold start
        ((depthFeed plainText "BTCUSDT").fresh start.lastUpdateId [freshUpdate]) = .ok book) ∧
    (∃ r, recoverPaper [staleUpdate, freshUpdate] = .ok r ∧ r.state = .pass) ∧
    (∃ r, recoverPaper [freshUpdate, gapUpdate] = .ok r ∧ r.state = .failedClosed) := by
  obtain ⟨r, hr, hpass⟩ := ok_of_toOption_any (x := recoverPaper [freshUpdate])
    (p := fun r => decide (r.state = .pass)) (by decide +kernel)
  obtain ⟨start, hstart, hid⟩ := ok_of_toOption_any
    (x := DepthBook.fromSnapshot plainText depthSnapshot)
    (p := fun b => decide (b.lastUpdateId = 100)) (by decide +kernel)
  have hid := of_decide_eq_true hid
  refine ⟨?_, ?_, ?_⟩
  · obtain ⟨start, book, hstart, -, hfold, -⟩ := (recovered_book_sound plainText "BTCUSDT" id
      depthSnapshot [freshUpdate] true).1 r hr (of_decide_eq_true hpass)
    exact ⟨start, book, hstart, hfold⟩
  · have hpadded : (depthFeed plainText "BTCUSDT").Padded start.lastUpdateId [freshUpdate]
        [staleUpdate, freshUpdate] := by
      rw [hid]
      have hrange : (depthFeed plainText "BTCUSDT").range staleUpdate = .ok (99, 100) := rfl
      exact .covered hrange (by decide) (.same .nil)
    obtain ⟨r', hr', hpass', -⟩ := (recovered_book_sound plainText "BTCUSDT" id
      depthSnapshot [freshUpdate] true).2.1 start hstart _ hpadded r hr (of_decide_eq_true hpass)
    exact ⟨r', hr', hpass'⟩
  · obtain ⟨r', hr', -⟩ := ok_of_toOption_any (x := recoverPaper [freshUpdate, gapUpdate])
      (p := fun _ => true) (by decide +kernel)
    have hstops : gapUpdate.Stops plainText "BTCUSDT"
        ((depthFeed plainText "BTCUSDT").current start.lastUpdateId [freshUpdate]) := by
      rw [hid]
      exact Or.inl (by decide +kernel)
    exact ⟨r', hr', ((recovered_book_sound plainText "BTCUSDT" id depthSnapshot
      [freshUpdate, gapUpdate] true).2.2 start hstart [freshUpdate] gapUpdate [] rfl hstops
        r' hr').1⟩

/-- **A malformed update that is not noticed.** It is stale, and its levels are no
arrays. -/
theorem stale_update_unread : staleUpdate.Malformed plainText ∧
    ∃ r, recoverPaper [staleUpdate, freshUpdate] = .ok r ∧ r.state = .pass ∧
      r.reconstructedBookSha256.isSome = true := by
  refine ⟨Or.inl (Or.inl rfl), ?_⟩
  obtain ⟨r, hr, hpass⟩ := ok_of_toOption_any (x := recoverPaper [staleUpdate, freshUpdate])
    (p := fun r => decide (r.state = .pass) && r.reconstructedBookSha256.isSome)
    (by decide +kernel)
  rw [Bool.and_eq_true] at hpass
  exact ⟨r, hr, of_decide_eq_true hpass.1, hpass.2⟩

end AdvisorAI
