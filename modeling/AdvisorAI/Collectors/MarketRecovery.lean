import AdvisorAI.Contracts.Core
import AdvisorAI.Lib.Dict
import AdvisorAI.Lib.Json
import AdvisorAI.Lib.Scientific
import AdvisorAI.Lib.Sequenced
import Mathlib.Data.List.MinMax
import Mathlib.Data.List.Sort

/-!
# Order books rebuilt from a snapshot

A book is rebuilt from a provider's snapshot and the depth updates after it. The
prices of a side are the keys of a dictionary, and decimals that are equal as
numbers are one key: a level keeps the spelling of the price it was opened with.
The book that comes out is reported by the digest of its JSON.

The loop is the receiver of `Lib.Sequenced`, and counts what it sees on the way.
-/

namespace AdvisorAI

open Lib

/-! ## Decimals and their texts -/

/-- `str(d)`. -/
def Decimal.text (d : Decimal) : String :=
  String.ofList ((if d.negative then ['-'] else []) ++ scientific d.digits d.exponent)

theorem Decimal.text_injective : Function.Injective Decimal.text := by
  intro a b h
  have h := String.ofList_inj.mp h
  obtain ⟨an, ad, ae⟩ := a
  obtain ⟨bn, bd, be⟩ := b
  cases an <;> cases bn
  · obtain ⟨rfl, rfl⟩ := scientific_injective h
    rfl
  · exact absurd h.symm (scientific_ne_minus _ _ _)
  · exact absurd h (scientific_ne_minus _ _ _)
  · obtain ⟨rfl, rfl⟩ := scientific_injective (List.cons.inj h).2
    rfl

/-- What `Decimal(text)` reads: a number, or an infinity or a NaN. -/
inductive ParsedDecimal where
  | finite (d : Decimal)
  | special
deriving DecidableEq

/-- What the recovery takes from Python's texts: `upper`, and `Decimal`, which is
`none` where it raises. -/
structure TextOutside where
  upper : String → String
  decimal : String → Option ParsedDecimal

/-! ## What a provider sends -/

/-- An array of levels as it is read: `none` is no array, an entry `none` is no pair,
and of a pair it is the texts that count. -/
abbrev RawLevels := Option (List (Option (String × String)))

structure DepthSnapshot where
  lastUpdateId : Option Int
  bids : RawLevels
  asks : RawLevels

/-- The fields `e`, `s`, `U`, `u`, `b` and `a`. -/
structure DepthUpdate where
  event : Option String
  symbol : String
  first : Option Int
  last : Option Int
  bids : RawLevels
  asks : RawLevels

/-- `_positive_int` of what is an integer, and no boolean, if it is there. -/
def positiveInt (value : Option Int) (label : String) : Except PyError Int :=
  match value with
  | none => .error (valueError (label ++ " must be a positive integer"))
  | some n =>
    if n ≤ 0 then .error (valueError (label ++ " must be a positive integer")) else .ok n

/-- `_decimal`. -/
def readDecimal (o : TextOutside) (value label : String) (positive : Bool) :
    Except PyError { d : Decimal // 0 ≤ d.value ∧ (positive = true → 0 < d.value) } :=
  match o.decimal value with
  | none => .error (valueError (label ++ " must be numeric"))
  | some .special => .error (valueError (label ++ " is outside the allowed range"))
  | some (.finite d) =>
    if h : 0 ≤ d.value ∧ (positive = true → 0 < d.value) then .ok ⟨d, h⟩
    else .error (valueError (label ++ " is outside the allowed range"))

/-- `_event`. -/
def depthEvent (o : TextOutside) (symbol : String) (u : DepthUpdate) :
    Except PyError (Int × Int) := do
  if u.event ≠ some "depthUpdate" then
    .error (valueError "incremental message is not a depth update")
  else if o.upper u.symbol ≠ o.upper symbol then
    .error (valueError "incremental message has an unexpected symbol")
  else
    let first ← positiveInt u.first "update U"
    let last ← positiveInt u.last "update u"
    if last < first then .error (valueError "incremental update range is inverted")
    else .ok (first, last)

/-! ## The book -/

@[ext]
structure PriceLevel where
  price : Decimal
  quantity : Decimal
  price_pos : 0 < price.value
  quantity_pos : 0 < quantity.value

instance : DecidableEq PriceLevel := fun _ _ =>
  decidable_of_iff' _ PriceLevel.ext_iff

/-- One side: its levels under their prices. -/
structure BookSide where
  levels : Dict ℚ PriceLevel
  keyed : ∀ v level, levels.get v = some level → level.price.value = v

namespace BookSide

def empty : BookSide := ⟨.empty, fun _ _ h => by rw [Dict.get_empty] at h; cases h⟩

/-- `destination.pop(price, None)`. -/
def remove (side : BookSide) (v : ℚ) : BookSide where
  levels := side.levels.erase v
  keyed := by
    intro w level h
    rw [Dict.get_erase] at h
    split at h
    · cases h
    · exact side.keyed w level h

/-- `destination[price] = quantity`: a price that is there keeps its spelling. -/
def put (side : BookSide) (level : PriceLevel) : BookSide where
  levels := side.levels.set level.price.value
    (match side.levels.get level.price.value with
    | some prior => { prior with quantity := level.quantity, quantity_pos := level.quantity_pos }
    | none => level)
  keyed := by
    intro w found h
    rw [Dict.get_set] at h
    split at h
    · next hw =>
      rw [hw]
      cases h
      split
      · next prior hprior =>
        show prior.price.value = _
        exact side.keyed _ prior hprior
      · rfl
    · exact side.keyed w found h

end BookSide

/-- A level of a message: its price, and its quantity, which may be zero. -/
def readLevel (o : TextOutside) (label : String) (raw : Option (String × String)) :
    Except PyError ({ d : Decimal // 0 ≤ d.value ∧ (true = true → 0 < d.value) } ×
      { d : Decimal // 0 ≤ d.value ∧ (false = true → 0 < d.value) }) :=
  match raw with
  | none => .error (valueError (label ++ " contains an invalid level"))
  | some (price, quantity) => do
    let price ← readDecimal o price (label ++ " price") true
    let quantity ← readDecimal o quantity (label ++ " quantity") false
    return (price, quantity)

/-- One turn of the loop of `_apply_levels`. -/
def applyLevel (o : TextOutside) (label : String) (allowUpdates : Bool) (side : BookSide)
    (raw : Option (String × String)) : Except PyError BookSide := do
  let (price, quantity) ← readLevel o label raw
  if h : quantity.val.value = 0 then .ok (side.remove price.val.value)
  else if (side.levels.get price.val.value).isSome ∧ allowUpdates = false then
    .error (valueError (label ++ " contains a duplicate price"))
  else .ok (side.put ⟨price.val, quantity.val, price.property.2 rfl,
    lt_of_le_of_ne quantity.property.1 (Ne.symm h)⟩)

def applyLevels (o : TextOutside) (label : String) (allowUpdates : Bool) (side : BookSide)
    (raw : RawLevels) : Except PyError BookSide :=
  match raw with
  | none => .error (valueError (label ++ " must be an array"))
  | some levels => levels.foldlM (applyLevel o label allowUpdates) side

/-- `_Book`. -/
structure DepthBook where
  bids : BookSide
  asks : BookSide
  lastUpdateId : Int

namespace DepthBook

def validate (book : DepthBook) : Except PyError Unit :=
  match book.bids.levels.keys.max?, book.asks.levels.keys.min? with
  | some bid, some ask =>
    if ask ≤ bid then .error (valueError "reconstructed book is crossed") else .ok ()
  | _, _ => .error (valueError "reconstructed book must contain both sides")

def fromSnapshot (o : TextOutside) (payload : DepthSnapshot) : Except PyError DepthBook := do
  let last ← positiveInt payload.lastUpdateId "snapshot lastUpdateId"
  let bids ← applyLevels o "snapshot bids" false .empty payload.bids
  let asks ← applyLevels o "snapshot asks" false .empty payload.asks
  let book : DepthBook := ⟨bids, asks, last⟩
  book.validate
  return book

def applyUpdate (o : TextOutside) (book : DepthBook) (payload : DepthUpdate) :
    Except PyError DepthBook := do
  let bids ← applyLevels o "update bids" true book.bids payload.bids
  let asks ← applyLevels o "update asks" true book.asks payload.asks
  let last ← positiveInt payload.last "update u"
  let book : DepthBook := ⟨bids, asks, last⟩
  book.validate
  return book

/-- `sorted(side.items())`. -/
def sortedLevels (side : BookSide) : List PriceLevel :=
  (side.levels.entries.insertionSort fun a b => a.1 ≤ b.1).map Prod.snd

/-- `[str(price), str(size)]`. -/
def levelText (level : PriceLevel) : List Char :=
  Json.arrayText Json.quoted [level.price.text, level.quantity.text]

def json (book : DepthBook) : List Char :=
  '{' :: Json.quoted "asks" ++ ':' :: (Json.arrayText levelText (sortedLevels book.asks)
    ++ (Json.memberText "bids" (Json.arrayText levelText (sortedLevels book.bids))
    ++ (Json.memberText "last_update_id" (Json.integerText book.lastUpdateId) ++ ['}'])))

/-- `digest()`, for digests in `δ`. -/
def digest {δ : Type} (sha256 : List Char → δ) (book : DepthBook) : δ := sha256 book.json

end DepthBook

/-! ## Recovery -/

inductive RecoveryState where
  | pass | failedClosed
deriving DecidableEq, Repr

structure SequenceRecoveryResult (δ : Type) where
  state : RecoveryState
  symbol : String
  snapshotLastUpdateId : Option Int
  firstAppliedUpdateId : Option Int
  lastAppliedUpdateId : Option Int
  receivedUpdateCount : ℕ
  discardedBeforeSyncCount : ℕ
  repeatedOrOldCount : ℕ
  sequenceGapCount : ℕ
  malformedUpdateCount : ℕ
  snapshotReacquired : Bool
  localBookInvalidated : Bool
  reconstructedBookSha256 : Option δ
  validationError : Option String
deriving DecidableEq

structure RecoveryProgress where
  received : ℕ
  discarded : ℕ
  repeated : ℕ
  gaps : ℕ
  malformed : ℕ
  firstApplied : Option Int
  lastApplied : Option Int
  book : DepthBook
  expected : Int

def sequenceGap : PyError := valueError "incremental sequence gap requires snapshot recovery"

section Recover

variable {δ : Type} (o : TextOutside) (symbol : String) (p : RecoveryProgress)

/-- One turn of the loop, and what it raises. -/
def recoverUpdate (u : DepthUpdate) : Option PyError × RecoveryProgress :=
  let p := { p with received := p.received + 1 }
  match depthEvent o symbol u with
  | .error e => (some e, { p with malformed := p.malformed + 1 })
  | .ok (first, last) =>
    if last < p.expected then
      (none, { p with repeated := p.repeated + 1, discarded := p.discarded + 1 })
    else if p.expected < first then (some sequenceGap, { p with gaps := p.gaps + 1 })
    else match p.book.applyUpdate o u with
      | .error e => (some e, p)
      | .ok book => (none, { p with
          book := book
          firstApplied := p.firstApplied.or (some first)
          lastApplied := some last
          expected := last + 1 })

def recoverUpdates (p : RecoveryProgress) : List DepthUpdate → Option PyError × RecoveryProgress
  | [] => (none, p)
  | u :: rest =>
    match recoverUpdate o symbol p u with
    | (some e, p) => (some e, p)
    | (none, p) => recoverUpdates p rest

def RecoveryProgress.start (book : DepthBook) : RecoveryProgress :=
  ⟨0, 0, 0, 0, 0, none, none, book, book.lastUpdateId + 1⟩

variable (sha256 : List Char → δ)

/-- The result of a recovery that got to `p`. -/
def RecoveryProgress.result (snapshotId : Int) (snapshotReacquired : Bool)
    (error : Option PyError) :
    SequenceRecoveryResult δ where
  state := if error.isNone then .pass else .failedClosed
  symbol := o.upper symbol
  snapshotLastUpdateId := some snapshotId
  firstAppliedUpdateId := p.firstApplied
  lastAppliedUpdateId := p.lastApplied
  receivedUpdateCount := p.received
  discardedBeforeSyncCount := p.discarded
  repeatedOrOldCount := p.repeated
  sequenceGapCount := p.gaps
  malformedUpdateCount := p.malformed
  snapshotReacquired := snapshotReacquired
  localBookInvalidated := error.isSome
  reconstructedBookSha256 := if error.isNone then some (p.book.digest sha256) else none
  validationError := error.map PyError.message

def refusedSnapshot (snapshotReacquired : Bool) (error : PyError) :
    SequenceRecoveryResult δ where
  state := .failedClosed
  symbol := o.upper symbol
  snapshotLastUpdateId := none
  firstAppliedUpdateId := none
  lastAppliedUpdateId := none
  receivedUpdateCount := 0
  discardedBeforeSyncCount := 0
  repeatedOrOldCount := 0
  sequenceGapCount := 0
  malformedUpdateCount := 0
  snapshotReacquired := snapshotReacquired
  localBookInvalidated := true
  reconstructedBookSha256 := none
  validationError := some error.message

def RecoveryProgress.unsynchronized : Option PyError :=
  if p.firstApplied = none then
    some (valueError "incremental stream did not synchronize with snapshot")
  else none

def recoverBinanceDepth (snapshot : DepthSnapshot) (updates : List DepthUpdate)
    (snapshotReacquired : Bool) :
    Except PyError (SequenceRecoveryResult δ) :=
  if isBlank symbol then .error (valueError "recovery symbol cannot be blank")
  else match DepthBook.fromSnapshot o snapshot with
    | .error e => .ok (refusedSnapshot o symbol snapshotReacquired e)
    | .ok book =>
      match recoverUpdates o symbol (.start book) updates with
      | (some e, p) =>
        .ok (p.result o symbol sha256 book.lastUpdateId snapshotReacquired (some e))
      | (none, p) =>
        .ok (p.result o symbol sha256 book.lastUpdateId snapshotReacquired p.unsynchronized)

end Recover

def replayEquivalent {δ : Type} [DecidableEq δ] (live replay : SequenceRecoveryResult δ) : Bool :=
  decide (live.state = .pass) && decide (replay.state = .pass) &&
    live.reconstructedBookSha256.isSome &&
    decide (live.reconstructedBookSha256 = replay.reconstructedBookSha256)

end AdvisorAI
