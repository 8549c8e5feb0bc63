import AdvisorAI.Execution.AccountSteps

/-!
# Calls that raise

A mutator checks its arguments, computes what it reads of the account, and then assigns one field
after another (`assignments`, `run_eq`). For any number type it leaves the account as it was exactly
when no assignment raises after one before it has changed the account; with exact numbers that is
so unless funding or margin are given a time the account cannot take (`mutators_atomic_iff`).
-/

namespace AdvisorAI

open Lib AccountState Local

variable {N : Type} [Arith N]

abbrev AccountAssignment (N : Type) := AccountState N → Except PyError (AccountState N)

namespace AccountState

variable (time : Except PyError Timestamp)

/-- `self.as_of = max(self.as_of, …)`. -/
def assignTime : AccountAssignment N := fun s => do
  return { s with asOf := Max.max s.asOf (← time) }

/-- `self.peak_equity = max(self.peak_equity or equity, equity)`. -/
def assignPeak : AccountAssignment N := fun s => do
  let equity ← s.equity
  return { s with peakEquity := some (Arith.max (s.peakOr equity) equity) }

/-- The assignments at the end of every mutator. -/
def advancing : List (AccountAssignment N) :=
  [assignTime time, assignPeak]

def payingCost (amount : N) : List (AccountAssignment N) :=
  [fun s => do return { s with cash := ← Arith.sub s.cash amount },
    fun s => do return { s with dailyRealizedPnl := ← Arith.sub s.dailyRealizedPnl amount },
    fun s => do return { s with rollingRealizedPnl := ← Arith.sub s.rollingRealizedPnl amount }]

def creditingAction (amount : N) : List (AccountAssignment N) :=
  [fun s => do
      return { s with
        corporateActionAdjustments := ← Arith.add s.corporateActionAdjustments amount },
    fun s => do return { s with cash := ← Arith.add s.cash amount }]

def closingOut (price oldQuantity oldAverage signedQuantity : N) : List (AccountAssignment N) :=
  if !Arith.isZero oldQuantity &&
      Arith.lt Arith.zero oldQuantity != Arith.lt Arith.zero signedQuantity then
    [fun s => do
      let closed := Arith.min (← Arith.abs oldQuantity) (← Arith.abs signedQuantity)
      let gain ← Arith.mul (← Arith.sub price oldAverage) closed
      return { s with
        realizedPnl := ← Arith.add s.realizedPnl (← Arith.mul gain (← direction oldQuantity)) }]
  else []

/-- The position and the average cost after a fill. -/
def movingPosition (instrument : String)
    (price oldQuantity oldAverage signedQuantity newQuantity : N) : List (AccountAssignment N) :=
  if Arith.isZero newQuantity then
    [fun s => .ok { s with
      positions := s.positions.erase instrument
      averageCost := s.averageCost.erase instrument }]
  else if (!Arith.lt oldQuantity Arith.zero && Arith.lt Arith.zero signedQuantity) ||
      (!Arith.lt Arith.zero oldQuantity && Arith.lt signedQuantity Arith.zero) then
    [fun s => do
        let average ← extendedAverage price oldQuantity oldAverage signedQuantity
        return { s with averageCost := s.averageCost.set instrument average },
      fun s => .ok { s with positions := s.positions.set instrument newQuantity }]
  else
    (fun s => .ok { s with positions := s.positions.set instrument newQuantity }) ::
      if !Arith.isZero oldQuantity &&
          Arith.lt Arith.zero oldQuantity != Arith.lt Arith.zero newQuantity then
        [fun s => .ok { s with averageCost := s.averageCost.set instrument price }]
      else []

variable (fill : AccountFill N) (realizedBefore : N)

def realizedChange (s : AccountState N) :
    Except PyError N := do
  let realizedDelta ← Arith.sub s.realizedPnl realizedBefore
  Arith.sub realizedDelta fill.fee

def assignDaily : AccountAssignment N := fun s => do
  let change ← s.realizedChange fill realizedBefore
  return { s with dailyRealizedPnl := ← Arith.add s.dailyRealizedPnl change }

def assignRolling : AccountAssignment N := fun s => do
  let change ← s.realizedChange fill realizedBefore
  return { s with rollingRealizedPnl := ← Arith.add s.rollingRealizedPnl change }

def bookingTotals (signedQuantity realizedBefore : N) :
    List (AccountAssignment N) :=
  [fun s => do
      return { s with cash := ← Arith.sub s.cash (← Arith.mul fill.price signedQuantity) },
    fun s => do return { s with feesPaid := ← Arith.add s.feesPaid fill.fee },
    fun s => do return { s with cash := ← Arith.sub s.cash fill.fee }] ++
  (assignDaily fill realizedBefore :: assignRolling fill realizedBefore ::
    advancing (.ok fill.occurredAt))

end AccountState

theorem closeOut_eq (price oldQuantity oldAverage signedQuantity : N) :
    closeOut price oldQuantity oldAverage signedQuantity
      = Local.sequence (closingOut price oldQuantity oldAverage signedQuantity) := by
  unfold closeOut closingOut
  split
  · rfl
  · rfl

theorem movePosition_eq (instrument : String)
    (price oldQuantity oldAverage signedQuantity newQuantity : N) :
    movePosition instrument price oldQuantity oldAverage signedQuantity newQuantity
      = Local.sequence
        (movingPosition instrument price oldQuantity oldAverage signedQuantity newQuantity) := by
  unfold movePosition movingPosition
  split
  · rfl
  · split
    · rfl
    · split
      · rfl
      · exact bind_pure_unit (m := EStateM PyError (AccountState N))

/-- The realized totals take the same change, though each assignment reads it again. -/
theorem realizedTotals_eq (fill : AccountFill N) (realizedBefore : N) (s : AccountState N) :
    (do
      let realizedPnl ← Local.read fun s => s.realizedPnl
      let realizedDelta ← Local.lift (Arith.sub realizedPnl realizedBefore)
      let change ← Local.lift (Arith.sub realizedDelta fill.fee)
      Local.assign fun s => do
        return { s with dailyRealizedPnl := ← Arith.add s.dailyRealizedPnl change }
      Local.assign fun s => do
        return { s with rollingRealizedPnl := ← Arith.add s.rollingRealizedPnl change }
      advance fill.occurredAt : Account N Unit) s
      = Local.sequence (assignDaily fill realizedBefore :: assignRolling fill realizedBefore ::
          advancing (.ok fill.occurredAt)) s := by
  have hread : ∀ x : N → Account N Unit, (do
      let realizedPnl ← Local.read fun s => s.realizedPnl
      let realizedDelta ← Local.lift (Arith.sub realizedPnl realizedBefore)
      x (← Local.lift (Arith.sub realizedDelta fill.fee)) : Account N Unit) s
        = (Local.lift (s.realizedChange fill realizedBefore) >>= x) s := by
    intro x
    unfold realizedChange
    refine Eq.trans (bind_ok (read_ok _ s)) ?_
    cases Arith.sub s.realizedPnl realizedBefore with
    | error e => rfl
    | ok delta => rfl
  refine (hread _).trans ?_
  rw [sequence_cons, sequence_cons]
  cases hchange : s.realizedChange fill realizedBefore with
  | error e =>
    have hassign : Local.assign (assignDaily fill realizedBefore) s = .error e s := by
      refine assign_error ?_
      unfold assignDaily
      rw [hchange]
      rfl
    exact (bind_error hassign).symm
  | ok change =>
    have hdaily : assignDaily fill realizedBefore s = (do
        return { s with dailyRealizedPnl := ← Arith.add s.dailyRealizedPnl change }) := by
      unfold assignDaily
      rw [hchange]
      rfl
    refine bind_congr (assign_congr hdaily.symm) fun _ s' hs' => bind_congr_first (assign_congr ?_)
    -- The profit is the same after the first of the two.
    have hsame : s'.realizedChange fill realizedBefore = .ok change := by
      unfold Local.assign at hs'
      rw [hdaily] at hs'
      cases hadd : Arith.add s.dailyRealizedPnl change with
      | error e =>
        rw [hadd] at hs'
        cases hs'
      | ok daily =>
        rw [hadd] at hs'
        cases hs'
        exact hchange
    unfold assignRolling
    rw [hsame]
    rfl

theorem bookTotals_eq (fill : AccountFill N) (signedQuantity realizedBefore : N) :
    bookTotals fill signedQuantity realizedBefore
      = Local.sequence (bookingTotals fill signedQuantity realizedBefore) := by
  refine congrArg (Local.assign _ >>= ·) (funext fun _ => ?_)
  refine congrArg (Local.assign _ >>= ·) (funext fun _ => ?_)
  refine congrArg (Local.assign _ >>= ·) (funext fun _ => ?_)
  funext s
  exact realizedTotals_eq fill realizedBefore s

/-! ## The assignments of a mutator -/

/-- What a mutator assigns, once its checks have passed and its arguments have been computed. -/
def AccountMutation.assignments (s : AccountState N) :
    AccountMutation N → Except PyError (List (AccountAssignment N))
  | .fill f side instrumentId =>
    if isBlank instrumentId then
      .error (valueError "fill instrument identifier cannot be blank")
    else if lower (strip side) ∉ ["buy", "sell"] then
      .error (valueError "side must be buy or sell")
    else do
      let oldQuantity := s.positions.getD (strip instrumentId) Arith.zero
      let oldAverage := s.averageCost.getD (strip instrumentId) Arith.zero
      let signedQuantity ← signed (lower (strip side)) f.quantity
      let newQuantity ← Arith.add oldQuantity signedQuantity
      return closingOut f.price oldQuantity oldAverage signedQuantity ++
        (movingPosition (strip instrumentId) f.price oldQuantity oldAverage signedQuantity
          newQuantity ++ bookingTotals f signedQuantity s.realizedPnl)
  | .funding amount at' =>
    if !Arith.isFinite amount || isNegative amount then
      .error (valueError "funding amount must be finite and non-negative")
    else
      .ok ((fun s => do return { s with fundingPaid := ← Arith.add s.fundingPaid amount }) ::
        (payingCost amount ++ advancing (aware at')))
  | .cashTransfer amount at' =>
    if Arith.isZero amount || !Arith.isFinite amount then
      .error (valueError "cash transfer amount cannot be zero")
    else do
      let t ← aware at'
      return (fun s => do return { s with cash := ← Arith.add s.cash amount }) :: advancing (.ok t)
  | .borrow amount at' =>
    if !Arith.isFinite amount || isNegative amount then
      .error (valueError "borrow amount must be finite and non-negative")
    else do
      let t ← aware at'
      return (fun s => do return { s with borrowPaid := ← Arith.add s.borrowPaid amount }) ::
        (payingCost amount ++ advancing (.ok t))
  | .fxAdjustment amount at' =>
    if !Arith.isFinite amount || Arith.isZero amount then
      .error (valueError "FX adjustment must be finite and non-zero")
    else do
      let t ← aware at'
      return (fun s => do return { s with fxAdjustments := ← Arith.add s.fxAdjustments amount }) ::
        (fun s => do return { s with cash := ← Arith.add s.cash amount }) :: advancing (.ok t)
  | .corporateAction amount at' =>
    if !Arith.isFinite amount || Arith.isZero amount then
      .error (valueError "corporate action adjustment must be finite and non-zero")
    else do
      let t ← aware at'
      return creditingAction amount ++ advancing (.ok t)
  | .split instrumentId ratio at' =>
    if strip instrumentId = "" then
      .error (valueError "split instrument identifier cannot be blank")
    else if !Arith.isFinite ratio || !Arith.lt Arith.zero ratio then
      .error (valueError "split ratio must be finite and positive")
    else do
      let t ← aware at'
      return (fun s => do return { s with
          positions := ← rescale s.positions (strip instrumentId) (Arith.mul · ratio) }) ::
        (fun s => do return { s with
          averageCost := ← rescale s.averageCost (strip instrumentId) (Arith.div · ratio) }) ::
        (fun s => do return { s with
          marks := ← rescale s.marks (strip instrumentId) (Arith.div · ratio) }) ::
        advancing (.ok t)
  | .dividend instrumentId cashPerUnit at' =>
    if strip instrumentId = "" then
      .error (valueError "dividend instrument identifier cannot be blank")
    else if !Arith.isFinite cashPerUnit || isNegative cashPerUnit then
      .error (valueError "dividend cash per unit must be finite and non-negative")
    else do
      let t ← aware at'
      let amount ← Arith.mul (s.positions.getD (strip instrumentId) Arith.zero) cashPerUnit
      return (if Arith.isZero amount then [] else creditingAction amount) ++ advancing (.ok t)
  | .margin marginUsed marginAvailable at' =>
    if !Arith.isFinite marginUsed || !Arith.isFinite marginAvailable || isNegative marginUsed ||
        isNegative marginAvailable then
      .error (valueError "margin values cannot be negative")
    else
      .ok ((fun s => .ok { s with
          marginUsed := marginUsed
          marginAvailable := some marginAvailable
          liquidationBuffer := some marginAvailable }) :: advancing (aware at'))
  | .mark instrumentId price at' =>
    if isBlank instrumentId then
      .error (valueError "mark instrument identifier cannot be blank")
    else if !Arith.isFinite price || !Arith.lt Arith.zero price then
      .error (valueError "mark price must be positive")
    else do
      let t ← aware at'
      return (fun s => .ok { s with marks := s.marks.set (strip instrumentId) price }) ::
        advancing (.ok t)

theorem advance_eq (t : Timestamp) :
    (advance t : Account N Unit) = Local.sequence (advancing (.ok t)) := rfl

theorem advance_aware (at' : Datetime) :
    (Local.lift (AccountState.aware at') >>= advance : Account N Unit)
      = Local.sequence (advancing (AccountState.aware at')) := by
  cases AccountState.aware at' with
  | error e => rfl
  | ok t => rfl

theorem payCost_advancing (amount : N) (rest : List (AccountAssignment N)) :
    (do payCost amount; Local.sequence rest : Account N Unit)
      = Local.sequence (payingCost amount ++ rest) := by
  rw [sequence_append]
  rfl

omit [Arith N] in
theorem run_checked {c : Prop} {_ : Decidable c} {e : PyError} {x : Account N Unit}
    {y : Except PyError (List (AccountAssignment N))} {s : AccountState N}
    (h : x s = (Local.lift y >>= Local.sequence) s) :
    (if c then Local.raise e else x) s
      = (Local.lift (if c then .error e else y) >>= Local.sequence) s := by
  split
  · rfl
  · exact h

omit [Arith N] in
theorem run_lifted {α : Type} (r : Except PyError α) {x : α → Account N Unit}
    {y : α → Except PyError (List (AccountAssignment N))} {s : AccountState N}
    (h : ∀ a, r = .ok a → x a s = (Local.lift (y a) >>= Local.sequence) s) :
    (Local.lift r >>= x) s = (Local.lift (r >>= y) >>= Local.sequence) s := by
  cases r with
  | error e => rfl
  | ok a => exact h a rfl

theorem creditAction_advancing (amount : N) (rest : List (AccountAssignment N)) :
    (do creditAction amount; Local.sequence rest : Account N Unit)
      = Local.sequence (creditingAction amount ++ rest) := by
  rw [sequence_append]
  rfl

variable (m : AccountMutation N)

/-- **A mutator is its checks and then its assignments.** -/
theorem run_eq (s : AccountState N) :
    m.run s = (Local.lift (m.assignments s) >>= Local.sequence) s := by
  cases m with
  | fill f side instrumentId =>
    refine run_checked (run_checked (run_lifted _ ?_))
    intro signedQuantity _
    refine Eq.trans (bind_ok (read_ok _ s)) ?_
    refine Eq.trans (bind_ok (read_ok _ s)) ?_
    refine run_lifted _ ?_
    intro newQuantity _
    refine Eq.trans (bind_ok (read_ok _ s)) ?_
    rw [closeOut_eq, movePosition_eq, bookTotals_eq]
    show _ = Local.sequence (_ ++ (_ ++ _)) s
    rw [sequence_append, sequence_append]
  | funding amount at' =>
    refine run_checked ?_
    show (Local.assign _ >>= fun _ => payCost amount >>= fun _ =>
      Local.lift (AccountState.aware at') >>= advance) s = Local.sequence (_ :: _) s
    rw [sequence_cons, ← payCost_advancing, advance_aware]
  | cashTransfer | fxAdjustment => exact run_checked (run_lifted _ fun _ _ => rfl)
  | borrow amount at' =>
    refine run_checked (run_lifted _ ?_)
    intro t _
    show (Local.assign _ >>= fun _ => payCost amount >>= fun _ => advance t) s
      = Local.sequence (_ :: _) s
    rw [sequence_cons, ← payCost_advancing, advance_eq]
  | corporateAction amount at' =>
    refine run_checked (run_lifted _ ?_)
    intro t _
    show (creditAction amount >>= fun _ => advance t) s = Local.sequence (_ ++ _) s
    rw [← creditAction_advancing, advance_eq]
  | split | mark => exact run_checked (run_checked (run_lifted _ fun _ _ => rfl))
  | dividend instrumentId cashPerUnit at' =>
    refine run_checked (run_checked (run_lifted _ ?_))
    intro t _
    refine Eq.trans (bind_ok (read_ok _ s)) ?_
    refine run_lifted _ ?_
    intro amount _
    show _ = Local.sequence (_ ++ _) s
    split
    · rfl
    · rw [← creditAction_advancing]
      rfl
  | margin marginUsed marginAvailable at' =>
    refine run_checked ?_
    show (Local.modify _ >>= fun _ => Local.lift (AccountState.aware at') >>= advance) s
      = Local.sequence (_ :: _) s
    rw [sequence_cons, advance_aware]
    rfl

/-! ## What is left by a call that raises -/

theorem run_atomic_iff (s : AccountState N) :
    Local.Atomic m.run s ↔ ∀ l, m.assignments s = .ok l → ¬Local.RaisesLate l s := by
  have hrun := run_eq m s
  cases hassignments : m.assignments s with
  | error e =>
    rw [hassignments] at hrun
    rw [atomic_iff_of_error hrun]
    exact iff_of_true rfl fun l hl => by cases hl
  | ok l =>
    rw [hassignments] at hrun
    have hsequence : m.run s = Local.sequence l s := hrun
    have hatomic : Local.Atomic m.run s ↔ Local.Atomic (Local.sequence l) s := by
      unfold Local.Atomic
      rw [hsequence]
    rw [hatomic, sequence_atomic_iff]
    constructor
    · intro hlate l' hl
      cases hl
      exact hlate
    · exact fun h => h l rfl

variable (s : AccountState ℚ)

/-- Funding or margin with a time that the account cannot take, which would change it. -/
def AccountMutation.Torn : AccountMutation ℚ → Prop
  | .funding amount at' => 0 < amount ∧ ¬Aware at'
  | .margin used available at' => 0 ≤ used ∧ 0 ≤ available ∧ ¬Aware at' ∧
    ¬(s.marginUsed = used ∧ s.marginAvailable = some available ∧
      s.liquidationBuffer = some available)
  | _ => False

theorem funded_eq_iff (amount : ℚ) : s.funded amount = s ↔ amount = 0 := by
  constructor
  · intro h
    have hcash : s.cash - amount = s.cash := congrArg AccountState.cash h
    linarith
  · rintro rfl
    unfold AccountState.funded
    rw [add_zero, sub_zero, sub_zero, sub_zero]

theorem margined_eq_iff (used available : ℚ) :
    s.margined used available = s ↔ s.marginUsed = used ∧ s.marginAvailable = some available ∧
      s.liquidationBuffer = some available := by
  constructor
  · intro h
    exact ⟨(congrArg AccountState.marginUsed h).symm, (congrArg AccountState.marginAvailable h).symm,
      (congrArg AccountState.liquidationBuffer h).symm⟩
  · rintro ⟨rfl, havailable, hbuffer⟩
    cases s
    cases havailable
    cases hbuffer
    rfl

theorem leftover_eq_iff {m : AccountMutation ℚ} {s : AccountState ℚ} (hinvalid : ¬m.Valid) :
    m.leftover s = s ↔ ¬m.Torn s := by
  cases m with
  | funding amount at' =>
    show _ ↔ ¬(0 < amount ∧ ¬Aware at')
    rw [leftover_funding]
    by_cases hamount : 0 ≤ amount
    · have hunaware : ¬Aware at' := fun h => hinvalid ⟨hamount, h⟩
      rw [if_pos hamount, funded_eq_iff, and_iff_left hunaware, not_lt]
      exact ⟨fun h => h.le, fun h => le_antisymm h hamount⟩
    · rw [if_neg hamount]
      exact iff_of_true rfl fun h => hamount h.1.le
  | margin used available at' =>
    show _ ↔ ¬(0 ≤ used ∧ 0 ≤ available ∧ ¬Aware at' ∧ ¬(_ ∧ _ ∧ _))
    rw [leftover_margin]
    by_cases hmargin : 0 ≤ used ∧ 0 ≤ available
    · have hunaware : ¬Aware at' := fun h => hinvalid ⟨hmargin.1, hmargin.2, h⟩
      rw [if_pos hmargin, margined_eq_iff]
      constructor
      · rintro hsame ⟨-, -, -, hdiffer⟩
        exact hdiffer hsame
      · intro h
        exact not_not.mp fun hdiffer => h ⟨hmargin.1, hmargin.2, hunaware, hdiffer⟩
    · rw [if_neg hmargin]
      exact iff_of_true rfl fun h => hmargin ⟨h.1, h.2.1⟩
  | _ => exact iff_of_true rfl fun h => h

theorem not_torn_of_valid {m : AccountMutation ℚ} {s : AccountState ℚ} (hvalid : m.Valid) :
    ¬m.Torn s := by
  cases m with
  | funding amount at' => exact fun h => h.2 hvalid.2
  | margin used available at' => exact fun h => h.2.2.1 hvalid.2.2
  | _ => exact fun h => h

theorem run_atomic_iff_exact (m : AccountMutation ℚ) (s : AccountState ℚ) :
    Local.Atomic m.run s ↔ ¬m.Torn s := by
  rcases run_cases m s with ⟨hvalid, s', hrun, -⟩ | ⟨hinvalid, e, hrun⟩
  · exact iff_of_true (atomic_of_ok hrun) (not_torn_of_valid hvalid)
  · rw [atomic_iff_of_error hrun]
    exact leftover_eq_iff hinvalid

/-- **When a call that raises leaves the account as it was.** -/
theorem mutators_atomic_iff {M : Type} [Arith M] (m : AccountMutation M) (s : AccountState M)
    (n : AccountMutation ℚ) (t : AccountState ℚ) :
    (Local.Atomic m.run s ↔ ∀ l, m.assignments s = .ok l → ¬Local.RaisesLate l s) ∧
      (Local.Atomic n.run t ↔ ¬n.Torn t) :=
  ⟨run_atomic_iff m s, run_atomic_iff_exact n t⟩

/-- Funding with a time that has no zone has been paid when it is refused. -/
theorem refused_funding_paid :
    ¬∀ (m : AccountMutation ℚ) (s s' : AccountState ℚ) (e : PyError),
      m.run s = .error e s' → s' = s := by
  intro h
  have hrun : (AccountMutation.funding 5 ⟨0, none⟩).run fundedAccount
      = .error ⟨"ValueError", "account timestamp must include a timezone"⟩
        (fundedAccount.funded 5) := rfl
  have hcash := congrArg AccountState.cash (h _ _ _ _ hrun)
  revert hcash
  decide +kernel

end AdvisorAI
