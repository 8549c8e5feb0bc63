import AdvisorAI.Execution.AccountSteps

/-!
# The peak of the equity

Every call takes the new equity into the peak, and the drawdown is read off the peak. A peak of
zero counts as none, and a holding that has not been marked counts as nothing: `peak_kept_iff`
says in which runs the peak is the greatest equity there has been, and `transfer_frame_iff` when
cash that comes or goes leaves the drawdown alone.
-/

namespace AdvisorAI

open Lib AccountState RiskKernel

namespace AccountState

variable (s : AccountState ℚ)

/-- The peak; one that has not been assigned is zero. -/
def peak : ℚ := s.peakEquity.getD 0

theorem peakOr_zero : s.peakOr 0 = s.peak := by
  unfold peakOr peak
  cases s.peakEquity with
  | none => rfl
  | some p =>
    show (if decide (p = 0) = true then 0 else p) = p
    split
    · next h => exact (of_decide_eq_true h).symm
    · rfl

theorem raisedPeak_eq : s.raisedPeak = if s.peak = 0 then s.worth else Max.max s.peak s.worth := by
  unfold raisedPeak peakOr peak
  cases s.peakEquity with
  | none =>
    show Max.max s.worth s.worth = if (0 : ℚ) = 0 then s.worth else _
    rw [max_self, if_pos rfl]
  | some p =>
    show Max.max (if decide (p = 0) = true then s.worth else p) s.worth
      = if p = 0 then s.worth else Max.max p s.worth
    by_cases h : p = 0
    · rw [if_pos (decide_eq_true h), if_pos h, max_self]
    · rw [if_neg (by rw [decide_eq_true_eq]; exact h), if_neg h]

theorem drawdown_eq : s.drawdown = .ok (Max.max 0 (s.peak - s.worth)) := by
  have hmax : Arith.max (0 : ℚ) (s.peakOr 0 - s.worth) = Max.max 0 (s.peakOr 0 - s.worth) :=
    arith_max _ _
  unfold drawdown
  rw [equity_exact, ← peakOr_zero]
  exact congrArg Except.ok hmax

end AccountState

theorem Posted.peak_eq {change : ℚ} {s s' : AccountState ℚ} (h : Posted change s s') :
    s'.worth = s.worth + change ∧
      s'.peakEquity = some (if s.peak = 0 then s'.worth else Max.max s.peak s'.worth) := by
  obtain ⟨s₁, t, rfl, hpeak, hworth⟩ := h
  have hsame : s₁.peak = s.peak := congrArg (Option.getD · 0) hpeak
  refine ⟨hworth, ?_⟩
  rw [← hsame]
  exact congrArg some s₁.raisedPeak_eq

/-! ## Transfers -/

section Transfers

variable {s : AccountState ℚ} {amount : ℚ} {at' : Datetime}

theorem applyCashTransfer_posts (hamount : amount ≠ 0) (haware : Aware at') :
    ∃ s', Local.after (applyCashTransfer amount at') s = s' ∧ Posted amount s s' ∧
      s'.dailyRealizedPnl = s.dailyRealizedPnl ∧ s'.rollingRealizedPnl = s.rollingRealizedPnl := by
  obtain ⟨t, ht⟩ := haware
  have hrun : applyCashTransfer amount at' s
      = .ok () (AccountState.advanced { s with cash := s.cash + amount } t) := by
    unfold applyCashTransfer
    rw [passed (refused_transfer amount) hamount, ht]
    exact advance_ok { s with cash := s.cash + amount } t
  refine ⟨_, ?_, posted_advanced (s := s) (u := { s with cash := s.cash + amount }) rfl
    (worth_cash rfl rfl rfl) t, rfl, rfl⟩
  unfold Local.after
  rw [hrun]

theorem applyCashTransfer_refused (h : ¬(amount ≠ 0 ∧ Aware at')) :
    Local.after (applyCashTransfer amount at') s = s := by
  obtain ⟨e, he⟩ := run_invalid (s := s) (AccountMutation.cashTransfer amount at') h
  have herror : applyCashTransfer amount at' s = .error e s := he
  unfold Local.after
  rw [herror]

theorem loss_eq_iff {peak worth : ℚ} (hamount : amount ≠ 0) :
    Max.max 0 (peak - (worth + amount)) = Max.max 0 (peak - worth) ↔
      peak ≤ worth ∧ peak ≤ worth + amount := by
  constructor
  · intro h
    rcases le_total 0 (peak - (worth + amount)) with hafter | hafter
    · rw [max_eq_right hafter] at h
      rcases le_total 0 (peak - worth) with hbefore | hbefore
      · rw [max_eq_right hbefore] at h
        exact absurd (by linarith) hamount
      · rw [max_eq_left hbefore] at h
        exact ⟨by linarith, by linarith⟩
    · rw [max_eq_left hafter] at h
      have hbefore : peak - worth ≤ 0 := h ▸ le_max_right _ _
      exact ⟨by linarith, by linarith⟩
  · rintro ⟨hbefore, hafter⟩
    rw [max_eq_left (by linarith), max_eq_left (by linarith)]

theorem Posted.drawdown_iff {s' : AccountState ℚ} (h : Posted amount s s')
    (hamount : amount ≠ 0) : s'.drawdown = s.drawdown ↔
      s.peak ≤ s.worth ∧ (s.peak = 0 ∨ s.peak ≤ s.worth + amount) := by
  obtain ⟨hworth, hpeak⟩ := h.peak_eq
  have hraised : s'.peak = if s.peak = 0 then s'.worth else Max.max s.peak s'.worth :=
    congrArg (Option.getD · 0) hpeak
  rw [drawdown_eq, drawdown_eq, Except.ok.injEq, hraised]
  by_cases hzero : s.peak = 0
  · -- The new equity becomes the peak, whatever it is.
    rw [if_pos hzero, sub_self, max_self, hzero, zero_sub, eq_comm, max_eq_left_iff, neg_nonpos]
    simp
  · rw [if_neg hzero, or_iff_right hzero]
    have hloss : Max.max 0 (Max.max s.peak s'.worth - s'.worth) = Max.max 0 (s.peak - s'.worth) := by
      rcases le_total s.peak s'.worth with hle | hle
      · rw [max_eq_right hle, sub_self, max_self, max_eq_left (by linarith)]
      · rw [max_eq_left hle]
    rw [hloss, hworth]
    exact loss_eq_iff hamount

/-- **When a transfer leaves the losses alone.** It is refused, or there is no drawdown before it
and, unless the peak is zero, none after it. -/
theorem transfer_frame_iff (s : AccountState ℚ) (amount : ℚ) (at' : Datetime) :
    ((Local.after (applyCashTransfer amount at') s).drawdown = s.drawdown ∧
      (Local.after (applyCashTransfer amount at') s).dailyRealizedPnl = s.dailyRealizedPnl ∧
      (Local.after (applyCashTransfer amount at') s).rollingRealizedPnl = s.rollingRealizedPnl) ↔
    amount = 0 ∨ ¬Aware at' ∨
      s.peak ≤ s.worth ∧ (s.peak = 0 ∨ s.peak ≤ s.worth + amount) := by
  by_cases hvalid : amount ≠ 0 ∧ Aware at'
  · obtain ⟨s', hafter, hposted, hdaily, hrolling⟩ :=
      applyCashTransfer_posts (s := s) hvalid.1 hvalid.2
    rw [hafter, or_iff_right hvalid.1, or_iff_right (not_not.mpr hvalid.2),
      ← hposted.drawdown_iff hvalid.1]
    exact ⟨fun h => h.1, fun h => ⟨h, hdaily, hrolling⟩⟩
  · rw [applyCashTransfer_refused hvalid]
    refine iff_of_true ⟨rfl, rfl, rfl⟩ ?_
    by_cases hzero : amount = 0
    · exact .inl hzero
    · exact .inr (.inl fun haware => hvalid ⟨hzero, haware⟩)

/-- Cash taken out of an account at its peak is a drawdown. -/
theorem withdrawal_drawn_down :
    ¬∀ (cash : ℚ) (t : Timestamp) (s₀ s : AccountState ℚ) (ms : List (AccountMutation ℚ))
      (amount : ℚ) (at' : Datetime), (AccountState.new cash t).postInit = .ok s₀ →
      Runs.runFrom accountStep s₀ ms = some s →
      (Local.after (applyCashTransfer amount at') s).drawdown = s.drawdown := by
  intro h
  have hsame := h 100 0 fundedAccount _ [] (-10) (.ofTimestamp 0) fundedAccount_created rfl
  revert hsame
  decide +kernel

end Transfers

/-! ## Runs -/

/-- An account with the greatest equity it has had. -/
structure PeakHistory where
  highest : ℚ
  account : AccountState ℚ

/-- The account as it is created, its peak taken for an equity it has had. -/
def PeakHistory.opened (s : AccountState ℚ) : PeakHistory where
  highest := Max.max s.peak s.worth
  account := s

/-- A call of a mutator, whether it returns or raises. -/
def PeakHistory.step (h : PeakHistory) (m : AccountMutation ℚ) : Option PeakHistory :=
  let account := Local.after m.run h.account
  some ⟨Max.max h.highest account.worth, account⟩

/-- A fill at the price of the mark. Without a mark any price may be the fair one. -/
def AccountMutation.FairFill (s : AccountState ℚ) : AccountMutation ℚ → Prop
  | .fill f _ instrumentId =>
    s.marks.get (strip instrumentId) = none ∨ s.marks.get (strip instrumentId) = some f.price
  | _ => False

/-- A call keeps the peak the greatest equity there has been. -/
structure PeakKept (h : PeakHistory) (m : AccountMutation ℚ) : Prop where
  rises : h.account.peak ≤ (Local.after m.run h.account).peak
  highest : (Local.after m.run h.account).peak
    = Max.max h.highest (Local.after m.run h.account).worth
  fill : m.FairFill h.account → (Local.after m.run h.account).peak ≤ h.account.peak

/-- A fill of an instrument that has not been marked. -/
def AccountMutation.UnmarkedFill (s : AccountState ℚ) : AccountMutation ℚ → Prop
  | .fill _ _ instrumentId => s.marks.get (strip instrumentId) = none
  | _ => False

/-- A valid call neither leaves a loss on a peak of zero nor is the sale of an unmarked instrument
for more than its fee and the drawdown. -/
def PeakSafe (h : PeakHistory) (m : AccountMutation ℚ) : Prop :=
  m.Valid → (h.account.peak = 0 → 0 ≤ h.account.worth + m.effect h.account) ∧
    (m.UnmarkedFill h.account → h.account.worth + m.effect h.account ≤ h.account.peak)

/-- The peak is the greatest equity there has been. -/
structure AtPeak (h : PeakHistory) : Prop where
  assigned : h.account.peakEquity = some h.highest
  worth : h.account.worth ≤ h.highest

variable {h h' : PeakHistory}

theorem AtPeak.peak (hh : AtPeak h) : h.account.peak = h.highest :=
  congrArg (Option.getD · 0) hh.assigned

variable {m : AccountMutation ℚ}

theorem effect_marked_fill {s : AccountState ℚ} (hfair : m.FairFill s)
    (hmarked : ¬m.UnmarkedFill s) : m.effect s ≤ 0 := by
  cases m with
  | fill f side instrumentId =>
    have hmark : s.marks.getD (strip instrumentId) 0 = f.price := by
      unfold Dict.getD
      rw [hfair.resolve_left hmarked]
      rfl
    have hfee : 0 ≤ f.fee := not_lt.mp (of_decide_eq_false f.fee_nonneg)
    show signedQuantity side f.quantity * (s.marks.getD (strip instrumentId) 0 - f.price) - f.fee
      ≤ 0
    rw [hmark, sub_self, mul_zero, zero_sub]
    exact neg_nonpos.mpr hfee
  | _ => exact hfair.elim

theorem fair_of_unmarked {s : AccountState ℚ} (h : m.UnmarkedFill s) : m.FairFill s := by
  cases m with
  | fill f side instrumentId => exact .inl h
  | _ => exact h.elim

theorem leftover_worth (m : AccountMutation ℚ) (s : AccountState ℚ) :
    (m.leftover s).peakEquity = s.peakEquity ∧ (m.leftover s).worth ≤ s.worth := by
  cases m with
  | funding amount at' =>
    rw [leftover_funding]
    split
    · next hamount =>
      have hworth : (s.funded amount).worth = s.worth + -amount :=
        worth_cash (sub_eq_add_neg _ _) rfl rfl
      refine ⟨rfl, ?_⟩
      rw [hworth]
      linarith
    · exact ⟨rfl, le_rfl⟩
  | margin used available at' =>
    rw [leftover_margin]
    split
    · exact ⟨rfl, le_rfl⟩
    · exact ⟨rfl, le_rfl⟩
  | _ => exact ⟨rfl, le_rfl⟩

/-- **A call at the peak.** -/
theorem peakKept_iff (hh : AtPeak h) (m : AccountMutation ℚ) : PeakKept h m ↔ PeakSafe h m := by
  rcases run_cases m h.account with ⟨hvalid, s', hrun, hposted⟩ | ⟨hinvalid, e, hrun⟩
  · have hafter : Local.after m.run h.account = s' := by
      unfold Local.after
      rw [hrun]
    obtain ⟨hworth, hassigned⟩ := hposted.peak_eq
    have hraised : s'.peak
        = if h.account.peak = 0 then s'.worth else Max.max h.account.peak s'.worth :=
      congrArg (Option.getD · 0) hassigned
    have hbefore : h.account.worth ≤ h.account.peak := hh.peak ▸ hh.worth
    -- A marked fill at the price of its mark cannot take the equity over the peak.
    have hfills : (m.FairFill h.account → s'.worth ≤ h.account.peak) ↔
        (m.UnmarkedFill h.account → s'.worth ≤ h.account.peak) := by
      constructor
      · intro hfair hunmarked
        exact hfair (fair_of_unmarked hunmarked)
      · intro hunmarked hfair
        by_cases hmark : m.UnmarkedFill h.account
        · exact hunmarked hmark
        · have hcost := effect_marked_fill hfair hmark
          rw [hworth]
          linarith
    have hsafe : PeakSafe h m ↔ (h.account.peak = 0 → 0 ≤ s'.worth) ∧
        (m.FairFill h.account → s'.worth ≤ h.account.peak) := by
      rw [hfills, hworth]
      exact ⟨fun hs => hs hvalid, fun hs _ => hs⟩
    rw [hsafe]
    by_cases hzero : h.account.peak = 0
    · rw [if_pos hzero] at hraised
      constructor
      · intro hkept
        have hrises := hkept.rises
        rw [hafter, hraised, hzero] at hrises
        refine ⟨fun _ => hrises, ?_⟩
        intro hfair
        have hfill := hkept.fill hfair
        rwa [hafter, hraised] at hfill
      · rintro ⟨hnonneg, hfair⟩
        have hpos := hnonneg hzero
        refine ⟨?_, ?_, ?_⟩
        · rw [hafter, hraised, hzero]
          exact hpos
        · rw [hafter, hraised, ← hh.peak, hzero, max_eq_right hpos]
        · rw [hafter, hraised]
          exact hfair
    · rw [if_neg hzero] at hraised
      constructor
      · intro hkept
        refine ⟨fun h0 => absurd h0 hzero, ?_⟩
        intro hfair
        have hfill := hkept.fill hfair
        rw [hafter, hraised] at hfill
        exact (le_max_right _ _).trans hfill
      · rintro ⟨-, hfair⟩
        refine ⟨?_, ?_, ?_⟩
        · rw [hafter, hraised]
          exact le_max_left _ _
        · rw [hafter, hraised, ← hh.peak]
        · rw [hafter, hraised]
          exact fun hf => max_le le_rfl (hfair hf)
  · have hafter : Local.after m.run h.account = m.leftover h.account := by
      unfold Local.after
      rw [hrun]
    obtain ⟨hpeak, hworth⟩ := leftover_worth m h.account
    have hsame : (m.leftover h.account).peak = h.account.peak := congrArg (Option.getD · 0) hpeak
    refine iff_of_true ⟨?_, ?_, ?_⟩ fun hvalid => absurd hvalid hinvalid
    · rw [hafter, hsame]
    · rw [hafter, hsame, hh.peak, max_eq_left (hworth.trans hh.worth)]
    · intro _
      rw [hafter, hsame]

theorem atPeak_step (hh : AtPeak h) (hkept : PeakKept h m) (hstep : h.step m = some h') :
    AtPeak h' := by
  cases hstep
  have hhighest := hkept.highest
  refine ⟨?_, le_max_right _ _⟩
  have hassigned : (Local.after m.run h.account).peakEquity ≠ none := by
    rcases run_cases m h.account with ⟨-, s', hrun, hposted⟩ | ⟨-, e, hrun⟩
    · unfold Local.after
      rw [hrun]
      exact fun hnone => by simp [hposted.peak_eq.2] at hnone
    · unfold Local.after
      rw [hrun]
      show (m.leftover h.account).peakEquity ≠ none
      rw [(leftover_worth m h.account).1, hh.assigned]
      exact Option.some_ne_none _
  obtain ⟨p, hp⟩ := Option.ne_none_iff_exists'.mp hassigned
  have hpeak : (Local.after m.run h.account).peak = p := congrArg (Option.getD · 0) hp
  rw [hp, ← hpeak, hhighest]

theorem opened_worth {created s : AccountState ℚ} (hinit : created.postInit = .ok s)
    (hpositions : created.positions = Dict.empty) :
    s.worth = created.cash ∧ s.peakEquity = some (created.peakEquity.getD created.cash) := by
  rw [postInit_ok hinit]
  refine ⟨?_, rfl⟩
  rw [hpositions]
  exact add_zero _

def markedPurchase : List (AccountMutation ℚ) :=
  [.mark "crypto:BTC-USD" 5 (.ofTimestamp 0),
    .fill (bookFill "v-1" 10 5 1 (by decide +kernel) paperFillId_normal) "buy" "crypto:BTC-USD"]

end AdvisorAI
