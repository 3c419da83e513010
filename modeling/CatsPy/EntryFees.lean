import CatsPy.EquityDepletion
import CatsPy.HighWaterMark
import CatsPy.RiskMonotonicity
import CatsPy.SnapshotExposures

/-!
# What an entry costs

Opening a position from flat costs its fee and nothing else: no profit is realized
and none is open at the price of the fill. The account that has entered has less
equity, more exposure and the same high-water mark, and what the kernel still
approves there it would have approved before, for at least as much.
-/
namespace CatsPy
open PythonValues RoundingGrid

namespace PaperExecutionService

section Fees

variable (svc : PaperExecutionService) (side : Side) (referencePrice : ℚ)

/-- The fee of an order of that notional. -/
def entryFee (notional : ℚ) : ℚ :=
  let fillPrice := svc.applySlippage referencePrice side
  let turnoverDelta := |quantizeHalfEven (notional / fillPrice) * fillPrice|
  quantizeHalfUp (turnoverDelta * svc.takerFeeBps / 10000)

/-- The drawdown the account would have at another equity. -/
def drawdownAt (equity : ℚ) : ℚ :=
  if svc.sessionHighEquity ≤ 0 then 0
  else (equity - svc.sessionHighEquity) / svc.sessionHighEquity * 100

variable {svc}

theorem drawdownAt_mono {lower higher : ℚ} (le : lower ≤ higher) :
    svc.drawdownAt lower ≤ svc.drawdownAt higher := by
  unfold drawdownAt
  split
  · exact le_rfl
  · next positive =>
    have moved := div_le_div_of_nonneg_right (sub_le_sub_right le svc.sessionHighEquity)
      (not_le.mp positive).le
    linarith

theorem entryFee_onGrid (notional : ℚ) : OnGrid decimalPlaces (svc.entryFee side referencePrice notional) :=
  quantize_onGrid _ _ _

theorem entryFee_nonneg (charged : 0 ≤ svc.takerFeeBps) (notional : ℚ) :
    0 ≤ svc.entryFee side referencePrice notional :=
  quantize_nonneg halfUp_nearest decimalPlaces_pos
    (div_nonneg (mul_nonneg (abs_nonneg _) charged) (by norm_num))

/-- A larger order pays no smaller fee. -/
theorem entryFee_mono (charged : 0 ≤ svc.takerFeeBps) {smaller larger : ℚ} (nonneg : 0 ≤ smaller)
    (le : smaller ≤ larger) :
    svc.entryFee side referencePrice smaller ≤ svc.entryFee side referencePrice larger := by
  simp only [entryFee]
  generalize svc.applySlippage referencePrice side = price
  have turnover (notional : ℚ) (size : 0 ≤ notional) : |quantizeHalfEven (notional / price) * price| =
      quantizeHalfEven (notional / |price|) * |price| := by
    have counted := abs_quantize halfEven_nearest halfEven_neg decimalPlaces_pos (notional / price)
    rw [abs_mul, quantizeHalfEven, counted, abs_div, abs_of_nonneg size, quantizeHalfEven]
  have quantities : quantizeHalfEven (smaller / |price|) ≤ quantizeHalfEven (larger / |price|) :=
    quantize_mono halfEven_nearest decimalPlaces_pos (div_le_div_of_nonneg_right le (abs_nonneg price))
  apply quantize_mono halfUp_nearest decimalPlaces_pos
  rw [turnover smaller nonneg, turnover larger (nonneg.trans le)]
  have values := mul_le_mul_of_nonneg_right quantities (abs_nonneg price)
  exact div_le_div_of_nonneg_right (mul_le_mul_of_nonneg_right values charged) (by norm_num)

end Fees

section Burdens

/-- The second account is the first one after it has entered: no more equity, no less
exposure, and all else the kernel and the fees depend on as it was. -/
structure Burdened (before after : PaperExecutionService) : Prop where
  equity : after.state.totalEquity ≤ before.state.totalEquity
  high : after.sessionHighEquity = before.sessionHighEquity
  halted : before.state.Halted → after.state.Halted
  mismatch : after.state.stateMismatchCount = before.state.stateMismatchCount
  failures : after.state.reconcileFailureCount = before.state.reconcileFailureCount
  stream : after.state.lastUserStreamEventAt = before.state.lastUserStreamEventAt
  notional : ∀ (belongs : String → Prop) [DecidablePred belongs],
    before.state.notionalWhere belongs ≤ after.state.notionalWhere belongs
  count : before.state.openPositionCount ≤ after.state.openPositionCount
  slippage : after.slippageBps = before.slippageBps
  fee : after.takerFeeBps = before.takerFeeBps

variable {before middle after : PaperExecutionService}

theorem Burdened.refl (svc : PaperExecutionService) : svc.Burdened svc :=
  ⟨le_rfl, rfl, id, rfl, rfl, rfl, fun _ _ => le_rfl, le_rfl, rfl, rfl⟩

theorem Burdened.trans (first : before.Burdened middle) (second : middle.Burdened after) :
    before.Burdened after where
  equity := second.equity.trans first.equity
  high := second.high.trans first.high
  halted := second.halted ∘ first.halted
  mismatch := second.mismatch.trans first.mismatch
  failures := second.failures.trans first.failures
  stream := second.stream.trans first.stream
  notional belongs _ := (first.notional belongs).trans (second.notional belongs)
  count := first.count.trans second.count
  slippage := second.slippage.trans first.slippage
  fee := second.fee.trans first.fee

theorem Burdened.journalled (svc : PaperExecutionService) (journal : JsonlStorage) :
    svc.Burdened { svc with journal } :=
  ⟨le_rfl, rfl, id, rfl, rfl, rfl, fun _ _ => le_rfl, le_rfl, rfl, rfl⟩

theorem Burdened.drawdownPct_eq (burdened : before.Burdened after) :
    after.drawdownPct = before.drawdownAt after.state.totalEquity := by
  rw [drawdownPct, drawdownAt, burdened.high]

theorem Burdened.drawdown (burdened : before.Burdened after) : after.drawdownPct ≤ before.drawdownPct := by
  rw [burdened.drawdownPct_eq]
  exact drawdownAt_mono burdened.equity

theorem Burdened.entryFee_eq (burdened : before.Burdened after) (side : Side) (referencePrice notional : ℚ) :
    after.entryFee side referencePrice notional = before.entryFee side referencePrice notional := by
  simp only [entryFee, applySlippage, burdened.slippage, burdened.fee]

/-- To the kernel the account that has entered is strained. -/
theorem Burdened.strained (burdened : before.Burdened after) (funded : 0 < after.state.totalEquity)
    (now : Datetime) : (before.state.toSnapshot now before.drawdownPct).Strained
      (after.state.toSnapshot now after.drawdownPct) := by
  have funded_before := funded.trans_le burdened.equity
  have shares (belongs : String → Prop) [DecidablePred belongs] :
      before.state.notionalWhere belongs / before.state.totalEquity ≤
        after.state.notionalWhere belongs / after.state.totalEquity := by
    have open_notional : 0 ≤ after.state.notionalWhere belongs := by
      apply List.sum_nonneg
      intro notional member
      obtain ⟨position, -, rfl⟩ := List.mem_map.mp member
      split
      · exact position.grossNotional_nonneg
      · exact le_rfl
    exact div_le_div₀ open_notional (burdened.notional belongs) funded burdened.equity
  constructor
  · exact burdened.equity
  · exact burdened.halted
  · simp only [AccountState.toSnapshot, burdened.mismatch, imp_self]
  · simp only [AccountState.toSnapshot, burdened.failures, le_refl]
  · simp only [AccountState.toSnapshot, AccountState.userStreamStaleSeconds, burdened.stream, le_refl]
  · exact burdened.drawdown
  · exact le_rfl
  · simp only [AccountState.toSnapshot, if_pos funded, if_pos funded_before, AccountState.grossNotional_eq]
    exact shares fun _ => True
  · exact burdened.count
  · intro symbol
    simp only [AccountState.toSnapshot]
    rw [eq_div_of_mul_eq funded.ne' (AccountState.exposure_symbol funded symbol),
      eq_div_of_mul_eq funded_before.ne' (AccountState.exposure_symbol funded_before symbol)]
    exact shares fun other => other = symbol

end Burdens

section Entries

/-- Well-formed positions, one balance that agrees with the totals, and equity under the mark. -/
structure Squared (svc : PaperExecutionService) : Prop where
  sound : svc.PositionsSound
  keys : svc.state.balances.keys = [usdt]
  synced : svc.WalletSynced
  marked : svc.Marked

theorem step_squared (svc : PaperExecutionService) (op : PaperOp) (squared : svc.Squared) :
    (svc.step op).Squared where
  sound := step_positionsSound svc op squared.sound
  keys := step_keys svc op squared.keys
  synced := step_walletSynced svc op squared.synced
  marked := step_marked svc op squared.marked

instance (svc : PaperExecutionService) : Decidable svc.WalletSynced :=
  decidable_of_iff (svc.usdtBalance.walletBalance = svc.syncedWallet ∧
      svc.usdtBalance.availableBalance = svc.syncedWallet ∧ svc.usdtBalance.crossWalletBalance = svc.syncedWallet)
    ⟨fun ⟨wallet, available, cross⟩ => ⟨wallet, available, cross⟩,
      fun synced => ⟨synced.wallet, synced.available, synced.crossWallet⟩⟩

theorem Squared.journalled {svc : PaperExecutionService} (squared : svc.Squared) (journal : JsonlStorage) :
    Squared { svc with journal } :=
  ⟨squared.sound, squared.keys, ⟨squared.synced.wallet, squared.synced.available, squared.synced.crossWallet⟩,
    squared.marked⟩

/-- Stamping an account under its mark changes nothing a burden is about. -/
theorem Burdened.stamped {svc : PaperExecutionService} (marked : svc.Marked) {ts : Datetime}
    (fresh : svc.state.lastUserStreamEventAt = some ts) : svc.Burdened (svc.accountState ts) :=
  ⟨le_rfl, max_eq_right marked, id, rfl, rfl, fresh.symm, fun _ _ => le_rfl, le_rfl, rfl, rfl⟩

variable {svc after : PaperExecutionService} {decision : TradeDecision} {cycleId : String} {ts : Datetime}
  {side : Side} {risk : RiskDecision} {referencePrice : ℚ} {result : PaperFillResult}

/-- From flat nothing is realized, and the entry price is the price of the fill. -/
theorem settle_from_flat {price : ℚ} (grid : OnGrid decimalPlaces price) (oldEntryPrice signed : ℚ) :
    settle 0 oldEntryPrice signed price = (if signed = 0 then 0 else price, 0) := by
  by_cases none_filled : signed = 0
  · simp [settle, weightedEntryPrice, none_filled]
  · have average : |signed| * price / |signed| = price := mul_div_cancel_left₀ price (abs_ne_zero.mpr none_filled)
    simp [settle, weightedEntryPrice, none_filled, average, quantizeHalfUp_of_onGrid grid]

theorem applySlippage_onGrid (svc : PaperExecutionService) (price : ℚ) (side : Side) :
    OnGrid decimalPlaces (svc.applySlippage price side) := quantize_onGrid _ _ _

/-- An entry opens no profit. -/
theorem openPnl_entered (flat : (svc.positionFor decision.symbol ts).quantity = 0) :
    openPnl (positionAfter svc decision ts side risk (svc.applySlippage referencePrice side)) = 0 := by
  have entry := settle_from_flat (applySlippage_onGrid svc referencePrice side)
    (svc.positionFor decision.symbol ts).entryPrice
    (signedQuantity side risk (svc.applySlippage referencePrice side))
  rw [openPnl, positionAfter, flat, entry]
  simp only [filledPosition, zero_add, PositionState.isOpen]
  by_cases none_filled : signedQuantity side risk (svc.applySlippage referencePrice side) = 0
  · simp [none_filled]
  · simp [none_filled]

theorem walletAfterFill_entered (flat : (svc.positionFor decision.symbol ts).quantity = 0) :
    svc.walletAfterFill ts decision side risk (svc.applySlippage referencePrice side) =
      quantizeHalfUp (svc.initialBalance + svc.realizedPnl + svc.fundingPnl - svc.feesPaid -
        svc.entryFee side referencePrice risk.approvedNotional) := by
  have realized := congrArg Prod.snd (settle_from_flat (applySlippage_onGrid svc referencePrice side)
    (svc.positionFor decision.symbol ts).entryPrice
    (signedQuantity side risk (svc.applySlippage referencePrice side)))
  simp only [walletAfterFill, flat, realized, add_zero, entryFee, sub_add_eq_sub_sub]

theorem syncBalance_counters (svc : PaperExecutionService) :
    svc.syncBalance.state.stateMismatchCount = svc.state.stateMismatchCount ∧
      svc.syncBalance.state.reconcileFailureCount = svc.state.reconcileFailureCount := by
  simp only [syncBalance, syncedState]
  split <;> exact ⟨rfl, rfl⟩

variable (squared : svc.Squared) (charged : 0 ≤ svc.takerFeeBps)
  (flat : (svc.positionFor decision.symbol ts).quantity = 0)
  (booked : svc.bookFill decision side risk (svc.applySlippage referencePrice side) cycleId ts = (after, result))

include squared flat booked

theorem unrealized_entered : after.state.totalUnrealizedPnl = svc.state.totalUnrealizedPnl := by
  have closed : ∀ position : PositionState, position.quantity = 0 → openPnl position = 0 := by
    simp +contextual [openPnl, PositionState.isOpen]
  have moved := total_bookFill openPnl closed squared.sound booked
  rw [openPnl_entered flat, closed _ flat, sub_zero, add_zero] at moved
  exact moved

theorem equity_entered : after.state.totalEquity = svc.state.totalUnrealizedPnl +
    svc.walletAfterFill ts decision side risk (svc.applySlippage referencePrice side) := by
  have settles := bookFill_settles ts decision side risk (svc.applySlippage referencePrice side)
    squared.keys cycleId
  rw [booked] at settles
  rw [AccountState.totalEquity, totalWalletBalance_eq settles.keys, settles.balance,
    unrealized_entered squared flat booked, add_comm]

/-- An entry opens one position, unless its quantity is rounded away. -/
theorem count_entered : after.state.openPositionCount =
    svc.state.openPositionCount + if result.resultingQuantity = 0 then 0 else 1 := by
  have quantity := bookFill_resultingQuantity svc decision side risk
    (svc.applySlippage referencePrice side) cycleId ts
  rw [booked, ← positionFor_quantity svc decision.symbol ts] at quantity
  have own : (positionAfter svc decision ts side risk (svc.applySlippage referencePrice side)).quantity =
      result.resultingQuantity := quantity.symm
  have counted := total_bookFill (fun position => if position.isOpen then (1 : ℤ) else 0)
    (by simp +contextual [PositionState.isOpen]) squared.sound booked
  rw [AccountState.openPositionCount, counted, PositionState.isOpen, PositionState.isOpen, flat, own]
  by_cases rounded_away : result.resultingQuantity = 0
  · simp [rounded_away, AccountState.openPositionCount, PositionState.isOpen]
  · simp [rounded_away, AccountState.openPositionCount, PositionState.isOpen]

omit squared in
/-- A quantity that is rounded away pays no fee. -/
theorem fee_rounded_away (unopened : result.resultingQuantity = 0) :
    svc.entryFee side referencePrice risk.approvedNotional = 0 := by
  have quantity := bookFill_resultingQuantity svc decision side risk
    (svc.applySlippage referencePrice side) cycleId ts
  rw [booked, ← positionFor_quantity svc decision.symbol ts, flat, zero_add, unopened] at quantity
  have nothing : quantizeHalfEven (risk.approvedNotional / svc.applySlippage referencePrice side) = 0 := by
    rw [signedQuantity] at quantity
    split at quantity
    · exact quantity.symm
    · exact neg_eq_zero.mp quantity.symm
  simp only [entryFee, nothing, zero_mul, abs_zero, zero_div]
  exact quantizeHalfUp_of_onGrid (onGrid_zero decimalPlaces)

include charged

theorem equity_entered_le : after.state.totalEquity ≤ svc.state.totalEquity := by
  rw [equity_entered squared flat booked, AccountState.totalEquity, totalWalletBalance_eq squared.keys,
    squared.synced.wallet, syncedWallet, walletAfterFill_entered flat, add_comm]
  have paid : svc.initialBalance + svc.realizedPnl + svc.fundingPnl - svc.feesPaid -
      svc.entryFee side referencePrice risk.approvedNotional ≤
        svc.initialBalance + svc.realizedPnl + svc.fundingPnl - svc.feesPaid :=
    sub_le_self _ (entryFee_nonneg side referencePrice charged _)
  have rounded : quantizeHalfUp _ ≤ quantizeHalfUp _ := quantize_mono halfUp_nearest decimalPlaces_pos paid
  linarith

/-- Unless it halts, an entry costs exactly its fee. -/
theorem equity_entered_eq (running : ¬ after.state.Halted) : after.state.totalEquity =
    svc.state.totalEquity - svc.entryFee side referencePrice risk.approvedNotional := by
  have settles := bookFill_settles ts decision side risk (svc.applySlippage referencePrice side)
    squared.keys cycleId
  rw [booked] at settles
  have left : 0 < svc.walletAfterFill ts decision side risk (svc.applySlippage referencePrice side) :=
    not_le.mp fun gone => running (settles.halted.mpr (.inr gone))
  rw [equity_entered squared flat booked, AccountState.totalEquity, totalWalletBalance_eq squared.keys,
    squared.synced.wallet, syncedWallet]
  rw [walletAfterFill_entered flat] at left ⊢
  have fee := entryFee_nonneg side referencePrice charged risk.approvedNotional
  have kept := ((quantize_halfUp_pos_iff decimalPlaces_pos _).mp left).trans' (half_pos decimalPlaces_pos).le
  have rounded : quantizeHalfUp _ = quantizeHalfUp _ - _ := quantize_halfUp_sub decimalPlaces_pos
    (entryFee_onGrid side referencePrice risk.approvedNotional) (by linarith) kept
  rw [rounded]
  ring

theorem burdened_entered (nonzero : svc.applySlippage referencePrice side ≠ 0)
    (stamped : svc.state.lastUserStreamEventAt = some ts) : svc.Burdened after := by
  have less := equity_entered_le squared charged flat booked
  have settles := bookFill_settles ts decision side risk (svc.applySlippage referencePrice side)
    squared.keys cycleId
  have raised : after.sessionHighEquity = max after.state.totalEquity svc.sessionHighEquity := by
    rw [← (Prod.mk.inj booked).1]
    rfl
  have counters : after.state.stateMismatchCount = svc.state.stateMismatchCount ∧
      after.state.reconcileFailureCount = svc.state.reconcileFailureCount ∧
      after.state.lastUserStreamEventAt = some ts := by
    rw [← (Prod.mk.inj booked).1]
    exact ⟨(syncBalance_counters _).1, (syncBalance_counters _).2, rfl⟩
  have settings : after.slippageBps = svc.slippageBps ∧ after.takerFeeBps = svc.takerFeeBps := by
    rw [← (Prod.mk.inj booked).1]
    exact ⟨rfl, rfl⟩
  rw [booked] at settles
  refine ⟨less, raised.trans (max_eq_right (less.trans squared.marked)),
    fun halted => settles.halted.mpr (.inl halted), counters.1, counters.2.1, counters.2.2.trans stamped.symm,
    ?_, ?_, settings.1, settings.2⟩
  · intro belongs _
    rw [notionalWhere_bookFill belongs squared.sound booked flat nonzero]
    split
    · exact le_add_of_nonneg_right (abs_nonneg _)
    · exact (add_zero _).ge
  · rw [count_entered squared flat booked]
    split <;> omega

omit squared charged flat booked

/-- An entry and the stamp after it: what they leave, what they cost, and whose exit clock
they may restart. -/
structure EntersAt (svc after : PaperExecutionService) (symbol : String) (result : PaperFillResult) (fee : ℚ) :
    Prop where
  burdened : svc.Burdened after
  squared : after.Squared
  count : after.state.openPositionCount =
    svc.state.openPositionCount + if result.resultingQuantity = 0 then 0 else 1
  cost : ¬ after.state.Halted → after.state.totalEquity = svc.state.totalEquity - fee
  unopened : result.resultingQuantity = 0 → fee = 0
  exits : ∀ other ≠ symbol, after.lastExitTime.get? other = svc.lastExitTime.get? other

theorem applyDecision_entered (squared : svc.Squared) (charged : 0 ≤ svc.takerFeeBps)
    (fresh : svc.state.lastUserStreamEventAt = some ts) (flat : svc.heldQuantity decision.symbol = 0)
    (side_eq : decision.side = some side) (risk_eq : decision.risk = some risk) {feature : FeatureVector}
    (filled : svc.applyDecision decision feature cycleId ts = .ok (after, some result)) :
    EntersAt svc (after.accountState ts) decision.symbol result
      (svc.entryFee side feature.referencePrice risk.approvedNotional) := by
  obtain ⟨same_side, same_risk, fills, booked⟩ := fills_of_filled filled
  obtain rfl : side = same_side := Option.some.inj (side_eq.symm.trans fills.sided)
  obtain rfl : risk = same_risk := Option.some.inj (risk_eq.symm.trans fills.sized)
  rw [← positionFor_quantity svc decision.symbol ts] at flat
  have paid := burdened_entered squared charged flat booked fills.nonzero fresh
  have squared_after : after.Squared := by
    have stepped := step_squared svc (.applyDecision decision feature cycleId ts) squared
    simpa only [step, filled] using stepped
  -- The stamp leaves positions, balances and the switch alone.
  have counted := count_entered squared flat booked
  have costs := equity_entered_eq squared charged flat booked
  constructor
  · exact paid.trans (.stamped squared_after.marked (paid.stream.trans fresh))
  · exact step_squared after (.accountState ts) squared_after
  · exact counted
  · exact costs
  · exact fee_rounded_away flat booked
  · intro other elsewhere
    have moved := bookFill_lastExitTime booked
    rw [show (after.accountState ts).lastExitTime = after.lastExitTime from rfl, moved, filledExitTime]
    split
    · exact OrderedDict.get?_set_of_ne _ _ elsewhere
    · rfl

end Entries

end PaperExecutionService

end CatsPy
