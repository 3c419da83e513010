import CatsPy.AverageCost
import CatsPy.PaperPositions

/-!
# Conservation of the paper ledger

The wallet is the rounded sum of what was booked, and realized profit less the
book value of the positions is the cash the fills moved. Position bookkeeping
is average-cost accounting at eight decimals, so the general conservation bound
applies fill by fill.
-/
namespace CatsPy
open PythonValues RoundingGrid StateRuns

namespace PaperExecutionService

section Wallet

/-- The three balances agree with the booked totals. -/
structure WalletSynced (svc : PaperExecutionService) : Prop where
  wallet : svc.usdtBalance.walletBalance = svc.syncedWallet
  available : svc.usdtBalance.availableBalance = svc.syncedWallet
  crossWallet : svc.usdtBalance.crossWalletBalance = svc.syncedWallet

theorem init_walletSynced (config : PaperConfig) (grid : OnGrid decimalPlaces config.startingBalance) :
    (init config).WalletSynced := by
  have synced : (init config).syncedWallet = config.startingBalance := by
    simpa [syncedWallet, init] using quantizeHalfUp_of_onGrid grid
  have balance : (init config).usdtBalance =
      { asset := usdt, walletBalance := config.startingBalance,
        availableBalance := config.startingBalance, crossWalletBalance := config.startingBalance,
        updatedAt := config.createdAt } := by
    simp [usdtBalance, init, AccountState.upsertBalance, OrderedDict.getD]
  constructor <;> rw [synced, balance]

theorem syncBalance_walletSynced (svc : PaperExecutionService) : svc.syncBalance.WalletSynced := by
  have balance : svc.syncBalance.usdtBalance = { svc.usdtBalance with
      walletBalance := svc.syncedWallet, availableBalance := svc.syncedWallet,
      crossWalletBalance := svc.syncedWallet } := by
    simp only [usdtBalance, syncBalance, syncedState]
    split <;> simp [OrderedDict.getD, AccountState.activateKillSwitch]
  constructor <;> rw [balance] <;> rfl

theorem step_walletSynced (svc : PaperExecutionService) (op : PaperOp) (synced : svc.WalletSynced) :
    (svc.step op).WalletSynced := by
  cases op with
  | accountState now => exact ⟨synced.wallet, synced.available, synced.crossWallet⟩
  | markToMarket features cycleId ts =>
      obtain ⟨clock, metadata, fundingDelta, marked⟩ := markToMarket_eq features ts svc cycleId
      simp only [step, marked]
      by_cases unfunded : fundingDelta = 0
      · simp only [unfunded, ne_eq, not_true_eq_false, if_false, add_zero]
        exact ⟨synced.wallet, synced.available, synced.crossWallet⟩
      · simp only [ne_eq, unfunded, not_false_eq_true, if_true]
        have collected := syncBalance_walletSynced { svc with
          state := { svc.state with
            positions := svc.state.positions.mapValues (markedUnder features ts) }
          lastFundingAppliedAt := clock
          positionMetadata := metadata
          fundingPnl := svc.fundingPnl + fundingDelta }
        exact ⟨collected.wallet, collected.available, collected.crossWallet⟩
  | applyDecision decision feature cycleId ts =>
      rcases step_applyDecision_cases svc decision cycleId ts feature with
        same | ⟨side, risk, -, -, -, -, filled⟩
      · rw [same]; exact synced
      · rw [filled]
        simp only [bookFill]
        exact ⟨(syncBalance_walletSynced _).wallet, (syncBalance_walletSynced _).available,
          (syncBalance_walletSynced _).crossWallet⟩

end Wallet

section Fills

structure FillEvent where
  signedFillQuantity : ℚ
  fillPrice : ℚ
  oldQuantity : ℚ
  resultingQuantity : ℚ

/-- The fills of one operation, read off the call's own result. -/
def fillEvents (svc : PaperExecutionService) : PaperOp → List FillEvent
  | .applyDecision decision feature cycleId ts =>
      match svc.applyDecision decision feature cycleId ts with
      | .ok (_, some result) =>
          [{ signedFillQuantity :=
              if decision.side = some .buy then result.fillQuantity else -result.fillQuantity
             fillPrice := result.fillPrice
             oldQuantity := (svc.positionFor decision.symbol ts).quantity
             resultingQuantity := result.resultingQuantity }]
      | _ => []
  | _ => []

abbrev fills (svc : PaperExecutionService) (ops : List PaperOp) : List FillEvent :=
  trace step fillEvents svc ops

namespace FillEvent

def cashFlow (fill : FillEvent) : ℚ := -(fill.signedFillQuantity * fill.fillPrice)

/-- The fill enlarges a position that was open on the same side. -/
def Adds (fill : FillEvent) : Prop := AverageCost.Adds fill.oldQuantity fill.signedFillQuantity

instance (fill : FillEvent) : Decidable fill.Adds := by unfold Adds; infer_instance

def roundingAllowance (fill : FillEvent) : ℚ :=
  if fill.Adds then decimalPlaces / 2 * |fill.resultingQuantity| else 0

end FillEvent

def entryValue (position : PositionState) : ℚ := position.entryPrice * position.quantity

/-- Entry price times quantity, over all positions. -/
def bookValue (svc : PaperExecutionService) : ℚ := svc.state.positions.total entryValue

theorem settle_eq_applyFill (oldQuantity oldEntryPrice signedFillQuantity fillPrice : ℚ) :
    settle oldQuantity oldEntryPrice signedFillQuantity fillPrice =
      ((AverageCost.applyFill quantizeHalfUp ⟨oldQuantity, oldEntryPrice⟩ signedFillQuantity
          fillPrice).1.cost,
        (AverageCost.applyFill quantizeHalfUp ⟨oldQuantity, oldEntryPrice⟩ signedFillQuantity
          fillPrice).2) := by
  simp only [settle, AverageCost.applyFill, weightedEntryPrice, AverageCost.averageCost,
    AverageCost.reducedCost, quantitySign, AverageCost.signOf]
  split_ifs <;> rfl

theorem bookFill_bookValue {svc : PaperExecutionService} (sound : svc.PositionsSound)
    (decision : TradeDecision) (cycleId : String) (ts : Datetime) (side : Side) (risk : RiskDecision)
    (fillPrice : ℚ) :
    (svc.bookFill decision side risk fillPrice cycleId ts).1.bookValue =
      svc.bookValue - entryValue (svc.positionFor decision.symbol ts) +
        entryValue (positionAfter svc decision ts side risk fillPrice) := by
  have stored : ((svc.state.positions.get? (decision.symbol, paperPositionSide)).map entryValue).getD 0 =
      entryValue (svc.positionFor decision.symbol ts) := by
    cases found : svc.state.positions.get? (decision.symbol, paperPositionSide) <;>
      simp [positionFor, OrderedDict.getD, found, entryValue]
  rw [bookValue, bookFill_positions, OrderedDict.total_set,
    (positionAfter_sound sound decision ts side risk fillPrice).1, stored, bookValue]

/-- A fill is one step of average-cost accounting on its position. -/
theorem bookFill_drift {svc : PaperExecutionService} (sound : svc.PositionsSound)
    (decision : TradeDecision) (cycleId : String) (ts : Datetime) (side : Side) (risk : RiskDecision)
    (fillPrice : ℚ) :
    let filled := (svc.bookFill decision side risk fillPrice cycleId ts).1
    filled.realizedPnl - filled.bookValue - (svc.realizedPnl - svc.bookValue) +
        signedQuantity side risk fillPrice * fillPrice =
      AverageCost.imbalance quantizeHalfUp
        ⟨(svc.positionFor decision.symbol ts).quantity, (svc.positionFor decision.symbol ts).entryPrice⟩
        (signedQuantity side risk fillPrice) fillPrice := by
  have realized : (svc.bookFill decision side risk fillPrice cycleId ts).1.realizedPnl =
      svc.realizedPnl + (settle (svc.positionFor decision.symbol ts).quantity
        (svc.positionFor decision.symbol ts).entryPrice (signedQuantity side risk fillPrice)
        fillPrice).2 := rfl
  simp only [bookFill_bookValue sound, realized, positionAfter, filledPosition, entryValue,
    settle_eq_applyFill, AverageCost.imbalance, AverageCost.Holding.book]
  rw [AverageCost.applyFill_quantity]
  ring

theorem fillEvents_bookFill {svc : PaperExecutionService} {decision : TradeDecision}
    {feature : FeatureVector} {cycleId : String} {ts : Datetime} {side : Side} {risk : RiskDecision}
    (side_eq : decision.side = some side)
    (filled : svc.applyDecision decision feature cycleId ts =
      .ok ((svc.bookFill decision side risk (svc.applySlippage feature.referencePrice side) cycleId ts).1,
        some (svc.bookFill decision side risk (svc.applySlippage feature.referencePrice side)
          cycleId ts).2)) :
    svc.fillEvents (.applyDecision decision feature cycleId ts) =
      [{ signedFillQuantity := signedQuantity side risk (svc.applySlippage feature.referencePrice side)
         fillPrice := svc.applySlippage feature.referencePrice side
         oldQuantity := (svc.positionFor decision.symbol ts).quantity
         resultingQuantity := (svc.positionFor decision.symbol ts).quantity +
          signedQuantity side risk (svc.applySlippage feature.referencePrice side) }] := by
  simp only [fillEvents, filled, side_eq, Option.some.injEq]
  rfl

/-- What one operation creates or destroys is at most the rounding it is allowed. -/
theorem step_drift (svc : PaperExecutionService) (op : PaperOp) (sound : svc.PositionsSound) :
    |(svc.step op).realizedPnl - (svc.step op).bookValue - (svc.realizedPnl - svc.bookValue) +
        -((svc.fillEvents op).map FillEvent.cashFlow).sum| ≤
      ((svc.fillEvents op).map FillEvent.roundingAllowance).sum := by
  cases op with
  | accountState now =>
      have realized : (svc.accountState now).realizedPnl = svc.realizedPnl := rfl
      have book : (svc.accountState now).bookValue = svc.bookValue := rfl
      simp [step, fillEvents, realized, book]
  | markToMarket features cycleId ts =>
      have realized : (svc.markToMarket features cycleId ts).realizedPnl = svc.realizedPnl := by
        obtain ⟨clock, metadata, fundingDelta, marked⟩ := markToMarket_eq features ts svc cycleId
        rw [marked]
        split <;> rfl
      have book : (svc.markToMarket features cycleId ts).bookValue = svc.bookValue := by
        have kept : (fun position => entryValue (markedUnder features ts position)) = entryValue := by
          funext position
          rcases markedUnder_cases features ts position with same | ⟨mark, marked⟩
          · rw [same]
          · rw [marked]; rfl
        rw [bookValue, markToMarket_positions, OrderedDict.total_mapValues, kept, bookValue]
      simp [step, fillEvents, realized, book]
  | applyDecision decision feature cycleId ts =>
      rcases applyDecision_cases svc decision cycleId ts feature with
        ignored | ⟨error, raised⟩ | ⟨side, risk, side_eq, -, -, -, filled⟩
      · simp [step, fillEvents, ignored]
      · simp [step, fillEvents, raised]
      · have stepped : svc.step (.applyDecision decision feature cycleId ts) =
            (svc.bookFill decision side risk (svc.applySlippage feature.referencePrice side)
              cycleId ts).1 := by simp [step, filled]
        have on_grid : quantizeHalfUp (svc.applySlippage feature.referencePrice side) =
            svc.applySlippage feature.referencePrice side :=
          quantizeHalfUp_of_onGrid (quantize_onGrid _ _ _)
        have bound := AverageCost.imbalance_bound quantizeHalfUp
          ⟨(svc.positionFor decision.symbol ts).quantity,
            (svc.positionFor decision.symbol ts).entryPrice⟩
          (signedQuantity side risk (svc.applySlippage feature.referencePrice side))
          _ (decimalPlaces / 2) on_grid quantizeHalfUp_error
        rw [← bookFill_drift sound decision cycleId ts side risk] at bound
        rw [stepped, fillEvents_bookFill side_eq filled]
        simpa [FillEvent.cashFlow, FillEvent.roundingAllowance, FillEvent.Adds] using bound

end Fills

/-- The ledger neither creates nor loses money over any run of operations. -/
theorem run_conserves (config : PaperConfig) (grid : OnGrid decimalPlaces config.startingBalance)
    (ops : List PaperOp) :
    let svc := (init config).run ops
    let netCashFlow := (((init config).fills ops).map FillEvent.cashFlow).sum
    svc.usdtBalance.walletBalance =
        quantizeHalfUp (svc.initialBalance + svc.realizedPnl + svc.fundingPnl - svc.feesPaid) ∧
      |svc.realizedPnl - svc.bookValue - netCashFlow| ≤
        (((init config).fills ops).map FillEvent.roundingAllowance).sum ∧
      ((∀ fill ∈ (init config).fills ops, ¬ fill.Adds) →
        svc.realizedPnl - svc.bookValue = netCashFlow) := by
  intro svc netCashFlow
  have synced : svc.WalletSynced :=
    run_invariant step WalletSynced step_walletSynced _ ops (init_walletSynced config grid)
  have drift : |svc.realizedPnl - svc.bookValue - netCashFlow| ≤
      (((init config).fills ops).map FillEvent.roundingAllowance).sum := by
    have bound := run_drift step PositionsSound step_positionsSound
      (fun svc => svc.realizedPnl - svc.bookValue)
      (fun svc op => -((svc.fillEvents op).map FillEvent.cashFlow).sum)
      (fun svc op => ((svc.fillEvents op).map FillEvent.roundingAllowance).sum)
      step_drift (init config) ops (init_positionsSound config)
    have start : (init config).realizedPnl - (init config).bookValue = 0 := by
      simp [init, bookValue, AccountState.upsertBalance]
    have flow : stepSum step (fun svc op => -((svc.fillEvents op).map FillEvent.cashFlow).sum)
        (init config) ops = -netCashFlow := by
      rw [show netCashFlow = _ from sum_trace step fillEvents FillEvent.cashFlow (init config) ops]
      exact stepSum_neg step _ (init config) ops
    rw [start, flow, sub_zero, ← sub_eq_add_neg] at bound
    rwa [fills, sum_trace]
  refine ⟨synced.wallet, drift, ?_⟩
  intro no_addition
  have allowed_nothing : (((init config).fills ops).map FillEvent.roundingAllowance).sum = 0 := by
    apply List.sum_eq_zero
    intro allowance member
    obtain ⟨fill, listed, rfl⟩ := List.mem_map.mp member
    exact if_neg (no_addition fill listed)
  rw [allowed_nothing] at drift
  exact sub_eq_zero.mp (abs_nonpos_iff.mp drift)

/-- Buy at 100, mark at 101, then sell through zero into a short. -/
def reversalOps : List PaperOp :=
  [.applyDecision (marketOrder .buy 1000) (quoted 100) "c1" 0,
    .markToMarket (.ofList [("BTCUSDT", quoted 101)]) "c2" 60000000,
    .applyDecision (marketOrder .sell 1500) (quoted 101) "c2" 60000000]

theorem run_conserves_reversal :
    let svc := (init {}).run reversalOps
    svc.usdtBalance.walletBalance =
        quantizeHalfUp (svc.initialBalance + svc.realizedPnl + svc.fundingPnl - svc.feesPaid) ∧
      svc.realizedPnl - svc.bookValue = (((init {}).fills reversalOps).map FillEvent.cashFlow).sum := by
  have grid : OnGrid decimalPlaces (10000 : ℚ) := ⟨1000000000000, by norm_num [decimalPlaces]⟩
  have conserved := run_conserves {} grid reversalOps
  exact ⟨conserved.1, conserved.2.2 (by decide +kernel)⟩

end PaperExecutionService

end CatsPy
