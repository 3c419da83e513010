import CatsPy.FundingClock
import CatsPy.KillSwitchLatch
import CatsPy.PaperConservation

/-!
# Depletion of paper equity

The depletion check looks at the wallet. It halts a depleted account as long as no
open position has moved against it by a share of its entry as large as the wallet's
share of all that is open, that is, by as much as the leverage leaves room for.
-/
namespace CatsPy
open PythonValues StateRuns

namespace PaperExecutionService

section Settling

/-- USDT is the only balance, and once it is gone trading is halted. -/
structure WalletGuarded (svc : PaperExecutionService) : Prop where
  keys : svc.state.balances.keys = [usdt]
  halted : svc.usdtBalance.walletBalance ≤ 0 → svc.state.Halted

/-- The wallet and the open profit a step leaves, and what that halts. -/
structure Settles (before after : PaperExecutionService) (wallet openPnl : ℚ) : Prop where
  keys : after.state.balances.keys = [usdt]
  balance : after.usdtBalance.walletBalance = wallet
  unrealized : after.state.totalUnrealizedPnl = openPnl
  halted : after.state.Halted ↔ before.state.Halted ∨ wallet ≤ 0

variable {svc before after : PaperExecutionService} {wallet openPnl : ℚ}

theorem totalWalletBalance_eq (keys : svc.state.balances.keys = [usdt]) :
    svc.state.totalWalletBalance = svc.usdtBalance.walletBalance := by
  obtain ⟨⟨key, balance⟩, entries, rfl⟩ := List.map_eq_singleton_iff.mp keys
  simp [AccountState.totalWalletBalance, OrderedDict.total, OrderedDict.values, usdtBalance,
    OrderedDict.getD, OrderedDict.get?, entries]

theorem Settles.guarded (settles : Settles before after wallet openPnl) : after.WalletGuarded where
  keys := settles.keys
  halted gone := settles.halted.mpr (.inr (settles.balance ▸ gone))

/-- A depleted account is halted unless the open loss alone depletes it. -/
theorem Settles.halts_iff (settles : Settles before after wallet openPnl) :
    (after.state.totalEquity ≤ 0 → after.state.Halted) ↔
      (¬ before.state.Halted → 0 < wallet → -openPnl < wallet) := by
  rw [AccountState.totalEquity, totalWalletBalance_eq settles.keys, settles.balance, settles.unrealized,
    settles.halted]
  constructor
  · intro halts running funded
    by_contra covered
    rcases halts (by linarith) with halted | gone
    · exact running halted
    · linarith
  · intro covered depleted
    by_contra running
    obtain ⟨unhalted, funded⟩ := not_or.mp running
    have loss := covered unhalted (not_le.mp funded)
    linarith

theorem syncBalance_keys (keys : svc.state.balances.keys = [usdt]) :
    svc.syncBalance.state.balances.keys = [usdt] := by
  have stored : usdt ∈ svc.state.balances.entries.map Prod.fst := by
    rw [show svc.state.balances.entries.map Prod.fst = [usdt] from keys]
    exact List.mem_singleton_self usdt
  obtain ⟨⟨key, balance⟩, found, rfl⟩ := List.mem_map.mp stored
  have kept := OrderedDict.keys_set_of_get? ((svc.state.balances.get?_eq_some_iff _ _).mpr found)
  simp only [syncBalance, syncedState]
  split
  · exact (kept _).trans keys
  · exact (kept _).trans keys

theorem syncBalance_halted_iff :
    svc.syncBalance.state.Halted ↔ svc.state.Halted ∨ svc.syncedWallet ≤ 0 := by
  simp only [syncBalance, syncedState, AccountState.Halted]
  split
  · next depleted => exact iff_of_true rfl (.inr depleted.1)
  · next alive =>
    refine ⟨.inl, fun halts => halts.elim id fun gone => ?_⟩
    by_contra running
    exact alive ⟨gone, by simpa using running⟩

/-- Writing the totals back settles the wallet. -/
theorem syncBalance_settles (svc : PaperExecutionService) (keys : svc.state.balances.keys = [usdt]) :
    Settles svc svc.syncBalance svc.syncedWallet svc.state.totalUnrealizedPnl where
  keys := syncBalance_keys keys
  balance := (syncBalance_walletSynced svc).wallet
  unrealized := by rw [AccountState.totalUnrealizedPnl, syncBalance_positions, AccountState.totalUnrealizedPnl]
  halted := syncBalance_halted_iff

end Settling

section Steps

/-- What an open position adds to the equity. -/
def openPnl (position : PositionState) : ℚ := if position.isOpen then position.unrealizedPnl else 0

variable (svc : PaperExecutionService) (features : OrderedDict String FeatureVector) (ts : Datetime)

def fundingAtMark : ℚ := ((svc.markCharges features ts).map FundingCharge.amount).sum

/-- The wallet once a mark has booked its funding. -/
def walletAtMark : ℚ :=
  if svc.fundingAtMark features ts = 0 then svc.usdtBalance.walletBalance
  else quantizeHalfUp (svc.initialBalance + svc.realizedPnl +
    (svc.fundingPnl + svc.fundingAtMark features ts) - svc.feesPaid)

/-- The positions at the prices of a mark. -/
def positionsAtMark : OrderedDict (String × String) PositionState :=
  svc.state.positions.mapValues (markedUnder features ts)

variable (decision : TradeDecision) (side : Side) (risk : RiskDecision) (fillPrice : ℚ)

/-- The wallet once a fill has realized its profit and paid its fee. -/
def walletAfterFill : ℚ :=
  let position := svc.positionFor decision.symbol ts
  let realizedDelta := (settle position.quantity position.entryPrice (signedQuantity side risk fillPrice)
    fillPrice).2
  let turnoverDelta := |quantizeHalfEven (risk.approvedNotional / fillPrice) * fillPrice|
  let feeDelta := quantizeHalfUp (turnoverDelta * svc.takerFeeBps / 10000)
  quantizeHalfUp (svc.initialBalance + (svc.realizedPnl + realizedDelta) + svc.fundingPnl -
    (svc.feesPaid + feeDelta))

/-- The positions with the filled one at its fill price. -/
def positionsAfterFill : OrderedDict (String × String) PositionState :=
  let filled := positionAfter svc decision ts side risk fillPrice
  svc.state.positions.set filled.key filled

variable {svc}

theorem markToMarket_settles (guarded : svc.WalletGuarded) (cycleId : String) :
    Settles svc (svc.markToMarket features cycleId ts) (svc.walletAtMark features ts)
      ((svc.positionsAtMark features ts).total openPnl) := by
  obtain ⟨clock, metadata, fundingDelta, marked⟩ := markToMarket_eq features ts svc cycleId
  have charged := markToMarket_charged features ts svc cycleId
  obtain rfl : fundingDelta = svc.fundingAtMark features ts := by
    have booked : (svc.markToMarket features cycleId ts).fundingPnl = svc.fundingPnl + fundingDelta := by
      rw [marked]
      split <;> rfl
    exact add_left_cancel (booked.symm.trans charged)
  rw [marked, walletAtMark]
  by_cases unfunded : svc.fundingAtMark features ts = 0
  · simp only [unfunded, ne_eq, not_true_eq_false, if_false, if_true]
    exact ⟨guarded.keys, rfl, rfl, .inl, fun halts => halts.elim id guarded.halted⟩
  · simp only [unfunded, ne_eq, not_false_eq_true, if_true, if_false]
    have collected := syncBalance_settles { svc with
      state := { svc.state with positions := svc.state.positions.mapValues (markedUnder features ts) }
      lastFundingAppliedAt := clock
      positionMetadata := metadata
      fundingPnl := svc.fundingPnl + svc.fundingAtMark features ts } guarded.keys
    exact ⟨collected.keys, collected.balance, collected.unrealized, collected.halted⟩

theorem bookFill_settles (keys : svc.state.balances.keys = [usdt]) (cycleId : String) :
    Settles svc (svc.bookFill decision side risk fillPrice cycleId ts).1
      (svc.walletAfterFill ts decision side risk fillPrice)
      ((svc.positionsAfterFill ts decision side risk fillPrice).total openPnl) := by
  have booked := syncBalance_settles { svc with
    state := svc.state.upsertPosition (positionAfter svc decision ts side risk fillPrice)
    positionMetadata := svc.filledMetadata decision (svc.positionFor decision.symbol ts).quantity
      ((svc.positionFor decision.symbol ts).quantity + signedQuantity side risk fillPrice) fillPrice ts
    lastExitTime := svc.filledExitTime decision.symbol
      ((svc.positionFor decision.symbol ts).quantity + signedQuantity side risk fillPrice) ts
    realizedPnl := svc.realizedPnl + (settle (svc.positionFor decision.symbol ts).quantity
      (svc.positionFor decision.symbol ts).entryPrice (signedQuantity side risk fillPrice) fillPrice).2
    feesPaid := svc.feesPaid + quantizeHalfUp
      (|quantizeHalfEven (risk.approvedNotional / fillPrice) * fillPrice| * svc.takerFeeBps / 10000)
    turnoverNotional := svc.turnoverNotional +
      |quantizeHalfEven (risk.approvedNotional / fillPrice) * fillPrice| } keys
  exact ⟨booked.keys, booked.balance, booked.unrealized, booked.halted⟩

theorem init_walletGuarded (config : PaperConfig) (funded : 0 < config.startingBalance) :
    (init config).WalletGuarded where
  keys := rfl
  halted gone := absurd gone (not_le.mpr funded)

theorem step_walletGuarded (svc : PaperExecutionService) (op : PaperOp) (guarded : svc.WalletGuarded) :
    (svc.step op).WalletGuarded := by
  cases op with
  | accountState now => exact ⟨guarded.keys, guarded.halted⟩
  | markToMarket features cycleId ts => exact (markToMarket_settles features ts guarded cycleId).guarded
  | applyDecision decision feature cycleId ts =>
      rcases step_applyDecision_cases svc decision cycleId ts feature with
        same | ⟨side, risk, -, -, -, -, filled⟩
      · rw [same]
        exact guarded
      · rw [filled]
        exact (bookFill_settles ts decision side risk _ guarded.keys cycleId).guarded

theorem step_keys (svc : PaperExecutionService) (op : PaperOp) (keys : svc.state.balances.keys = [usdt]) :
    (svc.step op).state.balances.keys = [usdt] := by
  cases op with
  | accountState now => exact keys
  | markToMarket features cycleId ts =>
      obtain ⟨clock, metadata, fundingDelta, marked⟩ := markToMarket_eq features ts svc cycleId
      simp only [step, marked]
      split
      · exact syncBalance_keys keys
      · exact keys
  | applyDecision decision feature cycleId ts =>
      rcases step_applyDecision_cases svc decision cycleId ts feature with
        same | ⟨side, risk, -, -, -, -, filled⟩
      · rw [same]
        exact keys
      · rw [filled]
        exact (bookFill_settles ts decision side risk _ keys cycleId).keys

end Steps

section Shares

/-- What a position was opened for. -/
def entryNotional (position : PositionState) : ℚ := |position.entryPrice * position.quantity|

/-- What its price has cost the account since the entry. -/
def lostSinceEntry (position : PositionState) : ℚ :=
  (position.entryPrice - position.markPrice) * position.quantity

def openPositions (positions : OrderedDict (String × String) PositionState) : List PositionState :=
  positions.values.filter PositionState.isOpen

def grossEntryNotional (positions : OrderedDict (String × String) PositionState) : ℚ :=
  ((openPositions positions).map entryNotional).sum

/-- The leverage is the gross entry notional over the wallet. No open position has
moved against the account by as much as one over the leverage. -/
def MovesWithinLeverage (wallet : ℚ) (positions : OrderedDict (String × String) PositionState) : Prop :=
  ∀ position ∈ openPositions positions,
    lostSinceEntry position * grossEntryNotional positions < wallet * entryNotional position

/-- Every open position has. -/
def MovesBeyondLeverage (wallet : ℚ) (positions : OrderedDict (String × String) PositionState) : Prop :=
  0 < grossEntryNotional positions ∧ ∀ position ∈ openPositions positions,
    wallet * entryNotional position ≤ lostSinceEntry position * grossEntryNotional positions

instance (wallet : ℚ) (positions : OrderedDict (String × String) PositionState) :
    Decidable (MovesWithinLeverage wallet positions) := inferInstanceAs (Decidable (∀ _ ∈ _, _))

variable {wallet : ℚ} {positions : OrderedDict (String × String) PositionState}

theorem entryNotional_le_gross {position : PositionState} (listed : position ∈ openPositions positions) :
    entryNotional position ≤ grossEntryNotional positions := by
  apply List.single_le_sum
  · intro notional member
    obtain ⟨other, -, rfl⟩ := List.mem_map.mp member
    exact abs_nonneg _
  · exact List.mem_map_of_mem listed

/-- Longs bought within the wallet never lose that much: a price stays above zero. -/
theorem movesWithin_of_unleveraged (bought : grossEntryNotional positions ≤ wallet)
    (longs : ∀ position ∈ openPositions positions,
      0 < position.entryPrice ∧ 0 < position.quantity ∧ 0 < position.markPrice) :
    MovesWithinLeverage wallet positions := by
  intro position listed
  obtain ⟨entry, quantity, mark⟩ := longs position listed
  have paid : entryNotional position = position.entryPrice * position.quantity :=
    abs_of_pos (mul_pos entry quantity)
  have value : 0 < position.markPrice * position.quantity := mul_pos mark quantity
  have lost : lostSinceEntry position < entryNotional position := by
    rw [lostSinceEntry, paid, sub_mul]
    linarith
  have notional : 0 < entryNotional position := paid ▸ mul_pos entry quantity
  have gross : 0 < grossEntryNotional positions := notional.trans_le (entryNotional_le_gross listed)
  calc lostSinceEntry position * grossEntryNotional positions
      < entryNotional position * grossEntryNotional positions := mul_lt_mul_of_pos_right lost gross
    _ ≤ entryNotional position * wallet := mul_le_mul_of_nonneg_left bought notional.le
    _ = wallet * entryNotional position := mul_comm _ _

/-- Losses within the shares of the wallet add up to less than the wallet. -/
theorem MovesWithinLeverage.covered (within : MovesWithinLeverage wallet positions) (funded : 0 < wallet) :
    ((openPositions positions).map lostSinceEntry).sum < wallet := by
  rcases List.eq_nil_or_concat (openPositions positions) with none_open | ⟨_, last, some_open⟩
  · rw [none_open]
    exact funded
  · have listed : last ∈ openPositions positions := by simp [some_open]
    have gross : 0 < grossEntryNotional positions := by
      apply ((abs_nonneg _).trans (entryNotional_le_gross listed)).lt_of_ne
      intro empty
      have loss := within last listed
      have notional : entryNotional last = 0 :=
        le_antisymm (empty ▸ entryNotional_le_gross listed) (abs_nonneg _)
      rw [← empty, notional, mul_zero, mul_zero] at loss
      exact loss.false
    have summed : ((openPositions positions).map fun position =>
        lostSinceEntry position * grossEntryNotional positions).sum <
          ((openPositions positions).map fun position => wallet * entryNotional position).sum :=
      List.sum_lt_sum_of_ne_nil (List.ne_nil_of_mem listed) _ _ within
    rw [List.sum_map_mul_right, List.sum_map_mul_left, ← grossEntryNotional] at summed
    exact lt_of_mul_lt_mul_right summed gross.le

/-- Losses beyond the shares use the wallet up. -/
theorem MovesBeyondLeverage.uncovered (beyond : MovesBeyondLeverage wallet positions) :
    wallet ≤ ((openPositions positions).map lostSinceEntry).sum := by
  obtain ⟨gross, beyond⟩ := beyond
  have summed : ((openPositions positions).map fun position => wallet * entryNotional position).sum ≤
      ((openPositions positions).map fun position =>
        lostSinceEntry position * grossEntryNotional positions).sum := List.sum_le_sum beyond
  rw [List.sum_map_mul_right, List.sum_map_mul_left, ← grossEntryNotional] at summed
  exact le_of_mul_le_mul_right summed gross

/-- The open profit is what the open positions have not lost. -/
theorem lost_eq (sound : ∀ position ∈ positions.values, position.PaperSound) :
    ((openPositions positions).map lostSinceEntry).sum = -positions.total openPnl := by
  have each : positions.values.map openPnl =
      positions.values.map fun position => if position.isOpen then -1 * lostSinceEntry position else 0 := by
    apply List.map_congr_left
    intro position stored
    rw [openPnl, (sound position stored).unrealized, lostSinceEntry]
    split
    · ring
    · rfl
  rw [OrderedDict.total, each, ← sum_filter_map, List.sum_map_mul_left]
  simp [openPositions]

end Shares

section Runs

/-- After a mark and after a fill, a depleted account is halted. -/
def HaltsWhenDepleted (svc : PaperExecutionService) : PaperOp → Prop
  | .accountState _ => True
  | .markToMarket features cycleId ts =>
      let after := svc.markToMarket features cycleId ts
      after.state.totalEquity ≤ 0 → after.state.killSwitchActive = true
  | .applyDecision decision feature cycleId ts => ∀ after result,
      svc.applyDecision decision feature cycleId ts = .ok (after, some result) →
        after.state.totalEquity ≤ 0 → after.state.killSwitchActive = true

/-- While trading goes on and the wallet is positive, the condition holds of the
wallet and of the positions at the prices of the step. -/
def AtPrices (condition : ℚ → OrderedDict (String × String) PositionState → Prop)
    (svc : PaperExecutionService) : PaperOp → Prop
  | .accountState _ => True
  | .markToMarket features _ ts => svc.state.killSwitchActive = false → 0 < svc.walletAtMark features ts →
      condition (svc.walletAtMark features ts) (svc.positionsAtMark features ts)
  | .applyDecision decision feature _ ts => ∀ side risk, svc.Fills decision feature side risk →
      let fillPrice := svc.applySlippage feature.referencePrice side
      svc.state.killSwitchActive = false → 0 < svc.walletAfterFill ts decision side risk fillPrice →
        condition (svc.walletAfterFill ts decision side risk fillPrice)
          (svc.positionsAfterFill ts decision side risk fillPrice)

theorem AtPrices.mono {first second : ℚ → OrderedDict (String × String) PositionState → Prop}
    (implied : ∀ wallet positions, 0 < wallet → first wallet positions → second wallet positions)
    {svc : PaperExecutionService} {op : PaperOp} (at_prices : svc.AtPrices first op) :
    svc.AtPrices second op := by
  cases op with
  | accountState now => trivial
  | markToMarket features cycleId ts =>
      intro running funded
      exact implied _ _ funded (at_prices running funded)
  | applyDecision decision feature cycleId ts =>
      intro side risk fills fillPrice running funded
      exact implied _ _ funded (at_prices side risk fills running funded)

/-- The wallet covers what the open positions have lost. -/
def Covers (wallet : ℚ) (positions : OrderedDict (String × String) PositionState) : Prop :=
  ((openPositions positions).map lostSinceEntry).sum < wallet

/-- One balance, halted once it is gone, and well-formed positions. -/
abbrev Accountable (svc : PaperExecutionService) : Prop := svc.WalletGuarded ∧ svc.PositionsSound

theorem step_accountable (svc : PaperExecutionService) (op : PaperOp) (kept : svc.Accountable) :
    (svc.step op).Accountable := ⟨step_walletGuarded svc op kept.1, step_positionsSound svc op kept.2⟩

/-- A depleted account is halted exactly when the wallet covers the open loss. -/
theorem Settles.covers_iff {before after : PaperExecutionService} {wallet : ℚ}
    {positions : OrderedDict (String × String) PositionState}
    (settles : Settles before after wallet (positions.total openPnl)) (sound : after.PositionsSound)
    (left : after.state.positions = positions) :
    (after.state.totalEquity ≤ 0 → after.state.Halted) ↔
      (before.state.killSwitchActive = false → 0 < wallet → Covers wallet positions) := by
  have shaped : ∀ position ∈ positions.values, position.PaperSound := by
    intro position stored
    rw [← left] at stored
    obtain ⟨key, found⟩ := (OrderedDict.mem_values_iff _ _).mp stored
    exact (sound key position found).2
  rw [settles.halts_iff, Covers, lost_eq shaped, ← Bool.not_eq_true]
  rfl

theorem haltsWhenDepleted_iff (svc : PaperExecutionService) (op : PaperOp) (kept : svc.Accountable) :
    svc.HaltsWhenDepleted op ↔ svc.AtPrices Covers op := by
  obtain ⟨guarded, sound⟩ := kept
  have sound_after := step_positionsSound svc op sound
  cases op with
  | accountState now => exact Iff.rfl
  | markToMarket features cycleId ts =>
      exact (markToMarket_settles features ts guarded cycleId).covers_iff sound_after
        (markToMarket_positions features ts svc cycleId)
  | applyDecision decision feature cycleId ts =>
      have each : ∀ side risk, svc.Fills decision feature side risk →
          let fillPrice := svc.applySlippage feature.referencePrice side
          let after := (svc.bookFill decision side risk fillPrice cycleId ts).1
          (after.state.totalEquity ≤ 0 → after.state.Halted) ↔
            (svc.state.killSwitchActive = false →
              0 < svc.walletAfterFill ts decision side risk fillPrice →
              Covers (svc.walletAfterFill ts decision side risk fillPrice)
                (svc.positionsAfterFill ts decision side risk fillPrice)) := by
        intro side risk fills
        rw [step, fills.applied cycleId ts] at sound_after
        exact (bookFill_settles ts decision side risk _ guarded.keys cycleId).covers_iff sound_after
          (bookFill_positions svc decision cycleId ts side risk _)
      constructor
      · intro halts side risk fills
        exact (each side risk fills).mp (halts _ _ (fills.applied cycleId ts))
      · intro covered after result filled
        obtain ⟨side, risk, fills, booked⟩ := fills_of_filled filled
        have halts := (each side risk fills).mpr (covered side risk fills)
        rwa [booked] at halts

/-- Along a run from a funded account, depletion halts after every mark and fill
while no open position moves beyond the leverage, and it does not at one at which
all of them do. -/
theorem depleted_equity_halts (config : PaperConfig) (funded : 0 < config.startingBalance)
    (ops : List PaperOp) :
    (Along step (AtPrices MovesWithinLeverage) (init config) ops →
      Along step HaltsWhenDepleted (init config) ops) ∧
    (Along step HaltsWhenDepleted (init config) ops →
      Along step (AtPrices fun wallet positions => ¬ MovesBeyondLeverage wallet positions)
        (init config) ops) := by
  rw [along_congr step Accountable step_accountable haltsWhenDepleted_iff ops
    ⟨init_walletGuarded config funded, init_positionsSound config⟩]
  constructor
  · exact along_mono step fun _ _ => AtPrices.mono fun _ _ funded within => within.covered funded
  · exact along_mono step fun _ _ => AtPrices.mono fun _ _ _ covers beyond => beyond.uncovered.not_gt covers

/-- With one open position the two conditions leave nothing between them. -/
theorem movesWithin_iff_of_single {wallet : ℚ} {positions : OrderedDict (String × String) PositionState}
    {position : PositionState} (single : openPositions positions = [position])
    (entered : 0 < entryNotional position) :
    MovesWithinLeverage wallet positions ↔ ¬ MovesBeyondLeverage wallet positions := by
  have gross : grossEntryNotional positions = entryNotional position := by
    simp [grossEntryNotional, single]
  simp only [MovesWithinLeverage, MovesBeyondLeverage, gross, single, List.mem_singleton, forall_eq, entered,
    true_and, not_le]

def leveragedConfig : PaperConfig := { startingBalance := 10, slippageBps := 0, takerFeeBps := 0 }

/-- A long of ten times the wallet. -/
def leveragedEntry : PaperOp := .applyDecision (marketOrder .buy 100) (quoted 100) "open" 0

def markedAt (price : ℚ) : PaperOp := .markToMarket (.ofList [("BTCUSDT", quoted price)]) "mark" 0

/-- A fall of five percent leaves half the wallet. The sale twenty percent lower uses
it up, and that halts. -/
def leveragedOps : List PaperOp :=
  [leveragedEntry, markedAt 95, .applyDecision (marketOrder .sell 80) (quoted 80) "close" 0]

theorem depleted_equity_halts_leveraged :
    Along step HaltsWhenDepleted (init leveragedConfig) leveragedOps ∧
      ((init leveragedConfig).run leveragedOps).state.totalEquity = -10 := by
  refine ⟨(depleted_equity_halts leveragedConfig (by decide) leveragedOps).1 ⟨?_, ?_, ?_, trivial⟩,
    by decide +kernel⟩
  · intro side risk fills
    cases fills.sided
    cases fills.sized
    decide +kernel
  · intro running funded
    decide +kernel
  · intro side risk fills
    cases fills.sided
    cases fills.sized
    decide +kernel

/-- A fall in price alone takes four times the wallet, which no check looks at. -/
theorem leveraged_loss_not_halted :
    let after := (init leveragedConfig).run [leveragedEntry, markedAt 50]
    after.state.totalEquity = -40 ∧ after.state.killSwitchActive = false ∧
      ¬ Along step HaltsWhenDepleted (init leveragedConfig) [leveragedEntry, markedAt 50] := by
  have equity : ((init leveragedConfig).run [leveragedEntry, markedAt 50]).state.totalEquity = -40 := by
    decide +kernel
  have running : ((init leveragedConfig).run [leveragedEntry, markedAt 50]).state.killSwitchActive = false := by
    decide +kernel
  refine ⟨equity, running, fun halts => ?_⟩
  have halted := halts.2.1 (equity.trans_le (by norm_num))
  exact absurd (running.symm.trans halted) (by decide)

end Runs

end PaperExecutionService

end CatsPy
