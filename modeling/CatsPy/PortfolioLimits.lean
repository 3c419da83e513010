import CatsPy.PaperCycles
import CatsPy.PaperFills

/-!
# Portfolio limits of paper runs

The open notional of a class of symbols is what the snapshot's exposures add up
to, and a fill from flat adds its own size to every class of its symbol. An
approval leaves headroom for its notional, so a decide fill overshoots a limit
by the rounding of its quantity at most.
-/
namespace CatsPy
open PythonValues RoundingGrid

section Classes

/-- Open notional over the symbols of a class. -/
def AccountState.notionalWhere (state : AccountState) (belongs : String → Prop) [DecidablePred belongs] : ℚ :=
  state.positions.total fun position =>
    if position.isOpen ∧ belongs position.symbol then position.grossNotional else 0

namespace AccountState

variable (state : AccountState)

theorem grossNotional_eq : state.grossNotional = state.notionalWhere fun _ => True := by
  simp only [grossNotional, notionalWhere, and_true]

theorem symbolNotionals_eq_tally : state.symbolNotionals =
    OrderedDict.tally PositionState.symbol PositionState.grossNotional
      (state.positions.values.filter PositionState.isOpen) := by
  rw [OrderedDict.tally, List.foldl_filter]
  rfl

theorem sum_open (belongs : String → Prop) [DecidablePred belongs] :
    ((state.positions.values.filter PositionState.isOpen).map fun position =>
      if belongs position.symbol then position.grossNotional else 0).sum = state.notionalWhere belongs := by
  have filtered := sum_filter_map (fun position : PositionState => position.isOpen = true)
    (fun position => if belongs position.symbol then position.grossNotional else 0) state.positions.values
  simpa only [Bool.decide_eq_true, notionalWhere, OrderedDict.total, ite_and] using filtered

variable {state}

/-- The snapshot's exposures of a class, in units of the equity. -/
theorem exposures_where (funded : 0 < state.totalEquity) (belongs : String → Prop) [DecidablePred belongs] :
    ((state.symbolGrossExposures.entries.filter fun entry => belongs entry.1).map Prod.snd).sum *
      state.totalEquity = state.notionalWhere belongs := by
  have tallied := OrderedDict.sum_tally PositionState.symbol PositionState.grossNotional belongs
    (state.positions.values.filter PositionState.isOpen)
  rw [← symbolNotionals_eq_tally, sum_open] at tallied
  rw [sum_filter_map, ← tallied, symbolGrossExposures, if_neg funded.not_ge, OrderedDict.mapValues,
    List.map_map, ← List.sum_map_mul_right]
  congr 1
  apply List.map_congr_left
  intro entry _
  by_cases member : belongs entry.1
  · simp [member, funded.ne']
  · simp [member]

theorem exposure_symbol (funded : 0 < state.totalEquity) (symbol : String) :
    state.symbolGrossExposures.getD symbol 0 * state.totalEquity =
      state.notionalWhere fun other => other = symbol := by
  have tallied := OrderedDict.getD_tally PositionState.symbol PositionState.grossNotional
    (state.positions.values.filter PositionState.isOpen) symbol
  rw [← symbolNotionals_eq_tally] at tallied
  rw [← state.sum_open fun other => other = symbol, ← tallied, symbolGrossExposures, if_neg funded.not_ge]
  simp only [OrderedDict.getD, OrderedDict.get?_mapValues]
  cases state.symbolNotionals.get? symbol with
  | none => simp
  | some notional => simp [funded.ne']

end AccountState

end Classes

namespace PaperExecutionService

section Fills

variable {svc after : PaperExecutionService} {decision : TradeDecision} {cycleId : String} {ts : Datetime}
  {side : Side} {risk : RiskDecision} {price : ℚ} {result : PaperFillResult}

/-- What a fill does to a sum over the positions in which flat ones count nothing. -/
theorem total_bookFill {M : Type*} [AddCommGroup M] (measure : PositionState → M)
    (closed : ∀ position : PositionState, position.quantity = 0 → measure position = 0)
    (sound : svc.PositionsSound)
    (booked : svc.bookFill decision side risk price cycleId ts = (after, result)) :
    after.state.positions.total measure = svc.state.positions.total measure -
      measure (svc.positionFor decision.symbol ts) +
        measure (positionAfter svc decision ts side risk price) := by
  rw [bookFill_stored sound booked, OrderedDict.total_set]
  cases stored : svc.state.positions.get? (decision.symbol, paperPositionSide) with
  | none =>
      have missing : measure (svc.positionFor decision.symbol ts) = 0 :=
        closed _ (by simp [positionFor, OrderedDict.getD, stored])
      simp [missing]
  | some position => simp [positionFor, OrderedDict.getD, stored]

/-- A fill from flat adds its own size to every class of its symbol. -/
theorem notionalWhere_bookFill (belongs : String → Prop) [DecidablePred belongs] (sound : svc.PositionsSound)
    (booked : svc.bookFill decision side risk price cycleId ts = (after, result))
    (flat : (svc.positionFor decision.symbol ts).quantity = 0) (nonzero : price ≠ 0) :
    after.state.notionalWhere belongs = svc.state.notionalWhere belongs +
      if belongs decision.symbol then |signedQuantity side risk price * price| else 0 := by
  have own : (positionAfter svc decision ts side risk price).symbol = decision.symbol :=
    congrArg Prod.fst (positionAfter_sound sound decision ts side risk price).1
  have size : (positionAfter svc decision ts side risk price).quantity = signedQuantity side risk price := by
    rw [positionAfter, filledPosition, flat, zero_add]
  have notional : (positionAfter svc decision ts side risk price).notional =
      signedQuantity side risk price * price := by
    rw [positionAfter, filledPosition, flat, zero_add]
  rw [AccountState.notionalWhere, total_bookFill _ (by simp +contextual [PositionState.isOpen]) sound booked]
  rw [AccountState.notionalWhere, PositionState.isOpen, flat, own]
  simp only [PositionState.isOpen, size, PositionState.grossNotional, notional]
  rcases eq_or_ne (signedQuantity side risk price) 0 with unfilled | filled
  · simp [unfilled]
  · simp [filled, nonzero]

/-- Rounding the quantity moves the notional by half a unit of it at most. -/
theorem signedQuantity_notional (side : Side) (risk : RiskDecision) (positive : 0 ≤ risk.approvedNotional)
    (nonzero : price ≠ 0) :
    |signedQuantity side risk price * price| ≤ risk.approvedNotional + decimalPlaces / 2 * |price| := by
  have rounding := quantize_error halfEven_nearest decimalPlaces_pos (risk.approvedNotional / price)
  have size : |signedQuantity side risk price| = |quantizeHalfEven (risk.approvedNotional / price)| := by
    simp only [signedQuantity]
    split
    · rfl
    · exact abs_neg _
  have moved : |quantizeHalfEven (risk.approvedNotional / price)| ≤
      |risk.approvedNotional / price| + decimalPlaces / 2 := by
    have triangle := abs_sub_abs_le_abs_sub (quantizeHalfEven (risk.approvedNotional / price))
      (risk.approvedNotional / price)
    exact sub_le_iff_le_add'.mp (triangle.trans rounding)
  calc |signedQuantity side risk price * price|
      = |quantizeHalfEven (risk.approvedNotional / price)| * |price| := by rw [abs_mul, size]
    _ ≤ (|risk.approvedNotional / price| + decimalPlaces / 2) * |price| :=
        mul_le_mul_of_nonneg_right moved (abs_nonneg price)
    _ = risk.approvedNotional + decimalPlaces / 2 * |price| := by
        rw [add_mul, ← abs_mul, div_mul_cancel₀ _ nonzero, abs_of_nonneg positive]

theorem openPositionCount_bookFill (sound : svc.PositionsSound)
    (booked : svc.bookFill decision side risk price cycleId ts = (after, result)) :
    after.state.openPositionCount ≤
      svc.state.openPositionCount + if (svc.positionFor decision.symbol ts).isOpen then 0 else 1 := by
  have counted := total_bookFill (fun position => if position.isOpen then (1 : ℤ) else 0)
    (by simp +contextual [PositionState.isOpen]) sound booked
  simp only [AccountState.openPositionCount, counted]
  split_ifs <;> omega

end Fills

end PaperExecutionService

/-- The most positions a policy lets a fresh account open. -/
def RiskPolicy.positionLimit (policy : RiskPolicy) : ℤ := max policy.maxOpenPositions 0

/-- The half unit of quantity a fill may be rounded by, at its price. -/
def PaperFill.roundingAllowance (fill : PaperFill) : ℚ := decimalPlaces / 2 * |fill.result.fillPrice|

namespace DecisionRuntimeService

section Limits
open PaperExecutionService

/-- The limits of the policy right after a fill, on the equity just before it. -/
structure WithinLimits (kernel : RiskKernel) (fill : PaperFill) : Prop where
  gross : fill.after.state.grossNotional ≤
    kernel.policy.grossExposureSoft * fill.before.state.totalEquity + fill.roundingAllowance
  symbol : (fill.after.state.notionalWhere fun symbol => symbol = fill.symbol) ≤
    kernel.policy.symbolConcentrationCap * fill.before.state.totalEquity + fill.roundingAllowance
  cluster : ∀ cap ∈ kernel.policy.clusterCaps.get? (kernel.clusterOf fill.symbol),
    (fill.after.state.notionalWhere fun symbol => kernel.clusterOf symbol = kernel.clusterOf fill.symbol) ≤
      cap * fill.before.state.totalEquity + fill.roundingAllowance

variable {service : DecisionRuntimeService} {input : CycleInput} {svc : PaperExecutionService}
  {fill : PaperFill}

/-- A decide fill adds at most the approved notional and the rounding to every
class of its symbol. -/
theorem DecideFill.notionalWhere_le (decides : DecideFill service input svc fill)
    (sound : svc.PositionsSound) (belongs : String → Prop) [DecidablePred belongs] {approval : RiskDecision}
    (known : fill.decision.risk = some approval) (positive : 0 < approval.approvedNotional) {limit : ℚ}
    (headroom : svc.state.notionalWhere belongs + approval.approvedNotional ≤ limit) :
    fill.after.state.notionalWhere belongs ≤ limit + fill.roundingAllowance := by
  obtain ⟨feature, filled⟩ := decides.filled
  obtain ⟨side, risk, -, carried, -, nonzero, booked⟩ := applyDecision_filled filled
  obtain rfl : approval = risk := Option.some.inj (known.symm.trans carried)
  have sized := signedQuantity_notional side approval positive.le nonzero
  have price : fill.result.fillPrice = svc.applySlippage feature.referencePrice side := by
    rw [← (Prod.mk.inj booked).2]
  have added := notionalWhere_bookFill belongs sound booked decides.flat nonzero
  rw [PaperFill.roundingAllowance, price, added]
  by_cases member : belongs fill.decision.symbol
  · rw [if_pos member]
    linarith
  · rw [if_neg member]
    have allowance : 0 ≤ decimalPlaces / 2 * |svc.applySlippage feature.referencePrice side| :=
      mul_nonneg (div_nonneg decimalPlaces_pos.le (by norm_num)) (abs_nonneg _)
    linarith

theorem DecideFill.withinLimits (decides : DecideFill service input svc fill)
    (sound : svc.PositionsSound) : WithinLimits service.decisionEngine.riskKernel fill := by
  obtain ⟨signal, approval, known, own, unclustered, evaluated, approved⟩ := decides.approved
  obtain ⟨tierPolicy, -, -, -, sized⟩ := RiskKernel.evaluate_approved evaluated approved
  have funded : 0 < svc.state.totalEquity := (RiskKernel.approved_positive evaluated approved).1
  have cluster_name := RiskKernel.clusterName_of_unclustered service.decisionEngine.riskKernel signal
    (by simp [unclustered])
  have snapshot_gross : (svc.state.toSnapshot input.startedAt svc.drawdownPct).grossExposure *
      svc.state.totalEquity = svc.state.notionalWhere fun _ => True := by
    rw [← AccountState.grossNotional_eq]
    simp only [AccountState.toSnapshot, if_pos funded, div_mul_cancel₀ _ funded.ne']
  constructor
  · rw [AccountState.grossNotional_eq, decides.before]
    apply decides.notionalWhere_le sound _ known sized.positive
    rw [← snapshot_gross]
    exact sized.gross_after
  · rw [decides.before]
    apply decides.notionalWhere_le sound _ known sized.positive
    rw [← AccountState.exposure_symbol funded, ← own]
    exact sized.symbol_after
  · intro cap configured
    rw [decides.before]
    apply decides.notionalWhere_le sound _ known sized.positive
    rw [← AccountState.exposures_where funded]
    rw [← own, ← cluster_name] at configured ⊢
    exact sized.cluster_after configured

theorem DecideFill.openPositionCount_le (decides : DecideFill service input svc fill)
    (sound : svc.PositionsSound) :
    fill.after.state.openPositionCount ≤ service.decisionEngine.riskKernel.policy.maxOpenPositions := by
  obtain ⟨feature, filled⟩ := decides.filled
  obtain ⟨side, risk, -, -, -, -, booked⟩ := applyDecision_filled filled
  obtain ⟨signal, approval, -, -, -, evaluated, approved⟩ := decides.approved
  obtain ⟨tierPolicy, unvetoed, -, -, -⟩ := RiskKernel.evaluate_approved evaluated approved
  have room : svc.state.openPositionCount <
      service.decisionEngine.riskKernel.policy.maxOpenPositions :=
    (RiskKernel.accountVeto_eq_none_iff.mp unvetoed).2.2.2.2.2.2.2
  have counted := openPositionCount_bookFill sound booked
  split at counted <;> omega

theorem ExitFill.openPositionCount_le (exits : ExitFill input svc fill) (sound : svc.PositionsSound) :
    fill.after.state.openPositionCount ≤ svc.state.openPositionCount := by
  obtain ⟨feature, filled⟩ := exits.filled
  obtain ⟨side, risk, -, -, -, -, booked⟩ := applyDecision_filled filled
  obtain ⟨position, reason, built, opened, stored⟩ := exits.opened
  have counted := openPositionCount_bookFill sound booked
  have own : fill.decision.symbol = position.symbol := by
    rw [built]
    rfl
  simpa [own, positionFor, OrderedDict.getD, stored, opened] using counted

/-- What a run has kept so far: the position count in every state, the limits
after every decide fill. -/
structure LimitsKept (kernel : RiskKernel) (svc : PaperExecutionService) (history : List PaperFill) :
    Prop where
  count : svc.state.openPositionCount ≤ kernel.policy.positionLimit
  counts : ∀ fill ∈ history, fill.after.state.openPositionCount ≤ kernel.policy.positionLimit
  limits : ∀ fill ∈ history, fill.phase = .decide → WithinLimits kernel fill

theorem LimitsKept.after_fill {kernel : RiskKernel} {history : List PaperFill}
    (kept : LimitsKept kernel svc history)
    (count : fill.after.state.openPositionCount ≤ kernel.policy.positionLimit)
    (limits : fill.phase = .decide → WithinLimits kernel fill) :
    LimitsKept kernel fill.after (history ++ [fill]) where
  count := count
  counts := by
    intro earlier member
    rcases List.mem_append.mp member with old | new
    · exact kept.counts earlier old
    · rw [List.mem_singleton.mp new]
      exact count
  limits := by
    intro earlier member
    rcases List.mem_append.mp member with old | new
    · exact kept.limits earlier old
    · rw [List.mem_singleton.mp new]
      exact limits

theorem limitsKept_cycle (input : CycleInput) :
    CycleInvariant service input (LimitsKept service.decisionEngine.riskKernel) where
  journal := fun _ _ _ kept => ⟨kept.count, kept.counts, kept.limits⟩
  stamped := fun _ _ kept => ⟨kept.count, kept.counts, kept.limits⟩
  marked := by
    intro svc history features _ kept
    refine ⟨?_, kept.counts, kept.limits⟩
    simpa only [AccountState.openPositionCount, markToMarket_positions, OrderedDict.total_mapValues,
      markedUnder_isOpen] using kept.count
  exits := by
    intro svc history fill sound kept exits
    refine kept.after_fill ((exits.openPositionCount_le sound).trans kept.count) ?_
    intro decides
    rw [exits.phase] at decides
    cases decides
  decides := by
    intro svc history fill sound kept decides
    refine kept.after_fill ?_ fun _ => decides.withinLimits sound
    exact (decides.openPositionCount_le sound).trans (le_max_left _ _)

/-- From a fresh account, the position count stays within its limit and every
decide fill leaves the portfolio within the policy. -/
theorem runs_within_limits (paper : RunsPaper service) (config : PaperConfig) {state : RuntimeState}
    (fresh : state.paper = some (init config)) (inputs : List CycleInput) :
    (∀ svc ∈ (service.runCycles state inputs).paper, svc.state.openPositionCount ≤
      service.decisionEngine.riskKernel.policy.positionLimit) ∧
    ∀ fill ∈ service.runFills state inputs,
      fill.after.state.openPositionCount ≤ service.decisionEngine.riskKernel.policy.positionLimit ∧
      (fill.phase = .decide → WithinLimits service.decisionEngine.riskKernel fill) := by
  obtain ⟨after, present, -, kept⟩ := runCycles_history paper
    (fun _ => LimitsKept service.decisionEngine.riskKernel) (fun input _ => limitsKept_cycle input)
    (fun _ _ _ _ kept => kept) inputs fresh (init_positionsSound config)
    ⟨le_max_right _ _, by simp, by simp⟩
  refine ⟨?_, fun fill member => ⟨kept.counts fill member, kept.limits fill member⟩⟩
  intro svc member
  rw [present] at member
  cases member
  exact kept.count

theorem runs_within_limits_btc :
    (∀ svc ∈ (paperService.runCycles openedPaper [trendingInput]).paper, svc.state.openPositionCount ≤
      paperService.decisionEngine.riskKernel.policy.positionLimit) ∧
    ∀ fill ∈ paperService.runFills openedPaper [trendingInput],
      fill.after.state.openPositionCount ≤ paperService.decisionEngine.riskKernel.policy.positionLimit ∧
      (fill.phase = .decide → WithinLimits paperService.decisionEngine.riskKernel fill) :=
  runs_within_limits paperService_runs {} rfl [trendingInput]

/-- The shipped service with little room for exposure. -/
def cappedService : DecisionRuntimeService :=
  { paperService with
    decisionEngine :=
      { strategies := shippedStrategies
        riskKernel := configuredKernel { grossExposureSoft := 1 / 100 } configuredTiers } }

/-- A downtrend with inflated open interest: the trend strategy sells. -/
def fallingInput : CycleInput :=
  { trendingInput with
    built := fun _ symbol => .ok
      { trendingFeature symbol with priceChange1h := -6 / 100, instFutureFlow1h := -1 }
    aligned := by
      intro i symbol feature built
      cases built
      rfl }

/-- Selling at twice the price in slippage fills at a negative price, and half a
unit of quantity at that price is no allowance. -/
theorem negative_price_exceeds_limit : RunsPaper cappedService ∧
    ∃ fill ∈ cappedService.runFills { paper := some (init { slippageBps := 20000 }) } [fallingInput],
      fill.phase = .decide ∧
      cappedService.decisionEngine.riskKernel.policy.grossExposureSoft * fill.before.state.totalEquity +
        decimalPlaces / 2 * fill.result.fillPrice < fill.after.state.grossNotional := by
  refine ⟨⟨rfl, rfl⟩, ?_⟩
  have exceeds : (cappedService.runFills { paper := some (init { slippageBps := 20000 }) }
      [fallingInput]).any (fun fill => fill.phase = .decide ∧
        cappedService.decisionEngine.riskKernel.policy.grossExposureSoft * fill.before.state.totalEquity +
          decimalPlaces / 2 * fill.result.fillPrice < fill.after.state.grossNotional) = true := by
    decide +kernel
  obtain ⟨fill, member, beyond⟩ := List.any_eq_true.mp exceeds
  exact ⟨fill, member, by simpa using beyond⟩

end Limits

end DecisionRuntimeService

end CatsPy
