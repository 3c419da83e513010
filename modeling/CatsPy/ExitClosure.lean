import CatsPy.ExitEvaluator
import CatsPy.PaperPositions

/-!
# Exits against the paper ledger

The evaluator sizes an exit at the mark; the ledger divides that notional by a
slipped, rounded fill price. The position closes exactly when the price gap is
absorbed by the rounding of the quantity.
-/
namespace CatsPy
open PythonValues RoundingGrid StateRuns

namespace PaperExecutionService

section Fills

variable (svc : PaperExecutionService) (decision : TradeDecision) (cycleId : String) (ts : Datetime)

/-- The position is flat, its metadata is gone, the exit time is stamped and
one position fewer is open. -/
structure Closed (before after : PaperExecutionService) (symbol : String) (ts : Datetime) : Prop where
  flat : ∃ position, after.state.positions.get? (symbol, paperPositionSide) = some position ∧
    position.quantity = 0
  metadata : after.positionMetadata.get? symbol = none
  exitTime : after.lastExitTime.get? symbol = some ts
  openCount : after.state.openPositionCount = before.state.openPositionCount - 1

/-- The call fills the decision and the fill closes the position. -/
def FillCloses (feature : FeatureVector) : Prop :=
  ∃ after fill, svc.applyDecision decision feature cycleId ts = .ok (after, some fill) ∧
    Closed svc after decision.symbol ts

theorem fillCloses_of_filled {svc : PaperExecutionService} {decision : TradeDecision}
    {feature : FeatureVector} {cycleId : String} {ts : Datetime} {after : PaperExecutionService}
    {fill : PaperFillResult}
    (filled : svc.applyDecision decision feature cycleId ts = .ok (after, some fill)) :
    svc.FillCloses decision cycleId ts feature ↔ Closed svc after decision.symbol ts := by
  constructor
  · rintro ⟨after', fill', filled', closed⟩
    rw [filled] at filled'
    cases filled'
    exact closed
  · intro closed
    exact ⟨after, fill, filled, closed⟩

def openIndicator (position : PositionState) : ℤ := if position.isOpen then 1 else 0

/-- A fill closes an open position exactly when it takes the quantity to zero. -/
theorem bookFill_closed_iff {svc : PaperExecutionService} (sound : svc.PositionsSound)
    (decision : TradeDecision) {position : PositionState}
    (stored : svc.state.positions.get? (decision.symbol, paperPositionSide) = some position)
    (opened : position.isOpen = true) (cycleId : String) (ts : Datetime) (side : Side)
    (risk : RiskDecision) (fillPrice : ℚ) :
    Closed svc (svc.bookFill decision side risk fillPrice cycleId ts).1 decision.symbol ts ↔
      position.quantity + signedQuantity side risk fillPrice = 0 := by
  have current : svc.positionFor decision.symbol ts = position := by
    simp [positionFor, OrderedDict.getD, stored]
  have key := (positionAfter_sound sound decision ts side risk fillPrice).1
  have quantity_after : (positionAfter svc decision ts side risk fillPrice).quantity =
      position.quantity + signedQuantity side risk fillPrice := by rw [← current]; rfl
  have positions_after := bookFill_positions svc decision cycleId ts side risk fillPrice
  rw [key] at positions_after
  constructor
  · rintro ⟨⟨after, found, flat⟩, -, -, -⟩
    rw [positions_after, OrderedDict.get?_set_self] at found
    cases found
    rw [← quantity_after, flat]
  · intro flat
    have metadata_after :
        (svc.bookFill decision side risk fillPrice cycleId ts).1.positionMetadata =
          svc.positionMetadata.pop decision.symbol := by
      change svc.filledMetadata decision (svc.positionFor decision.symbol ts).quantity
        ((svc.positionFor decision.symbol ts).quantity + signedQuantity side risk fillPrice)
        fillPrice ts = _
      simp [current, flat, filledMetadata]
    have exits_after : (svc.bookFill decision side risk fillPrice cycleId ts).1.lastExitTime =
        svc.lastExitTime.set decision.symbol ts := by
      change svc.filledExitTime decision.symbol
        ((svc.positionFor decision.symbol ts).quantity + signedQuantity side risk fillPrice) ts = _
      simp [current, flat, filledExitTime]
    have was_open : openIndicator position = 1 := by simp [openIndicator, opened]
    have now_flat : openIndicator (positionAfter svc decision ts side risk fillPrice) = 0 := by
      simp [openIndicator, PositionState.isOpen, quantity_after, flat]
    refine ⟨⟨_, ?_, quantity_after.trans flat⟩, ?_, ?_, ?_⟩
    · rw [positions_after, OrderedDict.get?_set_self]
    · rw [metadata_after, OrderedDict.get?_pop_self]
    · rw [exits_after, OrderedDict.get?_set_self]
    · change OrderedDict.total openIndicator _ = OrderedDict.total openIndicator _ - 1
      rw [positions_after, OrderedDict.total_set, stored]
      simp [was_open, now_flat]

end Fills

section Slippage

/-- The mark price moved by the slippage against the exit, in whole ticks. -/
def slippedTicks (slippageBps price : ℚ) (side : Side) : ℤ :=
  ⌊price / decimalPlaces * slippageMultiplier slippageBps side + 1 / 2⌋

/-- Twice the quantity in ticks times the tick gap stays within the slipped
price; at equality the quantity must be an even number of ticks. -/
def SlippageAbsorbed (slippageBps price quantity : ℚ) (side : Side) : Prop :=
  let slipped : ℚ := slippedTicks slippageBps price side
  let drift := 2 * (|quantity| / decimalPlaces) * |price / decimalPlaces - slipped|
  drift < slipped ∨ drift = slipped ∧ ∃ m : ℤ, |quantity| = 2 * m * decimalPlaces

theorem slippageMultiplier_nonneg {slippageBps : ℚ} (nonneg : 0 ≤ slippageBps)
    (bounded : slippageBps < 10000) (side : Side) : 0 ≤ slippageMultiplier slippageBps side := by
  unfold slippageMultiplier
  split <;> linarith

theorem applySlippage_eq_ticks {svc : PaperExecutionService} (nonneg : 0 ≤ svc.slippageBps)
    (bounded : svc.slippageBps < 10000) {price : ℚ} (priced : 0 < price) (side : Side) :
    svc.applySlippage price side = slippedTicks svc.slippageBps price side * decimalPlaces := by
  have multiplier := slippageMultiplier_nonneg nonneg bounded side
  have scaled : price * slippageMultiplier svc.slippageBps side / decimalPlaces =
      price / decimalPlaces * slippageMultiplier svc.slippageBps side := by ring
  have size : 0 ≤ price / decimalPlaces * slippageMultiplier svc.slippageBps side :=
    mul_nonneg (div_nonneg priced.le decimalPlaces_pos.le) multiplier
  simp only [applySlippage, quantizeHalfUp, quantize, halfUp, scaled, if_pos size, slippedTicks]

theorem slippedTicks_nonneg {slippageBps : ℚ} (nonneg : 0 ≤ slippageBps)
    (bounded : slippageBps < 10000) {price : ℚ} (priced : 0 < price) (side : Side) :
    0 ≤ slippedTicks slippageBps price side := by
  have multiplier := slippageMultiplier_nonneg nonneg bounded side
  have size : 0 ≤ price / decimalPlaces * slippageMultiplier slippageBps side :=
    mul_nonneg (div_nonneg priced.le decimalPlaces_pos.le) multiplier
  exact Int.floor_nonneg.mpr (by linarith)

/-- A notional taken at the mark buys its own quantity back at the slipped price
exactly when the slippage is absorbed. -/
theorem quantity_rebought_iff {quantity : ℚ} (grid : OnGrid decimalPlaces quantity) (price : ℚ)
    {ticks : ℤ} (positive : 0 < ticks) :
    quantizeHalfEven (|price * quantity| / (ticks * decimalPlaces)) = |quantity| ↔
      let drift := 2 * (|quantity| / decimalPlaces) * |(|price|) / decimalPlaces - ticks|
      drift < ticks ∨ drift = ticks ∧ ∃ m : ℤ, |quantity| = 2 * m * decimalPlaces := by
  obtain ⟨n, rfl⟩ := grid
  have unit := decimalPlaces_pos
  have size : |(n : ℚ) * decimalPlaces| = (|n| : ℤ) * decimalPlaces := by
    rw [abs_mul, abs_of_pos unit, Int.cast_abs]
  have count : |(n : ℚ) * decimalPlaces| / decimalPlaces = (|n| : ℤ) := by
    rw [size, mul_div_cancel_right₀ _ unit.ne']
  have ratio : |price * (n * decimalPlaces)| / (ticks * decimalPlaces) / decimalPlaces =
      (|n| : ℤ) * (|price| / decimalPlaces) / ticks := by
    rw [abs_mul, size]
    field_simp
  have parity : (∃ m : ℤ, |(n : ℚ) * decimalPlaces| = 2 * m * decimalPlaces) ↔ Even |n| := by
    rw [size, even_iff_exists_two_mul]
    constructor
    · rintro ⟨m, equal⟩
      exact ⟨m, by exact_mod_cast mul_right_cancel₀ unit.ne' equal⟩
    · rintro ⟨m, equal⟩
      exact ⟨m, by rw [equal]; push_cast; ring⟩
  have rounded : quantizeHalfEven (|price * (n * decimalPlaces)| / (ticks * decimalPlaces)) =
      |(n : ℚ) * decimalPlaces| ↔ halfEven ((|n| : ℤ) * (|price| / decimalPlaces) / ticks) = |n| := by
    rw [quantizeHalfEven, quantize, ratio, size]
    constructor
    · intro equal
      exact_mod_cast mul_right_cancel₀ unit.ne' equal
    · intro equal
      rw [equal]
  rw [rounded, halfEven_rescaled_iff (abs_nonneg n) _ (Int.cast_pos.mpr positive), count, parity]

/-- Without slippage a price on the grid is its own fill price. -/
theorem zero_slippage_absorbed {price : ℚ} (priced : 0 < price) (grid : OnGrid decimalPlaces price)
    (quantity : ℚ) (side : Side) : SlippageAbsorbed 0 price quantity side := by
  obtain ⟨n, rfl⟩ := grid
  have unit := decimalPlaces_pos
  have ticks : (n : ℚ) * decimalPlaces / decimalPlaces = n := mul_div_cancel_right₀ _ unit.ne'
  have multiplier : slippageMultiplier 0 side = 1 := by simp [slippageMultiplier]
  have slipped : slippedTicks 0 (n * decimalPlaces) side = n := by
    rw [slippedTicks, ticks, multiplier, mul_one]
    exact floor_half_int n
  left
  rw [slipped, ticks, sub_self, abs_zero, mul_zero]
  exact pos_of_mul_pos_left priced unit.le

end Slippage

section Exits
open PositionExitEvaluator

/-- The exit order takes a position to zero exactly when it fills its whole size. -/
theorem exit_flattens_iff {position : PositionState} (sound : position.PaperSound)
    (opened : position.isOpen = true) (risk : RiskDecision) (fillPrice : ℚ) :
    position.quantity + signedQuantity (closeSide position) risk fillPrice = 0 ↔
      quantizeHalfEven (risk.approvedNotional / fillPrice) = |position.quantity| := by
  have nonzero : position.quantity ≠ 0 := by simpa [PositionState.isOpen] using opened
  rcases lt_or_gt_of_ne nonzero with short | long
  · have side : closeSide position = .buy := by
      simp [closeSide, sound.direction, directionForQuantity, short, short.not_gt]
    simp only [signedQuantity, side, if_true, abs_of_neg short]
    constructor <;> intro equal <;> linarith
  · have side : closeSide position = .sell := by
      simp [closeSide, sound.direction, directionForQuantity, long]
    simp only [signedQuantity, side, reduceCtorEq, if_false, abs_of_pos long]
    constructor <;> intro equal <;> linarith

/-- The exit built for a marked position, applied to the state that stores it. -/
theorem exit_fillCloses_iff {svc : PaperExecutionService} (sound : svc.PositionsSound)
    (nonneg : 0 ≤ svc.slippageBps) (bounded : svc.slippageBps < 10000) {position : PositionState}
    (stored : svc.state.positions.get? (position.symbol, paperPositionSide) = some position)
    (opened : position.isOpen = true) {feature : FeatureVector}
    (marked : position.markPrice = feature.referencePrice) (priced : 0 < feature.referencePrice)
    (reason cycleId : String) (ts : Datetime) :
    svc.FillCloses (buildExitDecision position reason) cycleId ts feature ↔
      SlippageAbsorbed svc.slippageBps feature.referencePrice position.quantity (closeSide position) := by
  have shape := (sound _ _ stored).2
  have nonzero : position.quantity ≠ 0 := by simpa [PositionState.isOpen] using opened
  have slipped := applySlippage_eq_ticks nonneg bounded priced (closeSide position)
  have ticks_nonneg := slippedTicks_nonneg nonneg bounded priced (closeSide position)
  rcases ticks_nonneg.eq_or_lt with vanished | positive
  · -- the slipped price rounds to zero: the division raises, and nothing is absorbed
    have raised : svc.applyDecision (buildExitDecision position reason) feature cycleId ts =
        .error (divisionError |position.markPrice * position.quantity|) := by
      simp [applyDecision, buildExitDecision, exitRisk, TradeDecision.execute, not_le.mpr priced,
        slipped, ← vanished]
    constructor
    · rintro ⟨after, fill, filled, -⟩
      rw [raised] at filled
      cases filled
    · intro absorbed
      have drift : 0 < 2 * (|position.quantity| / decimalPlaces) *
          |feature.referencePrice / decimalPlaces| := by
        have unit := decimalPlaces_pos
        have size := abs_pos.mpr nonzero
        have price := abs_pos.mpr (div_pos priced unit).ne'
        positivity
      simp only [SlippageAbsorbed, ← vanished, Int.cast_zero, sub_zero] at absorbed
      rcases absorbed with less | ⟨equal, -⟩ <;> linarith
  · have fillPrice_pos : 0 < svc.applySlippage feature.referencePrice (closeSide position) := by
      rw [slipped]
      exact mul_pos (Int.cast_pos.mpr positive) decimalPlaces_pos
    have filled : svc.applyDecision (buildExitDecision position reason) feature cycleId ts =
        .ok ((svc.bookFill (buildExitDecision position reason) (closeSide position) (exitRisk position)
            (svc.applySlippage feature.referencePrice (closeSide position)) cycleId ts).1,
          some (svc.bookFill (buildExitDecision position reason) (closeSide position)
            (exitRisk position) (svc.applySlippage feature.referencePrice (closeSide position))
            cycleId ts).2) := by
      simp [applyDecision, buildExitDecision, TradeDecision.execute, not_le.mpr priced,
        fillPrice_pos.ne']
    have sized : (exitRisk position).approvedNotional =
        |feature.referencePrice * position.quantity| := by rw [← marked]; rfl
    rw [fillCloses_of_filled filled,
      bookFill_closed_iff sound (buildExitDecision position reason) stored opened,
      exit_flattens_iff shape opened, sized, slipped, quantity_rebought_iff shape.quantity _ positive,
      abs_of_pos priced]
    rfl

/-- The position an exit is for, as marking left it. -/
theorem exit_position {svc : PaperExecutionService} (sound : svc.PositionsSound)
    {evaluator : PositionExitEvaluator} {features : OrderedDict String FeatureVector}
    {cycleId : String} {ts : Datetime} {exit : TradeDecision} {feature : FeatureVector}
    (listed : exit ∈ evaluator.evaluate (svc.markToMarket features cycleId ts).state features
      (svc.markToMarket features cycleId ts).positionMetadata ts)
    (known : features.get? exit.symbol = some feature) (priced : 0 < feature.referencePrice) :
    ∃ position reason, exit = buildExitDecision position reason ∧ position.isOpen = true ∧
      (svc.markToMarket features cycleId ts).state.positions.get? (position.symbol, paperPositionSide) =
        some position ∧
      position.markPrice = feature.referencePrice := by
  obtain ⟨position, value, opened, -, reason, rfl⟩ := mem_evaluate listed
  obtain ⟨key, stored⟩ := (OrderedDict.mem_values_iff _ _).mp value
  obtain ⟨key_eq, shape⟩ := step_positionsSound svc (.markToMarket features cycleId ts) sound key
    position stored
  have own_key : (position.symbol, paperPositionSide) = key := by
    rw [← key_eq, PositionState.key, shape.side]
  refine ⟨position, reason, rfl, opened, own_key ▸ stored, ?_⟩
  rw [markToMarket_positions, OrderedDict.get?_mapValues, Option.map_eq_some_iff] at stored
  obtain ⟨before, -, rfl⟩ := stored
  change features.get? (markedUnder features ts before).symbol = some feature at known
  by_cases closed : before.isOpen = false
  · simp [markedUnder, closed] at opened
  · have same_symbol : (markedUnder features ts before).symbol = before.symbol := by
      rcases markedUnder_cases features ts before with same | ⟨mark, marked⟩
      · rw [same]
      · rw [marked]; rfl
    rw [same_symbol] at known
    simp [markedUnder, known, not_le.mpr priced, Bool.not_eq_false _ ▸ closed, markedPosition]

/-- What the exit loop does for one exit decision. -/
def exitOps (features : OrderedDict String FeatureVector) (cycleId : String) (ts : Datetime)
    (exit : TradeDecision) : List PaperOp :=
  match features.get? exit.symbol with
  | none => []
  | some feature => [.applyDecision exit feature cycleId ts, .accountState ts]

/-- The operation touches no position of the symbol. -/
def Elsewhere (symbol : String) : PaperOp → Prop
  | .accountState _ => True
  | .markToMarket .. => False
  | .applyDecision decision .. => decision.symbol ≠ symbol

theorem step_slippageBps (svc : PaperExecutionService) (op : PaperOp) :
    (svc.step op).slippageBps = svc.slippageBps := by
  cases op with
  | accountState now => rfl
  | markToMarket features cycleId ts =>
      obtain ⟨clock, metadata, fundingDelta, marked⟩ := markToMarket_eq features ts svc cycleId
      simp only [step, marked]
      split <;> rfl
  | applyDecision decision feature cycleId ts =>
      rcases step_applyDecision_cases svc decision cycleId ts feature with
        same | ⟨side, risk, -, -, -, -, filled⟩
      · rw [same]
      · rw [filled]; rfl

theorem run_slippageBps (svc : PaperExecutionService) (ops : List PaperOp) :
    (svc.run ops).slippageBps = svc.slippageBps :=
  run_invariant step (fun after => after.slippageBps = svc.slippageBps)
    (fun after op same => (step_slippageBps after op).trans same) svc ops rfl

theorem step_elsewhere {svc : PaperExecutionService} (sound : svc.PositionsSound) {symbol : String}
    {op : PaperOp} (elsewhere : Elsewhere symbol op) :
    (svc.step op).state.positions.get? (symbol, paperPositionSide) =
      svc.state.positions.get? (symbol, paperPositionSide) := by
  cases op with
  | accountState now => rfl
  | markToMarket features cycleId ts => cases elsewhere
  | applyDecision decision feature cycleId ts =>
      rcases step_applyDecision_cases svc decision cycleId ts feature with
        same | ⟨side, risk, -, -, -, -, filled⟩
      · rw [same]
      · rw [filled, bookFill_positions, (positionAfter_sound sound decision ts side risk _).1]
        apply OrderedDict.get?_set_of_ne
        intro same
        exact elsewhere (Prod.ext_iff.mp same).1.symm

theorem run_elsewhere {svc : PaperExecutionService} (sound : svc.PositionsSound) {symbol : String}
    {ops : List PaperOp} (elsewhere : ∀ op ∈ ops, Elsewhere symbol op) :
    (svc.run ops).state.positions.get? (symbol, paperPositionSide) =
      svc.state.positions.get? (symbol, paperPositionSide) := by
  have kept := run_invariant_of step
    (fun after => after.PositionsSound ∧
      after.state.positions.get? (symbol, paperPositionSide) =
        svc.state.positions.get? (symbol, paperPositionSide))
    (Elsewhere symbol)
    (fun after op allowed held => ⟨step_positionsSound after op held.1,
      (step_elsewhere held.1 allowed).trans held.2⟩)
    svc ops elsewhere ⟨sound, rfl⟩
  exact kept.2

/-- After marking, and after whatever the earlier exits of the cycle did, an exit
closes its whole position exactly when the slippage is absorbed. -/
theorem exit_closes_iff (config : PaperConfig) (nonneg : 0 ≤ config.slippageBps)
    (bounded : config.slippageBps < 10000) (history : List PaperOp) (evaluator : PositionExitEvaluator)
    (features : OrderedDict String FeatureVector) (cycleId : String) (ts : Datetime)
    (earlier later : List TradeDecision) (exit : TradeDecision) (feature : FeatureVector)
    (listed : evaluator.evaluate (((init config).run history).markToMarket features cycleId ts).state
      features (((init config).run history).markToMarket features cycleId ts).positionMetadata ts =
        earlier ++ exit :: later)
    (known : features.get? exit.symbol = some feature) (priced : 0 < feature.referencePrice) :
    let marked := ((init config).run history).markToMarket features cycleId ts
    let position := marked.positionFor exit.symbol ts
    (marked.run (earlier.flatMap (exitOps features cycleId ts))).FillCloses exit cycleId ts feature ↔
      SlippageAbsorbed config.slippageBps feature.referencePrice position.quantity
        (closeSide position) := by
  intro marked position
  have history_sound : ((init config).run history).PositionsSound :=
    run_positionsSound _ history (init_positionsSound config)
  have marked_sound : marked.PositionsSound :=
    step_positionsSound _ (.markToMarket features cycleId ts) history_sound
  have member : exit ∈ evaluator.evaluate marked.state features marked.positionMetadata ts := by
    rw [listed]
    simp
  obtain ⟨stored_position, reason, rfl, opened, stored, priced_at⟩ :=
    exit_position history_sound member known priced
  have position_eq : position = stored_position := by
    simp only [position, positionFor, OrderedDict.getD]
    exact congrArg (Option.getD · _) stored
  have distinct := evaluate_symbols_nodup evaluator features marked.positionMetadata ts
    marked_sound.filed.symbols_nodup
  rw [listed, List.map_append, List.map_cons] at distinct
  have elsewhere : ∀ op ∈ earlier.flatMap (exitOps features cycleId ts),
      Elsewhere stored_position.symbol op := by
    intro op member
    obtain ⟨other, other_mem, op_mem⟩ := List.mem_flatMap.mp member
    have differs : other.symbol ≠ stored_position.symbol := fun same =>
      (List.nodup_append.mp distinct).2.2 other.symbol (List.mem_map.mpr ⟨other, other_mem, rfl⟩)
        other.symbol (by rw [same]; exact List.mem_cons_self) rfl
    unfold exitOps at op_mem
    split at op_mem
    · cases op_mem
    · simp only [List.mem_cons, List.not_mem_nil, or_false] at op_mem
      rcases op_mem with rfl | rfl
      · exact differs
      · trivial
  have slippage : (marked.run (earlier.flatMap (exitOps features cycleId ts))).slippageBps =
      config.slippageBps := by
    rw [run_slippageBps]
    exact (step_slippageBps _ (.markToMarket features cycleId ts)).trans (run_slippageBps _ history)
  rw [position_eq, ← slippage]
  apply exit_fillCloses_iff (run_positionsSound _ _ marked_sound) (slippage ▸ nonneg)
    (slippage ▸ bounded) _ opened priced_at priced
  rw [run_elsewhere marked_sound elsewhere]
  exact stored

/-- A long bought at 100, then marked at 103. -/
def markedLong (slippageBps : ℚ) : PaperExecutionService :=
  ((init { slippageBps }).run [.applyDecision (marketOrder .buy 1000) (quoted 100) "c1" 0]).markToMarket
    (.ofList [("BTCUSDT", quoted 103)]) "c2" 60000000

def longExits (slippageBps : ℚ) : List TradeDecision :=
  ({} : PositionExitEvaluator).evaluate (markedLong slippageBps).state
    (.ofList [("BTCUSDT", quoted 103)]) (markedLong slippageBps).positionMetadata 60000000

theorem exit_closes_long : (markedLong 0).FillCloses
    (buildExitDecision ((markedLong 0).positionFor "BTCUSDT" 0) "exit_take_profit") "c2" 60000000
    (quoted 103) :=
  (exit_closes_iff { slippageBps := 0 } (by norm_num) (by norm_num)
    [.applyDecision (marketOrder .buy 1000) (quoted 100) "c1" 0] {} (.ofList [("BTCUSDT", quoted 103)])
    "c2" 60000000 [] [] _ (quoted 103) (by decide +kernel) (by decide +kernel) (by norm_num [quoted])).mpr
    (zero_slippage_absorbed (by norm_num [quoted])
      ⟨10300000000, by norm_num [quoted, decimalPlaces]⟩ _ _)

/-- One basis point of slippage turns the closed long into a small short. -/
theorem exit_overshoots_long : ∃ exit, longExits 1 = [exit] ∧
    ¬ (markedLong 1).FillCloses exit "c2" 60000000 (quoted 103) := by
  have exits : longExits 1 =
      [buildExitDecision ((markedLong 1).positionFor "BTCUSDT" 0) "exit_take_profit"] := by
    decide +kernel
  refine ⟨_, exits, ?_⟩
  generalize exit_eq : buildExitDecision ((markedLong 1).positionFor "BTCUSDT" 0) "exit_take_profit" = exit
  have residue : ((markedLong 1).applyDecision exit (quoted 103) "c2" 60000000).toOption.bind
      (fun outcome => (outcome.1.state.positions.get? (exit.symbol, paperPositionSide)).map
        PositionState.quantity) = some (-1 / 1000) := by
    rw [← exit_eq]
    decide +kernel
  rintro ⟨after, fill, filled, closed⟩
  obtain ⟨position, stored, flat⟩ := closed.flat
  norm_num [filled, Except.toOption, stored, flat] at residue

end Exits

end PaperExecutionService

end CatsPy
