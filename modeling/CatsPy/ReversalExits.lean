import CatsPy.CycleFrames
import CatsPy.NofxFeatures

/-!
# Reversal exits

What the exit phase of a paper cycle closes when the market turned against a
position. The scores the reversal rule compares are still zero there, so only
the exits that need no score remain.
-/
namespace CatsPy
open PythonValues StateRuns

section Conditions

/-- The price changes and the institutional flows of a feature run against a position. -/
def TurnsAgainst (direction : PositionDirection) (feature : FeatureVector) : Prop :=
  let priceChange := feature.priceChange15m + feature.priceChange1h + feature.priceChange4h
  let flow := feature.instFutureFlow15m + feature.instFutureFlow1h + feature.instFutureFlow4h
  match direction with
  | .long => priceChange < -3 / 100 ∧ flow < 0
  | .short => 3 / 100 < priceChange ∧ 0 < flow
  | .flat => False

instance (direction : PositionDirection) (feature : FeatureVector) :
    Decidable (TurnsAgainst direction feature) :=
  match direction with
  | .long => inferInstanceAs (Decidable (_ ∧ _))
  | .short => inferInstanceAs (Decidable (_ ∧ _))
  | .flat => inferInstanceAs (Decidable False)

/-- An open position worth a unit at entry, with a priced feature that turned against it. -/
def ReversalShown (position : PositionState) (feature : FeatureVector) : Prop :=
  position.isOpen = true ∧ 1 ≤ |position.entryPrice * position.quantity| ∧ 0 < feature.referencePrice ∧
    TurnsAgainst position.direction feature

instance (position : PositionState) (feature : FeatureVector) :
    Decidable (ReversalShown position feature) := inferInstanceAs (Decidable (_ ∧ _))

/-- The exits that read no score, on a position about to be marked: stop loss,
take profit, holding time and trailing stop. -/
def ExitConfig.Reached (config : ExitConfig) (position : PositionState)
    (entryMeta : Option PositionEntryMeta) (mark : ℚ) (now : Datetime) : Prop :=
  let pnlRatio := (mark - position.entryPrice) * position.quantity /
    |position.entryPrice * position.quantity|
  pnlRatio ≤ -config.stopLossPct ∨ config.takeProfitPct ≤ pnlRatio ∨
    ∃ held, entryMeta = some held ∧
      (config.maxHoldHours ≤ totalSeconds now held.entryTime / 3600 ∨
        0 < (PaperExecutionService.markedMeta held position.direction mark).peakPrice ∧
          config.trailingStopPct ≤ PositionExitEvaluator.retrace { position with markPrice := mark }
            (PaperExecutionService.markedMeta held position.direction mark).peakPrice)

end Conditions

namespace PositionExitEvaluator

variable {evaluator : PositionExitEvaluator} {position : PositionState} {feature : FeatureVector}
  {now : Datetime}

theorem checkHolding_isSome (held : PositionEntryMeta) :
    (evaluator.checkHolding position held now).isSome = true ↔
      evaluator.config.maxHoldHours ≤ totalSeconds now held.entryTime / 3600 ∨
        0 < held.peakPrice ∧ evaluator.config.trailingStopPct ≤ retrace position held.peakPrice := by
  simp only [checkHolding]
  split_ifs with elapsed trailing
  · simp [elapsed]
  · simp [trailing]
  · simp [elapsed, trailing]

/-- Scores of zero show no reversal in either direction. -/
theorem signalReversal_unscored (position : PositionState) (trend : feature.trendScore = 0) :
    signalReversal position feature = false := by
  simp only [signalReversal, trend]
  cases position.direction <;> norm_num

theorem checkExit_unscored (trend : feature.trendScore = 0)
    (sized : 1 ≤ |position.entryPrice * position.quantity|) (entryMeta : Option PositionEntryMeta) :
    (evaluator.checkExit position feature entryMeta now).isSome = true ↔
      position.unrealizedPnl / |position.entryPrice * position.quantity| ≤ -evaluator.config.stopLossPct ∨
      evaluator.config.takeProfitPct ≤
        position.unrealizedPnl / |position.entryPrice * position.quantity| ∨
      ∃ held, entryMeta = some held ∧ (evaluator.checkHolding position held now).isSome = true := by
  simp only [checkExit, if_neg (not_lt.mpr sized), signalReversal_unscored position trend,
    Bool.false_eq_true, if_false, Option.or_none]
  generalize position.unrealizedPnl / |position.entryPrice * position.quantity| = pnlRatio
  split_ifs with stopped taken
  · simp [stopped]
  · simp [taken]
  · cases entryMeta with
    | none => simp [stopped, taken]
    | some held => simp [stopped, taken]

/-- The exit listed for a symbol is the exit of the position stored for it. -/
theorem evaluate_closes_iff {accountState : AccountState} {features : OrderedDict String FeatureVector}
    {metadata : OrderedDict String PositionEntryMeta} {symbol : String}
    (keyed : ∀ key stored, accountState.positions.get? key = some stored →
      key = (stored.symbol, paperPositionSide))
    (held : accountState.positions.get? (symbol, paperPositionSide) = some position)
    (opened : position.isOpen = true) (known : features.get? symbol = some feature) :
    (∃ exit ∈ evaluator.evaluate accountState features metadata now, exit.symbol = symbol) ↔
      (evaluator.checkExit position feature (metadata.get? symbol) now).isSome = true := by
  have own : position.symbol = symbol := (congrArg Prod.fst (keyed _ _ held)).symm
  have exits : evaluator.exitFor features metadata now position =
      (evaluator.checkExit position feature (metadata.get? symbol) now).map
        (buildExitDecision position) := by
    simp only [exitFor, opened, own, known, Bool.not_true, Bool.false_eq_true, if_false,
      Option.bind_eq_bind, Option.bind_some]
    cases evaluator.checkExit position feature (metadata.get? symbol) now <;> rfl
  constructor
  · rintro ⟨exit, listed, same⟩
    obtain ⟨other, member, closes⟩ := List.mem_filterMap.mp listed
    obtain ⟨key, stored⟩ := (OrderedDict.mem_values_iff _ _).mp member
    obtain ⟨-, -, reason, rfl⟩ := exitFor_eq_some closes
    have other_own : other.symbol = symbol := same
    rw [keyed key other stored, other_own, held] at stored
    cases stored
    rw [exits] at closes
    cases fires : evaluator.checkExit position feature (metadata.get? symbol) now with
    | none =>
        rw [fires] at closes
        cases closes
    | some reason => rfl
  · intro fires
    obtain ⟨reason, fires⟩ := Option.isSome_iff_exists.mp fires
    refine ⟨buildExitDecision position reason, List.mem_filterMap.mpr ⟨position, ?_, ?_⟩, own⟩
    · exact (OrderedDict.mem_values_iff _ _).mpr ⟨_, held⟩
    · rw [exits, fires]
      rfl

end PositionExitEvaluator

namespace DecisionRuntimeService
open PaperExecutionService

section Phase

variable (service : DecisionRuntimeService) (input : CycleInput)

/-- The exit decisions one exit phase works through. -/
def exitDecisions (features : OrderedDict String FeatureVector) (svc : PaperExecutionService) :
    List TradeDecision :=
  let marked := svc.markToMarket features input.cycleId input.startedAt
  match service.exitEvaluator with
  | none => []
  | some evaluator =>
      evaluator.evaluate marked.state features marked.positionMetadata input.startedAt

theorem exitPhase_eq (features : OrderedDict String FeatureVector) (svc : PaperExecutionService) :
    service.exitPhase input features svc =
      (service.exitDecisions input features svc).zipIdx.foldlM (service.exitStep input features)
        (svc.markToMarket features input.cycleId input.startedAt) := by
  simp only [exitPhase, exitDecisions]
  cases service.exitEvaluator <;> rfl

/-- The exit decisions of a whole cycle; none without a paper account. -/
def cycleExits (state : RuntimeState) : List TradeDecision :=
  let (collected, features) := service.collectFeatures input (service.recordGlobalData input state)
  match service.simulated collected with
  | none => []
  | some svc => service.exitDecisions input features svc

variable {service}

/-- Opening a cycle changes nothing of the account but its journal. -/
theorem cycleExits_eq {state : RuntimeState} {svc : PaperExecutionService}
    (account : service.simulated state = some svc) : ∃ journal, service.cycleExits input state =
      service.exitDecisions input (service.builtFeatures input) { svc with journal } := by
  obtain ⟨journal, recorded⟩ := recordGlobalData_paper service input (simulated_some account)
  obtain ⟨⟨journal', collected⟩, -⟩ := collectFeatures_paper service input recorded
  have gathered := collectFeatures_features service input (service.recordGlobalData input state)
  have still : service.simulated
      (service.collectFeatures input (service.recordGlobalData input state)).1 =
        some { svc with journal := journal' } := by
    rw [simulated] at account ⊢
    split at account
    · next on => rw [if_pos on, collected]
    · cases account
  refine ⟨journal', ?_⟩
  simp only [cycleExits, still, gathered]

end Phase

section Reversals

variable {service : DecisionRuntimeService} {input : CycleInput} {evaluator : PositionExitEvaluator}
  {svc : PaperExecutionService} {symbol : String} {position : PositionState} {feature : FeatureVector}

@[simp] theorem markedMeta_entryTime (entryMeta : PositionEntryMeta) (direction : PositionDirection)
    (mark : ℚ) : (markedMeta entryMeta direction mark).entryTime = entryMeta.entryTime := by
  cases direction <;> rfl

/-- Marking an open position with a priced feature, and the metadata kept for it. -/
theorem markToMarket_priced (sound : svc.PositionsSound) {features : OrderedDict String FeatureVector}
    (held : svc.state.positions.get? (symbol, paperPositionSide) = some position)
    (opened : position.isOpen = true) (known : features.get? symbol = some feature)
    (priced : 0 < feature.referencePrice) (cycleId : String) (ts : Datetime) :
    (svc.markToMarket features cycleId ts).state.positions.get? (symbol, paperPositionSide) =
        some (markedPosition position feature.referencePrice ts) ∧
      (svc.markToMarket features cycleId ts).positionMetadata.get? symbol =
        (svc.positionMetadata.get? symbol).map
          (markedMeta · position.direction feature.referencePrice) := by
  have own : position.symbol = symbol := congrArg Prod.fst (sound _ position held).1
  have marks : markedUnder features ts position = markedPosition position feature.referencePrice ts := by
    simp [markedUnder, opened, own, known, not_le.mpr priced]
  have metadata : markedMetaUnder features position =
      (markedMeta · position.direction feature.referencePrice) := by
    funext entryMeta
    simp [markedMetaUnder, opened, own, known, not_le.mpr priced]
  constructor
  · rw [markToMarket_positions, OrderedDict.get?_mapValues, held, Option.map_some, marks]
  · rw [markToMarket_metadata features ts sound cycleId symbol]
    simp only [held, metadata]

/-- On a feature without scores the phase closes a sized position exactly at the
exits that read none. -/
theorem exitDecisions_unscored (equipped : service.exitEvaluator = some evaluator)
    (sound : svc.PositionsSound) {features : OrderedDict String FeatureVector}
    (held : svc.state.positions.get? (symbol, paperPositionSide) = some position)
    (known : features.get? symbol = some feature) (trend : feature.trendScore = 0)
    (shown : ReversalShown position feature) :
    (∃ exit ∈ service.exitDecisions input features svc, exit.symbol = symbol) ↔
      evaluator.config.Reached position (svc.positionMetadata.get? symbol) feature.referencePrice
        input.startedAt := by
  obtain ⟨opened, sized, priced, -⟩ := shown
  have sound_marked := step_positionsSound svc
    (.markToMarket features input.cycleId input.startedAt) sound
  have keyed : ∀ key stored,
      (svc.markToMarket features input.cycleId input.startedAt).state.positions.get? key = some stored →
        key = (stored.symbol, paperPositionSide) := by
    intro key stored found
    obtain ⟨rfl, shape⟩ := sound_marked key stored found
    simp [PositionState.key, shape.side]
  obtain ⟨marked, metadata⟩ :=
    markToMarket_priced sound held opened known priced input.cycleId input.startedAt
  have sized_marked : 1 ≤ |(markedPosition position feature.referencePrice input.startedAt).entryPrice *
      (markedPosition position feature.referencePrice input.startedAt).quantity| := sized
  simp only [exitDecisions, equipped]
  rw [PositionExitEvaluator.evaluate_closes_iff keyed marked opened known,
    PositionExitEvaluator.checkExit_unscored trend sized_marked, metadata]
  simp only [PositionExitEvaluator.checkHolding_isSome, ExitConfig.Reached]
  cases svc.positionMetadata.get? symbol with
  | none => simp [markedPosition]
  | some entryMeta =>
      simp only [Option.map_some, Option.some.injEq, exists_eq_left', markedMeta_entryTime]
      exact Iff.rfl

end Reversals

section Samples

/-- Prices fall two percent over each window while institutions sell. -/
def turnedCoin : PyValue :=
  .dict [("data", .dict [("price", .float 100),
    ("price_change", .dict [("15m", .float (-2 / 100)), ("1h", .float (-2 / 100)),
      ("4h", .float (-2 / 100))]),
    ("netflow", .dict [("institution", .dict [("future", .dict [("15m", .float (-1)),
      ("1h", .float (-1)), ("4h", .float (-1))])])])])]

def turnedResponses (_ : ℕ) (_ : String) : SymbolResponses where
  coin := .ok ⟨turnedCoin, 60000000⟩
  funding := .ok ⟨.dict [], 60000000⟩
  heatmap := .ok ⟨.dict [], 60000000⟩
  normalizedAt := 60000000

/-- A minute, or a day, after the cycle that bought. -/
def turnedInput (startedAt : Datetime) : CycleInput :=
  { trendingInput with startedAt }.fed turnedResponses fun error => ⟨error.message, "Exception", ""⟩

/-- What the cycle after the turn finds: the position bought before and its feature. -/
def shownPairs (startedAt : Datetime) : List (PaperExecutionService × PositionState × FeatureVector) :=
  (do
    let svc ← paperService.simulated (paperService.runCycles openedPaper [trendingInput])
    let position ← svc.state.positions.get? ("BTCUSDT", paperPositionSide)
    let feature ← (paperService.builtFeatures (turnedInput startedAt)).get? "BTCUSDT"
    return (svc, position, feature)).toList

theorem mem_shownPairs {startedAt : Datetime} {svc : PaperExecutionService} {position : PositionState}
    {feature : FeatureVector} (found : (svc, position, feature) ∈ shownPairs startedAt) :
    paperService.simulated (paperService.runCycles openedPaper [trendingInput]) = some svc ∧
      svc.state.positions.get? ("BTCUSDT", paperPositionSide) = some position ∧
      (paperService.builtFeatures (turnedInput startedAt)).get? "BTCUSDT" = some feature := by
  have found := Option.mem_toList.mp found
  simp only [Option.bind_eq_bind, Option.bind_eq_some_iff] at found
  obtain ⟨svc', account, position', held, feature', known, same⟩ := found
  cases same
  exact ⟨account, held, known⟩

end Samples

end DecisionRuntimeService

end CatsPy
