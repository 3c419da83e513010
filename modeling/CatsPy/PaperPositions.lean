import CatsPy.PaperExecution
import CatsPy.StateRuns
import Mathlib.Algebra.BigOperators.Ring.List

/-!
# Paper positions

The operations callers issue against the simulated account, what each one does
to the stored positions, and the shape every stored position keeps over a run.
-/
namespace CatsPy
open PythonValues RoundingGrid

section Rounding

theorem decimalPlaces_pos : 0 < decimalPlaces := by norm_num [decimalPlaces]

theorem quantizeHalfUp_of_onGrid {x : ℚ} (grid : OnGrid decimalPlaces x) : quantizeHalfUp x = x :=
  quantize_of_onGrid halfUp_nearest decimalPlaces_pos grid

theorem quantizeHalfUp_error (x : ℚ) : |quantizeHalfUp x - x| ≤ decimalPlaces / 2 :=
  quantize_error halfUp_nearest decimalPlaces_pos x

theorem quantizeHalfUp_respectsGrid : RespectsGrid (OnGrid decimalPlaces) quantizeHalfUp :=
  quantize_respectsGrid halfUp_nearest decimalPlaces_pos

end Rounding

inductive PaperOp where
  | accountState (now : Datetime)
  | markToMarket (features : OrderedDict String FeatureVector) (cycleId : String) (ts : Datetime)
  | applyDecision (decision : TradeDecision) (feature : FeatureVector) (cycleId : String)
      (ts : Datetime)

section Samples

/-- A plain market order and a quote, for runs on fixed inputs. -/
def marketOrder (side : Side) (notional : ℚ) : TradeDecision :=
  .execute "paper" "BTCUSDT" .trend side ["entry"]
    { status := .approved, reason := "approved", approvedNotional := notional, approvedLeverage := 2 }
    0 none

def quoted (price : ℚ) : FeatureVector := { symbol := "BTCUSDT", ts := 0, referencePrice := price }

end Samples

namespace PaperExecutionService

/-- A call that raises leaves the service as it was. -/
def step (svc : PaperExecutionService) : PaperOp → PaperExecutionService
  | .accountState now => svc.accountState now
  | .markToMarket features cycleId ts => svc.markToMarket features cycleId ts
  | .applyDecision decision feature cycleId ts =>
      match svc.applyDecision decision feature cycleId ts with
      | .ok (after, _) => after
      | .error _ => svc

abbrev run (svc : PaperExecutionService) (ops : List PaperOp) : PaperExecutionService :=
  StateRuns.run step svc ops

def Reachable (svc : PaperExecutionService) : Prop :=
  ∃ config ops, svc = (init config).run ops

theorem reachable_init (config : PaperConfig) : (init config).Reachable := ⟨config, [], rfl⟩

section Frames

variable (svc : PaperExecutionService)

@[simp] theorem accountState_positions (now : Datetime) :
    (svc.accountState now).state.positions = svc.state.positions := rfl

@[simp] theorem recordPnlSnapshot_state (cycleId : String) (ts : Datetime) (funding fee turnover : ℚ) :
    (svc.recordPnlSnapshot cycleId ts funding fee turnover).state = svc.state := rfl

@[simp] theorem syncBalance_positions : svc.syncBalance.state.positions = svc.state.positions := by
  simp only [syncBalance, syncedState]
  split <;> rfl

/-- Funding moves nothing but its own clock. -/
theorem maybeApplyFunding_frame (position : PositionState) (feature : FeatureVector) (ts : Datetime) :
    ∃ clock, (svc.maybeApplyFunding position feature ts).1 =
      { svc with lastFundingAppliedAt := clock } := by
  simp only [maybeApplyFunding]
  repeat' split
  all_goals exact ⟨_, rfl⟩

end Frames

section Marking

/-- What the marking loop makes of one stored position. -/
def markedUnder (features : OrderedDict String FeatureVector) (ts : Datetime)
    (position : PositionState) : PositionState :=
  if !position.isOpen then position
  else match features.get? position.symbol with
    | none => position
    | some feature =>
        if feature.referencePrice ≤ 0 then position
        else markedPosition position feature.referencePrice ts

theorem markedUnder_cases (features : OrderedDict String FeatureVector) (ts : Datetime)
    (position : PositionState) :
    markedUnder features ts position = position ∨
      ∃ mark, markedUnder features ts position = markedPosition position mark ts := by
  simp only [markedUnder]
  repeat' split
  all_goals first | exact .inl rfl | exact .inr ⟨_, rfl⟩

variable (features : OrderedDict String FeatureVector) (ts : Datetime)

/-- One visit writes the marked position back and moves nothing else but the
funding clock and the peak price. -/
theorem markStep_eq (acc : PaperExecutionService × ℚ) (entry : (String × String) × PositionState) :
    ∃ positions clock metadata, (markStep features ts acc entry).1 =
        { acc.1 with
          state := { acc.1.state with positions }
          lastFundingAppliedAt := clock
          positionMetadata := metadata } ∧
      (acc.1.state.positions.get? entry.1 = some entry.2 →
        positions = acc.1.state.positions.set entry.1 (markedUnder features ts entry.2)) := by
  have untouched (same : markedUnder features ts entry.2 = entry.2)
      (found : acc.1.state.positions.get? entry.1 = some entry.2) :
      acc.1.state.positions = acc.1.state.positions.set entry.1 (markedUnder features ts entry.2) := by
    rw [same, OrderedDict.set_of_get? found]
  by_cases closed : entry.2.isOpen = false
  · simp only [markStep, closed, Bool.not_false, if_true]
    exact ⟨_, _, _, rfl, untouched (by simp [markedUnder, closed])⟩
  · rw [Bool.not_eq_false] at closed
    cases known : features.get? entry.2.symbol with
    | none =>
        simp only [markStep, closed, known, Bool.not_true, Bool.false_eq_true, if_false]
        exact ⟨_, _, _, rfl, untouched (by simp [markedUnder, known])⟩
    | some feature =>
        by_cases unpriced : feature.referencePrice ≤ 0
        · simp only [markStep, closed, known, unpriced, Bool.not_true, Bool.false_eq_true, if_false,
            if_true]
          exact ⟨_, _, _, rfl, untouched (by simp [markedUnder, known, unpriced])⟩
        · obtain ⟨clock, funded⟩ := maybeApplyFunding_frame acc.1 entry.2 feature ts
          simp only [markStep, closed, known, unpriced, Bool.not_true, Bool.false_eq_true, if_false,
            funded, markedUnder]
          exact ⟨_, _, _, rfl, fun _ => rfl⟩

theorem markStep_positions (acc : PaperExecutionService × ℚ)
    (entry : (String × String) × PositionState)
    (found : acc.1.state.positions.get? entry.1 = some entry.2) :
    (markStep features ts acc entry).1.state.positions =
      acc.1.state.positions.set entry.1 (markedUnder features ts entry.2) := by
  obtain ⟨positions, _, _, stepped, written⟩ := markStep_eq features ts acc entry
  rw [stepped, ← written found]

theorem markLoop_frame (entries : List ((String × String) × PositionState))
    (acc : PaperExecutionService × ℚ) :
    ∃ positions clock metadata, (entries.foldl (markStep features ts) acc).1 =
      { acc.1 with
        state := { acc.1.state with positions }
        lastFundingAppliedAt := clock
        positionMetadata := metadata } := by
  induction entries generalizing acc with
  | nil => exact ⟨_, _, _, rfl⟩
  | cons entry rest ih =>
      obtain ⟨_, _, _, first, -⟩ := markStep_eq features ts acc entry
      obtain ⟨positions, clock, metadata, later⟩ := ih (markStep features ts acc entry)
      refine ⟨positions, clock, metadata, ?_⟩
      rw [List.foldl_cons, later, first]

/-- The whole effect of the loop: every position is marked in place, and apart
from the funding clock and the peak prices nothing else moves. -/
theorem markLoop_eq (svc : PaperExecutionService) :
    ∃ clock metadata, (svc.state.positions.entries.foldl (markStep features ts) (svc, 0)).1 =
      { svc with
        state := { svc.state with positions := svc.state.positions.mapValues (markedUnder features ts) }
        lastFundingAppliedAt := clock
        positionMetadata := metadata } := by
  have positions_eq := OrderedDict.foldl_mapValues (fun acc : PaperExecutionService × ℚ =>
    acc.1.state.positions) (markStep features ts) (markedUnder features ts)
    (markStep_positions features ts) (svc, 0)
  obtain ⟨positions, clock, metadata, frame⟩ :=
    markLoop_frame features ts svc.state.positions.entries (svc, 0)
  simp only [frame] at positions_eq
  exact ⟨clock, metadata, by rw [frame, positions_eq]⟩

/-- Marking as one update: mark, then collect any funding into the wallet. -/
theorem markToMarket_eq (svc : PaperExecutionService) (cycleId : String) :
    ∃ clock metadata fundingDelta,
      let marked := { svc with
        state := { svc.state with positions := svc.state.positions.mapValues (markedUnder features ts) }
        lastFundingAppliedAt := clock
        positionMetadata := metadata
        fundingPnl := svc.fundingPnl + fundingDelta }
      svc.markToMarket features cycleId ts =
        ((if fundingDelta ≠ 0 then marked.syncBalance else marked).accountState ts).recordPnlSnapshot
          cycleId ts fundingDelta 0 0 := by
  obtain ⟨clock, metadata, loop⟩ := markLoop_eq features ts svc
  refine ⟨clock, metadata,
    (svc.state.positions.entries.foldl (markStep features ts) (svc, 0)).2, ?_⟩
  simp only [markToMarket, loop]
  by_cases unfunded : (svc.state.positions.entries.foldl (markStep features ts) (svc, 0)).2 = 0
  · simp [unfunded]
  · simp [unfunded]

theorem markToMarket_positions (svc : PaperExecutionService) (cycleId : String) :
    (svc.markToMarket features cycleId ts).state.positions =
      svc.state.positions.mapValues (markedUnder features ts) := by
  obtain ⟨clock, metadata, fundingDelta, marked⟩ := markToMarket_eq features ts svc cycleId
  rw [marked]
  split <;> simp

end Marking

section Filling

variable (svc : PaperExecutionService) (decision : TradeDecision) (cycleId : String) (ts : Datetime)

/-- The signed size a decision fills at a price. -/
def signedQuantity (side : Side) (risk : RiskDecision) (fillPrice : ℚ) : ℚ :=
  let fillQuantity := quantizeHalfEven (risk.approvedNotional / fillPrice)
  if side = .buy then fillQuantity else -fillQuantity

theorem signedQuantity_onGrid (side : Side) (risk : RiskDecision) (fillPrice : ℚ) :
    OnGrid decimalPlaces (signedQuantity side risk fillPrice) := by
  have grid := quantize_onGrid halfEven decimalPlaces (risk.approvedNotional / fillPrice)
  simp only [signedQuantity]
  split
  · exact grid
  · exact grid.neg

/-- The position a fill leaves under the decision's symbol. -/
def positionAfter (side : Side) (risk : RiskDecision) (fillPrice : ℚ) : PositionState :=
  let position := svc.positionFor decision.symbol ts
  let signed := signedQuantity side risk fillPrice
  filledPosition position (position.quantity + signed)
    (settle position.quantity position.entryPrice signed fillPrice).1 fillPrice
    risk.approvedLeverage ts

theorem bookFill_positions (side : Side) (risk : RiskDecision) (fillPrice : ℚ) :
    (svc.bookFill decision side risk fillPrice cycleId ts).1.state.positions =
      svc.state.positions.set (positionAfter svc decision ts side risk fillPrice).key
        (positionAfter svc decision ts side risk fillPrice) := by
  simp only [bookFill, recordPnlSnapshot_state, accountState_positions, syncBalance_positions]
  rfl

/-- Every way the call can end: ignored, raised before any change, or filled. -/
theorem applyDecision_cases (feature : FeatureVector) :
    svc.applyDecision decision feature cycleId ts = .ok (svc, none) ∨
    (∃ error, svc.applyDecision decision feature cycleId ts = .error error) ∨
    ∃ side risk, decision.side = some side ∧ decision.risk = some risk ∧
      0 < feature.referencePrice ∧ svc.applySlippage feature.referencePrice side ≠ 0 ∧
      svc.applyDecision decision feature cycleId ts =
        .ok ((svc.bookFill decision side risk (svc.applySlippage feature.referencePrice side)
            cycleId ts).1,
          some (svc.bookFill decision side risk (svc.applySlippage feature.referencePrice side)
            cycleId ts).2) := by
  simp only [applyDecision]
  split
  next side risk status side_eq risk_eq =>
    split
    · exact .inl rfl
    · next priced =>
      split
      · exact .inr (.inl ⟨_, rfl⟩)
      · next nonzero =>
        exact .inr (.inr ⟨side, risk, side_eq, risk_eq, lt_of_not_ge priced, nonzero, rfl⟩)
  · exact .inl rfl

/-- A fill as a step of the service, or no step at all. -/
theorem step_applyDecision_cases (feature : FeatureVector) :
    svc.step (.applyDecision decision feature cycleId ts) = svc ∨
    ∃ side risk, decision.side = some side ∧ decision.risk = some risk ∧
      0 < feature.referencePrice ∧ svc.applySlippage feature.referencePrice side ≠ 0 ∧
      svc.step (.applyDecision decision feature cycleId ts) =
        (svc.bookFill decision side risk (svc.applySlippage feature.referencePrice side)
          cycleId ts).1 := by
  rcases applyDecision_cases svc decision cycleId ts feature with
    ignored | ⟨error, raised⟩ | ⟨side, risk, side_eq, risk_eq, priced, nonzero, filled⟩
  · exact .inl (by simp [step, ignored])
  · exact .inl (by simp [step, raised])
  · exact .inr ⟨side, risk, side_eq, risk_eq, priced, nonzero, by simp [step, filled]⟩

end Filling

end PaperExecutionService

theorem sum_filter_map {α : Type*} (p : α → Prop) [DecidablePred p] (f : α → ℚ) (l : List α) :
    ((l.filter p).map f).sum = (l.map fun a => if p a then f a else 0).sum := by
  rw [List.sum_map_ite]
  simp

section Shape

/-- What every stored position satisfies, open or flat. -/
structure PositionState.PaperSound (position : PositionState) : Prop where
  side : position.positionSide = paperPositionSide
  direction : position.direction = PaperExecutionService.directionForQuantity position.quantity
  quantity : OnGrid decimalPlaces position.quantity
  notional : position.notional = position.quantity * position.markPrice
  unrealized : position.unrealizedPnl = (position.markPrice - position.entryPrice) * position.quantity
  leverage : 1 ≤ position.leverage

open PaperExecutionService

theorem PositionState.PaperSound.marked {position : PositionState} (sound : position.PaperSound)
    (mark : ℚ) (ts : Datetime) : (markedPosition position mark ts).PaperSound where
  side := sound.side
  direction := sound.direction
  quantity := sound.quantity
  notional := rfl
  unrealized := rfl
  leverage := sound.leverage

theorem filledPosition_sound {position : PositionState} (side : position.positionSide = paperPositionSide)
    {newQuantity : ℚ} (grid : OnGrid decimalPlaces newQuantity) (newEntryPrice fillPrice leverage : ℚ)
    (ts : Datetime) :
    (filledPosition position newQuantity newEntryPrice fillPrice leverage ts).PaperSound where
  side := side
  direction := rfl
  quantity := grid
  notional := rfl
  unrealized := by
    by_cases flat : newQuantity = 0
    · simp [filledPosition, flat]
    · simp [filledPosition, flat]
  leverage := le_max_right _ _

namespace PaperExecutionService

/-- Positions are stored under their own key and keep their shape. -/
def PositionsSound (svc : PaperExecutionService) : Prop :=
  ∀ key position, svc.state.positions.get? key = some position →
    position.key = key ∧ position.PaperSound

/-- Positions are stored under their own key, on the side of the paper account. -/
def PositionsFiled (svc : PaperExecutionService) : Prop :=
  ∀ key position, svc.state.positions.get? key = some position →
    position.key = key ∧ position.positionSide = paperPositionSide

theorem PositionsSound.filed {svc : PaperExecutionService} (sound : svc.PositionsSound) : svc.PositionsFiled :=
  fun key position stored => ⟨(sound key position stored).1, (sound key position stored).2.side⟩

theorem PositionsFiled.symbols_nodup {svc : PaperExecutionService} (filed : svc.PositionsFiled) :
    (svc.state.positions.values.map PositionState.symbol).Nodup := by
  have keys := svc.state.positions.nodup
  rw [OrderedDict.values, List.map_map, List.Nodup, List.pairwise_map]
  rw [List.Nodup, List.pairwise_map] at keys
  apply keys.imp_of_mem
  intro first second first_mem second_mem differ same
  have first_stored := filed _ _ ((svc.state.positions.get?_eq_some_iff _ _).mpr first_mem)
  have second_stored := filed _ _ ((svc.state.positions.get?_eq_some_iff _ _).mpr second_mem)
  apply differ
  rw [← first_stored.1, ← second_stored.1, PositionState.key, PositionState.key,
    first_stored.2, second_stored.2]
  exact Prod.ext same rfl

theorem positionFor_sound {svc : PaperExecutionService} (sound : svc.PositionsSound) (symbol : String)
    (ts : Datetime) :
    (svc.positionFor symbol ts).key = (symbol, paperPositionSide) ∧
      (svc.positionFor symbol ts).PaperSound := by
  cases found : svc.state.positions.get? (symbol, paperPositionSide) with
  | some position =>
      simpa [positionFor, OrderedDict.getD, found] using sound _ position found
  | none =>
      simp only [positionFor, OrderedDict.getD, found, Option.getD_none]
      exact ⟨rfl, rfl, rfl, onGrid_zero _, by simp, by simp, le_refl _⟩

theorem positionAfter_sound {svc : PaperExecutionService} (sound : svc.PositionsSound)
    (decision : TradeDecision) (ts : Datetime) (side : Side) (risk : RiskDecision) (fillPrice : ℚ) :
    (positionAfter svc decision ts side risk fillPrice).key = (decision.symbol, paperPositionSide) ∧
      (positionAfter svc decision ts side risk fillPrice).PaperSound := by
  obtain ⟨key, before⟩ := positionFor_sound sound decision.symbol ts
  have grid := before.quantity.add (signedQuantity_onGrid side risk fillPrice)
  exact ⟨key, filledPosition_sound before.side grid _ _ _ ts⟩

theorem init_positionsSound (config : PaperConfig) : (init config).PositionsSound := by
  intro key position found
  simp [init, AccountState.upsertBalance] at found

theorem step_positionsSound (svc : PaperExecutionService) (op : PaperOp) (sound : svc.PositionsSound) :
    (svc.step op).PositionsSound := by
  cases op with
  | accountState now => exact sound
  | markToMarket features cycleId ts =>
      intro key position found
      simp only [step, markToMarket_positions, OrderedDict.get?_mapValues, Option.map_eq_some_iff] at found
      obtain ⟨before, stored, rfl⟩ := found
      obtain ⟨key_eq, shape⟩ := sound key before stored
      rcases markedUnder_cases features ts before with same | ⟨mark, marked⟩
      · rw [same]; exact ⟨key_eq, shape⟩
      · rw [marked]; exact ⟨key_eq, shape.marked mark ts⟩
  | applyDecision decision feature cycleId ts =>
      rcases step_applyDecision_cases svc decision cycleId ts feature with
        same | ⟨side, risk, -, -, -, -, filled⟩
      · rw [same]; exact sound
      · intro key position found
        obtain ⟨after_key, shape⟩ := positionAfter_sound sound decision ts side risk
          (svc.applySlippage feature.referencePrice side)
        rw [filled, bookFill_positions, OrderedDict.get?_set] at found
        split at found
        next here =>
          cases found
          exact ⟨here.symm, shape⟩
        next elsewhere => exact sound key position found

theorem run_positionsSound (svc : PaperExecutionService) (ops : List PaperOp)
    (sound : svc.PositionsSound) : (svc.run ops).PositionsSound :=
  StateRuns.run_invariant step PositionsSound step_positionsSound svc ops sound

theorem Reachable.positionsSound {svc : PaperExecutionService} (reachable : svc.Reachable) :
    svc.PositionsSound := by
  obtain ⟨config, ops, rfl⟩ := reachable
  exact run_positionsSound _ ops (init_positionsSound config)

end PaperExecutionService

end Shape

end CatsPy
