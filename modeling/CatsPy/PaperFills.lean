import CatsPy.PaperPositions

/-!
# Paper fills

What a filled call booked, and how the size held of each symbol and its last
exit time move under marking and under a fill.
-/
namespace CatsPy
open PythonValues RoundingGrid

namespace PaperExecutionService

section Held

/-- The size held of a symbol, zero when nothing is stored. -/
def heldQuantity (svc : PaperExecutionService) (symbol : String) : ℚ := (svc.positionFor symbol 0).quantity

theorem positionFor_quantity (svc : PaperExecutionService) (symbol : String) (ts : Datetime) :
    (svc.positionFor symbol ts).quantity = svc.heldQuantity symbol := by
  simp only [heldQuantity, positionFor, OrderedDict.getD]
  cases svc.state.positions.get? (symbol, paperPositionSide) <;> rfl

theorem heldQuantity_of_get? {svc : PaperExecutionService} {symbol : String} {position : PositionState}
    (stored : svc.state.positions.get? (symbol, paperPositionSide) = some position) :
    svc.heldQuantity symbol = position.quantity := by
  simp [heldQuantity, positionFor, OrderedDict.getD, stored]

theorem heldQuantity_ne_zero_iff (svc : PaperExecutionService) (symbol : String) :
    svc.heldQuantity symbol ≠ 0 ↔ ∃ position,
      svc.state.positions.get? (symbol, paperPositionSide) = some position ∧ position.isOpen = true := by
  cases stored : svc.state.positions.get? (symbol, paperPositionSide) with
  | none => simp [heldQuantity, positionFor, OrderedDict.getD, stored]
  | some position => simp [heldQuantity_of_get? stored, PositionState.isOpen]

theorem markedUnder_quantity (features : OrderedDict String FeatureVector) (ts : Datetime)
    (position : PositionState) : (markedUnder features ts position).quantity = position.quantity := by
  rcases markedUnder_cases features ts position with same | ⟨mark, marked⟩
  · rw [same]
  · rw [marked]
    rfl

theorem markedUnder_isOpen (features : OrderedDict String FeatureVector) (ts : Datetime)
    (position : PositionState) : (markedUnder features ts position).isOpen = position.isOpen := by
  rw [PositionState.isOpen, markedUnder_quantity, PositionState.isOpen]

@[simp] theorem heldQuantity_markToMarket (svc : PaperExecutionService)
    (features : OrderedDict String FeatureVector) (cycleId : String) (ts : Datetime) (symbol : String) :
    (svc.markToMarket features cycleId ts).heldQuantity symbol = svc.heldQuantity symbol := by
  simp only [heldQuantity, positionFor, OrderedDict.getD, markToMarket_positions,
    OrderedDict.get?_mapValues]
  cases svc.state.positions.get? (symbol, paperPositionSide) with
  | none => rfl
  | some position => exact markedUnder_quantity features ts position

@[simp] theorem markToMarket_lastExitTime (svc : PaperExecutionService)
    (features : OrderedDict String FeatureVector) (cycleId : String) (ts : Datetime) :
    (svc.markToMarket features cycleId ts).lastExitTime = svc.lastExitTime := by
  obtain ⟨clock, metadata, fundingDelta, marked⟩ := markToMarket_eq features ts svc cycleId
  rw [marked]
  split <;> rfl

end Held

section Metadata

variable (features : OrderedDict String FeatureVector) (ts : Datetime)

/-- What marking makes of the metadata kept for a position. -/
def markedMetaUnder (position : PositionState) (entryMeta : PositionEntryMeta) : PositionEntryMeta :=
  if !position.isOpen then entryMeta
  else match features.get? position.symbol with
    | none => entryMeta
    | some feature =>
        if feature.referencePrice ≤ 0 then entryMeta
        else markedMeta entryMeta position.direction feature.referencePrice

theorem get?_markMetadata (metadata : OrderedDict String PositionEntryMeta) (position : PositionState)
    (mark : ℚ) (symbol : String) :
    (markMetadata metadata position mark).get? symbol = if position.symbol = symbol then
      (metadata.get? symbol).map fun entryMeta => markedMeta entryMeta position.direction mark
    else metadata.get? symbol := by
  by_cases own : position.symbol = symbol
  · rw [if_pos own, markMetadata, own]
    cases stored : metadata.get? symbol with
    | none => exact stored
    | some entryMeta => exact OrderedDict.get?_set_self _ _ _
  · rw [if_neg own, markMetadata]
    cases metadata.get? position.symbol with
    | none => rfl
    | some entryMeta => exact OrderedDict.get?_set_of_ne _ _ (Ne.symm own)

/-- A visit touches the metadata of the visited position's symbol. -/
theorem markStep_metadata (acc : PaperExecutionService × ℚ) (entry : (String × String) × PositionState)
    (symbol : String) :
    (markStep features ts acc entry).1.positionMetadata.get? symbol =
      if entry.2.symbol = symbol then
        (acc.1.positionMetadata.get? symbol).map (markedMetaUnder features entry.2)
      else acc.1.positionMetadata.get? symbol := by
  have untouched (same : markedMetaUnder features entry.2 = id) :
      acc.1.positionMetadata.get? symbol = if entry.2.symbol = symbol then
        (acc.1.positionMetadata.get? symbol).map (markedMetaUnder features entry.2)
      else acc.1.positionMetadata.get? symbol := by
    rw [same, Option.map_id_fun, id, ite_self]
  by_cases closed : entry.2.isOpen = false
  · simp only [markStep, closed, Bool.not_false, if_true]
    exact untouched (by funext entryMeta; simp [markedMetaUnder, closed])
  · rw [Bool.not_eq_false] at closed
    cases known : features.get? entry.2.symbol with
    | none =>
        simp only [markStep, closed, known, Bool.not_true, Bool.false_eq_true, if_false]
        exact untouched (by funext entryMeta; simp [markedMetaUnder, known])
    | some feature =>
        by_cases unpriced : feature.referencePrice ≤ 0
        · simp only [markStep, closed, known, unpriced, Bool.not_true, Bool.false_eq_true, if_false,
            if_true]
          exact untouched (by funext entryMeta; simp [markedMetaUnder, known, unpriced])
        · obtain ⟨clock, funded⟩ := maybeApplyFunding_frame acc.1 entry.2 feature ts
          have marks : markedMetaUnder features entry.2 =
              fun entryMeta => markedMeta entryMeta entry.2.direction feature.referencePrice := by
            funext entryMeta
            simp [markedMetaUnder, closed, known, unpriced]
          simp only [markStep, closed, known, unpriced, Bool.not_true, Bool.false_eq_true, if_false,
            funded, marks, get?_markMetadata]

theorem markLoop_metadata (entries : List ((String × String) × PositionState))
    (acc : PaperExecutionService × ℚ) (symbol : String) :
    (entries.foldl (markStep features ts) acc).1.positionMetadata.get? symbol =
      (acc.1.positionMetadata.get? symbol).map fun entryMeta =>
        (entries.filter fun entry => entry.2.symbol = symbol).foldl
          (fun entryMeta entry => markedMetaUnder features entry.2 entryMeta) entryMeta := by
  induction entries generalizing acc with
  | nil => simp
  | cons entry rest ih =>
      rw [List.foldl_cons, ih, markStep_metadata]
      by_cases own : entry.2.symbol = symbol
      · rw [if_pos own, Option.map_map, List.filter_cons_of_pos (by simpa using own)]
        rfl
      · rw [if_neg own, List.filter_cons_of_neg (by simpa using own)]

/-- Marking raises or lowers the peak of an open position and touches no other metadata. -/
theorem markToMarket_metadata {svc : PaperExecutionService} (sound : svc.PositionsSound)
    (cycleId : String) (symbol : String) :
    (svc.markToMarket features cycleId ts).positionMetadata.get? symbol =
      match svc.state.positions.get? (symbol, paperPositionSide) with
      | none => svc.positionMetadata.get? symbol
      | some position => (svc.positionMetadata.get? symbol).map (markedMetaUnder features position) := by
  have loop : (svc.markToMarket features cycleId ts).positionMetadata =
      (svc.state.positions.entries.foldl (markStep features ts) (svc, 0)).1.positionMetadata := by
    simp only [markToMarket]
    split <;> rfl
  have own_key : svc.state.positions.entries.filter (fun entry => entry.2.symbol = symbol) =
      svc.state.positions.entries.filter fun entry => entry.1 = (symbol, paperPositionSide) := by
    apply List.filter_congr
    rintro ⟨key, position⟩ member
    obtain ⟨rfl, shape⟩ := sound key position ((svc.state.positions.get?_eq_some_iff _ _).mpr member)
    simp [PositionState.key, shape.side]
  rw [loop, markLoop_metadata, own_key, OrderedDict.filter_key]
  cases svc.state.positions.get? (symbol, paperPositionSide) with
  | none => simp
  | some position => simp

end Metadata

section Booking

variable {svc after : PaperExecutionService} {decision : TradeDecision} {cycleId : String} {ts : Datetime}
  {result : PaperFillResult}

theorem applyDecision_noTrade (refused : decision.status = .noTrade) (feature : FeatureVector) :
    svc.applyDecision decision feature cycleId ts = .ok (svc, none) := by
  simp only [applyDecision, refused]

theorem applyDecision_executed {feature : FeatureVector}
    (filled : svc.applyDecision decision feature cycleId ts = .ok (after, some result)) :
    decision.status = .execute := by
  cases status : decision.status with
  | execute => rfl
  | noTrade =>
      rw [applyDecision_noTrade status] at filled
      cases filled

theorem applyDecision_of_noTrade {feature : FeatureVector} {outcome : Option PaperFillResult}
    (idle : decision.status ≠ .execute)
    (returned : svc.applyDecision decision feature cycleId ts = .ok (after, outcome)) : after = svc := by
  cases status : decision.status with
  | execute => exact absurd status idle
  | noTrade =>
      rw [applyDecision_noTrade status] at returned
      cases returned
      rfl

theorem applyDecision_ignored {feature : FeatureVector}
    (ignored : svc.applyDecision decision feature cycleId ts = .ok (after, none)) : after = svc := by
  rcases applyDecision_cases svc decision cycleId ts feature with
    same | ⟨error, raised⟩ | ⟨side, risk, -, -, -, -, filled⟩
  · rw [same] at ignored
    cases ignored
    rfl
  · rw [raised] at ignored
    cases ignored
  · rw [filled] at ignored
    cases ignored

/-- A call that filled booked one fill, at the slipped price of its side. -/
theorem applyDecision_filled {feature : FeatureVector}
    (filled : svc.applyDecision decision feature cycleId ts = .ok (after, some result)) :
    ∃ side risk, decision.side = some side ∧ decision.risk = some risk ∧ 0 < feature.referencePrice ∧
      svc.applySlippage feature.referencePrice side ≠ 0 ∧
      svc.bookFill decision side risk (svc.applySlippage feature.referencePrice side) cycleId ts =
        (after, result) := by
  rcases applyDecision_cases svc decision cycleId ts feature with
    ignored | ⟨error, raised⟩ | ⟨side, risk, side_eq, risk_eq, priced, nonzero, booked⟩
  · rw [ignored] at filled
    cases filled
  · rw [raised] at filled
    cases filled
  · rw [booked] at filled
    cases filled
    exact ⟨side, risk, side_eq, risk_eq, priced, nonzero, rfl⟩

/-- The order is filled, at the slipped price of its side. -/
structure Fills (svc : PaperExecutionService) (decision : TradeDecision) (feature : FeatureVector)
    (side : Side) (risk : RiskDecision) : Prop where
  executes : decision.status = .execute
  sided : decision.side = some side
  sized : decision.risk = some risk
  priced : 0 < feature.referencePrice
  nonzero : svc.applySlippage feature.referencePrice side ≠ 0

theorem Fills.applied {feature : FeatureVector} {side : Side} {risk : RiskDecision}
    (fills : svc.Fills decision feature side risk) (cycleId : String) (ts : Datetime) :
    svc.applyDecision decision feature cycleId ts =
      .ok ((svc.bookFill decision side risk (svc.applySlippage feature.referencePrice side) cycleId ts).1,
        some (svc.bookFill decision side risk (svc.applySlippage feature.referencePrice side)
          cycleId ts).2) := by
  simp only [applyDecision, fills.executes, fills.sided, fills.sized, if_neg fills.priced.not_ge,
    if_neg fills.nonzero]

theorem fills_of_filled {feature : FeatureVector}
    (filled : svc.applyDecision decision feature cycleId ts = .ok (after, some result)) :
    ∃ side risk, svc.Fills decision feature side risk ∧
      svc.bookFill decision side risk (svc.applySlippage feature.referencePrice side) cycleId ts =
        (after, result) := by
  obtain ⟨side, risk, side_eq, risk_eq, priced, nonzero, booked⟩ := applyDecision_filled filled
  exact ⟨side, risk, ⟨applyDecision_executed filled, side_eq, risk_eq, priced, nonzero⟩, booked⟩

variable {side : Side} {risk : RiskDecision} {price : ℚ}

theorem bookFill_resultingQuantity (svc : PaperExecutionService) (decision : TradeDecision) (side : Side)
    (risk : RiskDecision) (price : ℚ) (cycleId : String) (ts : Datetime) :
    (svc.bookFill decision side risk price cycleId ts).2.resultingQuantity =
      svc.heldQuantity decision.symbol + signedQuantity side risk price := by
  rw [← positionFor_quantity svc decision.symbol ts]
  rfl

/-- A fill writes the position of its own symbol and no other. -/
theorem bookFill_stored (sound : svc.PositionsSound)
    (booked : svc.bookFill decision side risk price cycleId ts = (after, result)) :
    after.state.positions = svc.state.positions.set (decision.symbol, paperPositionSide)
      (positionAfter svc decision ts side risk price) := by
  have positions := bookFill_positions svc decision cycleId ts side risk price
  rwa [booked, (positionAfter_sound sound decision ts side risk price).1] at positions

theorem heldQuantity_bookFill (sound : svc.PositionsSound)
    (booked : svc.bookFill decision side risk price cycleId ts = (after, result)) (symbol : String) :
    after.heldQuantity symbol =
      if symbol = decision.symbol then result.resultingQuantity else svc.heldQuantity symbol := by
  have quantity := bookFill_resultingQuantity svc decision side risk price cycleId ts
  simp only [booked, ← positionFor_quantity svc decision.symbol ts] at quantity
  simp only [heldQuantity, positionFor, OrderedDict.getD, bookFill_stored sound booked,
    OrderedDict.get?_set, Prod.mk.injEq, and_true]
  split
  · exact quantity.symm
  · rfl

/-- An order that opens a position from flat, at its slipped price and rounded to
eight places. -/
def OpensFromFlat (svc : PaperExecutionService) (decision : TradeDecision) (feature : FeatureVector) : Prop :=
  decision.status = .execute ∧ 0 < feature.referencePrice ∧ svc.heldQuantity decision.symbol = 0 ∧
    ∃ side risk, decision.side = some side ∧ decision.risk = some risk ∧
      signedQuantity side risk (svc.applySlippage feature.referencePrice side) ≠ 0

/-- Nothing is bought or sold at a price of zero. -/
theorem signedQuantity_zero (side : Side) (risk : RiskDecision) : signedQuantity side risk 0 = 0 := by
  have nothing : quantizeHalfEven 0 = 0 :=
    quantize_of_onGrid halfEven_nearest decimalPlaces_pos (onGrid_zero _)
  simp [signedQuantity, nothing]

/-- Such an order is filled, and what it fills opens the position. -/
theorem opensFromFlat_iff (svc : PaperExecutionService) (decision : TradeDecision) (feature : FeatureVector)
    (cycleId : String) (ts : Datetime) : svc.OpensFromFlat decision feature ↔
      ∃ after result, svc.applyDecision decision feature cycleId ts = .ok (after, some result) ∧
        svc.heldQuantity decision.symbol = 0 ∧ result.resultingQuantity ≠ 0 := by
  constructor
  · rintro ⟨executes, priced, flat, side, risk, side_eq, risk_eq, opens⟩
    have nonzero : svc.applySlippage feature.referencePrice side ≠ 0 := by
      intro free
      rw [free, signedQuantity_zero] at opens
      exact opens rfl
    have quantity := bookFill_resultingQuantity svc decision side risk
      (svc.applySlippage feature.referencePrice side) cycleId ts
    rw [flat, zero_add] at quantity
    have fills : svc.Fills decision feature side risk := ⟨executes, side_eq, risk_eq, priced, nonzero⟩
    exact ⟨_, _, fills.applied cycleId ts, flat, quantity ▸ opens⟩
  · rintro ⟨after, result, filled, flat, opens⟩
    obtain ⟨side, risk, side_eq, risk_eq, priced, -, booked⟩ := applyDecision_filled filled
    have quantity := bookFill_resultingQuantity svc decision side risk
      (svc.applySlippage feature.referencePrice side) cycleId ts
    rw [booked, flat, zero_add] at quantity
    exact ⟨applyDecision_executed filled, priced, flat, side, risk, side_eq, risk_eq, quantity ▸ opens⟩

/-- The exit clock of the symbol restarts whenever a fill leaves it flat. -/
theorem bookFill_lastExitTime (booked : svc.bookFill decision side risk price cycleId ts = (after, result)) :
    after.lastExitTime = svc.filledExitTime decision.symbol result.resultingQuantity ts := by
  obtain ⟨rfl, rfl⟩ := Prod.mk.inj booked
  rfl

/-- Metadata a fill writes on opening from flat. -/
def openedMeta (decision : TradeDecision) (fillPrice : ℚ) (ts : Datetime) : PositionEntryMeta where
  entryTime := ts
  peakPrice := fillPrice
  strategyName := ((ofOptional decision.selectedStrategy).or (.str "unknown")).toStr

/-- Metadata is written on opening from flat, dropped on closing and kept otherwise. -/
theorem bookFill_metadata (booked : svc.bookFill decision side risk price cycleId ts = (after, result))
    (symbol : String) : after.positionMetadata.get? symbol =
      if symbol = decision.symbol then
        if result.resultingQuantity = 0 then none
        else if svc.heldQuantity decision.symbol = 0 then some (openedMeta decision price ts)
        else svc.positionMetadata.get? symbol
      else svc.positionMetadata.get? symbol := by
  have metadata : after.positionMetadata =
      svc.filledMetadata decision (svc.heldQuantity decision.symbol) result.resultingQuantity price ts := by
    rw [← positionFor_quantity svc decision.symbol ts]
    obtain ⟨rfl, rfl⟩ := Prod.mk.inj booked
    rfl
  rw [metadata, filledMetadata]
  by_cases own : symbol = decision.symbol
  · subst own
    by_cases closed : result.resultingQuantity = 0
    · simp [closed]
    · by_cases flat : svc.heldQuantity decision.symbol = 0
      · simp [closed, flat, openedMeta]
      · simp [closed, flat]
  · rw [if_neg own]
    split_ifs
    · exact OrderedDict.get?_set_of_ne _ _ own
    · rw [OrderedDict.get?_pop, if_neg own]
    · rfl

end Booking

end PaperExecutionService

end CatsPy
