import CatsPy.PaperFills

/-!
# Metadata of the current position

A ghost beside the account remembers the fill that opened each position in its
current direction and the prices marked since. The metadata the account keeps
agrees with the ghost as long as no fill takes a position straight through zero.
-/
namespace CatsPy
open PythonValues

/-- The fill at which a position took its current sign, and the marks since. -/
structure Opening where
  entryTime : Datetime
  strategyName : String
  price : ℚ
  marks : List ℚ := []

/-- The highest price since a long was opened, the lowest since a short was. -/
def Opening.peak (opening : Opening) (quantity : ℚ) : ℚ :=
  if 0 < quantity then opening.marks.foldl max opening.price else opening.marks.foldl min opening.price

def Opening.mark (opening : Opening) (features : OrderedDict String FeatureVector) (symbol : String) :
    Opening :=
  match features.get? symbol with
  | none => opening
  | some feature =>
      if 0 < feature.referencePrice then { opening with marks := opening.marks ++ [feature.referencePrice] }
      else opening

theorem Opening.mark_entry (opening : Opening) (features : OrderedDict String FeatureVector)
    (symbol : String) : (opening.mark features symbol).entryTime = opening.entryTime ∧
      (opening.mark features symbol).strategyName = opening.strategyName := by
  simp only [Opening.mark]
  repeat' split
  all_goals exact ⟨rfl, rfl⟩

abbrev Openings := String → Option Opening

/-- `decision.selected_strategy or "unknown"`. -/
def TradeDecision.strategy (decision : TradeDecision) : String :=
  ((ofOptional decision.selectedStrategy).or (.str "unknown")).toStr

namespace PaperExecutionService

section Ghost

/-- The opening of the filled symbol: none when flat, kept with the sign, new otherwise. -/
def reopened (svc : PaperExecutionService) (openings : Openings) (decision : TradeDecision) (ts : Datetime)
    (result : PaperFillResult) : Option Opening :=
  if result.resultingQuantity = 0 then none
  else if quantitySign result.resultingQuantity = quantitySign (svc.heldQuantity decision.symbol) then
    openings decision.symbol
  else some { entryTime := ts, strategyName := decision.strategy, price := result.fillPrice }

/-- What one operation does to the openings. -/
def track (svc : PaperExecutionService) (openings : Openings) : PaperOp → Openings
  | .accountState _ => openings
  | .markToMarket features _ _ => fun symbol => (openings symbol).map (·.mark features symbol)
  | .applyDecision decision feature cycleId ts =>
      match svc.applyDecision decision feature cycleId ts with
      | .ok (_, some result) => fun symbol =>
          if symbol = decision.symbol then svc.reopened openings decision ts result else openings symbol
      | _ => openings

/-- The openings at the end of a run. -/
def openingsAfter : PaperExecutionService → Openings → List PaperOp → Openings
  | _, openings, [] => openings
  | svc, openings, op :: rest => openingsAfter (svc.step op) (svc.track openings op) rest

/-- The metadata of every open position is that of its opening. -/
def MetadataCurrent (svc : PaperExecutionService) (openings : Openings) : Prop :=
  ∀ symbol, svc.heldQuantity symbol ≠ 0 → ∃ opening entryMeta, openings symbol = some opening ∧
    svc.positionMetadata.get? symbol = some entryMeta ∧ entryMeta.entryTime = opening.entryTime ∧
    entryMeta.strategyName = opening.strategyName ∧
    entryMeta.peakPrice = opening.peak (svc.heldQuantity symbol)

/-- An order against an open position that is larger than the position, at its
slipped price and rounded to eight places. -/
def Reverses (svc : PaperExecutionService) : PaperOp → Prop
  | .applyDecision decision feature _ _ => decision.status = .execute ∧ 0 < feature.referencePrice ∧
      ∃ side risk, decision.side = some side ∧ decision.risk = some risk ∧
        svc.heldQuantity decision.symbol * (svc.heldQuantity decision.symbol +
          signedQuantity side risk (svc.applySlippage feature.referencePrice side)) < 0
  | _ => False

end Ghost

section Tracking

variable {svc : PaperExecutionService} {openings : Openings}

theorem markedMetaUnder_peak (opening : Opening) (features : OrderedDict String FeatureVector)
    (position : PositionState) (opened : position.isOpen = true)
    (direction : position.direction = directionForQuantity position.quantity) {entryMeta : PositionEntryMeta}
    (current : entryMeta.peakPrice = opening.peak position.quantity) :
    (markedMetaUnder features position entryMeta).peakPrice =
      (opening.mark features position.symbol).peak position.quantity := by
  have nonzero : position.quantity ≠ 0 := by simpa [PositionState.isOpen] using opened
  cases known : features.get? position.symbol with
  | none => simpa [markedMetaUnder, opened, known, Opening.mark] using current
  | some feature =>
      by_cases unpriced : feature.referencePrice ≤ 0
      · simpa [markedMetaUnder, opened, known, unpriced, unpriced.not_gt, Opening.mark] using current
      · have priced : 0 < feature.referencePrice := lt_of_not_ge unpriced
        rcases lt_or_gt_of_ne nonzero with short | long
        · simp [markedMetaUnder, opened, known, unpriced, Opening.mark, priced, direction,
            directionForQuantity, short, short.not_gt, markedMeta, current, Opening.peak, List.foldl_append]
        · simp [markedMetaUnder, opened, known, unpriced, Opening.mark, priced, direction,
            directionForQuantity, long, markedMeta, current, Opening.peak, List.foldl_append]

theorem markedMetaUnder_entry (features : OrderedDict String FeatureVector) (position : PositionState)
    (entryMeta : PositionEntryMeta) :
    (markedMetaUnder features position entryMeta).entryTime = entryMeta.entryTime ∧
      (markedMetaUnder features position entryMeta).strategyName = entryMeta.strategyName := by
  simp only [markedMetaUnder, markedMeta]
  repeat' split
  all_goals exact ⟨rfl, rfl⟩

theorem MetadataCurrent.marked (sound : svc.PositionsSound) (current : svc.MetadataCurrent openings)
    (features : OrderedDict String FeatureVector) (cycleId : String) (ts : Datetime) :
    (svc.markToMarket features cycleId ts).MetadataCurrent
      fun symbol => (openings symbol).map (·.mark features symbol) := by
  intro symbol held
  rw [heldQuantity_markToMarket] at held ⊢
  obtain ⟨opening, entryMeta, known, stored, time, strategy, peak⟩ := current symbol held
  obtain ⟨position, found, opened⟩ := (heldQuantity_ne_zero_iff svc symbol).mp held
  obtain ⟨key, shape⟩ := sound _ position found
  have own : position.symbol = symbol := congrArg Prod.fst key
  have entry := markedMetaUnder_entry features position entryMeta
  have ghost := opening.mark_entry features symbol
  rw [heldQuantity_of_get? found] at peak ⊢
  refine ⟨opening.mark features symbol, markedMetaUnder features position entryMeta, ?_, ?_, ?_, ?_, ?_⟩
  · simp only [known, Option.map_some]
  · rw [markToMarket_metadata features ts sound, found, stored]
    rfl
  · rw [entry.1, ghost.1, time]
  · rw [entry.2, ghost.2, strategy]
  · rw [← own]
    exact markedMetaUnder_peak opening features position opened shape.direction peak

theorem quantitySign_eq_of_kept {held after : ℚ} (heldNonzero : held ≠ 0) (nonzero : after ≠ 0)
    (kept : ¬ held * after < 0) : quantitySign after = quantitySign held := by
  have same : 0 < held * after := lt_of_le_of_ne (le_of_not_gt kept) (mul_ne_zero heldNonzero nonzero).symm
  rcases mul_pos_iff.mp same with ⟨long, long'⟩ | ⟨short, short'⟩
  · simp [quantitySign, long, long']
  · simp [quantitySign, short, short', short.not_gt, short'.not_gt]

theorem quantitySign_eq_one_iff (quantity : ℚ) : quantitySign quantity = 1 ↔ 0 < quantity := by
  unfold quantitySign
  split_ifs with long short
  · exact iff_of_true rfl long
  · exact iff_of_false (by norm_num) long
  · exact iff_of_false (by norm_num) long

theorem quantitySign_eq_zero_iff (quantity : ℚ) : quantitySign quantity = 0 ↔ quantity = 0 := by
  unfold quantitySign
  split_ifs with long short
  · exact iff_of_false (by norm_num) long.ne'
  · exact iff_of_false (by norm_num) short.ne
  · exact iff_of_true rfl (le_antisymm (le_of_not_gt long) (le_of_not_gt short))

theorem peak_congr {held after : ℚ} (same : quantitySign after = quantitySign held) (opening : Opening) :
    opening.peak after = opening.peak held := by
  have sign : 0 < after ↔ 0 < held := by
    rw [← quantitySign_eq_one_iff, ← quantitySign_eq_one_iff, same]
  simp only [Opening.peak, sign]

/-- A fill that does not go straight through zero keeps the metadata current. -/
theorem MetadataCurrent.filled (sound : svc.PositionsSound) (current : svc.MetadataCurrent openings)
    {decision : TradeDecision} {cycleId : String} {ts : Datetime} {side : Side} {risk : RiskDecision}
    {price : ℚ} {after : PaperExecutionService} {result : PaperFillResult}
    (booked : svc.bookFill decision side risk price cycleId ts = (after, result))
    (kept : ¬ svc.heldQuantity decision.symbol * result.resultingQuantity < 0) :
    after.MetadataCurrent fun symbol =>
      if symbol = decision.symbol then svc.reopened openings decision ts result else openings symbol := by
  intro symbol held
  rw [heldQuantity_bookFill sound booked] at held ⊢
  rw [bookFill_metadata booked]
  by_cases own : symbol = decision.symbol
  · subst own
    rw [if_pos rfl] at held
    simp only [if_true, if_neg held, reopened]
    by_cases flat : svc.heldQuantity decision.symbol = 0
    · have fresh : quantitySign result.resultingQuantity ≠ quantitySign 0 := by
        rw [(quantitySign_eq_zero_iff 0).mpr rfl]
        exact fun vanished => held ((quantitySign_eq_zero_iff _).mp vanished)
      have priced : result.fillPrice = price := by
        rw [← (Prod.mk.inj booked).2]
      rw [flat, if_neg fresh, if_pos rfl]
      refine ⟨_, _, rfl, rfl, rfl, rfl, ?_⟩
      simp [openedMeta, Opening.peak, priced]
    · have same := quantitySign_eq_of_kept flat held kept
      obtain ⟨opening, entryMeta, known, stored, time, strategy, peak⟩ := current _ flat
      rw [if_pos same, if_neg flat, known, stored]
      exact ⟨opening, entryMeta, rfl, rfl, time, strategy, peak.trans (peak_congr same opening).symm⟩
  · rw [if_neg own] at held
    simp only [if_neg own]
    exact current symbol held

/-- Every operation but a reversal keeps the metadata current. -/
theorem MetadataCurrent.step (sound : svc.PositionsSound) (current : svc.MetadataCurrent openings)
    (op : PaperOp) (kept : ¬ svc.Reverses op) : (svc.step op).MetadataCurrent (svc.track openings op) := by
  cases op with
  | accountState now => exact current
  | markToMarket features cycleId ts => exact current.marked sound features cycleId ts
  | applyDecision decision feature cycleId ts =>
      simp only [PaperExecutionService.step, track]
      cases applied : svc.applyDecision decision feature cycleId ts with
      | error error => exact current
      | ok outcome =>
          obtain ⟨after, _ | result⟩ := outcome
          · rw [applyDecision_ignored applied]
            exact current
          · obtain ⟨side, risk, side_eq, risk_eq, priced, -, booked⟩ := applyDecision_filled applied
            apply current.filled sound booked
            intro reverses
            have quantity := bookFill_resultingQuantity svc decision side risk
              (svc.applySlippage feature.referencePrice side) cycleId ts
            rw [booked] at quantity
            rw [quantity] at reverses
            exact kept ⟨applyDecision_executed applied, priced, side, risk, side_eq, risk_eq, reverses⟩

theorem run_metadataCurrent (sound : svc.PositionsSound) (current : svc.MetadataCurrent openings)
    (ops : List PaperOp)
    (kept : StateRuns.Along PaperExecutionService.step (fun svc op => ¬ svc.Reverses op) svc ops) :
    (svc.run ops).MetadataCurrent (svc.openingsAfter openings ops) := by
  induction ops generalizing svc openings with
  | nil => exact current
  | cons op rest ih =>
      obtain ⟨here, later⟩ := kept
      exact ih (step_positionsSound svc op sound) (current.step sound op here) later

/-- In every run without a reversal straight through zero, the metadata of each
open position is that of the fill that opened it and of the marks since. -/
theorem metadata_current (config : PaperConfig) (ops : List PaperOp)
    (kept : StateRuns.Along PaperExecutionService.step (fun svc op => ¬ svc.Reverses op) (init config) ops) :
    ((init config).run ops).MetadataCurrent ((init config).openingsAfter (fun _ => none) ops) := by
  apply run_metadataCurrent (init_positionsSound config) _ ops kept
  intro symbol held
  simp [init, heldQuantity, positionFor, OrderedDict.getD, AccountState.upsertBalance] at held

end Tracking

section Samples

/-- A long, then a larger sale a minute later. -/
def throughZero : List PaperOp :=
  [.applyDecision (marketOrder .buy 1000) (quoted 100) "open" 0,
    .applyDecision (marketOrder .sell 2000) (quoted 100) "reverse" 60000000]

/-- A long, then half as much again. -/
def builtUp : List PaperOp :=
  [.applyDecision (marketOrder .buy 1000) (quoted 100) "open" 0,
    .applyDecision (marketOrder .buy 500) (quoted 100) "add" 60000000]

theorem metadata_current_builtUp :
    ((init {}).run builtUp).MetadataCurrent ((init {}).openingsAfter (fun _ => none) builtUp) := by
  apply metadata_current {} builtUp
  refine ⟨?_, ?_, trivial⟩
  · rintro ⟨-, -, side, risk, side_eq, risk_eq, reverses⟩
    cases side_eq
    cases risk_eq
    exact absurd reverses (by decide +kernel)
  · rintro ⟨-, -, side, risk, side_eq, risk_eq, reverses⟩
    cases side_eq
    cases risk_eq
    exact absurd reverses (by decide +kernel)

/-- After the reversal the metadata is still that of the long. -/
theorem reversal_keeps_metadata :
    ¬ ((init {}).run throughZero).MetadataCurrent ((init {}).openingsAfter (fun _ => none) throughZero) := by
  intro current
  have stale : ((init {}).run throughZero).heldQuantity "BTCUSDT" ≠ 0 ∧
      (((init {}).openingsAfter (fun _ => none) throughZero) "BTCUSDT").map Opening.entryTime =
        some 60000000 ∧
      (((init {}).run throughZero).positionMetadata.get? "BTCUSDT").map PositionEntryMeta.entryTime =
        some 0 := by
    decide +kernel
  obtain ⟨held, opened, kept⟩ := stale
  obtain ⟨opening, entryMeta, known, stored, time, -⟩ := current "BTCUSDT" held
  rw [known] at opened
  rw [stored] at kept
  simp only [Option.map_some, Option.some.injEq] at opened kept
  rw [opened, kept] at time
  exact absurd time (by decide)

end Samples

end PaperExecutionService

end CatsPy
