import CatsPy.PaperFills

/-!
# Exit times

A fill records an exit whenever it leaves its symbol flat. That is an exit only
if the symbol was open, so a fill of nothing on a flat symbol starts a cooldown.
-/
namespace CatsPy
open PythonValues RoundingGrid StateRuns

namespace PaperExecutionService

/-- The recorded exit time changes exactly when an open position was closed. -/
def RecordsExits (svc : PaperExecutionService) (decision : TradeDecision) (feature : FeatureVector)
    (cycleId : String) (ts : Datetime) : Prop :=
  let after := svc.step (.applyDecision decision feature cycleId ts)
  after.lastExitTime.get? decision.symbol ≠ svc.lastExitTime.get? decision.symbol ↔
    svc.heldQuantity decision.symbol ≠ 0 ∧ after.heldQuantity decision.symbol = 0

/-- A fill on a flat symbol is worth more than half a tick of quantity, unless the
time is its last exit already; and at that time no open symbol is closed. -/
def FlatByExit (svc : PaperExecutionService) (decision : TradeDecision) (feature : FeatureVector)
    (ts : Datetime) : Prop :=
  ∀ side risk, svc.Fills decision feature side risk →
    let fillPrice := svc.applySlippage feature.referencePrice side
    if svc.heldQuantity decision.symbol = 0 then
      |risk.approvedNotional / fillPrice| ≤ decimalPlaces / 2 →
        svc.lastExitTime.get? decision.symbol = some ts
    else svc.lastExitTime.get? decision.symbol = some ts →
      svc.heldQuantity decision.symbol + signedQuantity side risk fillPrice ≠ 0

section Fills

variable {svc : PaperExecutionService} {decision : TradeDecision} {feature : FeatureVector}
  {cycleId : String} {ts : Datetime}

/-- A call that fills nothing records nothing and closes nothing. -/
theorem recordsExits_of_idle (idle : svc.step (.applyDecision decision feature cycleId ts) = svc) :
    svc.RecordsExits decision feature cycleId ts := by
  rw [RecordsExits, idle]
  exact iff_of_false (fun changed => changed rfl) fun ⟨held, flat⟩ => held flat

theorem Fills.unique {side other : Side} {risk otherRisk : RiskDecision}
    (fills : svc.Fills decision feature side risk) (again : svc.Fills decision feature other otherRisk) :
    other = side ∧ otherRisk = risk :=
  ⟨Option.some.inj (again.sided.symm.trans fills.sided), Option.some.inj (again.sized.symm.trans fills.sized)⟩

theorem signedQuantity_eq_zero_iff (side : Side) (risk : RiskDecision) (fillPrice : ℚ) :
    signedQuantity side risk fillPrice = 0 ↔ |risk.approvedNotional / fillPrice| ≤ decimalPlaces / 2 := by
  rw [← quantize_halfEven_eq_zero_iff decimalPlaces_pos]
  simp only [signedQuantity]
  split
  · exact Iff.rfl
  · exact neg_eq_zero

/-- The fill leaves its symbol flat only by an exit. -/
theorem flatByExit_iff {side : Side} {risk : RiskDecision} (fills : svc.Fills decision feature side risk) :
    svc.FlatByExit decision feature ts ↔
      (svc.heldQuantity decision.symbol +
          signedQuantity side risk (svc.applySlippage feature.referencePrice side) = 0 →
        (svc.lastExitTime.get? decision.symbol ≠ some ts ↔ svc.heldQuantity decision.symbol ≠ 0)) := by
  have only : svc.FlatByExit decision feature ts ↔
      if svc.heldQuantity decision.symbol = 0 then
        |risk.approvedNotional / svc.applySlippage feature.referencePrice side| ≤ decimalPlaces / 2 →
          svc.lastExitTime.get? decision.symbol = some ts
      else svc.lastExitTime.get? decision.symbol = some ts →
        svc.heldQuantity decision.symbol +
          signedQuantity side risk (svc.applySlippage feature.referencePrice side) ≠ 0 := by
    constructor
    · intro exits
      exact exits side risk fills
    · intro exits other otherRisk again
      obtain ⟨rfl, rfl⟩ := fills.unique again
      exact exits
  rw [only]
  by_cases flat : svc.heldQuantity decision.symbol = 0
  · simp [flat, signedQuantity_eq_zero_iff]
  · simp only [flat, if_false, ne_eq, not_false_eq_true, iff_true]
    exact ⟨fun exits closes recorded => exits recorded closes, fun exits recorded closes => exits closes recorded⟩

theorem recordsExits_of_fills {side : Side} {risk : RiskDecision} (sound : svc.PositionsSound)
    (fills : svc.Fills decision feature side risk) :
    svc.RecordsExits decision feature cycleId ts ↔ svc.FlatByExit decision feature ts := by
  have filled := fills.applied cycleId ts
  generalize booked : svc.bookFill decision side risk (svc.applySlippage feature.referencePrice side) cycleId
    ts = outcome at filled
  obtain ⟨after, result⟩ := outcome
  have stepped : svc.step (.applyDecision decision feature cycleId ts) = after := by
    simp only [step, filled]
  have quantity := bookFill_resultingQuantity svc decision side risk
    (svc.applySlippage feature.referencePrice side) cycleId ts
  rw [booked] at quantity
  have held : after.heldQuantity decision.symbol = result.resultingQuantity := by
    rw [heldQuantity_bookFill sound booked, if_pos rfl]
  rw [flatByExit_iff fills, ← quantity, RecordsExits, stepped, held, bookFill_lastExitTime booked,
    filledExitTime]
  by_cases flat : result.resultingQuantity = 0
  · simp only [flat, if_true, OrderedDict.get?_set_self, and_true, true_implies]
    rw [ne_comm]
  · simp [flat]

end Fills

/-- A call records exits exactly unless it fills nothing worth a tick on a flat
symbol, or closes one at the very time recorded for it. -/
theorem exits_recorded_iff {svc : PaperExecutionService} (reachable : svc.Reachable)
    (decision : TradeDecision) (feature : FeatureVector) (cycleId : String) (ts : Datetime) :
    svc.RecordsExits decision feature cycleId ts ↔ svc.FlatByExit decision feature ts := by
  have sound := reachable.positionsSound
  rcases applyDecision_cases svc decision cycleId ts feature with
    ignored | ⟨error, raised⟩ | ⟨side, risk, -, -, -, -, filled⟩
  · refine iff_of_true (recordsExits_of_idle (by simp only [step, ignored])) fun side risk fills => ?_
    have filled := (fills.applied cycleId ts).symm.trans ignored
    simp at filled
  · refine iff_of_true (recordsExits_of_idle (by simp only [step, raised])) fun side risk fills => ?_
    have filled := (fills.applied cycleId ts).symm.trans raised
    simp at filled
  · obtain ⟨side, risk, fills, -⟩ := fills_of_filled filled
    exact recordsExits_of_fills sound fills

theorem exits_recorded_flat :
    (init {}).RecordsExits (marketOrder .buy 1000) (quoted 100) "open" 0 ↔
      (init {}).FlatByExit (marketOrder .buy 1000) (quoted 100) 0 :=
  exits_recorded_iff (reachable_init {}) (marketOrder .buy 1000) (quoted 100) "open" 0

/-- What the last bit of headroom buys rounds to nothing, and keeps the symbol out
of the market as if it had just been closed. -/
theorem rounded_fill_starts_cooldown :
    let after := (init {}).step (.applyDecision (marketOrder .buy (1 / 5000)) (quoted 100000) "open" 0)
    (init {}).heldQuantity "BTCUSDT" = 0 ∧ after.lastExitTime.get? "BTCUSDT" = some 0 ∧
      after.isInCooldown "BTCUSDT" 0 30 = true ∧
      ¬ (init {}).RecordsExits (marketOrder .buy (1 / 5000)) (quoted 100000) "open" 0 := by
  have flat : (init {}).heldQuantity "BTCUSDT" = 0 := rfl
  have recorded : ((init {}).step (.applyDecision (marketOrder .buy (1 / 5000)) (quoted 100000) "open"
      0)).lastExitTime.get? "BTCUSDT" = some 0 := by
    decide +kernel
  have cooling : ((init {}).step (.applyDecision (marketOrder .buy (1 / 5000)) (quoted 100000) "open"
      0)).isInCooldown "BTCUSDT" 0 30 = true := by
    decide +kernel
  refine ⟨flat, recorded, cooling, fun records => ?_⟩
  have changed : ((init {}).step (.applyDecision (marketOrder .buy (1 / 5000)) (quoted 100000) "open"
      0)).lastExitTime.get? "BTCUSDT" ≠ (init {}).lastExitTime.get? "BTCUSDT" := by
    rw [recorded]
    exact Option.some_ne_none 0
  exact (records.mp changed).1 flat

end PaperExecutionService

end CatsPy
