import CatsPy.CostHistory
import CatsPy.ExitClosure
import CatsPy.PaperConservation
import CatsPy.PaperFills

/-!
# Representation of paper positions

The dependent fields of every stored position, and the entry metadata beside
them, agree with the quantity in every reachable state. The entry price of an
open position is positive as long as the slippage cannot turn a price negative.
-/
namespace CatsPy
open PythonValues RoundingGrid

/-- The dependent fields follow the quantity, and a flat position is all zero. -/
structure PositionState.Represented (position : PositionState) : Prop extends position.PaperSound where
  flat : position.quantity = 0 →
    position.entryPrice = 0 ∧ position.notional = 0 ∧ position.unrealizedPnl = 0

namespace PaperExecutionService

section EntryPrices

/-- A fill that leaves nothing leaves no entry price. -/
theorem settle_flat {oldQuantity signedFillQuantity : ℚ} (closes : oldQuantity + signedFillQuantity = 0)
    (oldEntryPrice fillPrice : ℚ) :
    (settle oldQuantity oldEntryPrice signedFillQuantity fillPrice).1 = 0 := by
  obtain rfl : signedFillQuantity = -oldQuantity := by linarith
  unfold settle
  split
  · next adds =>
    rcases adds with flat | adds
    · simp [weightedEntryPrice, flat]
    · exact absurd adds (by nlinarith [mul_self_nonneg oldQuantity])
  · simp

theorem onGrid_decimalPlaces : OnGrid decimalPlaces decimalPlaces := ⟨1, by simp⟩

/-- Fills at a unit or more keep the entry price of what stays open there. -/
theorem settle_priced {oldQuantity oldEntryPrice signedFillQuantity fillPrice : ℚ}
    (old : oldQuantity ≠ 0 → decimalPlaces ≤ oldEntryPrice) (fill : decimalPlaces ≤ fillPrice)
    (stays : oldQuantity + signedFillQuantity ≠ 0) :
    decimalPlaces ≤ (settle oldQuantity oldEntryPrice signedFillQuantity fillPrice).1 := by
  rw [settle_eq_applyFill]
  exact AverageCost.applyFill_lower quantizeHalfUp_respectsGrid onGrid_decimalPlaces old fill stays

/-- A slippage of at most the whole price leaves a fill price of a unit or more. -/
theorem fillPrice_priced {svc : PaperExecutionService} (bounded : |svc.slippageBps| ≤ 10000) {price : ℚ}
    (priced : 0 < price) {side : Side} (nonzero : svc.applySlippage price side ≠ 0) :
    decimalPlaces ≤ svc.applySlippage price side := by
  obtain ⟨low, high⟩ := abs_le.mp bounded
  have multiplier : 0 ≤ slippageMultiplier svc.slippageBps side := by
    unfold slippageMultiplier
    split <;> linarith
  have unit := decimalPlaces_pos
  have size : ((0 : ℤ) : ℚ) ≤ price * slippageMultiplier svc.slippageBps side / decimalPlaces := by
    rw [Int.cast_zero]
    exact div_nonneg (mul_nonneg priced.le multiplier) unit.le
  have ticks_nonneg := halfUp_nearest.le_round size
  have ticks_nonzero : halfUp (price * slippageMultiplier svc.slippageBps side / decimalPlaces) ≠ 0 := by
    intro vanished
    apply nonzero
    simp [applySlippage, quantizeHalfUp, quantize, vanished]
  have ticks_pos : (1 : ℚ) ≤ halfUp (price * slippageMultiplier svc.slippageBps side / decimalPlaces) := by
    exact_mod_cast lt_of_le_of_ne ticks_nonneg (Ne.symm ticks_nonzero)
  calc decimalPlaces = 1 * decimalPlaces := (one_mul _).symm
    _ ≤ halfUp (price * slippageMultiplier svc.slippageBps side / decimalPlaces) * decimalPlaces :=
        mul_le_mul_of_nonneg_right ticks_pos unit.le

end EntryPrices

section Positions

/-- What marking and filling keep of one position holds of every stored one. -/
theorem step_stored (Q : PositionState → Prop) {svc : PaperExecutionService} (op : PaperOp)
    (missing : ∀ symbol ts, Q { symbol, positionSide := paperPositionSide, updatedAt := ts })
    (marked : ∀ position mark ts, Q position → Q (markedPosition position mark ts))
    (filled : ∀ decision ts side risk price, 0 < price →
      svc.applySlippage price side ≠ 0 → Q (svc.positionFor decision.symbol ts) →
        Q (positionAfter svc decision ts side risk (svc.applySlippage price side)))
    (all : ∀ key position, svc.state.positions.get? key = some position → Q position) :
    ∀ key position, (svc.step op).state.positions.get? key = some position → Q position := by
  cases op with
  | accountState now => exact all
  | markToMarket features cycleId ts =>
      intro key position found
      simp only [step, markToMarket_positions, OrderedDict.get?_mapValues, Option.map_eq_some_iff] at found
      obtain ⟨before, stored, rfl⟩ := found
      rcases markedUnder_cases features ts before with same | ⟨mark, marks⟩
      · rw [same]
        exact all key before stored
      · rw [marks]
        exact marked before mark ts (all key before stored)
  | applyDecision decision feature cycleId ts =>
      rcases step_applyDecision_cases svc decision cycleId ts feature with
        same | ⟨side, risk, -, -, priced, nonzero, booked⟩
      · rw [same]
        exact all
      · intro key position found
        rw [booked, bookFill_positions, OrderedDict.get?_set] at found
        split at found
        · cases found
          apply filled decision ts side risk feature.referencePrice priced nonzero
          simp only [positionFor, OrderedDict.getD]
          cases stored : svc.state.positions.get? (decision.symbol, paperPositionSide) with
          | none => exact missing decision.symbol ts
          | some current => exact all _ current stored
        · exact all key position found

/-- A flat position has no entry price. -/
def FlatEntries (svc : PaperExecutionService) : Prop :=
  ∀ key position, svc.state.positions.get? key = some position →
    position.quantity = 0 → position.entryPrice = 0

theorem step_flatEntries (svc : PaperExecutionService) (op : PaperOp) (flat : svc.FlatEntries) :
    (svc.step op).FlatEntries := by
  apply step_stored (fun position => position.quantity = 0 → position.entryPrice = 0) op _ _ _ flat
  · exact fun _ _ _ => rfl
  · exact fun _ _ _ held => held
  · intro decision ts side risk price _ _ _ closed
    exact settle_flat closed _ _

/-- An open position has an entry price of a unit or more. -/
def OpenEntriesPriced (svc : PaperExecutionService) : Prop :=
  ∀ key position, svc.state.positions.get? key = some position →
    position.quantity ≠ 0 → decimalPlaces ≤ position.entryPrice

theorem step_openEntriesPriced {svc : PaperExecutionService} (bounded : |svc.slippageBps| ≤ 10000)
    (op : PaperOp) (priced : svc.OpenEntriesPriced) : (svc.step op).OpenEntriesPriced := by
  apply step_stored (fun position => position.quantity ≠ 0 → decimalPlaces ≤ position.entryPrice) op
    _ _ _ priced
  · exact fun _ _ opened => absurd rfl opened
  · exact fun _ _ _ held => held
  · intro decision ts side risk price positive nonzero before stays
    exact settle_priced before (fillPrice_priced bounded positive nonzero) stays

/-- Metadata is kept for exactly the symbols held. -/
def MetadataTracksOpen (svc : PaperExecutionService) : Prop :=
  ∀ symbol, svc.positionMetadata.contains symbol = true ↔ svc.heldQuantity symbol ≠ 0

theorem step_metadataTracksOpen {svc : PaperExecutionService} (sound : svc.PositionsSound) (op : PaperOp)
    (tracks : svc.MetadataTracksOpen) : (svc.step op).MetadataTracksOpen := by
  intro symbol
  have before := tracks symbol
  simp only [OrderedDict.contains] at before ⊢
  cases op with
  | accountState now => exact before
  | markToMarket features cycleId ts =>
      simp only [step]
      rw [heldQuantity_markToMarket, markToMarket_metadata features ts sound]
      cases svc.state.positions.get? (symbol, paperPositionSide) with
      | none => exact before
      | some position =>
          rw [Option.isSome_map]
          exact before
  | applyDecision decision feature cycleId ts =>
      rcases step_applyDecision_cases svc decision cycleId ts feature with
        same | ⟨side, risk, -, -, -, -, filled⟩
      · rw [same]
        exact before
      · rw [filled]
        generalize booked : svc.bookFill decision side risk
          (svc.applySlippage feature.referencePrice side) cycleId ts = outcome
        obtain ⟨after, result⟩ := outcome
        rw [bookFill_metadata booked, heldQuantity_bookFill sound booked]
        by_cases own : symbol = decision.symbol
        · subst own
          rw [if_pos rfl, if_pos rfl]
          split_ifs with closed flat
          · simp [closed]
          · simp [closed]
          · exact iff_of_true (before.mpr flat) closed
        · rw [if_neg own, if_neg own]
          exact before

end Positions

section Reached

/-- Everything the representation claims of a reachable account. -/
structure Representation (svc : PaperExecutionService) : Prop where
  sound : svc.PositionsSound
  flat : svc.FlatEntries
  metadata : svc.MetadataTracksOpen

theorem init_representation (config : PaperConfig) : (init config).Representation where
  sound := init_positionsSound config
  flat := by
    intro key position found
    simp [init, AccountState.upsertBalance] at found
  metadata := by
    intro symbol
    simp [init, OrderedDict.contains, heldQuantity, positionFor, OrderedDict.getD, AccountState.upsertBalance]

theorem step_representation (svc : PaperExecutionService) (op : PaperOp) (held : svc.Representation) :
    (svc.step op).Representation where
  sound := step_positionsSound svc op held.sound
  flat := step_flatEntries svc op held.flat
  metadata := step_metadataTracksOpen held.sound op held.metadata

theorem run_openEntriesPriced (config : PaperConfig) (bounded : |config.slippageBps| ≤ 10000)
    (ops : List PaperOp) : ((init config).run ops).OpenEntriesPriced := by
  have kept := StateRuns.run_invariant step
    (fun svc => svc.slippageBps = config.slippageBps ∧ svc.OpenEntriesPriced)
    (by
      rintro svc op ⟨slippage, priced⟩
      rw [← slippage] at bounded
      exact ⟨(step_slippageBps svc op).trans slippage, step_openEntriesPriced bounded op priced⟩)
    (init config) ops ⟨rfl, by
      intro key position found
      simp [init, AccountState.upsertBalance] at found⟩
  exact kept.2

/-- In every reachable state the stored positions are represented, the open ones
have a positive entry price unless the slippage exceeds the price, and metadata
is kept for the open symbols. -/
theorem run_represented (config : PaperConfig) (ops : List PaperOp) :
    let svc := (init config).run ops
    (∀ key position, svc.state.positions.get? key = some position →
      position.Represented ∧
        (|config.slippageBps| ≤ 10000 → position.isOpen = true → 0 < position.entryPrice)) ∧
    ∀ symbol, svc.positionMetadata.contains symbol = true ↔ ∃ position,
      svc.state.positions.get? (symbol, paperPositionSide) = some position ∧ position.isOpen = true := by
  have held : ((init config).run ops).Representation :=
    StateRuns.run_invariant step Representation step_representation _ ops (init_representation config)
  refine ⟨fun key position stored => ⟨?_, ?_⟩, ?_⟩
  · have shape := (held.sound key position stored).2
    refine ⟨shape, fun flat => ⟨held.flat key position stored flat, ?_, ?_⟩⟩
    · rw [shape.notional, flat, zero_mul]
    · rw [shape.unrealized, flat, mul_zero]
  · intro bounded opened
    have nonzero : position.quantity ≠ 0 := by simpa [PositionState.isOpen] using opened
    exact decimalPlaces_pos.trans_le (run_openEntriesPriced config bounded ops key position stored nonzero)
  · intro symbol
    exact (held.metadata symbol).trans (heldQuantity_ne_zero_iff _ symbol)

theorem run_represented_long :
    let svc := (init {}).run [.applyDecision (marketOrder .buy 1000) (quoted 100) "open" 0]
    (∀ key position, svc.state.positions.get? key = some position →
      position.Represented ∧ (|(1 : ℚ)| ≤ 10000 → position.isOpen = true → 0 < position.entryPrice)) ∧
    ∀ symbol, svc.positionMetadata.contains symbol = true ↔ ∃ position,
      svc.state.positions.get? (symbol, paperPositionSide) = some position ∧ position.isOpen = true :=
  run_represented {} [.applyDecision (marketOrder .buy 1000) (quoted 100) "open" 0]

/-- Selling with a slippage of twice the price opens a long at a negative price. -/
theorem negative_entry_price : ∃ position,
    ((init { slippageBps := 20000 }).run
      [.applyDecision (marketOrder .sell 1000) (quoted 100) "open" 0]).state.positions.get?
        ("BTCUSDT", paperPositionSide) = some position ∧
      position.isOpen = true ∧ position.entryPrice < 0 := by
  have negative : (((init { slippageBps := 20000 }).run
      [.applyDecision (marketOrder .sell 1000) (quoted 100) "open" 0]).state.positions.get?
        ("BTCUSDT", paperPositionSide)).any (fun position => position.isOpen ∧ position.entryPrice < 0) =
      true := by
    decide +kernel
  obtain ⟨position, stored, below⟩ := (Option.any_eq_true _ _).mp negative
  exact ⟨position, stored, by simpa using below⟩

end Reached

end PaperExecutionService

end CatsPy
