import CatsPy.PortfolioLimits

/-!
# Exposures of a snapshot

Total, per-symbol and count are three folds over the same positions. Against
one account they agree: the symbols share the total out among themselves, and
the legs of a hedged symbol count in full on both sides.
-/
namespace CatsPy
open PythonValues

theorem PositionState.grossNotional_nonneg (position : PositionState) : 0 ≤ position.grossNotional := by
  unfold PositionState.grossNotional
  split_ifs <;> exact abs_nonneg _

namespace AccountState

/-- The open entries of a symbol, one for each side it is held on. -/
def openLegs (state : AccountState) (symbol : String) : List PositionState :=
  state.positions.values.filter fun position => position.isOpen ∧ position.symbol = symbol

/-- What a snapshot says of the exposures, against the positions themselves. -/
structure ExposuresAgree (state : AccountState) (snapshot : AccountSnapshot) : Prop where
  total : snapshot.symbolGrossExposures.values.sum = snapshot.grossExposure
  symbols : ∀ symbol, symbol ∈ snapshot.symbolGrossExposures.keys ↔
    ∃ position ∈ state.positions.values, position.isOpen = true ∧ position.symbol = symbol
  legs : ∀ symbol, snapshot.symbolGrossExposures.getD symbol 0 =
    ((state.openLegs symbol).map PositionState.grossNotional).sum / state.totalEquity
  unnetted : ∀ symbol, ∀ leg ∈ state.openLegs symbol,
    leg.grossNotional / state.totalEquity ≤ snapshot.symbolGrossExposures.getD symbol 0
  nonneg : ∀ exposure ∈ snapshot.symbolGrossExposures.values, 0 ≤ exposure
  count : snapshot.openPositions = (state.positions.values.filter PositionState.isOpen).length

variable {state : AccountState}

theorem notionalWhere_symbol (state : AccountState) (symbol : String) :
    (state.notionalWhere fun other => other = symbol) =
      ((state.openLegs symbol).map PositionState.grossNotional).sum := by
  rw [openLegs, sum_filter_map]
  rfl

theorem exposure_legs (funded : 0 < state.totalEquity) (symbol : String) :
    state.symbolGrossExposures.getD symbol 0 =
      ((state.openLegs symbol).map PositionState.grossNotional).sum / state.totalEquity := by
  rw [eq_div_iff funded.ne', exposure_symbol funded, notionalWhere_symbol]

theorem mem_keys_exposures (funded : 0 < state.totalEquity) (symbol : String) :
    symbol ∈ state.symbolGrossExposures.keys ↔
      ∃ position ∈ state.positions.values, position.isOpen = true ∧ position.symbol = symbol := by
  have tallied : state.symbolGrossExposures.keys = state.symbolNotionals.keys := by
    simp only [symbolGrossExposures, if_neg funded.not_ge, OrderedDict.keys, OrderedDict.mapValues,
      List.map_map, Function.comp_def]
  rw [tallied, symbolNotionals_eq_tally, OrderedDict.mem_keys_tally]
  simp only [List.mem_filter, and_assoc]

theorem openPositionCount_eq (state : AccountState) :
    state.openPositionCount = (state.positions.values.filter PositionState.isOpen).length := by
  rw [openPositionCount, OrderedDict.total, List.sum_map_ite]
  simp

theorem sum_exposures (funded : 0 < state.totalEquity) :
    state.symbolGrossExposures.values.sum = state.grossNotional / state.totalEquity := by
  have everywhere := exposures_where funded fun _ => True
  rw [← grossNotional_eq] at everywhere
  rw [eq_div_iff funded.ne', ← everywhere]
  simp [OrderedDict.values]

/-- With positive equity the exposures of a snapshot add up. -/
theorem snapshot_exposures_agree (funded : 0 < state.totalEquity) (now : Datetime)
    (dailyDrawdownPct weeklyDrawdownPct : ℚ) :
    state.ExposuresAgree (state.toSnapshot now dailyDrawdownPct weeklyDrawdownPct) := by
  have leg_nonneg : ∀ symbol, ∀ notional ∈ (state.openLegs symbol).map PositionState.grossNotional,
      0 ≤ notional := by
    intro symbol notional listed
    obtain ⟨leg, -, rfl⟩ := List.mem_map.mp listed
    exact leg.grossNotional_nonneg
  constructor
  · simp only [toSnapshot, if_pos funded]
    exact sum_exposures funded
  · exact mem_keys_exposures funded
  · exact exposure_legs funded
  · intro symbol leg open_leg
    simp only [toSnapshot]
    rw [exposure_legs funded]
    have part := List.single_le_sum (leg_nonneg symbol) leg.grossNotional (List.mem_map_of_mem open_leg)
    exact div_le_div_of_nonneg_right part funded.le
  · intro exposure stored
    obtain ⟨symbol, found⟩ := (OrderedDict.mem_values_iff _ _).mp stored
    have read : exposure = state.symbolGrossExposures.getD symbol 0 := by
      simp only [toSnapshot] at found
      rw [OrderedDict.getD, found]
      rfl
    rw [read, exposure_legs funded]
    exact div_nonneg (List.sum_nonneg (leg_nonneg symbol)) funded.le
  · exact openPositionCount_eq state

/-- One symbol held on both sides, its short leg without a stored notional. -/
def hedged : AccountState :=
  (({} : AccountState).upsertBalance { asset := "USDT", walletBalance := 1000, updatedAt := 0 }).replacePositions
    [{ symbol := "BTCUSDT", positionSide := "LONG", direction := .long, quantity := 2, entryPrice := 100,
       markPrice := 100, notional := 200, updatedAt := 0 },
      { symbol := "BTCUSDT", positionSide := "SHORT", direction := .short, quantity := -2,
        entryPrice := 100, updatedAt := 0 }]

theorem hedged_exposures_agree : 0 < hedged.totalEquity ∧ hedged.ExposuresAgree (hedged.toSnapshot 0) :=
  have funded : 0 < hedged.totalEquity := by decide +kernel
  ⟨funded, snapshot_exposures_agree funded 0 0 0⟩

example : (hedged.toSnapshot 0).symbolGrossExposures.entries = [("BTCUSDT", 4 / 10)] := by decide +kernel

end AccountState

end CatsPy
