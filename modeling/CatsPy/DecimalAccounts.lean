import CatsPy.DecimalFills

/-!
# Accounts in decimals

Runs of a paper account whose operations may raise where they stand. Whatever the
arithmetic, marking moves no quantity and no entry price, and a fill writes the
position of its own symbol and no other.
-/
namespace CatsPy
open PythonValues RoundingGrid DecimalArithmetic StateRuns

/-- Where a position is stored, its size and its entry price. -/
def PositionState.holding (position : PositionState) : (String × String) × ℚ × ℚ :=
  (position.key, position.quantity, position.entryPrice)

namespace PaperArithmetic
open PaperExecutionService

section Runs

variable (arithmetic : PaperArithmetic)

/-- One operation, which may raise where it stands. -/
def operate (svc : PaperExecutionService) : PaperOp → Except (PaperExecutionService × PyError) PaperExecutionService
  | .accountState now => .ok (arithmetic.accountState svc now)
  | .markToMarket features _ ts => arithmetic.markToMarket svc features ts
  | .applyDecision decision feature _ ts => (arithmetic.applyDecision svc decision feature ts).map Prod.fst

/-- The account an operation leaves, returned or raised. -/
def step (svc : PaperExecutionService) (op : PaperOp) : PaperExecutionService := final (arithmetic.operate svc op)

def run (svc : PaperExecutionService) (ops : List PaperOp) : PaperExecutionService :=
  StateRuns.run arithmetic.step svc ops

/-- The same positions are stored, of the same sizes and entry prices. -/
def SameHoldings (before after : PaperExecutionService) : Prop :=
  ∀ key, (after.state.positions.get? key).map PositionState.holding =
    (before.state.positions.get? key).map PositionState.holding

theorem SameHoldings.filed {before after : PaperExecutionService} (same : SameHoldings before after)
    (filed : PositionsFiled before) : PositionsFiled after := by
  intro key position stored
  have before_holding := same key
  rw [stored, Option.map_some, eq_comm, Option.map_eq_some_iff] at before_holding
  obtain ⟨earlier, found, alike⟩ := before_holding
  obtain ⟨own, side⟩ := filed key earlier found
  have keys : earlier.key = position.key := congrArg Prod.fst alike
  exact ⟨keys ▸ own, (congrArg Prod.snd keys).symm.trans side⟩

end Runs

section Marking

variable {arithmetic : PaperArithmetic} {svc : PaperExecutionService}

@[simp] theorem walletState_positions (svc : PaperExecutionService) (wallet : ℚ) :
    (walletState svc wallet).positions = svc.state.positions := by
  unfold walletState
  dsimp only
  split <;> rfl

@[simp] theorem accountState_positions (svc : PaperExecutionService) (now : Datetime) :
    (arithmetic.accountState svc now).state.positions = svc.state.positions := rfl

/-- Funding moves the funding clock and nothing else. -/
theorem maybeApplyFunding_state (position : PositionState) (feature : FeatureVector) (ts : Datetime) :
    (∀ outcome, arithmetic.maybeApplyFunding svc position feature ts = .ok outcome →
      outcome.1.state = svc.state) ∧
    ∀ raised, arithmetic.maybeApplyFunding svc position feature ts = .error raised → raised.1.state = svc.state := by
  unfold maybeApplyFunding
  dsimp only
  constructor
  · intro outcome returned
    repeat' split at returned
    all_goals first | cases returned; rfl | cases returned
  · intro raised error
    repeat' split at error
    all_goals first | cases error; rfl | cases error

theorem markStep_holdings {features : OrderedDict String FeatureVector} {ts : Datetime}
    (acc : PaperExecutionService × ℚ) (entry : (String × String) × PositionState)
    (found : svc.state.positions.get? entry.1 = some entry.2) (same : SameHoldings svc acc.1) :
    SameHoldings svc (final (arithmetic.markStep features ts acc entry)).1 := by
  unfold markStep
  split
  · exact same
  · split
    · exact same
    · split
      · exact same
      · next feature _ _ =>
        cases funded : arithmetic.maybeApplyFunding acc.1 entry.2 feature ts with
        | error raised =>
            have kept := (maybeApplyFunding_state entry.2 feature ts).2 raised funded
            intro key
            simpa [kept] using same key
        | ok outcome =>
            have kept := (maybeApplyFunding_state entry.2 feature ts).1 outcome funded
            intro key
            simp only [final_ok, kept, OrderedDict.get?_set]
            split
            next own => rw [own, found]; rfl
            next other => exact same key

/-- Marking moves no quantity and no entry price, and neither does a raise on the way. -/
theorem markToMarket_holdings (arithmetic : PaperArithmetic) (svc : PaperExecutionService)
    (features : OrderedDict String FeatureVector) (ts : Datetime) :
    SameHoldings svc (final (arithmetic.markToMarket svc features ts)) := by
  have loop : SameHoldings svc
      (final (svc.state.positions.entries.foldlM (arithmetic.markStep features ts) (svc, 0))).1 := by
    apply foldlM_invariant_of fun acc : PaperExecutionService × ℚ => SameHoldings svc acc.1
    · intro acc entry listed same
      exact markStep_holdings acc entry ((svc.state.positions.get?_eq_some_iff _ _).mpr listed) same
    · exact fun _ => rfl
  unfold markToMarket
  cases marked : svc.state.positions.entries.foldlM (arithmetic.markStep features ts) (svc, 0) with
  | error raised =>
      rw [marked] at loop
      exact loop
  | ok outcome =>
      rw [marked] at loop
      obtain ⟨left, fundingDelta⟩ := outcome
      dsimp only
      split
      · cases synced : arithmetic.syncBalance
            { left with fundingPnl := arithmetic.keep (left.fundingPnl + fundingDelta) } with
        | error error => exact loop
        | ok wallet =>
            obtain ⟨amount, -, rfl⟩ := map_eq_ok_iff.mp synced
            intro key
            have kept := loop key
            simpa using kept
      · exact loop

end Marking

section Filling

variable {arithmetic : PaperArithmetic} {svc : PaperExecutionService}

/-- What a filled order leaves under its key, whether or not the wallet fits. -/
def writtenPosition (arithmetic : PaperArithmetic) (svc : PaperExecutionService) (symbol : String)
    (figures : FillFigures) (risk : RiskDecision) (ts : Datetime) : PositionState :=
  arithmetic.filledPosition (svc.positionFor symbol ts) figures risk.approvedLeverage ts

theorem booked_positions (arithmetic : PaperArithmetic) (svc : PaperExecutionService) (decision : TradeDecision)
    (risk : RiskDecision) (figures : FillFigures) (ts : Datetime) :
    (arithmetic.booked svc decision risk figures ts).state.positions =
      svc.state.positions.set (arithmetic.writtenPosition svc decision.symbol figures risk ts).key
        (arithmetic.writtenPosition svc decision.symbol figures risk ts) := rfl

/-- The figures an order is filled at, if it is. -/
def orderFigures (arithmetic : PaperArithmetic) (svc : PaperExecutionService) (decision : TradeDecision)
    (feature : FeatureVector) (ts : Datetime) : Option FillFigures :=
  match decision.status, decision.side, decision.risk with
  | .execute, some side, some risk =>
      if feature.referencePrice ≤ 0 then none
      else (arithmetic.fillFigures svc (svc.positionFor decision.symbol ts) side risk
        feature.referencePrice).toOption
  | _, _, _ => none

/-- Every way an order can end: nothing is written, or the figures of its fill are. -/
theorem applyDecision_cases (arithmetic : PaperArithmetic) (svc : PaperExecutionService) (decision : TradeDecision)
    (feature : FeatureVector) (ts : Datetime) :
    (arithmetic.orderFigures svc decision feature ts = none ∧
      final ((arithmetic.applyDecision svc decision feature ts).map Prod.fst) = svc) ∨
    ∃ side risk figures, arithmetic.orderFigures svc decision feature ts = some figures ∧
      arithmetic.fillFigures svc (svc.positionFor decision.symbol ts) side risk feature.referencePrice = .ok figures ∧
      (final ((arithmetic.applyDecision svc decision feature ts).map Prod.fst)).state.positions =
        svc.state.positions.set (arithmetic.writtenPosition svc decision.symbol figures risk ts).key
          (arithmetic.writtenPosition svc decision.symbol figures risk ts) := by
  cases executes : decision.status with
  | noTrade =>
      simp only [orderFigures, applyDecision, executes]
      exact .inl ⟨trivial, rfl⟩
  | execute =>
      cases sided : decision.side with
      | none =>
          simp only [orderFigures, applyDecision, executes, sided]
          exact .inl ⟨trivial, rfl⟩
      | some side =>
          cases sized : decision.risk with
          | none =>
              simp only [orderFigures, applyDecision, executes, sided, sized]
              exact .inl ⟨trivial, rfl⟩
          | some risk =>
              simp only [orderFigures, applyDecision, executes, sided, sized]
              by_cases unpriced : feature.referencePrice ≤ 0
              · simp only [unpriced, if_true]
                exact .inl ⟨trivial, rfl⟩
              simp only [unpriced, if_false]
              cases worked : arithmetic.fillFigures svc (svc.positionFor decision.symbol ts) side risk
                  feature.referencePrice with
              | error error => exact .inl ⟨rfl, rfl⟩
              | ok figures =>
                  refine .inr ⟨side, risk, figures, rfl, worked, ?_⟩
                  cases synced : arithmetic.syncBalance (arithmetic.booked svc decision risk figures ts) with
                  | error error =>
                      simp only [synced]
                      rfl
                  | ok wallet =>
                      obtain ⟨amount, -, rfl⟩ := map_eq_ok_iff.mp synced
                      simp only [synced]
                      exact walletState_positions _ _

theorem positionFor_filed (filed : PositionsFiled svc) (symbol : String) (ts : Datetime) :
    (svc.positionFor symbol ts).key = (symbol, paperPositionSide) := by
  cases found : svc.state.positions.get? (symbol, paperPositionSide) with
  | some position => simpa [positionFor, OrderedDict.getD, found] using (filed _ position found).1
  | none => simp [positionFor, OrderedDict.getD, found, PositionState.key]

theorem init_filed (config : PaperConfig) : PositionsFiled (init config) := by
  intro key position stored
  simp [init, AccountState.upsertBalance] at stored

theorem step_filed (svc : PaperExecutionService) (op : PaperOp) (filed : PositionsFiled svc) :
    PositionsFiled (arithmetic.step svc op) := by
  cases op with
  | accountState now => exact filed
  | markToMarket features cycleId ts => exact (markToMarket_holdings arithmetic svc features ts).filed filed
  | applyDecision decision feature cycleId ts =>
      rcases applyDecision_cases arithmetic svc decision feature ts with
        ⟨-, same⟩ | ⟨side, risk, figures, -, -, written⟩
      · rw [step, operate, same]
        exact filed
      · intro key position stored
        have own : (arithmetic.writtenPosition svc decision.symbol figures risk ts).key =
            (decision.symbol, paperPositionSide) := positionFor_filed filed decision.symbol ts
        rw [step, operate, written, OrderedDict.get?_set] at stored
        split at stored
        next here =>
          cases stored
          exact ⟨here.symm, congrArg Prod.snd own⟩
        next elsewhere => exact filed key position stored

theorem run_filed (config : PaperConfig) (ops : List PaperOp) : PositionsFiled (arithmetic.run (init config) ops) :=
  run_invariant arithmetic.step PositionsFiled step_filed _ ops (init_filed config)

end Filling

end PaperArithmetic

end CatsPy
