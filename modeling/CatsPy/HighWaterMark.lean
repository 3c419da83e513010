import CatsPy.PaperPositions

/-!
# The high-water mark

Every completed operation stamps the account after its last change of equity, so
the mark is the greatest equity seen at the end of any of them.
-/
namespace CatsPy
open PythonValues StateRuns

namespace PaperExecutionService

section Marking

/-- A step moves nothing, or raises the mark to the equity it ends with. -/
theorem step_highWater (svc : PaperExecutionService) (op : PaperOp) : svc.step op = svc ∨
    (svc.step op).sessionHighEquity = max (svc.step op).state.totalEquity svc.sessionHighEquity := by
  cases op with
  | accountState now => exact .inr rfl
  | markToMarket features cycleId ts =>
      obtain ⟨clock, metadata, fundingDelta, marked⟩ := markToMarket_eq features ts svc cycleId
      simp only [step, marked]
      split
      · exact .inr rfl
      · exact .inr rfl
  | applyDecision decision feature cycleId ts =>
      rcases step_applyDecision_cases svc decision cycleId ts feature with
        same | ⟨side, risk, -, -, -, -, filled⟩
      · exact .inl same
      · rw [filled]
        exact .inr rfl

/-- The high-water mark never falls. -/
theorem sessionHighEquity_step (svc : PaperExecutionService) (op : PaperOp) :
    svc.sessionHighEquity ≤ (svc.step op).sessionHighEquity := by
  rcases step_highWater svc op with same | raised
  · rw [same]
  · rw [raised]
    exact le_max_right _ _

/-- The equity is not above the mark. -/
def Marked (svc : PaperExecutionService) : Prop := svc.state.totalEquity ≤ svc.sessionHighEquity

theorem init_equity (config : PaperConfig) : (init config).state.totalEquity = config.startingBalance := by
  simp [AccountState.totalEquity, AccountState.totalWalletBalance, AccountState.totalUnrealizedPnl, init,
    AccountState.upsertBalance, OrderedDict.total_set]

theorem step_marked (svc : PaperExecutionService) (op : PaperOp) (marked : svc.Marked) :
    (svc.step op).Marked := by
  rcases step_highWater svc op with same | raised
  · rwa [same]
  · rw [Marked, raised]
    exact le_max_left _ _

theorem drawdownPct_nonpos {svc : PaperExecutionService}
    (marked : svc.state.totalEquity ≤ svc.sessionHighEquity) : svc.drawdownPct ≤ 0 := by
  unfold drawdownPct
  split
  · exact le_rfl
  · next positive =>
    have fraction : (svc.state.totalEquity - svc.sessionHighEquity) / svc.sessionHighEquity ≤ 0 :=
      div_nonpos_of_nonpos_of_nonneg (by linarith) (le_of_not_ge positive)
    linarith

/-- Under a positive mark the drawdown is zero at the mark only. -/
theorem drawdownPct_eq_zero_iff {svc : PaperExecutionService} (positive : 0 < svc.sessionHighEquity) :
    svc.drawdownPct = 0 ↔ svc.state.totalEquity = svc.sessionHighEquity := by
  rw [drawdownPct, if_neg positive.not_ge, mul_eq_zero, div_eq_zero_iff, sub_eq_zero]
  have nonzero := positive.ne'
  norm_num [nonzero]

end Marking

section Runs

/-- The call does not raise. -/
def completes (svc : PaperExecutionService) : PaperOp → Bool
  | .applyDecision decision feature cycleId ts => (svc.applyDecision decision feature cycleId ts).isOk
  | _ => true

/-- The equity at the end of a completed operation. -/
def closingEquity (svc : PaperExecutionService) (op : PaperOp) : List ℚ :=
  if svc.completes op then [(svc.step op).state.totalEquity] else []

theorem step_of_raised {svc : PaperExecutionService} {op : PaperOp} (raised : svc.completes op = false) :
    svc.step op = svc := by
  cases op with
  | accountState now => cases raised
  | markToMarket features cycleId ts => cases raised
  | applyDecision decision feature cycleId ts =>
      cases outcome : svc.applyDecision decision feature cycleId ts with
      | ok filled => simp [completes, outcome, Except.isOk, Except.toBool] at raised
      | error error => simp only [step, outcome]

theorem step_isGreatest (svc : PaperExecutionService) (op : PaperOp) (marked : svc.Marked) :
    IsGreatest {equity | equity = svc.sessionHighEquity ∨ equity ∈ svc.closingEquity op}
      (svc.step op).sessionHighEquity := by
  cases completed : svc.completes op with
  | false =>
      rw [step_of_raised completed]
      simp [closingEquity, completed]
  | true =>
      simp only [closingEquity, completed, if_true, List.mem_singleton]
      rcases step_highWater svc op with same | raised
      · rw [same]
        refine ⟨.inl rfl, ?_⟩
        rintro equity (rfl | rfl)
        · exact le_rfl
        · exact marked
      · rw [raised]
        refine ⟨(max_choice _ _).symm, ?_⟩
        rintro equity (rfl | rfl)
        · exact le_max_right _ _
        · exact le_max_left _ _

/-- The mark of a run is the greatest of the starting balance and the equities
its completed operations ended with, and the drawdown is measured from it. -/
theorem high_water_exact (config : PaperConfig) (funded : 0 < config.startingBalance) (ops : List PaperOp) :
    let svc := (init config).run ops
    IsGreatest {equity | equity = config.startingBalance ∨
        equity ∈ trace step closingEquity (init config) ops} svc.sessionHighEquity ∧
      (∀ op, svc.sessionHighEquity ≤ (svc.step op).sessionHighEquity) ∧
      svc.drawdownPct ≤ 0 ∧ (svc.drawdownPct = 0 ↔ svc.state.totalEquity = svc.sessionHighEquity) := by
  intro svc
  have start : (init config).Marked := (init_equity config).le
  have greatest : IsGreatest {equity | equity = config.startingBalance ∨
      equity ∈ trace step closingEquity (init config) ops} svc.sessionHighEquity :=
    run_isGreatest step Marked step_marked sessionHighEquity closingEquity step_isGreatest (init config) ops start
  have marked : svc.Marked := run_invariant step Marked step_marked (init config) ops start
  have positive : 0 < svc.sessionHighEquity := funded.trans_le (greatest.2 (.inl rfl))
  exact ⟨greatest, sessionHighEquity_step svc, drawdownPct_nonpos marked, drawdownPct_eq_zero_iff positive⟩

/-- A long that gains a tenth and then loses a fifth of its entry value. -/
def riseAndFall : List PaperOp :=
  [.applyDecision (marketOrder .buy 1000) (quoted 100) "open" 0,
    .markToMarket (.ofList [("BTCUSDT", quoted 110)]) "rise" 1,
    .markToMarket (.ofList [("BTCUSDT", quoted 90)]) "fall" 2]

theorem high_water_riseAndFall :
    let svc := (init { slippageBps := 0, takerFeeBps := 0 }).run riseAndFall
    IsGreatest {equity | equity = 10000 ∨
        equity ∈ trace step closingEquity (init { slippageBps := 0, takerFeeBps := 0 }) riseAndFall} 10100 ∧
      svc.sessionHighEquity = 10100 ∧ svc.drawdownPct ≠ 0 := by
  obtain ⟨greatest, -, -, atMark⟩ :=
    high_water_exact { slippageBps := 0, takerFeeBps := 0 } (by decide) riseAndFall
  have mark : ((init { slippageBps := 0, takerFeeBps := 0 }).run riseAndFall).sessionHighEquity = 10100 := by
    decide +kernel
  rw [mark] at greatest atMark
  exact ⟨greatest, mark, fun flat => absurd (atMark.mp flat) (by decide +kernel)⟩

end Runs

end PaperExecutionService

end CatsPy
