import CatsPy.DecimalAccounts
import CatsPy.ExitEvaluator

/-!
# Exits in decimals

The evaluator lists the exits of a cycle position by position and the exit loop
applies them one by one, without a guard: what one of them raises keeps the exits
behind it and the decide phase from happening. None raises exactly if the numbers
of every exit fit twenty-eight digits, and the wallet with the exits so far.
-/
namespace CatsPy
open PythonValues RoundingGrid DecimalArithmetic StateRuns

namespace PaperArithmetic
open PaperExecutionService PositionExitEvaluator

section Loop

variable (arithmetic : PaperArithmetic) (evaluator : PositionExitEvaluator)
  (features : OrderedDict String FeatureVector) (ts : Datetime)

/-- The exit decisions on the marked account. -/
def exits (marked : PaperExecutionService) : List TradeDecision :=
  evaluator.evaluate marked.state features marked.positionMetadata ts

/-- One turn of the exit loop. -/
def exitStep (svc : PaperExecutionService) (exit : TradeDecision) :
    Except (PaperExecutionService × PyError) PaperExecutionService :=
  match features.get? exit.symbol with
  | none => .ok svc
  | some feature =>
      (arithmetic.applyDecision svc exit feature ts).map fun outcome => arithmetic.accountState outcome.1 ts

/-- A paper cycle up to its decide phase. -/
def exitPhase (svc : PaperExecutionService) : Except (PaperExecutionService × PyError) PaperExecutionService := do
  let marked ← arithmetic.markToMarket svc features ts
  (exits evaluator features ts marked).foldlM (arithmetic.exitStep features ts) marked

/-- Where applying an exit raises, the loop still gets to every exit decision of the
cycle and the cycle to its decide phase. -/
def ExitsIsolated (svc : PaperExecutionService) : Prop :=
  ∀ marked, decimal.markToMarket svc features ts = .ok marked →
    ∀ visit ∈ visits (decimal.exitStep features ts) marked (exits evaluator features ts marked),
      (∃ raised, decimal.exitStep features ts visit.1 visit.2 = .error raised) →
        (visits (decimal.exitStep features ts) marked (exits evaluator features ts marked)).map Prod.snd =
            exits evaluator features ts marked ∧
          ∃ after, decimal.exitPhase evaluator features ts svc = .ok after

/-- A position the evaluator closes, with the priced feature it is closed on. -/
def dueExit (marked : PaperExecutionService) (position : PositionState) : Option (PositionState × FeatureVector) :=
  if !position.isOpen then none
  else do
    let feature ← features.get? position.symbol
    if 0 < feature.referencePrice ∧ (evaluator.checkExit position feature
        (marked.positionMetadata.get? position.symbol) ts).isSome = true then
      some (position, feature)
    else none

/-- The closed positions in the order they are stored. -/
def dueExits (marked : PaperExecutionService) : List (PositionState × FeatureVector) :=
  marked.state.positions.values.filterMap (dueExit evaluator features ts marked)

/-- The figures of an exit. -/
def exitFigures (svc : PaperExecutionService) (due : PositionState × FeatureVector) : FillFigures :=
  figures svc due.1 (closeSide due.1) (exitRisk due.1) due.2.referencePrice

/-- Profit and fee of an exit counted. -/
def counted (svc : PaperExecutionService) (due : PositionState × FeatureVector) : PaperExecutionService :=
  { svc with
    realizedPnl := decimal.keep (svc.realizedPnl + (exitFigures svc due).realizedDelta)
    feesPaid := decimal.keep (svc.feesPaid + (exitFigures svc due).feeDelta) }

/-- The numbers of every exit fit, and so does the wallet with any first of them counted. -/
structure ExitsFit (marked : PaperExecutionService) (dues : List (PositionState × FeatureVector)) : Prop where
  fills : ∀ due ∈ dues, FillFits marked due.1 (closeSide due.1) (exitRisk due.1) due.2.referencePrice
  wallets : ∀ part, part <+: dues → part ≠ [] → Fits (decimal.walletTotal (part.foldl counted marked))

end Loop

section Figures

variable {svc other : PaperExecutionService}

/-- The figures depend on the two rates alone. -/
theorem slipped_congr (slippage : other.slippageBps = svc.slippageBps) (side : Side) (price : ℚ) :
    slipped other side price = slipped svc side price := by
  rw [slipped, slippage, slipped]

theorem figures_congr (slippage : other.slippageBps = svc.slippageBps) (fee : other.takerFeeBps = svc.takerFeeBps)
    (position : PositionState) (side : Side) (risk : RiskDecision) (price : ℚ) :
    figures other position side risk price = figures svc position side risk price := by
  simp only [figures, slipped_congr slippage, fee]

theorem fillFits_congr (slippage : other.slippageBps = svc.slippageBps) (fee : other.takerFeeBps = svc.takerFeeBps)
    (position : PositionState) (side : Side) (risk : RiskDecision) (price : ℚ) :
    FillFits other position side risk price ↔ FillFits svc position side risk price := by
  simp only [fillFits_iff, figures_congr slippage fee, slipped_congr slippage, fee]

end Figures

section Returning

variable {evaluator : PositionExitEvaluator} {features : OrderedDict String FeatureVector} {ts : Datetime}

/-- The loop has the rates and totals of the count, and the positions still to be
visited as they were. -/
structure Follows (tally now : PaperExecutionService) (rest : List PositionState) : Prop where
  slippage : now.slippageBps = tally.slippageBps
  fee : now.takerFeeBps = tally.takerFeeBps
  initial : now.initialBalance = tally.initialBalance
  realized : now.realizedPnl = tally.realizedPnl
  funding : now.fundingPnl = tally.fundingPnl
  fees : now.feesPaid = tally.feesPaid
  stored : ∀ position ∈ rest, position.positionSide = paperPositionSide ∧
    now.state.positions.get? (position.symbol, paperPositionSide) = some position

theorem Follows.tail {tally now : PaperExecutionService} {position : PositionState} {rest : List PositionState}
    (follows : Follows tally now (position :: rest)) : Follows tally now rest :=
  { follows with stored := fun other listed => follows.stored other (List.mem_cons_of_mem _ listed) }

theorem exitsFit_nil (tally : PaperExecutionService) : ExitsFit tally [] where
  fills := by simp
  wallets := fun part within some => absurd (List.prefix_nil.mp within) some

/-- The bounds exit by exit, with the count carried on. -/
theorem exitsFit_cons (tally : PaperExecutionService) (due : PositionState × FeatureVector)
    (rest : List (PositionState × FeatureVector)) : ExitsFit tally (due :: rest) ↔
      (FillFits tally due.1 (closeSide due.1) (exitRisk due.1) due.2.referencePrice ∧
        Fits (decimal.walletTotal (counted tally due))) ∧ ExitsFit (counted tally due) rest := by
  have same_rates (other : PositionState × FeatureVector) :
      FillFits (counted tally due) other.1 (closeSide other.1) (exitRisk other.1) other.2.referencePrice ↔
        FillFits tally other.1 (closeSide other.1) (exitRisk other.1) other.2.referencePrice :=
    fillFits_congr (show (counted tally due).slippageBps = tally.slippageBps from rfl) rfl _ _ _ _
  constructor
  · rintro ⟨fills, wallets⟩
    refine ⟨⟨fills due List.mem_cons_self, wallets [due] ⟨rest, rfl⟩ (by simp)⟩, ?_, ?_⟩
    · exact fun other listed => (same_rates other).mpr (fills other (List.mem_cons_of_mem _ listed))
    · exact fun part within _ => wallets (due :: part) (List.cons_prefix_cons.mpr ⟨rfl, within⟩) (by simp)
  · rintro ⟨⟨first, wallet⟩, fills, wallets⟩
    refine ⟨?_, fun part within some => ?_⟩
    · intro other listed
      rcases List.mem_cons.mp listed with rfl | later
      · exact first
      · exact (same_rates other).mp (fills other later)
    · cases part with
      | nil => exact absurd rfl some
      | cons head part =>
          obtain ⟨rfl, inside⟩ := List.cons_prefix_cons.mp within
          rcases eq_or_ne part [] with rfl | more
          · exact wallet
          · exact wallets part inside more

section Step

variable {tally now : PaperExecutionService} {position : PositionState} {rest : List PositionState}
  {feature : FeatureVector}

theorem Follows.positionFor (follows : Follows tally now (position :: rest)) (ts : Datetime) :
    now.positionFor position.symbol ts = position := by
  have stored := (follows.stored position List.mem_cons_self).2
  simp [PaperExecutionService.positionFor, OrderedDict.getD, stored]

theorem Follows.figures (follows : Follows tally now (position :: rest)) :
    figures now position (closeSide position) (exitRisk position) feature.referencePrice =
      exitFigures tally (position, feature) :=
  figures_congr follows.slippage follows.fee _ _ _ _

/-- The wallet of the loop is the wallet of the count. -/
theorem Follows.walletTotal (follows : Follows tally now (position :: rest)) (reason : String) :
    decimal.walletTotal (decimal.booked now (buildExitDecision position reason) (exitRisk position)
      (exitFigures tally (position, feature)) ts) = decimal.walletTotal (counted tally (position, feature)) := by
  simp only [PaperArithmetic.walletTotal, booked, counted, follows.initial, follows.realized, follows.funding,
    follows.fees]

/-- An exit at a positive price is applied exactly within the bounds. -/
theorem exitStep_eq_ok_iff (follows : Follows tally now (position :: rest))
    (known : features.get? position.symbol = some feature) (priced : 0 < feature.referencePrice) (reason : String)
    (next : PaperExecutionService) :
    decimal.exitStep features ts now (buildExitDecision position reason) = .ok next ↔
      (FillFits tally position (closeSide position) (exitRisk position) feature.referencePrice ∧
        Fits (decimal.walletTotal (counted tally (position, feature)))) ∧
      next = decimal.accountState (filledOutcome now (buildExitDecision position reason) feature
        (closeSide position) (exitRisk position) ts).1 ts := by
  have applied (outcome : PaperExecutionService × Option PaperFillResult) :
      decimal.applyDecision now (buildExitDecision position reason) feature ts = .ok outcome ↔
        OrderFits now (buildExitDecision position reason) feature (closeSide position) (exitRisk position) ts ∧
          outcome = filledOutcome now (buildExitDecision position reason) feature (closeSide position)
            (exitRisk position) ts := applyDecision_eq_ok_iff now ts rfl rfl rfl priced outcome
  have fits : OrderFits now (buildExitDecision position reason) feature (closeSide position) (exitRisk position) ts ↔
      FillFits tally position (closeSide position) (exitRisk position) feature.referencePrice ∧
        Fits (decimal.walletTotal (counted tally (position, feature))) := by
    have symbol : (buildExitDecision position reason).symbol = position.symbol := rfl
    rw [orderFits_iff, symbol, follows.positionFor, follows.figures, follows.walletTotal,
      fillFits_congr follows.slippage follows.fee]
  have found : features.get? (buildExitDecision position reason).symbol = some feature := known
  simp only [exitStep, found, map_eq_ok_iff, applied, fits]
  constructor
  · rintro ⟨_, ⟨bounds, rfl⟩, rfl⟩
    exact ⟨bounds, rfl⟩
  · rintro ⟨bounds, rfl⟩
    exact ⟨_, ⟨bounds, rfl⟩, rfl⟩

/-- It leaves the loop where the count is with the exit in it. -/
theorem Follows.counted (follows : Follows tally now (position :: rest))
    (distinct : position.symbol ∉ rest.map PositionState.symbol) (feature : FeatureVector) (ts : Datetime)
    (reason : String) : Follows (counted tally (position, feature)) (decimal.accountState (filledOutcome now
      (buildExitDecision position reason) feature (closeSide position) (exitRisk position) ts).1 ts) rest := by
  have side := (follows.stored position List.mem_cons_self).1
  have symbol : (buildExitDecision position reason).symbol = position.symbol := rfl
  have positions : (decimal.accountState (filledOutcome now (buildExitDecision position reason) feature
      (closeSide position) (exitRisk position) ts).1 ts).state.positions = now.state.positions.set
        (position.symbol, paperPositionSide) (decimal.filledPosition position
          (exitFigures tally (position, feature)) (exitRisk position).approvedLeverage ts) := by
    simp only [filledOutcome, accountState_positions, walletState_positions, symbol, follows.positionFor,
      follows.figures, booked_positions, writtenPosition]
    rw [← side]
    rfl
  refine ⟨follows.slippage, follows.fee, follows.initial, ?_, follows.funding, ?_, fun other listed => ?_⟩
  · simp only [filledOutcome, symbol, follows.positionFor, follows.figures]
    exact congrArg (fun realized => decimal.keep (realized + _)) follows.realized
  · simp only [filledOutcome, symbol, follows.positionFor, follows.figures]
    exact congrArg (fun fees => decimal.keep (fees + _)) follows.fees
  · obtain ⟨other_side, stored⟩ := follows.stored other (List.mem_cons_of_mem _ listed)
    have differ : (other.symbol, paperPositionSide) ≠ (position.symbol, paperPositionSide) := by
      intro same
      exact distinct (List.mem_map.mpr ⟨other, listed, congrArg Prod.fst same⟩)
    rw [positions, OrderedDict.get?_set_of_ne _ _ differ]
    exact ⟨other_side, stored⟩

end Step

/-- Where no exit is built none is due. -/
theorem dueExit_of_exitFor {marked : PaperExecutionService} {position : PositionState}
    (none_built : evaluator.exitFor features marked.positionMetadata ts position = none) :
    dueExit evaluator features ts marked position = none := by
  rw [Option.eq_none_iff_forall_not_mem]
  intro due listed
  cases opened : position.isOpen with
  | false => simp [dueExit, opened] at listed
  | true =>
      cases known : features.get? position.symbol with
      | none => simp [dueExit, opened, known] at listed
      | some feature =>
          cases fires : evaluator.checkExit position feature (marked.positionMetadata.get? position.symbol) ts with
          | none => simp [dueExit, opened, known, fires] at listed
          | some reason =>
              rw [exitFor_eq_some_iff.mpr ⟨opened, feature, reason, known, fires, rfl⟩] at none_built
              cases none_built

/-- The loop over the positions still to be visited returns exactly if the exits
among them fit, counted on from where the loop is. -/
theorem exitLoop_returns_iff (marked : PaperExecutionService) (rest : List PositionState)
    (tally now : PaperExecutionService) (follows : Follows tally now rest)
    (distinct : (rest.map PositionState.symbol).Nodup) :
    (∃ after, (rest.filterMap (evaluator.exitFor features marked.positionMetadata ts)).foldlM
        (decimal.exitStep features ts) now = .ok after) ↔
      ExitsFit tally (rest.filterMap (dueExit evaluator features ts marked)) := by
  induction rest generalizing tally now with
  | nil => exact iff_of_true ⟨now, rfl⟩ (exitsFit_nil tally)
  | cons position rest ih =>
      obtain ⟨apart, others⟩ := List.nodup_cons.mp distinct
      cases exit : evaluator.exitFor features marked.positionMetadata ts position with
      | none =>
          rw [List.filterMap_cons_none exit, List.filterMap_cons_none (dueExit_of_exitFor exit)]
          exact ih tally now follows.tail others
      | some decision =>
          obtain ⟨opened, feature, reason, known, fires, rfl⟩ := exitFor_eq_some_iff.mp exit
          rw [List.filterMap_cons_some exit]
          simp only [List.foldlM_cons, bind_eq_ok_iff]
          by_cases priced : 0 < feature.referencePrice
          · have due : dueExit evaluator features ts marked position = some (position, feature) := by
              simp [dueExit, opened, known, priced, fires]
            rw [List.filterMap_cons_some due, exitsFit_cons]
            simp only [exitStep_eq_ok_iff follows known priced]
            have later := ih _ _ (follows.counted apart feature ts reason) others
            constructor
            · rintro ⟨after, _, ⟨bounds, rfl⟩, returned⟩
              exact ⟨bounds, later.mp ⟨after, returned⟩⟩
            · rintro ⟨bounds, fits⟩
              obtain ⟨after, returned⟩ := later.mpr fits
              exact ⟨after, _, ⟨bounds, rfl⟩, returned⟩
          · have idle : dueExit evaluator features ts marked position = none := by
              simp [dueExit, opened, known, priced]
            have unfilled : decimal.exitStep features ts now (buildExitDecision position reason) =
                .ok (decimal.accountState now ts) := by
              have found : features.get? (buildExitDecision position reason).symbol = some feature := known
              have ignored : decimal.applyDecision now (buildExitDecision position reason) feature ts =
                  .ok (now, none) := by
                simp [applyDecision, buildExitDecision, TradeDecision.execute, not_lt.mp priced]
              simp only [exitStep, found, ignored]
              rfl
            obtain ⟨slippage, fee, initial, realized, funding, fees, stored⟩ := follows.tail
            have later := ih tally (decimal.accountState now ts)
              ⟨slippage, fee, initial, realized, funding, fees, stored⟩ others
            rw [List.filterMap_cons_none idle, ← later, unfilled]
            simp

theorem follows_self {marked : PaperExecutionService} (filed : PositionsFiled marked) :
    Follows marked marked marked.state.positions.values := by
  refine ⟨rfl, rfl, rfl, rfl, rfl, rfl, fun position listed => ?_⟩
  obtain ⟨key, stored⟩ := (OrderedDict.mem_values_iff _ _).mp listed
  obtain ⟨own, side⟩ := filed key position stored
  have same_key : key = (position.symbol, paperPositionSide) := by rw [← own, PositionState.key, side]
  exact ⟨side, same_key ▸ stored⟩

/-- Where an exit raises it keeps the exits behind it from being applied, so the
exits are isolated only if none raises. -/
theorem exitsIsolated_iff_returns (evaluator : PositionExitEvaluator) (features : OrderedDict String FeatureVector)
    (ts : Datetime) (svc : PaperExecutionService) : ExitsIsolated evaluator features ts svc ↔
      ∀ marked, decimal.markToMarket svc features ts = .ok marked →
        ∃ after, (exits evaluator features ts marked).foldlM (decimal.exitStep features ts) marked = .ok after := by
  have phase {marked : PaperExecutionService} (returned : decimal.markToMarket svc features ts = .ok marked) :
      decimal.exitPhase evaluator features ts svc =
        (exits evaluator features ts marked).foldlM (decimal.exitStep features ts) marked := by
    rw [exitPhase, returned]
    rfl
  refine forall₂_congr fun marked returned => ?_
  rw [phase returned, foldlM_returns_iff_visits]
  constructor
  · intro isolated visit reached
    cases stepped : decimal.exitStep features ts visit.1 visit.2 with
    | ok next => exact ⟨next, rfl⟩
    | error raised =>
        obtain ⟨-, returns⟩ := isolated visit reached ⟨raised, stepped⟩
        obtain ⟨next, stepped_ok⟩ := returns visit reached
        rw [stepped] at stepped_ok
        cases stepped_ok
  · rintro returns visit reached ⟨raised, stepped⟩
    obtain ⟨next, stepped_ok⟩ := returns visit reached
    rw [stepped] at stepped_ok
    cases stepped_ok

end Returning

section Samples

/-- A hundred billion coins bought at the smallest price, and ten of another. -/
def pennyLongs : List PaperOp :=
  [.applyDecision { marketOrder .buy 1000 with symbol := "PEPEUSDT" } (quoted (1 / 100000000)) "open" 0,
    .applyDecision (marketOrder .buy 1000) (quoted 100) "open" 0]

/-- Both positions are past their stop loss. -/
def fallenQuotes : OrderedDict String FeatureVector :=
  .ofList [("PEPEUSDT", { quoted (4 / 1000000000) with symbol := "PEPEUSDT" }), ("BTCUSDT", quoted 90)]

end Samples

end PaperArithmetic

end CatsPy
