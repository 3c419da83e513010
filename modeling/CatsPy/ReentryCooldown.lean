import CatsPy.PaperCycles
import CatsPy.PaperFills

/-!
# Re-entry cooldown

An exit either leaves a residual position, which the already-open gate keeps
from being entered again, or starts the exit clock of its symbol. The clock is
restarted only at later times, so the cooldown gate measures from an instant no
earlier than any exit so far.
-/
namespace CatsPy
open PythonValues

namespace DecisionRuntimeService

section Cooldown
open PaperExecutionService

/-- An exit is either unfinished or behind the exit clock of its symbol. -/
def ExitRecorded (svc : PaperExecutionService) (exit : PaperFill) : Prop :=
  svc.heldQuantity exit.symbol ≠ 0 ∨
    ∃ restarted, svc.lastExitTime.get? exit.symbol = some restarted ∧ exit.ts ≤ restarted

/-- An entry keeps the cooldown after an earlier exit of its symbol. -/
def CooledDown (cooldownMinutes : ℚ) (exit entry : PaperFill) : Prop :=
  exit.phase = .exit → entry.phase = .decide → exit.symbol = entry.symbol →
    cooldownMinutes ≤ totalSeconds entry.ts exit.ts / 60

/-- What holds after the fills so far, before the cycles to come. -/
structure CooldownKept (cooldownMinutes : ℚ) (inputs : List CycleInput) (svc : PaperExecutionService)
    (history : List PaperFill) : Prop where
  cooled : history.Pairwise (CooledDown cooldownMinutes)
  recorded : ∀ exit ∈ history, exit.phase = .exit → ExitRecorded svc exit
  elapsed : ∀ fill ∈ history, ∀ input ∈ inputs, fill.ts ≤ input.startedAt
  ordered : inputs.Pairwise fun earlier later => earlier.startedAt ≤ later.startedAt

variable {service : DecisionRuntimeService} {input : CycleInput} {rest : List CycleInput}
  {svc : PaperExecutionService} {history : List PaperFill} {fill : PaperFill} {cooldownMinutes : ℚ}

theorem CooldownKept.of_same {other : PaperExecutionService}
    (kept : CooldownKept cooldownMinutes rest svc history)
    (quantity : ∀ symbol, other.heldQuantity symbol = svc.heldQuantity symbol)
    (clock : other.lastExitTime = svc.lastExitTime) : CooldownKept cooldownMinutes rest other history where
  cooled := kept.cooled
  recorded := by
    intro exit member phase
    rw [ExitRecorded, quantity, clock]
    exact kept.recorded exit member phase
  elapsed := kept.elapsed
  ordered := kept.ordered

/-- A fill keeps every exit recorded, and so its own if it is one. -/
theorem ExitRecorded.filled {feature : FeatureVector} {cycleId : String} (sound : svc.PositionsSound)
    (applied : svc.applyDecision fill.decision feature cycleId fill.ts = .ok (fill.after, some fill.result))
    {exit : PaperFill} (earlier : exit.ts ≤ fill.ts) (recorded : exit.symbol = fill.symbol ∨
      ExitRecorded svc exit) : ExitRecorded fill.after exit := by
  obtain ⟨side, risk, -, -, -, -, booked⟩ := applyDecision_filled applied
  rw [ExitRecorded, heldQuantity_bookFill sound booked, bookFill_lastExitTime booked]
  by_cases own : exit.symbol = fill.decision.symbol
  · rw [if_pos own, own]
    by_cases closed : fill.result.resultingQuantity = 0
    · exact .inr ⟨fill.ts, by simp [filledExitTime, closed], earlier⟩
    · exact .inl closed
  · rw [if_neg own]
    rcases recorded with same | open_ | ⟨restarted, stored, before⟩
    · exact absurd same own
    · exact .inl open_
    · refine .inr ⟨restarted, ?_, before⟩
      simp only [filledExitTime]
      split
      · rw [OrderedDict.get?_set_of_ne _ _ own, stored]
      · exact stored

theorem CooldownKept.after_fill {feature : FeatureVector} {cycleId : String} (sound : svc.PositionsSound)
    (kept : CooldownKept cooldownMinutes (input :: rest) svc history) (ts : fill.ts = input.startedAt)
    (applied : svc.applyDecision fill.decision feature cycleId input.startedAt =
      .ok (fill.after, some fill.result))
    (cooled : ∀ exit ∈ history, CooledDown cooldownMinutes exit fill) :
    CooldownKept cooldownMinutes (input :: rest) fill.after (history ++ [fill]) where
  cooled := by
    rw [List.pairwise_append]
    refine ⟨kept.cooled, List.pairwise_singleton _ _, ?_⟩
    intro exit member entry own
    rw [List.mem_singleton.mp own]
    exact cooled exit member
  recorded := by
    rw [← ts] at applied
    intro exit member phase
    rcases List.mem_append.mp member with old | new
    · have earlier : exit.ts ≤ fill.ts := by
        rw [ts]
        exact kept.elapsed exit old input List.mem_cons_self
      exact .filled sound applied earlier (.inr (kept.recorded exit old phase))
    · rw [List.mem_singleton.mp new]
      exact .filled sound applied le_rfl (.inl rfl)
  elapsed := by
    intro earlier member later pending
    rcases List.mem_append.mp member with old | new
    · exact kept.elapsed earlier old later pending
    · rw [List.mem_singleton.mp new, ts]
      rcases List.mem_cons.mp pending with now | after
      · rw [now]
      · exact List.rel_of_pairwise_cons kept.ordered after
  ordered := kept.ordered

/-- A decide fill starts flat and out of cooldown, so every exit of its symbol
is behind a clock that has run out. -/
theorem DecideFill.cooledDown (decides : DecideFill service input svc fill)
    (kept : CooldownKept cooldownMinutes (input :: rest) svc history)
    (setting : cooldownMinutes = service.appConfig.exitCooldownMinutes) :
    ∀ exit ∈ history, CooledDown cooldownMinutes exit fill := by
  intro exit member phase _ same
  rcases kept.recorded exit member phase with open_ | ⟨restarted, stored, before⟩
  · rw [same, ← positionFor_quantity svc fill.symbol input.startedAt, decides.flat] at open_
    exact absurd rfl open_
  · have elapsed := decides.cooled
    rw [same] at stored
    simp only [isInCooldown, stored, decide_eq_false_iff_not, not_lt] at elapsed
    rw [setting, decides.ts]
    have longer := totalSeconds_anti before input.startedAt
    exact elapsed.trans (div_le_div_of_nonneg_right longer (by norm_num))

theorem cooldownKept_cycle (input : CycleInput) (rest : List CycleInput) :
    CycleInvariant service input
      (CooldownKept service.appConfig.exitCooldownMinutes (input :: rest)) where
  journal := fun _ _ _ kept => kept.of_same (fun _ => rfl) rfl
  stamped := fun _ _ kept => kept.of_same (fun _ => rfl) rfl
  marked := fun svc _ features _ kept => kept.of_same
    (fun symbol => heldQuantity_markToMarket svc features input.cycleId input.startedAt symbol)
    (markToMarket_lastExitTime svc features input.cycleId input.startedAt)
  exits := by
    intro svc history fill sound kept exits
    obtain ⟨feature, applied⟩ := exits.filled
    refine kept.after_fill sound exits.ts applied ?_
    intro exit member _ decides
    rw [exits.phase] at decides
    cases decides
  decides := by
    intro svc history fill sound kept decides
    obtain ⟨feature, applied⟩ := decides.filled
    exact kept.after_fill sound decides.ts applied (decides.cooledDown kept rfl)

theorem CooldownKept.next (kept : CooldownKept cooldownMinutes (input :: rest) svc history) :
    CooldownKept cooldownMinutes rest svc history where
  cooled := kept.cooled
  recorded := kept.recorded
  elapsed := fun fill member later pending => kept.elapsed fill member later (List.mem_cons_of_mem _ pending)
  ordered := kept.ordered.of_cons

/-- In cycles that start in order, an entry after an exit of its symbol comes
the cooldown later at the earliest, whatever the slippage. -/
theorem entries_cooled_down (service : DecisionRuntimeService) (paper : RunsPaper service) {state : RuntimeState}
    (present : state.paper = some svc) (reachable : svc.Reachable) (inputs : List CycleInput)
    (ordered : inputs.Pairwise fun earlier later => earlier.startedAt ≤ later.startedAt) :
    (service.runFills state inputs).Pairwise (CooledDown service.appConfig.exitCooldownMinutes) := by
  obtain ⟨after, -, -, kept⟩ := runCycles_history paper
    (CooldownKept service.appConfig.exitCooldownMinutes) cooldownKept_cycle
    (fun _ _ _ _ kept => kept.next) inputs present reachable.positionsSound
    ⟨.nil, by simp, by simp, ordered⟩
  exact kept.cooled

end Cooldown

section Samples
open PaperExecutionService

/-- Fills at the quoted price, so an exit leaves nothing behind. -/
def unslippedPaper : RuntimeState := { paper := some (PaperExecutionService.init { slippageBps := 0 }) }

/-- The long is stopped out as the price falls; the trend is back a minute later, and
still there after half an hour. -/
def stoppedOutInputs : List CycleInput :=
  [trendingInput, fallenInput, { trendingInput with startedAt := 60000000 },
    { trendingInput with startedAt := 1800000000 }]

/-- The cycle a minute after the exit fills nothing. -/
theorem entries_cooled_down_btc :
    (paperService.runFills unslippedPaper stoppedOutInputs).map (fun fill => (fill.phase, fill.ts)) =
        [(.decide, 0), (.exit, 0), (.decide, 1800000000)] ∧
      (paperService.runFills unslippedPaper stoppedOutInputs).Pairwise (CooledDown 30) := by
  have ordered : stoppedOutInputs.Pairwise fun earlier later => earlier.startedAt ≤ later.startedAt := by
    decide +kernel
  exact ⟨by decide +kernel, entries_cooled_down paperService paperService_runs rfl (reachable_init _)
    stoppedOutInputs ordered⟩

end Samples

end DecisionRuntimeService

end CatsPy
