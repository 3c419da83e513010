import CatsPy.PaperFills

/-!
# Funding clock

The funding clock is kept per symbol and survives the position it was started
for. Funding waits for a full interval of the position itself as long as no
position is opened in a symbol whose clock is already running.
-/
namespace CatsPy
open PythonValues StateRuns

def PaperOp.time : PaperOp → Datetime
  | .accountState now => now
  | .markToMarket _ _ ts => ts
  | .applyDecision _ _ _ ts => ts

namespace PaperExecutionService

section Charges

structure FundingCharge where
  symbol : String
  amount : ℚ
  deriving DecidableEq

variable (features : OrderedDict String FeatureVector) (ts : Datetime)

/-- What one visit of the marking loop charges. -/
def visitCharges (acc : PaperExecutionService × ℚ) (entry : (String × String) × PositionState) :
    List FundingCharge :=
  if !entry.2.isOpen then []
  else match features.get? entry.2.symbol with
    | none => []
    | some feature =>
        if feature.referencePrice ≤ 0 then []
        else [⟨entry.2.symbol, (acc.1.maybeApplyFunding entry.2 feature ts).2⟩]

/-- What `mark_to_market()` charges, position by position. -/
def markCharges (svc : PaperExecutionService) : List FundingCharge :=
  trace (markStep features ts) (visitCharges features ts) (svc, 0) svc.state.positions.entries

theorem markStep_charged (acc : PaperExecutionService × ℚ) (entry : (String × String) × PositionState) :
    (markStep features ts acc entry).2 =
      acc.2 + ((visitCharges features ts acc entry).map FundingCharge.amount).sum := by
  unfold markStep visitCharges
  by_cases closed : entry.2.isOpen = false
  · simp [closed]
  · rw [Bool.not_eq_false] at closed
    cases known : features.get? entry.2.symbol with
    | none => simp [closed]
    | some feature =>
        by_cases unpriced : feature.referencePrice ≤ 0
        · simp [closed, unpriced]
        · simp [closed, unpriced]

/-- The charges of a mark are what it books as funding. -/
theorem markToMarket_charged (svc : PaperExecutionService) (cycleId : String) :
    (svc.markToMarket features cycleId ts).fundingPnl =
      svc.fundingPnl + ((svc.markCharges features ts).map FundingCharge.amount).sum := by
  have total (entries : List ((String × String) × PositionState)) (acc : PaperExecutionService × ℚ) :
      (entries.foldl (markStep features ts) acc).2 = acc.2 +
        ((trace (markStep features ts) (visitCharges features ts) acc entries).map
          FundingCharge.amount).sum := by
    induction entries generalizing acc with
    | nil => simp [trace]
    | cons entry rest ih =>
        rw [List.foldl_cons, ih, markStep_charged, trace, List.map_append, List.sum_append, add_assoc]
  have delta := total svc.state.positions.entries (svc, 0)
  obtain ⟨clock, metadata, loop⟩ := markLoop_eq features ts svc
  rw [markCharges, ← zero_add (List.sum _), ← delta]
  simp only [markToMarket, loop]
  split
  · rfl
  · next unfunded =>
    rw [not_not.mp unfunded, add_zero]
    rfl

end Charges

section Clock

/-- Funding starts the clock, waits for it, or is due. -/
theorem maybeApplyFunding_cases {svc : PaperExecutionService} (interval : 0 < svc.fundingIntervalHours)
    (position : PositionState) (feature : FeatureVector) (ts : Datetime) :
    (svc.maybeApplyFunding position feature ts) = (svc, 0) ∨
      (svc.maybeApplyFunding position feature ts).1 = { svc with
          lastFundingAppliedAt := svc.lastFundingAppliedAt.set position.symbol ts } ∧
        ((svc.maybeApplyFunding position feature ts).2 ≠ 0 →
          ∃ last, svc.lastFundingAppliedAt.get? position.symbol = some last ∧
            svc.fundingIntervalHours ≤ totalSeconds ts last / 3600) := by
  by_cases free : feature.fundingRate = 0
  · exact .inl (by simp only [maybeApplyFunding, if_pos free])
  · cases known : svc.lastFundingAppliedAt.get? position.symbol with
    | none =>
        refine .inr ?_
        simp only [maybeApplyFunding, if_neg free, if_pos interval, known]
        exact ⟨trivial, fun charged => absurd rfl charged⟩
    | some last =>
        by_cases early : totalSeconds ts last / 3600 < svc.fundingIntervalHours
        · exact .inl (by simp only [maybeApplyFunding, if_neg free, if_pos interval, known, if_pos early])
        · refine .inr ?_
          simp only [maybeApplyFunding, if_neg free, if_pos interval, known, if_neg early]
          exact ⟨trivial, fun _ => ⟨last, rfl, le_of_not_gt early⟩⟩

abbrev OpeningTimes := String → Option Datetime

/-- No clock is older than the position it would charge. -/
def ClocksFollow (svc : PaperExecutionService) (opened : OpeningTimes) : Prop :=
  ∀ symbol since clock, opened symbol = some since →
    svc.lastFundingAppliedAt.get? symbol = some clock → since ≤ clock

variable {svc : PaperExecutionService} {opened : OpeningTimes}

theorem ClocksFollow.restarted (follow : svc.ClocksFollow opened) {symbol : String} {ts : Datetime}
    (past : ∀ since, opened symbol = some since → since ≤ ts) :
    { svc with lastFundingAppliedAt := svc.lastFundingAppliedAt.set symbol ts }.ClocksFollow opened := by
  intro other since clock known running
  simp only [OrderedDict.get?_set] at running
  split at running
  next own =>
    cases running
    subst own
    exact past since known
  next => exact follow other since clock known running

/-- One visit keeps the clocks behind the openings and charges only what is due. -/
theorem markStep_follows {features : OrderedDict String FeatureVector} {ts : Datetime}
    {acc : PaperExecutionService × ℚ} (interval : 0 < acc.1.fundingIntervalHours)
    (follow : acc.1.ClocksFollow opened)
    (past : ∀ symbol since, opened symbol = some since → since ≤ ts)
    (entry : (String × String) × PositionState) :
    (markStep features ts acc entry).1.fundingIntervalHours = acc.1.fundingIntervalHours ∧
      (markStep features ts acc entry).1.ClocksFollow opened ∧
      ∀ charge ∈ visitCharges features ts acc entry, charge.symbol = entry.2.symbol ∧
        entry.2.isOpen = true ∧ (charge.amount ≠ 0 → ∀ since, opened charge.symbol = some since →
          acc.1.fundingIntervalHours ≤ totalSeconds ts since / 3600) := by
  unfold markStep visitCharges
  by_cases closed : entry.2.isOpen = false
  · simpa [closed] using follow
  · rw [Bool.not_eq_false] at closed
    cases known : features.get? entry.2.symbol with
    | none => simpa [closed] using follow
    | some feature =>
        by_cases unpriced : feature.referencePrice ≤ 0
        · simpa [closed, unpriced] using follow
        · simp only [closed, unpriced, Bool.not_true, Bool.false_eq_true, if_false,
            List.mem_singleton, forall_eq, true_and]
          rcases maybeApplyFunding_cases interval entry.2 feature ts with waits | ⟨restarted, due⟩
          · rw [waits]
            exact ⟨rfl, follow, fun charged => absurd rfl charged⟩
          · rw [restarted]
            refine ⟨rfl, follow.restarted (past entry.2.symbol), ?_⟩
            intro charged since born
            obtain ⟨last, running, elapsed⟩ := due charged
            have older := totalSeconds_anti (follow _ _ _ born running) ts
            linarith

end Clock

section Lifetimes

/-- A fill that leaves a flat symbol open opens a position, one that leaves it flat closes it. -/
def openedByFill (svc : PaperExecutionService) (opened : OpeningTimes) (decision : TradeDecision)
    (ts : Datetime) (result : PaperFillResult) : OpeningTimes := fun symbol =>
  if symbol ≠ decision.symbol then opened symbol
  else if result.resultingQuantity = 0 then none
  else if svc.heldQuantity symbol = 0 then some ts
  else opened symbol

def openedBy (svc : PaperExecutionService) (opened : OpeningTimes) : PaperOp → OpeningTimes
  | .applyDecision decision feature cycleId ts =>
      match svc.applyDecision decision feature cycleId ts with
      | .ok (_, some result) => svc.openedByFill opened decision ts result
      | _ => opened
  | _ => opened

/-- The account beside the opening times of its positions. -/
def lifetimeStep (s : PaperExecutionService × OpeningTimes) (op : PaperOp) :
    PaperExecutionService × OpeningTimes := (s.1.step op, s.1.openedBy s.2 op)

/-- Whatever a mark charges is charged on a position held for a full interval. -/
def ChargesDue (s : PaperExecutionService × OpeningTimes) : PaperOp → Prop
  | .markToMarket features _ ts => ∀ charge ∈ s.1.markCharges features ts, charge.amount ≠ 0 →
      ∃ since, s.2 charge.symbol = some since ∧ s.1.fundingIntervalHours ≤ totalSeconds ts since / 3600
  | _ => True

/-- An order that opens a position from flat while the funding clock of its
symbol shows an earlier time. -/
def OpensOnOldClock (svc : PaperExecutionService) : PaperOp → Prop
  | .applyDecision decision feature _ ts => svc.OpensFromFlat decision feature ∧
      ∃ clock, svc.lastFundingAppliedAt.get? decision.symbol = some clock ∧ clock < ts
  | _ => False

/-- What holds before the operations to come. -/
structure LifetimesTracked (rest : List PaperOp) (s : PaperExecutionService × OpeningTimes) : Prop where
  sound : s.1.PositionsSound
  interval : 0 < s.1.fundingIntervalHours
  held : ∀ symbol, s.1.heldQuantity symbol ≠ 0 → ∃ since, s.2 symbol = some since
  follow : s.1.ClocksFollow s.2
  past : ∀ symbol since, s.2 symbol = some since → ∀ op ∈ rest, since ≤ op.time

variable {svc : PaperExecutionService} {opened : OpeningTimes} {rest : List PaperOp}

/-- Every opening is an old one or that of the fill itself. -/
theorem openedByFill_some {decision : TradeDecision} {ts since : Datetime} {result : PaperFillResult}
    {symbol : String} (born : svc.openedByFill opened decision ts result symbol = some since) :
    opened symbol = some since ∨
      symbol = decision.symbol ∧ since = ts ∧ svc.heldQuantity symbol = 0 ∧ result.resultingQuantity ≠ 0 := by
  unfold openedByFill at born
  split_ifs at born with other closed flat
  · exact .inl born
  · cases born
    exact .inr ⟨not_not.mp other, rfl, flat, closed⟩
  · exact .inl born

theorem LifetimesTracked.charges_due {features : OrderedDict String FeatureVector} {cycleId : String}
    {ts : Datetime} (tracked : LifetimesTracked (.markToMarket features cycleId ts :: rest) (svc, opened)) :
    ChargesDue (svc, opened) (.markToMarket features cycleId ts) := by
  have past (symbol : String) (since : Datetime) (born : opened symbol = some since) : since ≤ ts :=
    tracked.past symbol since born _ List.mem_cons_self
  apply trace_forall (markStep features ts) (visitCharges features ts)
    (fun acc => acc.1.fundingIntervalHours = svc.fundingIntervalHours ∧ acc.1.ClocksFollow opened)
    (fun _ entry => entry.2.isOpen = true → ∃ since, opened entry.2.symbol = some since)
  · rintro acc entry - ⟨same, follow⟩
    obtain ⟨kept, followed, -⟩ := markStep_follows (same ▸ tracked.interval) follow past entry
    exact ⟨kept.trans same, followed⟩
  · rintro acc entry lived ⟨same, follow⟩ charge emitted charged
    obtain ⟨-, -, due⟩ := markStep_follows (same ▸ tracked.interval) follow past entry
    obtain ⟨own, isOpen, elapsed⟩ := due charge emitted
    obtain ⟨since, born⟩ := lived isOpen
    rw [← own] at born
    exact ⟨since, born, same ▸ elapsed charged since born⟩
  · exact ⟨rfl, tracked.follow⟩
  · apply along_of_forall
    rintro ⟨key, position⟩ member isOpen
    have stored := (svc.state.positions.get?_eq_some_iff _ _).mpr member
    obtain ⟨rfl, shape⟩ := tracked.sound key position stored
    apply tracked.held
    apply (heldQuantity_ne_zero_iff svc position.symbol).mpr
    rw [PositionState.key, shape.side] at stored
    exact ⟨position, stored, isOpen⟩

theorem markToMarket_follows (features : OrderedDict String FeatureVector) {ts : Datetime}
    (interval : 0 < svc.fundingIntervalHours) (follow : svc.ClocksFollow opened)
    (past : ∀ symbol since, opened symbol = some since → since ≤ ts) (cycleId : String) :
    (svc.markToMarket features cycleId ts).fundingIntervalHours = svc.fundingIntervalHours ∧
      (svc.markToMarket features cycleId ts).ClocksFollow opened := by
  have looped := run_invariant (markStep features ts)
    (fun acc => acc.1.fundingIntervalHours = svc.fundingIntervalHours ∧ acc.1.ClocksFollow opened)
    (by
      rintro acc entry ⟨same, follow⟩
      obtain ⟨kept, followed, -⟩ := markStep_follows (same ▸ interval) follow past entry
      exact ⟨kept.trans same, followed⟩)
    (svc, 0) svc.state.positions.entries ⟨rfl, follow⟩
  simp only [markToMarket]
  split <;> exact looped

theorem LifetimesTracked.tail {op : PaperOp} {s : PaperExecutionService × OpeningTimes}
    (tracked : LifetimesTracked (op :: rest) s) : LifetimesTracked rest s :=
  { tracked with
    past := fun symbol since born next member =>
      tracked.past symbol since born next (List.mem_cons_of_mem op member) }

/-- A fill keeps the openings, its own included when the clock of its symbol is not older. -/
theorem LifetimesTracked.filled (tracked : LifetimesTracked rest (svc, opened)) {decision : TradeDecision}
    {feature : FeatureVector} {cycleId : String} {ts : Datetime} {after : PaperExecutionService}
    {result : PaperFillResult}
    (applied : svc.applyDecision decision feature cycleId ts = .ok (after, some result))
    (later : ∀ next ∈ rest, ts ≤ next.time)
    (fresh : svc.OpensFromFlat decision feature → ∀ clock,
      svc.lastFundingAppliedAt.get? decision.symbol = some clock → ts ≤ clock) :
    LifetimesTracked rest (after, svc.openedByFill opened decision ts result) := by
  obtain ⟨side, risk, -, -, -, -, booked⟩ := applyDecision_filled applied
  have sound := step_positionsSound svc (.applyDecision decision feature cycleId ts) tracked.sound
  simp only [PaperExecutionService.step, applied] at sound
  have frame : after.fundingIntervalHours = svc.fundingIntervalHours ∧
      after.lastFundingAppliedAt = svc.lastFundingAppliedAt := by
    obtain ⟨rfl, -⟩ := Prod.mk.inj booked
    exact ⟨rfl, rfl⟩
  refine ⟨sound, lt_of_lt_of_eq tracked.interval frame.1.symm, ?_, ?_, ?_⟩
  · intro symbol held
    rw [heldQuantity_bookFill tracked.sound booked] at held
    by_cases own : symbol = decision.symbol
    · rw [if_pos own] at held
      simp only [openedByFill, own, ne_eq, not_true_eq_false, if_false, if_neg held]
      split_ifs with flat
      · exact ⟨ts, rfl⟩
      · exact tracked.held decision.symbol flat
    · rw [if_neg own] at held
      simpa only [openedByFill, own, ne_eq, not_false_eq_true, if_true] using tracked.held symbol held
  · intro symbol since clock born running
    rw [frame.2] at running
    rcases openedByFill_some born with old | ⟨rfl, same, flat, opens⟩
    · exact tracked.follow symbol since clock old running
    · rw [same]
      exact fresh ((opensFromFlat_iff svc decision feature cycleId ts).mpr
        ⟨after, result, applied, flat, opens⟩) clock running
  · intro symbol since born
    rcases openedByFill_some born with old | ⟨-, rfl, -, -⟩
    · exact tracked.past symbol since old
    · exact later

theorem LifetimesTracked.step {op : PaperOp} (tracked : LifetimesTracked (op :: rest) (svc, opened))
    (later : ∀ next ∈ rest, op.time ≤ next.time) (fresh : ¬ svc.OpensOnOldClock op) :
    LifetimesTracked rest (lifetimeStep (svc, opened) op) := by
  cases op with
  | accountState now =>
      have sound := step_positionsSound svc (.accountState now) tracked.sound
      exact ⟨sound, tracked.interval, tracked.held, tracked.follow, tracked.tail.past⟩
  | markToMarket features cycleId ts =>
      have sound := step_positionsSound svc (.markToMarket features cycleId ts) tracked.sound
      obtain ⟨kept, followed⟩ := markToMarket_follows features tracked.interval tracked.follow
        (fun symbol since born => tracked.past symbol since born _ List.mem_cons_self) cycleId
      refine ⟨sound, lt_of_lt_of_eq tracked.interval kept.symm, ?_, followed, tracked.tail.past⟩
      intro symbol held
      exact tracked.held symbol (by rwa [← heldQuantity_markToMarket svc features cycleId ts])
  | applyDecision decision feature cycleId ts =>
      simp only [lifetimeStep, PaperExecutionService.step, openedBy]
      cases applied : svc.applyDecision decision feature cycleId ts with
      | error error => exact tracked.tail
      | ok outcome =>
          obtain ⟨after, _ | result⟩ := outcome
          · rw [applyDecision_ignored applied]
            exact tracked.tail
          · apply tracked.tail.filled applied later
            intro opens clock running
            by_contra older
            exact fresh ⟨opens, clock, running, lt_of_not_ge older⟩

theorem run_chargesDue (ops : List PaperOp) {s : PaperExecutionService × OpeningTimes}
    (tracked : LifetimesTracked ops s)
    (ordered : ops.Pairwise fun earlier later => earlier.time ≤ later.time)
    (fresh : Along PaperExecutionService.step (fun svc op => ¬ svc.OpensOnOldClock op) s.1 ops) :
    Along lifetimeStep ChargesDue s ops := by
  induction ops generalizing s with
  | nil => trivial
  | cons op rest ih =>
      obtain ⟨here, there⟩ := fresh
      obtain ⟨first, ordered⟩ := List.pairwise_cons.mp ordered
      refine ⟨?_, ih (tracked.step first here) ordered there⟩
      cases op with
      | accountState now => trivial
      | markToMarket features cycleId ts => exact tracked.charges_due
      | applyDecision decision feature cycleId ts => trivial

/-- In every run with non-decreasing times in which no position is opened from
flat on a funding clock older than the fill, whatever a mark charges is charged
on a position held for a full interval. -/
theorem funding_waits_for_interval (config : PaperConfig) (interval : 0 < config.fundingIntervalHours)
    (ops : List PaperOp) (ordered : ops.Pairwise fun earlier later => earlier.time ≤ later.time)
    (fresh : Along PaperExecutionService.step (fun svc op => ¬ svc.OpensOnOldClock op) (init config) ops) :
    Along lifetimeStep ChargesDue (init config, fun _ => none) ops := by
  have flat (symbol : String) : (init config).heldQuantity symbol = 0 := by
    simp [init, heldQuantity, positionFor, OrderedDict.getD, AccountState.upsertBalance]
  apply run_chargesDue ops _ ordered fresh
  constructor
  · exact init_positionsSound config
  · exact interval
  · exact fun symbol held => absurd (flat symbol) held
  · rintro symbol since clock ⟨⟩
  · rintro symbol since ⟨⟩

end Lifetimes

section Samples

def hours (n : ℤ) : Datetime := n * 3600000000

/-- A quote at 100 with a funding rate of a hundredth of a percent. -/
def fundedQuote : OrderedDict String FeatureVector :=
  .ofList [("BTCUSDT", { quoted 100 with fundingRate := 1 / 10000 })]

/-- A long held over one funding interval. -/
def heldOverFunding : List PaperOp :=
  [.applyDecision (marketOrder .buy 1000) (quoted 100) "open" 0,
    .markToMarket fundedQuote "start" (hours 1),
    .markToMarket fundedQuote "charge" (hours 9)]

theorem funding_waits_for_interval_long :
    Along lifetimeStep ChargesDue (init {}, fun _ => none) heldOverFunding := by
  apply funding_waits_for_interval {} (by norm_num) heldOverFunding (by decide +kernel)
  refine ⟨?_, id, id, trivial⟩
  rintro ⟨-, clock, running, -⟩
  cases running

def unslipped : PaperConfig := { slippageBps := 0 }

/-- A long closed after two hours, and another opened a day later and marked at once. -/
def reopenedLong : List PaperOp :=
  [.applyDecision (marketOrder .buy 1000) (quoted 100) "open" 0,
    .markToMarket fundedQuote "start" (hours 1),
    .applyDecision (marketOrder .sell 1000) (quoted 100) "close" (hours 2),
    .applyDecision (marketOrder .buy 1000) (quoted 100) "reopen" (hours 26),
    .markToMarket fundedQuote "charge" (hours 26)]

/-- The second long pays funding in the instant it is opened. -/
theorem reopened_long_charged_early :
    0 < unslipped.fundingIntervalHours ∧
      (reopenedLong.Pairwise fun earlier later => earlier.time ≤ later.time) ∧
      ¬ Along lifetimeStep ChargesDue (init unslipped, fun _ => none) reopenedLong := by
  refine ⟨by decide, by decide +kernel, ?_⟩
  intro due
  have last : Along lifetimeStep ChargesDue
      (StateRuns.run lifetimeStep (init unslipped, fun _ => none) (reopenedLong.take 4))
      (reopenedLong.drop 4) := along_append lifetimeStep due
  have reopened :
      let s := StateRuns.run lifetimeStep (init unslipped, fun _ => none) (reopenedLong.take 4)
      s.1.markCharges fundedQuote (hours 26) = [⟨"BTCUSDT", -1 / 10⟩] ∧
        s.2 "BTCUSDT" = some (hours 26) ∧
        ¬ s.1.fundingIntervalHours ≤ totalSeconds (hours 26) (hours 26) / 3600 := by
    decide +kernel
  obtain ⟨charged, born, early⟩ := reopened
  obtain ⟨since, born', elapsed⟩ := last.1 ⟨"BTCUSDT", -1 / 10⟩
    (by rw [charged]; exact List.mem_cons_self) (by norm_num)
  rw [born] at born'
  cases born'
  exact early elapsed

end Samples

end PaperExecutionService

end CatsPy
