import CatsPy.FundingClock

/-!
# Repeated marking

A second mark at the same features and time finds every clock it would charge
restarted and every value it would write already there.
-/
namespace CatsPy
open PythonValues StateRuns

namespace PaperExecutionService

variable (features : OrderedDict String FeatureVector) (ts : Datetime)

section Visits

/-- The position is open and its feature carries a price. -/
def Marks (position : PositionState) (feature : FeatureVector) : Prop :=
  position.isOpen = true ∧ features.get? position.symbol = some feature ∧ 0 < feature.referencePrice

variable {features ts} {acc : PaperExecutionService × ℚ} {entry : (String × String) × PositionState}
  {feature : FeatureVector}

theorem markStep_of_marks (marks : Marks features entry.2 feature) :
    markStep features ts acc entry =
      let funded := acc.1.maybeApplyFunding entry.2 feature ts
      let marked := markedPosition entry.2 feature.referencePrice ts
      ({ funded.1 with
          state := { funded.1.state with positions := funded.1.state.positions.set entry.1 marked }
          positionMetadata := markMetadata funded.1.positionMetadata entry.2 feature.referencePrice },
        acc.2 + funded.2) := by
  obtain ⟨isOpen, known, priced⟩ := marks
  simp only [markStep, isOpen, known, if_neg priced.not_ge, Bool.not_true, Bool.false_eq_true, if_false]

/-- A position that no priced feature marks is passed over. -/
theorem markStep_of_idle (idle : ∀ feature, ¬ Marks features entry.2 feature) :
    markStep features ts acc entry = acc ∧ visitCharges features ts acc entry = [] := by
  by_cases closed : entry.2.isOpen = false
  · simp only [markStep, visitCharges, closed, Bool.not_false, if_true, and_self]
  · rw [Bool.not_eq_false] at closed
    cases known : features.get? entry.2.symbol with
    | none => simp only [markStep, visitCharges, closed, known, Bool.not_true, Bool.false_eq_true,
        if_false, and_self]
    | some feature =>
        have unpriced : feature.referencePrice ≤ 0 :=
          not_lt.mp fun priced => idle feature ⟨closed, known, priced⟩
        simp only [markStep, visitCharges, closed, known, unpriced, Bool.not_true, Bool.false_eq_true,
          if_false, if_true, and_self]

theorem visitCharges_of_marks (marks : Marks features entry.2 feature) :
    visitCharges features ts acc entry =
      [⟨entry.2.symbol, (acc.1.maybeApplyFunding entry.2 feature ts).2⟩] := by
  obtain ⟨isOpen, known, priced⟩ := marks
  simp only [visitCharges, isOpen, known, if_neg priced.not_ge, Bool.not_true, Bool.false_eq_true, if_false]

end Visits

section Clocks

/-- The symbol's clock stands less than an interval before `ts`. -/
def ClockFresh (svc : PaperExecutionService) (symbol : String) : Prop :=
  ∃ last, svc.lastFundingAppliedAt.get? symbol = some last ∧
    totalSeconds ts last / 3600 < svc.fundingIntervalHours

variable {features ts} {svc : PaperExecutionService}

/-- Under a fresh clock, or at a zero rate, funding does nothing. -/
theorem maybeApplyFunding_settled (interval : 0 < svc.fundingIntervalHours) {position : PositionState}
    {feature : FeatureVector} (settled : feature.fundingRate ≠ 0 → svc.ClockFresh ts position.symbol) :
    svc.maybeApplyFunding position feature ts = (svc, 0) := by
  by_cases free : feature.fundingRate = 0
  · simp only [maybeApplyFunding, if_pos free]
  · obtain ⟨last, running, early⟩ := settled free
    simp only [maybeApplyFunding, if_neg free, if_pos interval, running, if_pos early]

/-- Funding leaves the clock of its own symbol fresh unless the rate is zero. -/
theorem maybeApplyFunding_fresh (interval : 0 < svc.fundingIntervalHours) {position : PositionState}
    {feature : FeatureVector} (charged : feature.fundingRate ≠ 0) :
    (svc.maybeApplyFunding position feature ts).1.ClockFresh ts position.symbol := by
  have restarted : { svc with
      lastFundingAppliedAt := svc.lastFundingAppliedAt.set position.symbol ts }.ClockFresh ts
        position.symbol := by
    refine ⟨ts, OrderedDict.get?_set_self _ _ _, ?_⟩
    simpa [totalSeconds] using interval
  cases known : svc.lastFundingAppliedAt.get? position.symbol with
  | none => simpa only [maybeApplyFunding, if_neg charged, if_pos interval, known] using restarted
  | some last =>
      by_cases early : totalSeconds ts last / 3600 < svc.fundingIntervalHours
      · simpa only [maybeApplyFunding, if_neg charged, if_pos interval, known, if_pos early] using
          ⟨last, known, early⟩
      · simpa only [maybeApplyFunding, if_neg charged, if_pos interval, known, if_neg early] using restarted

/-- Funding restarts clocks at `ts`, which keeps the fresh ones fresh. -/
theorem ClockFresh.funded {symbol : String} (fresh : svc.ClockFresh ts symbol)
    (interval : 0 < svc.fundingIntervalHours) (position : PositionState) (feature : FeatureVector) :
    (svc.maybeApplyFunding position feature ts).1.ClockFresh ts symbol := by
  rcases maybeApplyFunding_cases interval position feature ts with waits | ⟨restarted, -⟩
  · rwa [waits]
  · rw [restarted]
    by_cases own : symbol = position.symbol
    · subst own
      refine ⟨ts, OrderedDict.get?_set_self _ _ _, ?_⟩
      simpa [totalSeconds] using interval
    · obtain ⟨last, running, early⟩ := fresh
      exact ⟨last, (OrderedDict.get?_set_of_ne _ _ own).trans running, early⟩

end Clocks

section Settling

/-- A visit of the entry charges nothing. -/
def Settled (acc : PaperExecutionService × ℚ) (entry : (String × String) × PositionState) : Prop :=
  ∀ feature, Marks features entry.2 feature → feature.fundingRate ≠ 0 → acc.1.ClockFresh ts entry.2.symbol

variable {features ts} {acc : PaperExecutionService × ℚ}

theorem markStep_interval (acc : PaperExecutionService × ℚ) (entry : (String × String) × PositionState) :
    (markStep features ts acc entry).1.fundingIntervalHours = acc.1.fundingIntervalHours := by
  obtain ⟨_, _, _, stepped, -⟩ := markStep_eq features ts acc entry
  rw [stepped]

theorem markStep_clockFresh (interval : 0 < acc.1.fundingIntervalHours) {symbol : String}
    (fresh : acc.1.ClockFresh ts symbol) (entry : (String × String) × PositionState) :
    (markStep features ts acc entry).1.ClockFresh ts symbol := by
  by_cases marks : ∃ feature, Marks features entry.2 feature
  · obtain ⟨feature, marks⟩ := marks
    rw [markStep_of_marks marks]
    exact fresh.funded interval entry.2 feature
  · rwa [(markStep_of_idle (not_exists.mp marks)).1]

theorem markStep_settles (interval : 0 < acc.1.fundingIntervalHours)
    (entry : (String × String) × PositionState) :
    Settled features ts (markStep features ts acc entry) entry := by
  intro feature marks charged
  rw [markStep_of_marks marks]
  exact maybeApplyFunding_fresh interval charged

/-- The loop leaves every entry it visited settled. -/
theorem markLoop_settles (interval : 0 < acc.1.fundingIntervalHours)
    (entries : List ((String × String) × PositionState)) :
    ∀ entry ∈ entries, Settled features ts (StateRuns.run (markStep features ts) acc entries) entry := by
  apply run_settles (markStep features ts) (fun acc => 0 < acc.1.fundingIntervalHours)
  · intro acc entry interval
    rwa [markStep_interval]
  · intro acc entry interval
    exact markStep_settles interval entry
  · intro acc entry other interval settled feature marks charged
    exact markStep_clockFresh interval (settled feature marks charged) entry
  · exact interval

end Settling

section Marked

variable {features ts} {svc : PaperExecutionService}

theorem marks_markedUnder {position : PositionState} {feature : FeatureVector} :
    Marks features (markedUnder features ts position) feature ↔ Marks features position feature := by
  have symbol : (markedUnder features ts position).symbol = position.symbol := by
    rcases markedUnder_cases features ts position with same | ⟨mark, marked⟩
    · rw [same]
    · rw [marked]; rfl
  rw [Marks, markedUnder_isOpen, symbol, Marks]

theorem markedUnder_of_marks {position : PositionState} {feature : FeatureVector}
    (marks : Marks features position feature) :
    markedUnder features ts position = markedPosition position feature.referencePrice ts := by
  obtain ⟨isOpen, known, priced⟩ := marks
  simp only [markedUnder, isOpen, known, if_neg priced.not_ge, Bool.not_true, Bool.false_eq_true, if_false]

theorem markedMetaUnder_of_marks {position : PositionState} {feature : FeatureVector}
    (marks : Marks features position feature) (entryMeta : PositionEntryMeta) :
    markedMetaUnder features position entryMeta =
      markedMeta entryMeta position.direction feature.referencePrice := by
  obtain ⟨isOpen, known, priced⟩ := marks
  simp only [markedMetaUnder, isOpen, known, if_neg priced.not_ge, Bool.not_true, Bool.false_eq_true, if_false]

theorem markedMeta_again (entryMeta : PositionEntryMeta) (direction : PositionDirection) (mark : ℚ) :
    markedMeta (markedMeta entryMeta direction mark) direction mark =
      markedMeta entryMeta direction mark := by
  cases direction with
  | long => simp [markedMeta]
  | short => simp [markedMeta]
  | flat => rfl

/-- After a mark the peak of a marked position already counts its mark. -/
theorem markMetadata_of_marked (sound : svc.PositionsSound) {cycleId : String} {position : PositionState}
    {feature : FeatureVector} (marks : Marks features position feature)
    (stored : svc.state.positions.get? (position.symbol, paperPositionSide) = some position) :
    markMetadata (svc.markToMarket features cycleId ts).positionMetadata
        (markedPosition position feature.referencePrice ts) feature.referencePrice =
      (svc.markToMarket features cycleId ts).positionMetadata := by
  have metadata := markToMarket_metadata features ts sound cycleId position.symbol
  simp only [stored] at metadata
  cases kept : svc.positionMetadata.get? position.symbol with
  | none =>
      rw [kept, Option.map_none] at metadata
      simp only [markMetadata, markedPosition, metadata]
  | some entryMeta =>
      rw [kept, Option.map_some, markedMetaUnder_of_marks marks] at metadata
      simp only [markMetadata, markedPosition, metadata, markedMeta_again]
      exact OrderedDict.set_of_get? metadata

variable (features ts svc) in
/-- The clocks after a mark are those its loop left. -/
theorem markToMarket_clocks (cycleId : String) :
    let looped := (StateRuns.run (markStep features ts) (svc, 0) svc.state.positions.entries).1
    (svc.markToMarket features cycleId ts).lastFundingAppliedAt = looped.lastFundingAppliedAt ∧
      (svc.markToMarket features cycleId ts).fundingIntervalHours = looped.fundingIntervalHours := by
  simp only [markToMarket, StateRuns.run]
  split <;> exact ⟨rfl, rfl⟩

/-- A mark leaves the clock of every position it charged fresh. -/
theorem markToMarket_clockFresh (interval : 0 < svc.fundingIntervalHours) (cycleId : String)
    {key : String × String} {position : PositionState} {feature : FeatureVector}
    (stored : svc.state.positions.get? key = some position) (marks : Marks features position feature)
    (charged : feature.fundingRate ≠ 0) :
    (svc.markToMarket features cycleId ts).ClockFresh ts position.symbol := by
  obtain ⟨clocks, hours⟩ := markToMarket_clocks features ts svc cycleId
  rw [ClockFresh, clocks, hours]
  exact markLoop_settles interval _ _ ((svc.state.positions.get?_eq_some_iff _ _).mp stored)
    feature marks charged

theorem markToMarket_interval (cycleId : String) :
    (svc.markToMarket features cycleId ts).fundingIntervalHours = svc.fundingIntervalHours := by
  obtain ⟨clock, metadata, fundingDelta, marked⟩ := markToMarket_eq features ts svc cycleId
  rw [marked]
  split <;> rfl

variable (features ts) in
/-- Every visit of the second loop leaves the account as it is and charges nothing. -/
theorem markToMarket_settled (sound : svc.PositionsSound) (interval : 0 < svc.fundingIntervalHours)
    (cycleId : String) :
    let once := svc.markToMarket features cycleId ts
    ∀ entry ∈ once.state.positions.entries, markStep features ts (once, 0) entry = (once, 0) ∧
      ∀ charge ∈ visitCharges features ts (once, 0) entry, charge.amount = 0 := by
  intro once entry member
  by_cases marks : ∃ feature, Marks features entry.2 feature
  · obtain ⟨feature, marks⟩ := marks
    have found := (once.state.positions.get?_eq_some_iff _ _).mpr member
    have stored := found
    rw [markToMarket_positions, OrderedDict.get?_mapValues, Option.map_eq_some_iff] at stored
    obtain ⟨position, before, marked⟩ := stored
    have again := marks
    rw [← marked, marks_markedUnder] at marks
    rw [markedUnder_of_marks marks] at marked
    have quiet : once.maybeApplyFunding entry.2 feature ts = (once, 0) := by
      apply maybeApplyFunding_settled
      · rwa [markToMarket_interval]
      · intro charged
        have fresh : once.ClockFresh ts position.symbol :=
          markToMarket_clockFresh interval cycleId before marks charged
        rw [← marked]
        exact fresh
    refine ⟨?_, ?_⟩
    · rw [markStep_of_marks again, quiet]
      have rewritten : once.state.positions.set entry.1
          (markedPosition entry.2 feature.referencePrice ts) = once.state.positions := by
        rw [← marked] at found ⊢
        exact OrderedDict.set_of_get? found
      have peaks : markMetadata once.positionMetadata entry.2 feature.referencePrice =
          once.positionMetadata := by
        obtain ⟨key, shape⟩ := sound entry.1 position before
        rw [← key, PositionState.key, shape.side] at before
        rw [← marked]
        exact markMetadata_of_marked sound marks before
      simp only [rewritten, peaks, add_zero]
    · rw [visitCharges_of_marks again, quiet]
      simp
  · obtain ⟨same, uncharged⟩ : markStep features ts (once, 0) entry = (once, 0) ∧
        visitCharges features ts (once, 0) entry = [] := markStep_of_idle (not_exists.mp marks)
    rw [uncharged]
    exact ⟨same, by simp⟩

end Marked

theorem accountState_again (svc : PaperExecutionService) (now : Datetime) :
    (svc.accountState now).accountState now = svc.accountState now := by
  have equity : (svc.accountState now).state.totalEquity = svc.state.totalEquity := rfl
  have raised : (svc.accountState now).sessionHighEquity =
      max svc.state.totalEquity svc.sessionHighEquity := rfl
  rw [accountState, equity, raised, max_eq_right (le_max_left _ _)]
  rfl

/-- The stamp a mark ends with is there already. -/
theorem accountState_markToMarket (svc : PaperExecutionService) (cycleId : String) :
    (svc.markToMarket features cycleId ts).accountState ts = svc.markToMarket features cycleId ts := by
  obtain ⟨clock, metadata, fundingDelta, marked⟩ := markToMarket_eq features ts svc cycleId
  rw [marked]
  exact congrArg (fun svc => svc.recordPnlSnapshot cycleId ts fundingDelta 0 0) (accountState_again _ ts)

/-- A second mark at the same features and time writes its journal line, charges
no position and leaves the rest of the account as it is. -/
theorem marking_twice {svc : PaperExecutionService} (reachable : svc.Reachable)
    (interval : 0 < svc.fundingIntervalHours) (cycleId again : String) :
    let once := svc.markToMarket features cycleId ts
    (∃ journal, once.markToMarket features again ts = { once with journal }) ∧
      ∀ charge ∈ once.markCharges features ts, charge.amount = 0 := by
  intro once
  have settled := markToMarket_settled features ts reachable.positionsSound interval cycleId
  have looped : once.state.positions.entries.foldl (markStep features ts) (once, 0) = (once, 0) :=
    run_fixed (markStep features ts) fun entry member => (settled entry member).1
  refine ⟨?_, ?_⟩
  · have stamped : once.accountState ts = once := accountState_markToMarket features ts svc cycleId
    rw [markToMarket, looped]
    simp only [ne_eq, not_true_eq_false, if_false, stamped]
    exact ⟨_, rfl⟩
  · rw [markCharges, trace_fixed _ _ fun entry member => (settled entry member).1]
    intro charge listed
    obtain ⟨entry, member, emitted⟩ := List.mem_flatMap.mp listed
    exact (settled entry member).2 charge emitted

/-- The long of `heldOverFunding` pays its interval once. -/
theorem marking_twice_held :
    let once := ((init {}).run (heldOverFunding.take 2)).markToMarket fundedQuote "charge" (hours 9)
    once.fundingPnl < 0 ∧ (once.markToMarket fundedQuote "retry" (hours 9)).fundingPnl = once.fundingPnl := by
  intro once
  have reachable : ((init {}).run (heldOverFunding.take 2)).Reachable := ⟨{}, heldOverFunding.take 2, rfl⟩
  obtain ⟨⟨journal, same⟩, -⟩ :=
    marking_twice fundedQuote (hours 9) reachable (by decide +kernel) "charge" "retry"
  exact ⟨by decide +kernel, by rw [same]⟩

end PaperExecutionService

end CatsPy
