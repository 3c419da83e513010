import CatsPy.CycleFrames
import CatsPy.EntryPrices
import CatsPy.EquityDepletion
import CatsPy.JournalStreams

/-!
# Replaying the paper logs

The paper account appends every fill to one stream and a snapshot of its profit
to another. A reader who books the logged fills by average cost and adds up the
logged funding has the account's own ledger, after any run of cycles and
whatever raised in them; and what the entries tell beside the fills is what the
entries before them imply.
-/
namespace CatsPy
open PythonValues RoundingGrid StateRuns
open AverageCost (Fill Holding applyFill)

namespace PaperExecutionService

section Readers

/-- The number an entry holds under a field. -/
def amount (entry : PyValue) (field : String) : ℚ :=
  match entry.item field with
  | .float q => q
  | _ => 0

def loggedSymbol (entry : PyValue) : String := (asText (entry.item "symbol")).getD ""

def loggedFill (entry : PyValue) : Fill ℚ where
  quantity :=
    if asText (entry.item "side") = some Side.buy.value then amount entry "fill_quantity"
    else -amount entry "fill_quantity"
  price := amount entry "fill_price"

/-- What fills move. -/
@[ext] structure FillLedger where
  holdings : String → Holding ℚ
  realizedPnl : ℚ
  feesPaid : ℚ
  turnoverNotional : ℚ

/-- What the snapshots account for. -/
@[ext] structure PnlLedger where
  fundingPnl : ℚ
  feesPaid : ℚ
  turnoverNotional : ℚ

def FillLedger.empty : FillLedger := ⟨fun _ => ⟨0, 0⟩, 0, 0, 0⟩

def PnlLedger.empty : PnlLedger := ⟨0, 0, 0⟩

/-- Book the fill of an entry, from its symbol, side, price and size alone. -/
def FillLedger.book (takerFeeBps : ℚ) (ledger : FillLedger) (entry : PyValue) : FillLedger :=
  let fill := loggedFill entry
  let booked := applyFill quantizeHalfUp (ledger.holdings (loggedSymbol entry)) fill.quantity fill.price
  let turnoverDelta := |fill.quantity * fill.price|
  { holdings := Function.update ledger.holdings (loggedSymbol entry) booked.1
    realizedPnl := ledger.realizedPnl + booked.2
    feesPaid := ledger.feesPaid + quantizeHalfUp (turnoverDelta * takerFeeBps / 10000)
    turnoverNotional := ledger.turnoverNotional + turnoverDelta }

/-- Add the changes a snapshot reports. -/
def PnlLedger.collect (ledger : PnlLedger) (entry : PyValue) : PnlLedger where
  fundingPnl := ledger.fundingPnl + amount entry "funding_pnl_delta"
  feesPaid := ledger.feesPaid + amount entry "fee_paid_delta"
  turnoverNotional := ledger.turnoverNotional + amount entry "turnover_notional_delta"

/-- What a fill entry tells of its effect is what booking its fill does. -/
structure FillTells (takerFeeBps : ℚ) (ledger : FillLedger) (entry : PyValue) : Prop where
  resulting : amount entry "resulting_quantity" =
    ((ledger.book takerFeeBps entry).holdings (loggedSymbol entry)).quantity
  realized : amount entry "realized_pnl_delta" =
    (ledger.book takerFeeBps entry).realizedPnl - ledger.realizedPnl
  fee : amount entry "fee_paid_delta" = (ledger.book takerFeeBps entry).feesPaid - ledger.feesPaid
  turnover : amount entry "turnover_notional_delta" =
    (ledger.book takerFeeBps entry).turnoverNotional - ledger.turnoverNotional

/-- The totals of a snapshot are the running sums of the changes, and its
wallet and equity follow from them. -/
structure PnlTells (startingBalance : ℚ) (ledger : PnlLedger) (entry : PyValue) : Prop where
  totals : ledger.collect entry =
    ⟨amount entry "funding_pnl", amount entry "fees_paid", amount entry "turnover_notional"⟩
  wallet : amount entry "wallet_balance" = quantizeHalfUp (startingBalance +
    amount entry "realized_pnl" + amount entry "funding_pnl" - amount entry "fees_paid")
  equity : amount entry "equity" = amount entry "wallet_balance" + amount entry "unrealized_pnl"

end Readers

section Logging

def fillLog (svc : PaperExecutionService) : List PyValue := svc.journal.readStream "paper_fill_log"

def pnlLog (svc : PaperExecutionService) : List PyValue := svc.journal.readStream "paper_pnl_log"

def fillLedger (svc : PaperExecutionService) : FillLedger where
  holdings := svc.holdingOf
  realizedPnl := svc.realizedPnl
  feesPaid := svc.feesPaid
  turnoverNotional := svc.turnoverNotional

def pnlLedger (svc : PaperExecutionService) : PnlLedger where
  fundingPnl := svc.fundingPnl
  feesPaid := svc.feesPaid
  turnoverNotional := svc.turnoverNotional

/-- The entry shows the account as it is. -/
def Shows (svc : PaperExecutionService) (entry : PyValue) : Prop :=
  ∃ cycleId ts funding fee turnover, entry = svc.pnlRecord cycleId ts funding fee turnover

/-- The entries with which one account became another: they are all its logs
gained, replaying them moves the one ledger to the other, each is true of the
ledger before it, and the last snapshot shows the account as it was left. -/
structure Logged (before after : PaperExecutionService) (fills pnl : List PyValue) : Prop where
  fillLog : after.fillLog = before.fillLog ++ fills
  pnlLog : after.pnlLog = before.pnlLog ++ pnl
  replayed : after.fillLedger = StateRuns.run (FillLedger.book before.takerFeeBps) before.fillLedger fills
  fillsTell : Along (FillLedger.book before.takerFeeBps) (FillTells before.takerFeeBps) before.fillLedger fills
  collected : after.pnlLedger = StateRuns.run PnlLedger.collect before.pnlLedger pnl
  pnlTells : Along PnlLedger.collect (PnlTells before.initialBalance) before.pnlLedger pnl
  shown : ∀ entry, (before.Shows entry ∧ pnl = []) ∨ pnl.getLast? = some entry → after.Shows entry
  takerFeeBps : after.takerFeeBps = before.takerFeeBps
  initialBalance : after.initialBalance = before.initialBalance

variable {svc before between after : PaperExecutionService}

theorem Logged.trans {fills pnl fills' pnl' : List PyValue} (first : Logged before between fills pnl)
    (second : Logged between after fills' pnl') : Logged before after (fills ++ fills') (pnl ++ pnl') where
  fillLog := by rw [second.fillLog, first.fillLog, List.append_assoc]
  pnlLog := by rw [second.pnlLog, first.pnlLog, List.append_assoc]
  replayed := by rw [second.replayed, first.replayed, first.takerFeeBps, run_append]
  fillsTell := by
    have later := second.fillsTell
    rw [first.replayed, first.takerFeeBps] at later
    exact (along_append_iff _).mpr ⟨first.fillsTell, later⟩
  collected := by rw [second.collected, first.collected, run_append]
  pnlTells := by
    have later := second.pnlTells
    rw [first.collected, first.initialBalance] at later
    exact (along_append_iff _).mpr ⟨first.pnlTells, later⟩
  shown := by
    rintro entry (⟨shows, nothing⟩ | last)
    · obtain ⟨none_first, none_second⟩ := List.append_eq_nil_iff.mp nothing
      exact second.shown entry (.inl ⟨first.shown entry (.inl ⟨shows, none_first⟩), none_second⟩)
    · by_cases quiet : pnl' = []
      · rw [quiet, List.append_nil] at last
        exact second.shown entry (.inl ⟨first.shown entry (.inr last), quiet⟩)
      · rw [List.getLast?_append_of_ne_nil _ quiet] at last
        exact second.shown entry (.inr last)
  takerFeeBps := second.takerFeeBps.trans first.takerFeeBps
  initialBalance := second.initialBalance.trans first.initialBalance

/-- Nothing of the ledger moved, and neither did its logs. -/
theorem logged_quiet (fills : after.fillLog = before.fillLog) (pnl : after.pnlLog = before.pnlLog)
    (fillLedger : after.fillLedger = before.fillLedger) (pnlLedger : after.pnlLedger = before.pnlLedger)
    (shows : ∀ entry, before.Shows entry → after.Shows entry) (fee : after.takerFeeBps = before.takerFeeBps)
    (initial : after.initialBalance = before.initialBalance) : Logged before after [] [] where
  fillLog := by rw [fills, List.append_nil]
  pnlLog := by rw [pnl, List.append_nil]
  replayed := fillLedger
  fillsTell := trivial
  collected := pnlLedger
  pnlTells := trivial
  shown := by
    rintro entry (⟨shown, -⟩ | last)
    · exact shows entry shown
    · cases last
  takerFeeBps := fee
  initialBalance := initial

theorem logged_refl (svc : PaperExecutionService) : Logged svc svc [] [] :=
  logged_quiet rfl rfl rfl rfl (fun _ => id) rfl rfl

theorem accountState_logged (svc : PaperExecutionService) (now : Datetime) :
    Logged svc (svc.accountState now) [] [] :=
  logged_quiet rfl rfl rfl rfl (fun _ => id) rfl rfl

theorem record_logged (svc : PaperExecutionService) {stream : String}
    (foreign : stream ∉ DecisionRuntimeService.ledgerStreams)
    (payload : PyValue) : Logged svc { svc with journal := svc.journal.record stream payload } [] [] := by
  have others : "paper_fill_log" ≠ stream ∧ "paper_pnl_log" ≠ stream := by
    simpa [DecisionRuntimeService.ledgerStreams, eq_comm] using foreign
  have fills : (svc.journal.record stream payload).readStream "paper_fill_log" = svc.fillLog := by
    rw [readStream_record, if_neg others.1, fillLog]
  have pnl : (svc.journal.record stream payload).readStream "paper_pnl_log" = svc.pnlLog := by
    rw [readStream_record, if_neg others.2, pnlLog]
  exact logged_quiet fills pnl rfl rfl (fun _ => id) rfl rfl

/-- The wallet is the rounded ledger, and no other balance adds to the equity. -/
structure LedgerSound (svc : PaperExecutionService) : Prop where
  positions : svc.PositionsSound
  wallet : svc.WalletSynced
  keys : svc.state.balances.keys = [usdt]

theorem init_fillLedger (config : PaperConfig) : (init config).fillLedger = .empty := by
  have nothing (symbol : String) : (init config).holdingOf symbol = ⟨0, 0⟩ :=
    holdingOf_of_missing (by simp [init, AccountState.upsertBalance])
  exact FillLedger.ext (funext nothing) rfl rfl rfl

theorem init_ledgerSound (config : PaperConfig) (grid : OnGrid decimalPlaces config.startingBalance) :
    (init config).LedgerSound where
  positions := init_positionsSound config
  wallet := init_walletSynced config grid
  keys := rfl

/-- A snapshot of what the account booked since. -/
theorem recordPnlSnapshot_logged {moved : PaperExecutionService} {fills : List PyValue} {cycleId : String}
    {ts : Datetime} {fundingDelta feeDelta turnoverDelta : ℚ}
    (filled : moved.fillLog = before.fillLog ++ fills) (quiet : moved.pnlLog = before.pnlLog)
    (replayed : moved.fillLedger = StateRuns.run (FillLedger.book before.takerFeeBps) before.fillLedger fills)
    (fillsTell : Along (FillLedger.book before.takerFeeBps) (FillTells before.takerFeeBps) before.fillLedger
      fills)
    (collected : moved.pnlLedger = ⟨before.fundingPnl + fundingDelta, before.feesPaid + feeDelta,
      before.turnoverNotional + turnoverDelta⟩)
    (sound : moved.LedgerSound) (fee : moved.takerFeeBps = before.takerFeeBps)
    (initial : moved.initialBalance = before.initialBalance) :
    Logged before (moved.recordPnlSnapshot cycleId ts fundingDelta feeDelta turnoverDelta) fills
      [moved.pnlRecord cycleId ts fundingDelta feeDelta turnoverDelta] where
  fillLog := by
    rw [← filled]
    exact readStream_record _ _ _ _
  pnlLog := by
    rw [← quiet]
    exact readStream_record _ _ _ _
  replayed := replayed
  fillsTell := fillsTell
  collected := collected
  pnlTells := by
    refine ⟨⟨collected.symm, ?_, ?_⟩, trivial⟩
    · have synced := sound.wallet.wallet
      rw [syncedWallet, initial] at synced
      exact synced
    · have equity : moved.state.totalEquity = moved.usdtBalance.walletBalance + moved.state.totalUnrealizedPnl := by
        rw [AccountState.totalEquity, totalWalletBalance_eq sound.keys]
      exact equity
  shown := by
    rintro entry (⟨-, nothing⟩ | last)
    · cases nothing
    · cases last
      exact ⟨cycleId, ts, fundingDelta, feeDelta, turnoverDelta, rfl⟩
  takerFeeBps := fee
  initialBalance := initial

end Logging

section Steps

variable {svc : PaperExecutionService} (cycleId : String) (ts : Datetime)

theorem syncBalance_ledgerSound (svc : PaperExecutionService) (positions : svc.PositionsSound)
    (keys : svc.state.balances.keys = [usdt]) :
    svc.syncBalance.LedgerSound where
  positions := by rwa [PositionsSound, syncBalance_positions]
  wallet := syncBalance_walletSynced svc
  keys := syncBalance_keys keys

theorem accountState_ledgerSound (sound : svc.LedgerSound) (now : Datetime) : (svc.accountState now).LedgerSound where
  positions := sound.positions
  wallet := ⟨sound.wallet.wallet, sound.wallet.available, sound.wallet.crossWallet⟩
  keys := sound.keys

theorem journal_ledgerSound (sound : svc.LedgerSound) (journal : JsonlStorage) :
    { svc with journal }.LedgerSound where
  positions := sound.positions
  wallet := ⟨sound.wallet.wallet, sound.wallet.available, sound.wallet.crossWallet⟩
  keys := sound.keys

/-- Marking writes one snapshot, of an account that moved its funding alone. -/
theorem markToMarket_booked (sound : svc.LedgerSound) (features : OrderedDict String FeatureVector) :
    ∃ state clock metadata fundingDelta,
      let moved := { svc with
        state
        lastFundingAppliedAt := clock
        positionMetadata := metadata
        fundingPnl := svc.fundingPnl + fundingDelta }
      svc.markToMarket features cycleId ts =
        (moved.accountState ts).recordPnlSnapshot cycleId ts fundingDelta 0 0 ∧ moved.LedgerSound := by
  have positions := step_positionsSound svc (.markToMarket features cycleId ts) sound.positions
  rw [step, PositionsSound, markToMarket_positions] at positions
  obtain ⟨clock, metadata, fundingDelta, marked⟩ := markToMarket_eq features ts svc cycleId
  rw [marked]
  by_cases unfunded : fundingDelta = 0
  · subst unfunded
    refine ⟨{ svc.state with positions := svc.state.positions.mapValues (markedUnder features ts) }, clock,
      metadata, 0, by rw [if_neg (not_not.mpr rfl)], positions, ?_, sound.keys⟩
    simp only [add_zero]
    exact ⟨sound.wallet.wallet, sound.wallet.available, sound.wallet.crossWallet⟩
  · refine ⟨_, clock, metadata, fundingDelta, by rw [if_pos unfunded, syncBalance], ?_⟩
    exact syncBalance_ledgerSound { svc with
      state := { svc.state with positions := svc.state.positions.mapValues (markedUnder features ts) }
      lastFundingAppliedAt := clock
      positionMetadata := metadata
      fundingPnl := svc.fundingPnl + fundingDelta } positions sound.keys

theorem markToMarket_logged (sound : svc.LedgerSound) (features : OrderedDict String FeatureVector) :
    (svc.markToMarket features cycleId ts).LedgerSound ∧
      ∃ pnl, Logged svc (svc.markToMarket features cycleId ts) [] pnl := by
  have holdings := funext (holdingOf_markToMarket svc features cycleId ts)
  obtain ⟨state, clock, metadata, fundingDelta, booked, moved⟩ := markToMarket_booked cycleId ts sound features
  rw [booked] at holdings ⊢
  have stamped := accountState_ledgerSound moved ts
  refine ⟨journal_ledgerSound stamped _, _,
    recordPnlSnapshot_logged (List.append_nil _).symm rfl ?_ trivial ?_ stamped rfl rfl⟩
  · exact FillLedger.ext holdings rfl rfl rfl
  · exact PnlLedger.ext rfl (add_zero _).symm (add_zero _).symm

variable (decision : TradeDecision) (side : Side) (risk : RiskDecision) (fillPrice : ℚ)

/-- The fee and the turnover of a fill. -/
def fillTurnover : ℚ := |quantizeHalfEven (risk.approvedNotional / fillPrice) * fillPrice|

def fillFee (takerFeeBps : ℚ) : ℚ := quantizeHalfUp (fillTurnover risk fillPrice * takerFeeBps / 10000)

/-- The entry of a fill. -/
def fillEntry (svc : PaperExecutionService) : PyValue :=
  fillRecord decision side risk cycleId ts (svc.bookFill decision side risk fillPrice cycleId ts).2
    (fillTurnover risk fillPrice) (fillFee risk fillPrice svc.takerFeeBps)

/-- The account a fill leaves, before the snapshot. -/
def filledAccount (svc : PaperExecutionService) : PaperExecutionService :=
  let after := (svc.bookFill decision side risk fillPrice cycleId ts).1
  { after with
    journal := svc.journal.record "paper_fill_log" (svc.fillEntry cycleId ts decision side risk fillPrice) }

theorem bookFill_eq (svc : PaperExecutionService) :
    (svc.bookFill decision side risk fillPrice cycleId ts).1 =
      (svc.filledAccount cycleId ts decision side risk fillPrice).recordPnlSnapshot cycleId ts 0
        (fillFee risk fillPrice svc.takerFeeBps) (fillTurnover risk fillPrice) := rfl

theorem fillEntry_symbol (svc : PaperExecutionService) :
    loggedSymbol (svc.fillEntry cycleId ts decision side risk fillPrice) = decision.symbol := rfl

theorem fillEntry_fill (svc : PaperExecutionService) :
    loggedFill (svc.fillEntry cycleId ts decision side risk fillPrice) =
      ⟨signedQuantity side risk fillPrice, fillPrice⟩ := by
  cases side with
  | buy => rfl
  | sell => rfl

theorem signed_turnover : |signedQuantity side risk fillPrice * fillPrice| = fillTurnover risk fillPrice := by
  rw [signedQuantity, fillTurnover]
  split
  · rfl
  · rw [neg_mul, abs_neg]

/-- The ledger after booking the entry of a fill. -/
theorem book_fillEntry (svc : PaperExecutionService) :
    svc.fillLedger.book svc.takerFeeBps (svc.fillEntry cycleId ts decision side risk fillPrice) =
      { holdings := Function.update svc.holdingOf decision.symbol
          (applyFill quantizeHalfUp (svc.holdingOf decision.symbol) (signedQuantity side risk fillPrice)
            fillPrice).1
        realizedPnl := svc.realizedPnl + (applyFill quantizeHalfUp (svc.holdingOf decision.symbol)
          (signedQuantity side risk fillPrice) fillPrice).2
        feesPaid := svc.feesPaid + fillFee risk fillPrice svc.takerFeeBps
        turnoverNotional := svc.turnoverNotional + fillTurnover risk fillPrice } := by
  simp only [FillLedger.book, fillEntry_symbol, fillEntry_fill, signed_turnover]
  rfl

theorem filledAccount_realized (svc : PaperExecutionService) :
    (svc.filledAccount cycleId ts decision side risk fillPrice).realizedPnl =
      svc.realizedPnl + (applyFill quantizeHalfUp (svc.holdingOf decision.symbol)
        (signedQuantity side risk fillPrice) fillPrice).2 := by
  have realized : (svc.filledAccount cycleId ts decision side risk fillPrice).realizedPnl =
      svc.realizedPnl + (settle (svc.positionFor decision.symbol ts).quantity
        (svc.positionFor decision.symbol ts).entryPrice (signedQuantity side risk fillPrice) fillPrice).2 := rfl
  rw [realized, settle_eq_applyFill, holdingOf_eq svc decision.symbol ts]

variable {cycleId ts decision side risk fillPrice}

theorem filledAccount_ledger (sound : svc.LedgerSound) :
    (svc.filledAccount cycleId ts decision side risk fillPrice).fillLedger =
      svc.fillLedger.book svc.takerFeeBps (svc.fillEntry cycleId ts decision side risk fillPrice) := by
  rw [book_fillEntry]
  apply FillLedger.ext
  · funext symbol
    have booked := holdingOf_bookFill sound.positions decision side risk fillPrice cycleId ts symbol
    dsimp only
    by_cases own : symbol = decision.symbol
    · subst own
      rw [if_pos rfl] at booked
      rw [Function.update_self]
      exact booked
    · rw [if_neg (Ne.symm own)] at booked
      rw [Function.update_of_ne own]
      exact booked
  · exact filledAccount_realized cycleId ts decision side risk fillPrice svc
  · rfl
  · rfl

/-- The entry of a fill is true of the ledger before it. -/
theorem fillEntry_tells (svc : PaperExecutionService) :
    FillTells svc.takerFeeBps svc.fillLedger (svc.fillEntry cycleId ts decision side risk fillPrice) := by
  have quantity : (svc.bookFill decision side risk fillPrice cycleId ts).2.resultingQuantity =
      (svc.positionFor decision.symbol ts).quantity + signedQuantity side risk fillPrice := rfl
  have realized : (svc.bookFill decision side risk fillPrice cycleId ts).2.realizedPnlDelta =
      (settle (svc.positionFor decision.symbol ts).quantity
        (svc.positionFor decision.symbol ts).entryPrice (signedQuantity side risk fillPrice) fillPrice).2 := rfl
  constructor
  · simp only [book_fillEntry, fillEntry_symbol, Function.update_self, AverageCost.applyFill_quantity]
    rw [holdingOf_eq svc decision.symbol ts]
    exact quantity
  · rw [book_fillEntry, holdingOf_eq svc decision.symbol ts]
    refine Eq.trans ?_ (add_sub_cancel_left _ _).symm
    rw [settle_eq_applyFill] at realized
    exact realized
  · rw [book_fillEntry]
    exact (add_sub_cancel_left _ _).symm
  · rw [book_fillEntry]
    exact (add_sub_cancel_left _ _).symm

/-- The wallet is written back on every fill. -/
theorem filledAccount_ledgerSound (sound : svc.LedgerSound)
    (positions : (svc.bookFill decision side risk fillPrice cycleId ts).1.PositionsSound) :
    (svc.filledAccount cycleId ts decision side risk fillPrice).LedgerSound := by
  refine ⟨positions, ?_, ?_⟩
  · simp only [filledAccount, bookFill]
    exact ⟨(syncBalance_walletSynced _).wallet, (syncBalance_walletSynced _).available,
      (syncBalance_walletSynced _).crossWallet⟩
  · simp only [filledAccount, bookFill]
    exact syncBalance_keys sound.keys

theorem bookFill_logged (sound : svc.LedgerSound)
    (positions : (svc.bookFill decision side risk fillPrice cycleId ts).1.PositionsSound) :
    (svc.bookFill decision side risk fillPrice cycleId ts).1.LedgerSound ∧
      ∃ fills pnl, Logged svc (svc.bookFill decision side risk fillPrice cycleId ts).1 fills pnl := by
  have filled := filledAccount_ledgerSound sound positions
  rw [bookFill_eq]
  refine ⟨journal_ledgerSound filled _, [svc.fillEntry cycleId ts decision side risk fillPrice], _,
    recordPnlSnapshot_logged ?_ ?_ (filledAccount_ledger sound) ⟨fillEntry_tells svc, trivial⟩ ?_ filled rfl
      rfl⟩
  · exact readStream_record _ _ _ _
  · exact readStream_record _ _ _ _
  · exact PnlLedger.ext (add_zero _).symm rfl rfl

end Steps

/-- Every operation accounts for what it does to the ledger. -/
theorem step_logged (svc : PaperExecutionService) (op : PaperOp) (sound : svc.LedgerSound) :
    (svc.step op).LedgerSound ∧ ∃ fills pnl, Logged svc (svc.step op) fills pnl := by
  cases op with
  | accountState now => exact ⟨accountState_ledgerSound sound now, [], [], accountState_logged svc now⟩
  | markToMarket features cycleId ts =>
      obtain ⟨marked, pnl, logged⟩ := markToMarket_logged cycleId ts sound features
      exact ⟨marked, [], pnl, logged⟩
  | applyDecision decision feature cycleId ts =>
      have positions := step_positionsSound svc (.applyDecision decision feature cycleId ts) sound.positions
      rcases step_applyDecision_cases svc decision cycleId ts feature with
        same | ⟨side, risk, -, -, -, -, filled⟩
      · rw [same]
        exact ⟨sound, [], [], logged_refl svc⟩
      · rw [filled] at positions ⊢
        exact bookFill_logged sound positions

/-- What the account keeps of where it started: everything since is in its logs. -/
structure Accounted (start svc : PaperExecutionService) : Prop where
  sound : svc.LedgerSound
  logged : ∃ fills pnl, Logged start svc fills pnl

end PaperExecutionService

namespace DecisionRuntimeService

section Cycles
open PaperExecutionService

theorem accounted_closed (start : PaperExecutionService) : LedgerClosed (Accounted start) where
  record := by
    rintro svc stream payload foreign ⟨sound, fills, pnl, logged⟩
    exact ⟨journal_ledgerSound sound _, fills ++ [], pnl ++ [], logged.trans (record_logged svc foreign payload)⟩
  step := by
    rintro svc op ⟨sound, fills, pnl, logged⟩
    obtain ⟨kept, fills', pnl', more⟩ := step_logged svc op sound
    exact ⟨kept, fills ++ fills', pnl ++ pnl', logged.trans more⟩

theorem runCycles_accounted (service : DecisionRuntimeService) {start : PaperExecutionService}
    (sound : start.LedgerSound) {state : RuntimeState} (present : state.paper = some start)
    (inputs : List CycleInput) : AccountKept (Accounted start) (service.runCycles state inputs) :=
  run_invariant service.cycleStep (AccountKept (Accounted start))
    (fun _ input kept => (accounted_closed start).cycleStep service input kept) state inputs
    ⟨start, present, sound, [], [], logged_refl start⟩

/-- After any run of cycles, whatever raised in them, the entries the two paper
logs gained replay to the account's ledger: to the holding of every symbol, the
realized profit, the fees, the turnover and the funding, and to its wallet. Each
entry is true of the ledger before it, and the last snapshot shows the account. -/
theorem logs_replay (service : DecisionRuntimeService) (config : PaperConfig)
    (grid : OnGrid decimalPlaces config.startingBalance) {state : RuntimeState}
    (present : state.paper = some (init config)) (inputs : List CycleInput) :
    ∃ svc fills pnl, (service.runCycles state inputs).paper = some svc ∧
      Logged (init config) svc fills pnl ∧
      svc.fillLedger = run (FillLedger.book config.takerFeeBps) .empty fills ∧
      svc.pnlLedger = run PnlLedger.collect .empty pnl ∧
      svc.usdtBalance.walletBalance = quantizeHalfUp (config.startingBalance +
        (run (FillLedger.book config.takerFeeBps) .empty fills).realizedPnl +
        (run PnlLedger.collect .empty pnl).fundingPnl - (run PnlLedger.collect .empty pnl).feesPaid) := by
  obtain ⟨svc, paper, sound, fills, pnl, logged⟩ :=
    runCycles_accounted service (init_ledgerSound config grid) present inputs
  have booked : svc.fillLedger = run (FillLedger.book config.takerFeeBps) .empty fills := by
    rw [← init_fillLedger config]
    exact logged.replayed
  have collected : svc.pnlLedger = run PnlLedger.collect .empty pnl := logged.collected
  refine ⟨svc, fills, pnl, paper, logged, booked, collected, ?_⟩
  rw [← booked, ← collected, sound.wallet.wallet, syncedWallet, logged.initialBalance]
  rfl

/-- Bought, then closed at a loss: two fills and what they left. -/
theorem logs_replay_stopped : ∃ svc fills pnl,
    (paperService.runCycles openedPaper [trendingInput, fallenInput]).paper = some svc ∧ fills.length = 2 ∧
      svc.fillLedger = run (FillLedger.book 4) .empty fills ∧ svc.pnlLedger = run PnlLedger.collect .empty pnl := by
  have present : openedPaper.paper = some (init {}) := rfl
  obtain ⟨svc, fills, pnl, paper, logged, booked, collected, -⟩ := logs_replay paperService {}
    ⟨1000000000000, by norm_num [decimalPlaces]⟩ present [trendingInput, fallenInput]
  have counted : (paperService.runCycles openedPaper [trendingInput, fallenInput]).paper.map
      (fun svc => svc.fillLog.length) = some 2 := by
    decide +kernel
  rw [paper, Option.map_some, logged.fillLog] at counted
  exact ⟨svc, fills, pnl, paper, Option.some.inj counted, booked, collected⟩

end Cycles

end DecisionRuntimeService

end CatsPy
