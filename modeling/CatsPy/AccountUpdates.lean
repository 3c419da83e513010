import CatsPy.UserStream

/-!
# Account updates

What an account update writes and what stops it. An event applies atomically
exactly when the rows ahead of a fault say nothing new.
-/
namespace CatsPy
open PythonValues StateRuns

namespace BinanceUserEventHandler

section Rows

/-- The time `apply()` stamps the event with. -/
def eventTimeOf (payload : PyValue) (now : Datetime) : Except PyError Datetime := do
  let first ← payload.get "E"
  toDatetime ((first.or (payload.item "eventTime")).or (payload.item "T")) now

def accountOf (payload : PyValue) : PyValue := (eitherItem payload "a" "account").or (.dict [])

/-- A row decodes to a balance, is skipped, or is malformed. -/
def decodeBalance (eventTime : Datetime) (item : PyValue) : Except PyError (Option BalanceState) :=
  if !isDict item then .ok none
  else match asText (eitherItem item "a" "asset") with
    | none => .ok none
    | some asset => (balanceOf item asset eventTime).map some

def decodePosition (eventTime : Datetime) (item : PyValue) : Except PyError (Option PositionState) :=
  if !isDict item then .ok none
  else match asText (eitherItem item "s" "symbol") with
    | none => .ok none
    | some symbol => (positionOf item symbol eventTime).map some

theorem applyBalanceRow_eq (eventTime : Datetime) :
    applyBalanceRow eventTime = decodeInto (decodeBalance eventTime) AccountState.upsertBalance := by
  funext state item
  unfold applyBalanceRow decodeInto decodeBalance
  cases isDict item with
  | false => rfl
  | true =>
      cases asText (eitherItem item "a" "asset") with
      | none => rfl
      | some asset => cases decoded : balanceOf item asset eventTime <;> simp [decoded] <;> rfl

theorem applyPositionRow_eq (eventTime : Datetime) :
    applyPositionRow eventTime = decodeInto (decodePosition eventTime) AccountState.upsertPosition := by
  funext state item
  unfold applyPositionRow decodeInto decodePosition
  cases isDict item with
  | false => rfl
  | true =>
      cases asText (eitherItem item "s" "symbol") with
      | none => rfl
      | some symbol => cases decoded : positionOf item symbol eventTime <;> simp [decoded] <;> rfl

/-- What an account update writes, and what it raises after that. -/
structure AccountRows where
  balances : List BalanceState := []
  positions : List PositionState := []
  fault : Option PyError := none

def readAccount (account : PyValue) (eventTime : Datetime) : AccountRows :=
  match accountRows account "B" "balances" with
  | .error e => { fault := some e }
  | .ok balanceItems =>
      let balances := decodedAhead (decodeBalance eventTime) balanceItems
      match firstFault (decodeBalance eventTime) balanceItems with
      | some e => { balances, fault := some e }
      | none =>
          match accountRows account "P" "positions" with
          | .error e => { balances, fault := some e }
          | .ok positionItems =>
              { balances
                positions := decodedAhead (decodePosition eventTime) positionItems
                fault := firstFault (decodePosition eventTime) positionItems }

def AccountRows.write (rows : AccountRows) (state : AccountState) : AccountState :=
  { state with
    balances := state.balances.upsertAll BalanceState.asset rows.balances
    positions := state.positions.upsertAll PositionState.key rows.positions }

theorem foldl_upsertBalance (state : AccountState) (balances : List BalanceState) :
    balances.foldl AccountState.upsertBalance state =
      { state with balances := state.balances.upsertAll BalanceState.asset balances } := by
  induction balances generalizing state with
  | nil => rfl
  | cons balance rest ih => exact ih (state.upsertBalance balance)

theorem foldl_upsertPosition (state : AccountState) (positions : List PositionState) :
    positions.foldl AccountState.upsertPosition state =
      { state with positions := state.positions.upsertAll PositionState.key positions } := by
  induction positions generalizing state with
  | nil => rfl
  | cons position rest ih => exact ih (state.upsertPosition position)

/-- The two loops write the rows that were read, and then raise the fault. -/
theorem applyAccountUpdate_eq (state : AccountState) (payload : PyValue) (eventTime : Datetime) :
    applyAccountUpdate state payload eventTime =
      match (readAccount (accountOf payload) eventTime).fault with
      | none => .ok ((readAccount (accountOf payload) eventTime).write state)
      | some e => .error ((readAccount (accountOf payload) eventTime).write state, e) := by
  have known : (eitherItem payload "a" "account").or (.dict []) = accountOf payload := rfl
  unfold applyAccountUpdate readAccount
  simp only [known, applyBalanceRow_eq, applyPositionRow_eq, foldlM_decodeInto, foldl_upsertBalance,
    foldl_upsertPosition]
  cases accountRows (accountOf payload) "B" "balances" with
  | error e => rfl
  | ok balanceItems =>
      simp only [raiseFrom, Except.mapError, bind, Except.bind]
      cases firstFault (decodeBalance eventTime) balanceItems with
      | some e => rfl
      | none =>
          cases accountRows (accountOf payload) "P" "positions" with
          | error e => rfl
          | ok positionItems =>
              dsimp only
              cases firstFault (decodePosition eventTime) positionItems <;> rfl

end Rows

section Atomicity

def wellFormedBalances (account : PyValue) (eventTime : Datetime) : List BalanceState :=
  ((accountRows account "B" "balances").toOption.getD []).filterMap fun item =>
    (decodeBalance eventTime item).toOption.join

def wellFormedPositions (account : PyValue) (eventTime : Datetime) : List PositionState :=
  ((accountRows account "P" "positions").toOption.getD []).filterMap fun item =>
    (decodePosition eventTime item).toOption.join

/-- A raised event leaves the three maps alone; an account update that returns
has applied every well-formed row. -/
structure AppliesAtomically (state : AccountState) (payload : PyValue) (now : Datetime) : Prop where
  raised : ∀ after error, apply state payload now = .error (after, error) →
    after.balances = state.balances ∧ after.positions = state.positions ∧ after.orders = state.orders
  returned : ∀ after, apply state payload now = .ok after → eventType payload = "ACCOUNT_UPDATE" →
    ∀ eventTime, eventTimeOf payload now = .ok eventTime →
      after.balances = state.balances.upsertAll BalanceState.asset
          (wellFormedBalances (accountOf payload) eventTime) ∧
        after.positions = state.positions.upsertAll PositionState.key
          (wellFormedPositions (accountOf payload) eventTime)

/-- The last row under each key says what is stored there. -/
structure AccountRows.Restates (rows : AccountRows) (state : AccountState) : Prop where
  balances : ∀ asset, ∀ balance ∈ OrderedDict.lastWith BalanceState.asset rows.balances asset,
    state.balances.get? asset = some balance
  positions : ∀ key, ∀ position ∈ OrderedDict.lastWith PositionState.key rows.positions key,
    state.positions.get? key = some position

theorem AccountRows.write_eq_iff {rows : AccountRows} {state : AccountState} :
    ((rows.write state).balances = state.balances ∧ (rows.write state).positions = state.positions) ↔
      rows.Restates state := by
  simp only [AccountRows.write, OrderedDict.upsertAll_eq_self_iff]
  constructor
  · rintro ⟨balances, positions⟩
    exact ⟨balances, positions⟩
  · rintro ⟨balances, positions⟩
    exact ⟨balances, positions⟩

/-- Without a fault the rows read are all the well-formed ones. -/
theorem readAccount_of_no_fault {account : PyValue} {eventTime : Datetime}
    (whole : (readAccount account eventTime).fault = none) :
    (readAccount account eventTime).balances = wellFormedBalances account eventTime ∧
      (readAccount account eventTime).positions = wellFormedPositions account eventTime := by
  unfold wellFormedBalances wellFormedPositions
  cases balanceRows : accountRows account "B" "balances" with
  | error e => simp [readAccount, balanceRows] at whole
  | ok balanceItems =>
      cases balanceFault : firstFault (decodeBalance eventTime) balanceItems with
      | some e => simp [readAccount, balanceRows, balanceFault] at whole
      | none =>
          cases positionRows : accountRows account "P" "positions" with
          | error e => simp [readAccount, balanceRows, balanceFault, positionRows] at whole
          | ok positionItems =>
              simp only [readAccount, balanceRows, balanceFault, positionRows] at whole ⊢
              exact ⟨decodedAhead_of_no_fault balanceFault, decodedAhead_of_no_fault whole⟩

/-- An order event decodes and finds its id before it writes. -/
theorem applyOrder_raised {decode : PyValue → String → Datetime → Except PyError OrderState}
    {state after : AccountState} {item : PyValue} {eventTime : Datetime} {error : PyError}
    (raised : applyOrder decode state item eventTime = .error (after, error)) : after = state := by
  unfold applyOrder at raised
  split at raised
  · cases raised
  · split at raised
    · cases raised
    · next symbol _ =>
      cases decoded : decode item symbol eventTime with
      | error e =>
          rw [decoded] at raised
          cases raised
          rfl
      | ok order =>
          rw [decoded] at raised
          cases stored : state.upsertOrder order with
          | error e =>
              simp only [raiseFrom, Except.mapError, bind, Except.bind, stored] at raised
              cases raised
              rfl
          | ok next =>
              simp only [raiseFrom, Except.mapError, bind, Except.bind, stored] at raised
              cases raised

variable {state : AccountState} {payload : PyValue} {now eventTime : Datetime}

theorem apply_of_time (timed : eventTimeOf payload now = .ok eventTime) :
    apply state payload now =
      if eventType payload = "ACCOUNT_UPDATE" then
        applyAccountUpdate (state.recordUserStreamEvent eventTime) payload eventTime
      else if eventType payload = "ORDER_TRADE_UPDATE" then
        applyOrderTradeUpdate (state.recordUserStreamEvent eventTime) payload eventTime
      else if eventType payload = "ALGO_UPDATE" then
        applyAlgoUpdate (state.recordUserStreamEvent eventTime) payload eventTime
      else .ok (state.recordUserStreamEvent eventTime) := by
  obtain ⟨first, sent, dated⟩ := bind_ok timed
  simp only [apply, sent, dated, raiseFrom, Except.mapError, bind, Except.bind]
  rfl

theorem apply_of_timeless {error : PyError} (timeless : eventTimeOf payload now = .error error) :
    apply state payload now = .error (state, error) := by
  unfold apply
  unfold eventTimeOf at timeless
  cases sent : payload.get "E" with
  | error e =>
      rw [sent] at timeless
      cases timeless
      rfl
  | ok first =>
      rw [sent] at timeless
      simp only [bind, Except.bind] at timeless
      simp only [raiseFrom, Except.mapError, bind, Except.bind, timeless]

/-- Any other event that raises leaves the maps alone. -/
theorem apply_raised_of_other {after : AccountState} {error : PyError}
    (other : eventType payload ≠ "ACCOUNT_UPDATE") (timed : eventTimeOf payload now = .ok eventTime)
    (raised : apply state payload now = .error (after, error)) :
    after.balances = state.balances ∧ after.positions = state.positions ∧ after.orders = state.orders := by
  rw [apply_of_time timed, if_neg other] at raised
  split at raised
  · cases applyOrder_raised raised
    exact ⟨rfl, rfl, rfl⟩
  · split at raised
    · cases applyOrder_raised raised
      exact ⟨rfl, rfl, rfl⟩
    · cases raised

theorem account_update_atomic_iff (account : eventType payload = "ACCOUNT_UPDATE")
    (timed : eventTimeOf payload now = .ok eventTime) :
    AppliesAtomically state payload now ↔
      ((readAccount (accountOf payload) eventTime).fault ≠ none →
        (readAccount (accountOf payload) eventTime).Restates state) := by
  have applied : apply state payload now = _ := apply_of_time timed
  rw [if_pos account, applyAccountUpdate_eq] at applied
  rw [← AccountRows.write_eq_iff]
  cases stopped : (readAccount (accountOf payload) eventTime).fault with
  | none =>
      rw [stopped] at applied
      refine iff_of_true ⟨fun after error raised => ?_, fun after returned _ t dated => ?_⟩ (absurd rfl)
      · cases applied.symm.trans raised
      · cases timed.symm.trans dated
        cases applied.symm.trans returned
        obtain ⟨balances, positions⟩ := readAccount_of_no_fault stopped
        rw [← balances, ← positions]
        exact ⟨rfl, rfl⟩
  | some e =>
      rw [stopped] at applied
      constructor
      · intro atomic _
        obtain ⟨balances, positions, -⟩ := atomic.raised _ _ applied
        exact ⟨balances, positions⟩
      · intro restates
        obtain ⟨balances, positions⟩ := restates nofun
        refine ⟨fun after error raised => ?_, fun after returned => ?_⟩
        · cases applied.symm.trans raised
          exact ⟨balances, positions, rfl⟩
        · cases applied.symm.trans returned

/-- An event applies atomically unless it is an account update that stops at a
fault after rows that change something. -/
theorem applies_atomically_iff (state : AccountState) (payload : PyValue) (now : Datetime) :
    AppliesAtomically state payload now ↔
      (eventType payload = "ACCOUNT_UPDATE" → ∀ eventTime, eventTimeOf payload now = .ok eventTime →
        (readAccount (accountOf payload) eventTime).fault ≠ none →
          (readAccount (accountOf payload) eventTime).Restates state) := by
  cases timed : eventTimeOf payload now with
  | error error =>
      have applied : apply state payload now = _ := apply_of_timeless timed
      refine iff_of_true ⟨fun after e raised => ?_, fun after returned => ?_⟩ nofun
      · cases applied.symm.trans raised
        exact ⟨rfl, rfl, rfl⟩
      · cases applied.symm.trans returned
  | ok eventTime =>
      by_cases account : eventType payload = "ACCOUNT_UPDATE"
      · rw [account_update_atomic_iff account timed]
        constructor
        · intro restates _ t dated
          cases dated
          exact restates
        · intro restates
          exact restates account eventTime rfl
      · refine iff_of_true ⟨fun after e raised => ?_, fun after _ kind => absurd kind account⟩
          fun kind => absurd kind account
        exact apply_raised_of_other account timed raised

/-- The second row of the update has a wallet balance that is no number. -/
def halfMalformedUpdate : PyValue := .dict
  [("e", .str "ACCOUNT_UPDATE"), ("E", .int 1700000000000),
    ("a", .dict [("B", .list
      [.dict [("a", .str "USDT"), ("wb", .str "1000"), ("cw", .str "1000")],
        .dict [("a", .str "BNB"), ("wb", .str "n/a"), ("cw", .str "1")]])])]

/-- The first row stays applied although the event raised. -/
theorem half_malformed_update_applied : (apply {} halfMalformedUpdate 0).isOk = false ∧
    ((final (apply {} halfMalformedUpdate 0)).balances.get? "USDT").map BalanceState.walletBalance =
      some 1000 ∧ ¬ AppliesAtomically {} halfMalformedUpdate 0 := by
  have raised : (apply {} halfMalformedUpdate 0).isOk = false := by decide +kernel
  have kept : ((final (apply {} halfMalformedUpdate 0)).balances.get? "USDT").map
      BalanceState.walletBalance = some 1000 := by decide +kernel
  refine ⟨raised, kept, fun atomic => ?_⟩
  cases outcome : apply {} halfMalformedUpdate 0 with
  | ok after => simp [outcome, Except.isOk, Except.toBool] at raised
  | error failure =>
      obtain ⟨after, error⟩ := failure
      rw [outcome, final_error, (atomic.raised after error outcome).1] at kept
      cases kept

end Atomicity

end BinanceUserEventHandler

end CatsPy
