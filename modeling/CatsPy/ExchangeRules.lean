import CatsPy.RequestNormalization
import CatsPy.UserStream

/-!
# Exchange rules

The symbol rules as they are read from exchange info and leverage brackets, and
which positive requests stay positive under them.
-/
namespace CatsPy
open PythonValues RoundingGrid StateRuns

namespace PreTradeValidator

section Building

/-- `decimal_or_default(value, default)`. -/
def decimalOrDefault (value : PyValue) (default : String) : Except PyError ℚ :=
  match value with
  | .none | .str "" => toDecimal (.str default)
  | value => toDecimal value

def optionalDecimal (value : PyValue) : Except PyError (Option ℚ) :=
  match value with
  | .none | .str "" => .ok none
  | value => (toDecimal value).map some

/-- A later entry of a symbol replaces an earlier one. -/
def bracketMap (leverageBrackets : PyValue) : Except PyError (OrderedDict String PyValue) := do
  let rawBrackets ← leverageBrackets.get "data" leverageBrackets
  match rawBrackets with
  | .list items => return items.foldl (fun brackets item =>
      match asText (item.item "symbol") with
      | none => brackets
      | some symbol => brackets.set symbol item) .empty
  | _ => return .empty

/-- One entry of the comprehension over `filters`. A filter whose type is not a
text is never looked up; a list or a dict cannot be a key. -/
def addFilter (filters : OrderedDict String PyValue) (f : PyValue) :
    Except PyError (OrderedDict String PyValue) :=
  match f with
  | .dict entries =>
      match entries.lookup "filterType" with
      | none => .error ⟨.keyError, "'filterType'"⟩
      | some (.str filterType) => .ok (filters.set filterType f)
      | some (.list items) => .error ⟨.typeError, "unhashable type: '" ++ typeName (.list items) ++ "'"⟩
      | some (.dict entries) => .error ⟨.typeError, "unhashable type: '" ++ typeName (.dict entries) ++ "'"⟩
      | some _ => .ok filters
  | _ => .ok filters

/-- `bracket_list[0] if bracket_list and isinstance(bracket_list[0], dict) else {}`. -/
def firstBracketOf (bracketList : PyValue) : Except PyError PyValue :=
  match bracketList with
  | .list (first :: _) => .ok (if isDict first then first else .dict [])
  | .dict (_ :: _) => .error ⟨.keyError, "0"⟩
  | .list [] | .dict [] | .str _ => .ok (.dict [])
  | value =>
      if value.truthy then
        .error ⟨.typeError, "'" ++ typeName value ++ "' object is not subscriptable"⟩
      else .ok (.dict [])

/-- The rule of one listed symbol. A filter that is not listed has no entries. -/
def symbolRule (symbol : String) (item bracket : PyValue) : Except PyError SymbolRule := do
  let listed ← item.get "filters" (.list [])
  let listed ← iterate listed
  let filters ← listed.foldlM addFilter .empty
  let bracketList ← bracket.get "brackets" (.list [])
  let firstBracket ← firstBracketOf bracketList
  let minNotionalRaw ← (filters.getD "MIN_NOTIONAL" (.dict [])).get "notional" (.str "0")
  let lotSize := filters.getD "LOT_SIZE" (.dict [])
  let marketLotSize := filters.getD "MARKET_LOT_SIZE" (.dict [])
  let priceFilter := filters.getD "PRICE_FILTER" (.dict [])
  let percentPrice := filters.getD "PERCENT_PRICE" (.dict [])
  let tickSize ← decimalOrDefault (priceFilter.item "tickSize") "0.0001"
  let stepSize ← decimalOrDefault (lotSize.item "stepSize") "0.001"
  let minQty ← decimalOrDefault (lotSize.item "minQty") "0"
  let minNotional ← decimalOrDefault minNotionalRaw "0"
  let marketStep ← marketLotSize.get "stepSize" (lotSize.item "stepSize")
  let marketStepSize ← decimalOrDefault marketStep "0.001"
  let marketMin ← marketLotSize.get "minQty" (lotSize.item "minQty")
  let marketMinQty ← decimalOrDefault marketMin "0"
  let marketMaxQty ← optionalDecimal (marketLotSize.item "maxQty")
  let minPrice ← decimalOrDefault (priceFilter.item "minPrice") "0"
  let maxPrice ← optionalDecimal (priceFilter.item "maxPrice")
  let percentPriceUp ← optionalDecimal (percentPrice.item "multiplierUp")
  let percentPriceDown ← optionalDecimal (percentPrice.item "multiplierDown")
  let marketTakeBound ← optionalDecimal (item.item "marketTakeBound")
  let triggerProtect ← optionalDecimal (item.item "triggerProtect")
  let initialLeverage ← firstBracket.get "initialLeverage" (.float 1)
  let maxInitialLeverage ← toFloat initialLeverage
  let maxNotionalCap ← optionalDecimal (firstBracket.item "notionalCap")
  let status ← item.get "status" (.str "TRADING")
  return { symbol, tickSize, stepSize, minQty, minNotional, marketStepSize := some marketStepSize,
           marketMinQty := some marketMinQty, marketMaxQty, minPrice := some minPrice, maxPrice,
           percentPriceUp, percentPriceDown, marketTakeBound, triggerProtect,
           maxInitialLeverage := some maxInitialLeverage, maxNotionalCap, status := status.toStr }

/-- An item that is not a dict, or whose symbol is not a text, is skipped. -/
def addRule (brackets : OrderedDict String PyValue) (rules : SymbolRules) (item : PyValue) :
    Except PyError SymbolRules :=
  match asText (item.item "symbol") with
  | none => .ok rules
  | some symbol => do
      let rule ← symbolRule symbol item (brackets.getD symbol (.dict []))
      return rules.set symbol rule

def buildSymbolRules (exchangeInfo leverageBrackets : PyValue) : Except PyError SymbolRules := do
  let brackets ← bracketMap leverageBrackets
  let info ← exchangeInfo.get "data" exchangeInfo
  let listed ← info.get "symbols" (.list [])
  let symbols ← iterate listed
  symbols.foldlM (addRule brackets) .empty

end Building

section Positivity

/-- Quantity and prices are positive where present. -/
structure PositiveRequest (request : OrderRequest) : Prop where
  quantity : ∀ q ∈ request.quantity, 0 < q
  price : ∀ p ∈ request.price, 0 < p
  triggerPrice : ∀ p ∈ request.triggerPrice, 0 < p
  activatePrice : ∀ p ∈ request.activatePrice, 0 < p

/-- No field is smaller than the step it is floored by. -/
structure ReachesSteps (rules : SymbolRule) (request : OrderRequest) : Prop where
  quantity : ∀ q ∈ request.quantity, quantityStep rules request ≤ q
  price : ∀ p ∈ request.price, rules.tickSize ≤ p
  triggerPrice : ∀ p ∈ request.triggerPrice, rules.tickSize ≤ p
  activatePrice : ∀ p ∈ request.activatePrice, rules.tickSize ≤ p

theorem floorOptional_pos_iff {value floored : Option ℚ} {step : ℚ} (positive : ∀ v ∈ value, 0 < v)
    (returned : floorOptional value step = .ok floored) :
    (∀ v ∈ floored, 0 < v) ↔ ∀ v ∈ value, step ≤ v := by
  cases value with
  | none =>
      cases returned
      simp
  | some v =>
      obtain ⟨r, rfl, rounded⟩ := floorOptional_some returned
      have stepped := (floorToStep_ok rounded).1
      rw [floorToStep_eq_quantize stepped (positive v rfl).le] at rounded
      cases rounded
      simpa using quantize_floor_pos_iff stepped v

variable {request normalized : OrderRequest} {markPrice : Option ℚ}

theorem Accepts.positive_iff {symbolRules : SymbolRules} {rules : SymbolRule}
    (accepts : Accepts symbolRules request normalized markPrice rules) (positive : PositiveRequest request) :
    PositiveRequest normalized ↔ ReachesSteps rules request := by
  have quantity := floorOptional_pos_iff positive.quantity (normalizeQuantity_floored accepts.quantity)
  have price := floorOptional_pos_iff positive.price (normalizePrice_floored accepts.price)
  have triggerPrice := floorOptional_pos_iff positive.triggerPrice accepts.triggerPrice
  have activatePrice := floorOptional_pos_iff positive.activatePrice accepts.activatePrice
  constructor
  · rintro ⟨quantity_pos, price_pos, trigger_pos, activate_pos⟩
    exact ⟨quantity.mp quantity_pos, price.mp price_pos, triggerPrice.mp trigger_pos,
      activatePrice.mp activate_pos⟩
  · rintro ⟨quantity_step, price_step, trigger_step, activate_step⟩
    exact ⟨quantity.mpr quantity_step, price.mpr price_step, triggerPrice.mpr trigger_step,
      activatePrice.mpr activate_step⟩

/-- What is accepted of a positive request under rules that were read from the
exchange is positive exactly when the request reaches every step it is floored by. -/
theorem accepted_positive_iff {exchangeInfo leverageBrackets : PyValue} (positive : PositiveRequest request)
    (accepted : (do
      let symbolRules ← buildSymbolRules exchangeInfo leverageBrackets
      validate symbolRules request markPrice) = .ok normalized) :
    PositiveRequest normalized ↔ ∃ symbolRules rules,
      buildSymbolRules exchangeInfo leverageBrackets = .ok symbolRules ∧
        symbolRules.get? request.symbol = some rules ∧ ReachesSteps rules request := by
  obtain ⟨symbolRules, built, accepted⟩ := bind_ok accepted
  obtain ⟨rules, accepts⟩ := validate_ok_iff.mp accepted
  rw [accepts.positive_iff positive]
  constructor
  · intro reaches
    exact ⟨symbolRules, rules, built, ruleFor_get? accepts.ruled, reaches⟩
  · rintro ⟨others, other, again, found, reaches⟩
    cases built.symm.trans again
    rwa [ruleFor_eq found accepts.ruled]

end Positivity

section Samples

def listedFilter (filterType : String) (entries : List (String × PyValue)) : PyValue :=
  .dict (("filterType", .str filterType) :: entries)

def listedBtc : PyValue := .dict
  [("symbol", .str "BTCUSDT"), ("status", .str "TRADING"), ("marketTakeBound", .str "0.05"),
    ("filters", .list
      [listedFilter "PRICE_FILTER" [("tickSize", .str "0.10"), ("minPrice", .str "556.80")],
        listedFilter "LOT_SIZE" [("stepSize", .str "0.001"), ("minQty", .str "0.001")],
        listedFilter "MIN_NOTIONAL" [("notional", .str "100")]])]

def listedInfo : PyValue := .dict [("data", .dict [("symbols", .list [listedBtc])])]

def listedBrackets : PyValue := .dict [("data", .list
  [.dict [("symbol", .str "BTCUSDT"), ("brackets", .list
    [.dict [("initialLeverage", .int 125), ("notionalCap", .int 50000)]])]])]

def protectiveStop (triggerPrice : ℚ) : OrderRequest where
  symbol := "BTCUSDT"
  side := .sell
  orderType := .stopMarket
  closePosition := true
  triggerPrice := some triggerPrice

theorem protectiveStop_positive_iff : PositiveRequest (protectiveStop 49990) ↔ ∃ symbolRules rules,
    buildSymbolRules listedInfo listedBrackets = .ok symbolRules ∧
      symbolRules.get? "BTCUSDT" = some rules ∧ ReachesSteps rules (protectiveStop (4999007 / 100)) := by
  have positive : PositiveRequest (protectiveStop (4999007 / 100)) := by
    constructor <;> simp [protectiveStop]
  have accepted : (do
      let symbolRules ← buildSymbolRules listedInfo listedBrackets
      validate symbolRules (protectiveStop (4999007 / 100)) (some 50000)) = .ok (protectiveStop 49990) := by
    decide +kernel
  exact accepted_positive_iff positive accepted

/-- A trigger below the tick is floored to zero, accepted and sent. -/
theorem protectiveStop_sent_at_zero :
    PositiveRequest (protectiveStop (5 / 100)) ∧
      (do
        let symbolRules ← buildSymbolRules listedInfo listedBrackets
        validate symbolRules (protectiveStop (5 / 100))) = .ok (protectiveStop 0) ∧
      ("triggerPrice", PyValue.str (OrderRouter.decimalText 0)) ∈ OrderRouter.toPayload (protectiveStop 0) ∧
      ¬ PositiveRequest (protectiveStop 0) := by
  refine ⟨?_, by decide +kernel, ?_, fun positive => ?_⟩
  · constructor <;> simp [protectiveStop]
  · simp [OrderRouter.toPayload, OrderRouter.optionalField, protectiveStop]
  · exact absurd (positive.triggerPrice 0 rfl) (lt_irrefl 0)

end Samples

end PreTradeValidator

end CatsPy
