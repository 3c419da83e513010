import CatsPy.DomainModels

/-!
# Order routing

Pre-trade validation against the symbol rules, the request payload, and the
REST call. The transport is a parameter: it answers a path and its parameters
with decoded JSON or raises.
-/
namespace CatsPy
open PythonValues

section Rules

structure SymbolRule where
  symbol : String
  tickSize : ℚ
  stepSize : ℚ
  minQty : ℚ
  minNotional : ℚ
  marketStepSize : Option ℚ := none
  marketMinQty : Option ℚ := none
  marketMaxQty : Option ℚ := none
  minPrice : Option ℚ := none
  maxPrice : Option ℚ := none
  percentPriceUp : Option ℚ := none
  percentPriceDown : Option ℚ := none
  marketTakeBound : Option ℚ := none
  triggerProtect : Option ℚ := none
  maxInitialLeverage : Option ℚ := none
  maxNotionalCap : Option ℚ := none
  status : String := "TRADING"

/-- `ALGO_ORDER_TYPES`. -/
def OrderType.isAlgo : OrderType → Bool
  | .stop | .stopMarket | .takeProfit | .takeProfitMarket | .trailingStopMarket => true
  | .limit | .market => false

def rejectIf (condition : Prop) [Decidable condition] (message : String) : Except PyError Unit :=
  if condition then .error ⟨.valueError, message⟩ else .ok ()

/-- Whole steps, rounded toward zero. -/
def floorToStep (value step : ℚ) : Except PyError ℚ := do
  rejectIf (step ≤ 0) "step must be > 0"
  let count := value / step
  return (if 0 ≤ count then ⌊count⌋ else -⌊-count⌋) * step

def floorOptional (value : Option ℚ) (step : ℚ) : Except PyError (Option ℚ) :=
  match value with
  | none => .ok none
  | some v => (floorToStep v step).map some

/-- A market setting that is present and not zero replaces the general one. -/
def marketSetting (request : OrderRequest) (setting : Option ℚ) : Option ℚ :=
  if request.orderType = .market then setting.filter (· ≠ 0) else none

end Rules

namespace PreTradeValidator

abbrev SymbolRules := OrderedDict String SymbolRule

def ruleFor (symbolRules : SymbolRules) (request : OrderRequest) : Except PyError SymbolRule :=
  match symbolRules.get? request.symbol with
  | none => .error ⟨.keyError, "'missing rules for symbol=" ++ request.symbol ++ "'"⟩
  | some rules =>
      if rules.status ≠ "TRADING" then
        .error ⟨.valueError, "symbol not tradable: " ++ request.symbol⟩
      else .ok rules

def checkFlags (request : OrderRequest) : Except PyError Unit := do
  rejectIf (request.orderType.isAlgo ∧ request.closePosition ∧ request.quantity.isSome)
    "closePosition=true cannot be sent with quantity for algo orders"
  rejectIf (request.orderType.isAlgo ∧ request.closePosition ∧ request.reduceOnly)
    "closePosition=true cannot be sent with reduceOnly for algo orders"
  rejectIf (request.reduceOnly ∧ request.positionSide ≠ "BOTH") "reduceOnly cannot be sent in hedge mode"

def normalizeQuantity (rules : SymbolRule) (request : OrderRequest) : Except PyError (Option ℚ) :=
  match request.quantity with
  | none => .ok none
  | some quantity => do
      let normalized ← floorToStep quantity
        ((marketSetting request rules.marketStepSize).getD rules.stepSize)
      rejectIf (normalized < (marketSetting request rules.marketMinQty).getD rules.minQty)
        "quantity below minQty"
      rejectIf (∃ maxQty ∈ marketSetting request rules.marketMaxQty, maxQty < normalized)
        "quantity above maxQty"
      return some normalized

def normalizePrice (rules : SymbolRule) (request : OrderRequest) : Except PyError (Option ℚ) :=
  match request.price with
  | none => .ok none
  | some price => do
      let normalized ← floorToStep price rules.tickSize
      rejectIf (∃ minPrice ∈ rules.minPrice, normalized < minPrice) "price below minPrice"
      rejectIf (∃ maxPrice ∈ rules.maxPrice, maxPrice < normalized) "price above maxPrice"
      return some normalized

/-- The notional checks, at the limit price and at the mark or limit price. -/
def checkNotional (rules : SymbolRule) (quantity price markPrice : Option ℚ) : Except PyError Unit := do
  let referencePrice := (markPrice.filter (· ≠ 0)).or price
  rejectIf (∃ p ∈ price, ∃ q ∈ quantity, p * q < rules.minNotional) "notional below minimum"
  rejectIf (∃ q ∈ quantity, ∃ p ∈ referencePrice, p * q < rules.minNotional) "notional below minimum"

def checkMarkBounds (rules : SymbolRule) (request : OrderRequest) (quantity price markPrice : Option ℚ) :
    Except PyError Unit := do
  rejectIf (request.orderType = .market ∧ quantity.isSome ∧ ∃ mark ∈ markPrice,
      ∃ bound ∈ rules.marketTakeBound, ∃ p ∈ price, mark * (1 + bound) < p ∨ p < mark * (1 - bound))
    "market execution price outside marketTakeBound"
  rejectIf (∃ p ∈ price, ∃ mark ∈ markPrice, ∃ up ∈ rules.percentPriceUp, mark * up < p)
    "price above PERCENT_PRICE upper bound"
  rejectIf (∃ p ∈ price, ∃ mark ∈ markPrice, ∃ down ∈ rules.percentPriceDown, p < mark * down)
    "price below PERCENT_PRICE lower bound"

def validate (symbolRules : SymbolRules) (request : OrderRequest) (markPrice : Option ℚ := none) :
    Except PyError OrderRequest := do
  let rules ← ruleFor symbolRules request
  checkFlags request
  let quantity ← normalizeQuantity rules request
  let price ← normalizePrice rules request
  let triggerPrice ← floorOptional request.triggerPrice rules.tickSize
  let activatePrice ← floorOptional request.activatePrice rules.tickSize
  checkNotional rules quantity price markPrice
  checkMarkBounds rules request quantity price markPrice
  return { request with quantity, price, triggerPrice, activatePrice }

end PreTradeValidator

/-- The REST client over a transport that answers with decoded JSON. -/
structure BinanceRestClient where
  transport : String → PyValue → Except PyError PyValue

namespace BinanceRestClient

def request (client : BinanceRestClient) (path : String) (params : PyValue) : Except PyError PyValue := do
  let json ← client.transport path params
  match json with
  | .dict _ | .list _ => return .dict [("data", json)]
  | _ => throw ⟨.typeError, "Binance response must be dict or list"⟩

def newOrder (client : BinanceRestClient) (params : List (String × PyValue)) : Except PyError PyValue :=
  client.request "/fapi/v1/order" (.dict params)

def newAlgoOrder (client : BinanceRestClient) (params : List (String × PyValue)) :
    Except PyError PyValue :=
  client.request "/fapi/v1/algoOrder" (.dict (("algoType", .str "CONDITIONAL") :: params))

end BinanceRestClient

structure OrderRouter where
  binance : BinanceRestClient
  symbolRules : PreTradeValidator.SymbolRules

namespace OrderRouter

section Payload

/-- Fraction digits a finite decimal needs. -/
def fractionDigits (q : ℚ) : ℕ := ((List.range 29).find? fun k => (q * 10 ^ k).den = 1).getD 28

/-- `str(decimal)` in positional notation without trailing zeros; the value alone does not
say how many zeros there are, or whether an exponent is written. -/
def decimalText (q : ℚ) : String := formatFixed (fractionDigits q) q

def optionalField (key : String) (value : Option ℚ) : List (String × PyValue) :=
  (value.map fun v => (key, PyValue.str (decimalText v))).toList

def flagField (flag : Bool) (key text : String) : List (String × PyValue) :=
  if flag then [(key, .str text)] else []

/-- A text field is sent when present and not empty. -/
def textField (key : String) (value : Option String) : List (String × PyValue) :=
  ((value.filter (· ≠ "")).map fun v => (key, PyValue.str v)).toList

def toPayload (request : OrderRequest) : List (String × PyValue) :=
  [("symbol", .str request.symbol), ("side", .str request.side.value),
    ("type", .str request.orderType.value), ("positionSide", .str request.positionSide)] ++
  optionalField "quantity" request.quantity ++ optionalField "price" request.price ++
  optionalField "triggerPrice" request.triggerPrice ++
  (request.timeInForce.map fun tif => ("timeInForce", PyValue.str tif.value)).toList ++
  flagField request.reduceOnly "reduceOnly" "true" ++
  flagField request.closePosition "closePosition" "true" ++
  textField "workingType" request.workingType ++ flagField request.priceProtect "priceProtect" "TRUE" ++
  textField "selfTradePreventionMode" request.selfTradePreventionMode ++
  textField "newOrderRespType" request.newOrderRespType ++
  optionalField "activatePrice" request.activatePrice ++
  optionalField "callbackRate" request.callbackRate ++
  textField (if request.orderType.isAlgo then "clientAlgoId" else "newClientOrderId")
    request.clientOrderId

end Payload

section Placement

def responseData (raw : PyValue) : Except PyError PyValue := raw.get "data" raw

def extractOrderId (data : PyValue) : Option String :=
  match data with
  | .dict _ =>
      match ((data.item "orderId").or (data.item "algoId")).or (data.item "algoOrderId") with
      | .none => none
      | value => some value.toStr
  | _ => none

def extractStatus (data : PyValue) (fallback : String) : String :=
  match data with
  | .dict _ =>
      match (data.item "status").or (data.item "algoStatus") with
      | .none => fallback
      | value => value.toStr
  | _ => fallback

/-- Validate, send on the route of the order type, and read the answer. -/
def place (router : OrderRouter) (request : OrderRequest) (markPrice : Option ℚ := none) :
    Except PyError OrderResponse := do
  let normalized ← PreTradeValidator.validate router.symbolRules request markPrice
  let payload := toPayload normalized
  let isAlgo := normalized.orderType.isAlgo
  let raw ← if isAlgo then router.binance.newAlgoOrder payload else router.binance.newOrder payload
  let data ← responseData raw
  return { venueOrderId := extractOrderId data, route := if isAlgo then "algo" else "normal",
           status := extractStatus data "submitted", raw }

def buildDisasterStopRequest (symbol : String) (exitSide : Side) (triggerPrice : ℚ)
    (positionSide : String) (clientOrderId : Option String) : OrderRequest where
  symbol := symbol
  side := exitSide
  orderType := .stopMarket
  triggerPrice := some triggerPrice
  closePosition := true
  positionSide := positionSide
  clientOrderId := clientOrderId
  workingType := some "MARK_PRICE"

end Placement

end OrderRouter

end CatsPy
