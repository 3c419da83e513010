import CatsPy.DecimalContext
import CatsPy.OrderRouting

/-!
# Orders in decimal arithmetic

The validator and the payload over numbers as the program holds them, with a
coefficient and an exponent, in the default context of 28 digits. The rational
model of the same code forgets the exponents; here they decide the texts.
-/
namespace CatsPy
open PythonValues DecimalArithmetic

/-- The context every `Decimal` operation of the program runs in. -/
def defaultContext : Context where
  precision := 28
  emin := -999999
  emax := 999999
  positive := by norm_num

/-- What an operation on decimals can raise. -/
inductive OrderError where
  | python (error : PyError)
  | arithmetic (signal : Signal)
  deriving DecidableEq

structure DecimalRule where
  symbol : String
  tickSize : Decimal
  stepSize : Decimal
  minQty : Decimal
  minNotional : Decimal
  marketStepSize : Option Decimal := none
  marketMinQty : Option Decimal := none
  marketMaxQty : Option Decimal := none
  minPrice : Option Decimal := none
  maxPrice : Option Decimal := none
  percentPriceUp : Option Decimal := none
  percentPriceDown : Option Decimal := none
  marketTakeBound : Option Decimal := none
  status : String := "TRADING"

structure DecimalRequest where
  symbol : String
  side : Side
  orderType : OrderType
  quantity : Option Decimal := none
  price : Option Decimal := none
  triggerPrice : Option Decimal := none
  timeInForce : Option TimeInForce := none
  reduceOnly : Bool := false
  closePosition : Bool := false
  positionSide : String := "BOTH"
  clientOrderId : Option String := none
  workingType : Option String := none
  priceProtect : Bool := false
  selfTradePreventionMode : Option String := none
  newOrderRespType : Option String := none
  activatePrice : Option Decimal := none
  callbackRate : Option Decimal := none
  deriving DecidableEq

/-- The request with the values of its numbers. -/
def DecimalRequest.rational (request : DecimalRequest) : OrderRequest where
  symbol := request.symbol
  side := request.side
  orderType := request.orderType
  quantity := request.quantity.map Decimal.value
  price := request.price.map Decimal.value
  triggerPrice := request.triggerPrice.map Decimal.value
  timeInForce := request.timeInForce
  reduceOnly := request.reduceOnly
  closePosition := request.closePosition
  positionSide := request.positionSide
  clientOrderId := request.clientOrderId
  workingType := request.workingType
  priceProtect := request.priceProtect
  selfTradePreventionMode := request.selfTradePreventionMode
  newOrderRespType := request.newOrderRespType
  activatePrice := request.activatePrice.map Decimal.value
  callbackRate := request.callbackRate.map Decimal.value

namespace DecimalOrders

section Numbers

def checked {α : Type} (result : Except PyError α) : Except OrderError α := result.mapError .python

def computed {α : Type} (result : Except Signal α) : Except OrderError α := result.mapError .arithmetic

def product (x y : Decimal) : Except OrderError Decimal := computed (defaultContext.multiply x y)

def floorToStep (value step : Decimal) : Except OrderError Decimal := do
  checked (rejectIf (step.value ≤ 0) "step must be > 0")
  let quotient ← computed (defaultContext.divide value step)
  let count ← computed (defaultContext.truncate quotient)
  product count step

def floorOptional (value : Option Decimal) (step : Decimal) : Except OrderError (Option Decimal) :=
  match value with
  | none => .ok none
  | some v => do
      let floored ← floorToStep v step
      return some floored

def one : Decimal := ⟨false, 1, 0⟩

end Numbers

section Validation

abbrev DecimalRules := OrderedDict String DecimalRule

/-- A market setting that is present and not zero replaces the general one. -/
def marketSetting (request : DecimalRequest) (setting : Option Decimal) : Option Decimal :=
  if request.orderType = .market then setting.filter (·.coefficient ≠ 0) else none

def quantityStep (rules : DecimalRule) (request : DecimalRequest) : Decimal :=
  (marketSetting request rules.marketStepSize).getD rules.stepSize

def leastQuantity (rules : DecimalRule) (request : DecimalRequest) : Decimal :=
  (marketSetting request rules.marketMinQty).getD rules.minQty

def ruleFor (symbolRules : DecimalRules) (request : DecimalRequest) : Except OrderError DecimalRule :=
  match symbolRules.get? request.symbol with
  | none => checked (.error ⟨.keyError, "'missing rules for symbol=" ++ request.symbol ++ "'"⟩)
  | some rules => do
      checked (rejectIf (rules.status ≠ "TRADING") ("symbol not tradable: " ++ request.symbol))
      return rules

def checkFlags (request : DecimalRequest) : Except OrderError Unit := do
  checked (rejectIf (request.orderType.isAlgo ∧ request.closePosition ∧ request.quantity.isSome)
    "closePosition=true cannot be sent with quantity for algo orders")
  checked (rejectIf (request.orderType.isAlgo ∧ request.closePosition ∧ request.reduceOnly)
    "closePosition=true cannot be sent with reduceOnly for algo orders")
  checked (rejectIf (request.reduceOnly ∧ request.positionSide ≠ "BOTH")
    "reduceOnly cannot be sent in hedge mode")

def normalizeQuantity (rules : DecimalRule) (request : DecimalRequest) :
    Except OrderError (Option Decimal) :=
  match request.quantity with
  | none => .ok none
  | some quantity => do
      let normalized ← floorToStep quantity (quantityStep rules request)
      checked (rejectIf (normalized.value < (leastQuantity rules request).value) "quantity below minQty")
      checked (rejectIf (∃ maxQty ∈ marketSetting request rules.marketMaxQty,
        maxQty.value < normalized.value) "quantity above maxQty")
      return some normalized

def normalizePrice (rules : DecimalRule) (request : DecimalRequest) :
    Except OrderError (Option Decimal) :=
  match request.price with
  | none => .ok none
  | some price => do
      let normalized ← floorToStep price rules.tickSize
      checked (rejectIf (∃ minPrice ∈ rules.minPrice, normalized.value < minPrice.value)
        "price below minPrice")
      checked (rejectIf (∃ maxPrice ∈ rules.maxPrice, maxPrice.value < normalized.value)
        "price above maxPrice")
      return some normalized

def rejectSmall (rules : DecimalRule) (price quantity : Option Decimal) : Except OrderError Unit :=
  match price, quantity with
  | some p, some q => do
      let notional ← product p q
      checked (rejectIf (notional.value < rules.minNotional.value) "notional below minimum")
  | _, _ => .ok ()

/-- At the limit price, and at the mark price or, without one, the limit price again. -/
def checkNotional (rules : DecimalRule) (quantity price markPrice : Option Decimal) :
    Except OrderError Unit := do
  rejectSmall rules price quantity
  rejectSmall rules ((markPrice.filter (·.coefficient ≠ 0)).or price) quantity

def checkTakeBound (rules : DecimalRule) (price mark : Decimal) : Except OrderError Unit :=
  match rules.marketTakeBound with
  | none => .ok ()
  | some bound => do
      let above ← computed (defaultContext.add one bound)
      let upper ← product mark above
      let below ← computed (defaultContext.subtract one bound)
      let lower ← product mark below
      checked (rejectIf (upper.value < price.value ∨ price.value < lower.value)
        "market execution price outside marketTakeBound")

/-- A bound at a multiple of the mark price, where one is set. -/
def rejectPast (factor : Option Decimal) (mark : Decimal) (past : ℚ → Prop) [DecidablePred past]
    (message : String) : Except OrderError Unit :=
  match factor with
  | none => .ok ()
  | some factor => do
      let bound ← product mark factor
      checked (rejectIf (past bound.value) message)

def checkPercentPrice (rules : DecimalRule) (price mark : Decimal) : Except OrderError Unit := do
  rejectPast rules.percentPriceUp mark (· < price.value) "price above PERCENT_PRICE upper bound"
  rejectPast rules.percentPriceDown mark (price.value < ·) "price below PERCENT_PRICE lower bound"

def checkMarkBounds (rules : DecimalRule) (request : DecimalRequest)
    (quantity price markPrice : Option Decimal) : Except OrderError Unit :=
  match price, markPrice with
  | some p, some mark => do
      if request.orderType = .market ∧ quantity.isSome then checkTakeBound rules p mark
      checkPercentPrice rules p mark
  | _, _ => .ok ()

def validate (symbolRules : DecimalRules) (request : DecimalRequest) (markPrice : Option Decimal := none) :
    Except OrderError DecimalRequest := do
  let rules ← ruleFor symbolRules request
  checkFlags request
  let quantity ← normalizeQuantity rules request
  let price ← normalizePrice rules request
  let triggerPrice ← floorOptional request.triggerPrice rules.tickSize
  let activatePrice ← floorOptional request.activatePrice rules.tickSize
  checkNotional rules quantity price markPrice
  checkMarkBounds rules request quantity price markPrice
  return { request with quantity, price, triggerPrice, activatePrice }

end Validation

section Payload
open OrderRouter (flagField textField)

def numberField (key : String) (value : Option Decimal) : List (String × PyValue) :=
  (value.map fun v => (key, PyValue.str v.str)).toList

def toPayload (request : DecimalRequest) : List (String × PyValue) :=
  [("symbol", .str request.symbol), ("side", .str request.side.value),
    ("type", .str request.orderType.value), ("positionSide", .str request.positionSide)] ++
  numberField "quantity" request.quantity ++ numberField "price" request.price ++
  numberField "triggerPrice" request.triggerPrice ++
  (request.timeInForce.map fun tif => ("timeInForce", PyValue.str tif.value)).toList ++
  flagField request.reduceOnly "reduceOnly" "true" ++
  flagField request.closePosition "closePosition" "true" ++
  textField "workingType" request.workingType ++ flagField request.priceProtect "priceProtect" "TRUE" ++
  textField "selfTradePreventionMode" request.selfTradePreventionMode ++
  textField "newOrderRespType" request.newOrderRespType ++
  numberField "activatePrice" request.activatePrice ++
  numberField "callbackRate" request.callbackRate ++
  textField (if request.orderType.isAlgo then "clientAlgoId" else "newClientOrderId")
    request.clientOrderId

end Payload

end DecimalOrders

end CatsPy
