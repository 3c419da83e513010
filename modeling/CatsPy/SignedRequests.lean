import CatsPy.DecimalOrders
import CatsPy.PercentEncoding

/-!
# Signed requests

The calls the REST client makes. A signed call stamps its parameters, signs the
form-encoded query of them and sends the signature along. Whatever texts an
order carries, that query is read back as the order's own fields, so nothing in
it can pass for another field, and the call sends what it signed.
-/
namespace CatsPy
open PythonValues DecimalArithmetic PercentEncoding

/-- What the HTTP client is asked for. -/
structure HttpCall where
  method : String
  path : String
  params : OrderedDict String PyValue

/-- The client's credentials; `hexdigest` is the keyed hash of the standard library. -/
structure SigningClient where
  apiSecret : String
  recvWindowMs : ℤ := 5000
  hexdigest : String → String → String

namespace SigningClient

section Requests

/-- A value in `urlencode(params, doseq=True)`: the items of what has a length,
else its text. -/
def queryItem (key : String) : PyValue → List (String × String)
  | .str text => [(key, text)]
  | .list items => items.map fun item => (key, item.toStr)
  | .dict entries => entries.map fun entry => (key, entry.1)
  | value => [(key, value.toStr)]

def queryItems (params : OrderedDict String PyValue) : List (String × String) :=
  params.entries.flatMap fun entry => queryItem entry.1 entry.2

def signParams (client : SigningClient) (params : OrderedDict String PyValue) : String :=
  client.hexdigest client.apiSecret (String.ofList (urlencode (queryItems params)))

/-- `_request` at the millisecond `now`. -/
def request (client : SigningClient) (now : ℤ) (method path : String) (params : OrderedDict String PyValue)
    (signed : Bool := false) : HttpCall :=
  if signed then
    let stamped := (params.set "timestamp" (.int now)).set "recvWindow" (.int client.recvWindowMs)
    ⟨method, path, stamped.set "signature" (.str (client.signParams stamped))⟩
  else ⟨method, path, params⟩

/-- `{"symbol": symbol} if symbol else None`. -/
def symbolParams (symbol : Option String) : OrderedDict String PyValue :=
  .ofList ((symbol.filter (· ≠ "")).map fun text => ("symbol", PyValue.str text)).toList

variable (client : SigningClient) (now : ℤ)

def getExchangeInfo : HttpCall := client.request now "GET" "/fapi/v1/exchangeInfo" .empty

def getLeverageBrackets (symbol : Option String := none) : HttpCall :=
  client.request now "GET" "/fapi/v1/leverageBracket" (symbolParams symbol) true

def getPositionRisk (symbol : Option String := none) : HttpCall :=
  client.request now "GET" "/fapi/v3/positionRisk" (symbolParams symbol) true

def getAccountInfo : HttpCall := client.request now "GET" "/fapi/v3/account" .empty true

def getOpenOrders (symbol : Option String := none) : HttpCall :=
  client.request now "GET" "/fapi/v1/openOrders" (symbolParams symbol) true

def getApiTradingStatus (symbol : Option String := none) : HttpCall :=
  client.request now "GET" "/fapi/v1/apiTradingStatus" (symbolParams symbol) true

def startUserStream : HttpCall := client.request now "POST" "/fapi/v1/listenKey" .empty

def keepaliveUserStream : HttpCall := client.request now "PUT" "/fapi/v1/listenKey" .empty

def newOrder (params : OrderedDict String PyValue) : HttpCall :=
  client.request now "POST" "/fapi/v1/order" params true

def newAlgoOrder (params : OrderedDict String PyValue) : HttpCall :=
  client.request now "POST" "/fapi/v1/algoOrder"
    ((OrderedDict.ofList [("algoType", .str "CONDITIONAL")]).update params) true

def countdownCancelAll (symbol : String) (countdownMs : ℤ) : HttpCall :=
  client.request now "POST" "/fapi/v1/countdownCancelAll"
    (.ofList [("symbol", .str symbol), ("countdownTime", .int countdownMs)]) true

/-- The call of `OrderRouter.place` for a request the validator let through. -/
def place (normalized : DecimalRequest) : HttpCall :=
  let payload := OrderedDict.ofList (DecimalOrders.toPayload normalized)
  if normalized.orderType.isAlgo then client.newAlgoOrder now payload else client.newOrder now payload

end Requests

section Signing

/-- The names a signed call adds. -/
def stampNames : List String := ["timestamp", "recvWindow", "signature"]

def IsScalar : PyValue → Prop
  | .list _ => False
  | .dict _ => False
  | _ => True

/-- Parameters of single values under names of their own. -/
structure Signable (params : OrderedDict String PyValue) : Prop where
  scalars : ∀ entry ∈ params.entries, IsScalar entry.2
  free : ∀ name ∈ stampNames, name ∉ params.keys

theorem queryItem_scalar {value : PyValue} (scalar : IsScalar value) (key : String) :
    queryItem key value = [(key, value.toStr)] := by
  cases value with
  | list items => exact scalar.elim
  | dict entries => exact scalar.elim
  | _ => rfl

theorem queryItems_scalars {params : OrderedDict String PyValue}
    (scalars : ∀ entry ∈ params.entries, IsScalar entry.2) :
    queryItems params = params.entries.map fun entry => (entry.1, entry.2.toStr) := by
  rw [queryItems, List.map_eq_flatMap]
  exact List.flatMap_congr fun entry listed => queryItem_scalar (scalars entry listed) entry.1

theorem set_absent {params : OrderedDict String PyValue} {name : String} (absent : name ∉ params.keys)
    (value : PyValue) : (params.set name value).entries = params.entries ++ [(name, value)] :=
  OrderedDict.setEntries_absent absent

/-- The call carries the parameters it was given, the stamps, and the signature
of a query that is read back as just these, the signature itself apart. -/
def SendsWhatItSigns (client : SigningClient) (now : ℤ) (given : List (String × PyValue)) (call : HttpCall) : Prop :=
  ∃ query, call.params.entries = given ++ [("timestamp", .int now),
      ("recvWindow", .int client.recvWindowMs),
      ("signature", .str (client.hexdigest client.apiSecret (String.ofList query)))] ∧
    readQuery query = some (given.map (fun entry => (entry.1, entry.2.toStr)) ++
      [("timestamp", toString now), ("recvWindow", toString client.recvWindowMs)])

theorem request_sends (client : SigningClient) (now : ℤ) (method path : String)
    {params : OrderedDict String PyValue} (signable : Signable params) :
    SendsWhatItSigns client now params.entries (client.request now method path params true) := by
  let stamped := (params.set "timestamp" (.int now)).set "recvWindow" (.int client.recvWindowMs)
  have fresh (name : String) (listed : name ∈ stampNames) : name ∉ params.keys := signable.free name listed
  have unwindowed : "recvWindow" ∉ (params.set "timestamp" (.int now)).keys := by
    rw [OrderedDict.mem_keys_set]
    exact not_or.mpr ⟨by decide, fresh _ (by decide)⟩
  have unsigned : "signature" ∉ stamped.keys := by
    rw [OrderedDict.mem_keys_set, OrderedDict.mem_keys_set]
    exact not_or.mpr ⟨by decide, not_or.mpr ⟨by decide, fresh _ (by decide)⟩⟩
  have entries : stamped.entries =
      params.entries ++ [("timestamp", .int now), ("recvWindow", .int client.recvWindowMs)] := by
    rw [set_absent unwindowed, set_absent (fresh _ (by decide)), List.append_assoc]
    rfl
  have scalars : ∀ entry ∈ stamped.entries, IsScalar entry.2 := by
    rw [entries]
    intro entry listed
    rcases List.mem_append.mp listed with given | stamp
    · exact signable.scalars entry given
    · simp only [List.mem_cons, List.not_mem_nil, or_false] at stamp
      rcases stamp with rfl | rfl <;> trivial
  refine ⟨urlencode (queryItems stamped), ?_, ?_⟩
  · have sent : (client.request now method path params true).params =
        stamped.set "signature" (.str (client.signParams stamped)) := rfl
    rw [sent, set_absent unsigned, entries, List.append_assoc]
    rfl
  · rw [readQuery_urlencode, queryItems_scalars scalars, entries, List.map_append]
    rfl

end Signing

section Payloads

/-- Entries of single values, named after some of the names, in their order. -/
structure Fields (names : List String) (entries : List (String × PyValue)) : Prop where
  named : (entries.map Prod.fst).Sublist names
  scalars : ∀ entry ∈ entries, IsScalar entry.2

variable {names others : List String} {entries more : List (String × PyValue)}

theorem Fields.append (first : Fields names entries) (second : Fields others more) :
    Fields (names ++ others) (entries ++ more) where
  named := by
    rw [List.map_append]
    exact first.named.append second.named
  scalars := List.forall_mem_append.mpr ⟨first.scalars, second.scalars⟩

theorem optional_fields {α : Type} (key : String) (value : Option α) (text : α → String) :
    Fields [key] ((value.map fun v => (key, PyValue.str (text v))).toList) := by
  cases value with
  | none => exact ⟨List.nil_sublist _, List.forall_mem_nil _⟩
  | some v => exact ⟨.refl _, List.forall_mem_singleton.mpr trivial⟩

theorem flag_fields (flag : Bool) (key text : String) : Fields [key] (OrderRouter.flagField flag key text) := by
  cases flag with
  | false => exact ⟨List.nil_sublist _, List.forall_mem_nil _⟩
  | true => exact ⟨.refl _, List.forall_mem_singleton.mpr trivial⟩

theorem Fields.built (fields : Fields names entries) (distinct : names.Nodup) :
    (OrderedDict.ofList entries).entries = entries := OrderedDict.entries_ofList (distinct.sublist fields.named)

theorem Fields.signable (fields : Fields names entries) (distinct : names.Nodup)
    (free : ∀ name ∈ stampNames, name ∉ names) : Signable (.ofList entries) where
  scalars := by
    rw [fields.built distinct]
    exact fields.scalars
  free := by
    intro name stamp listed
    rw [OrderedDict.mem_keys_ofList] at listed
    exact free name stamp (fields.named.subset listed)

theorem symbol_fields (symbol : Option String) :
    Fields ["symbol"] ((symbol.filter (· ≠ "")).map fun text => ("symbol", PyValue.str text)).toList :=
  optional_fields "symbol" _ id

/-- The names of the payload, in order. -/
def payloadNames (request : DecimalRequest) : List String :=
  ["symbol", "side", "type", "positionSide", "quantity", "price", "triggerPrice", "timeInForce", "reduceOnly",
    "closePosition", "workingType", "priceProtect", "selfTradePreventionMode", "newOrderRespType",
    "activatePrice", "callbackRate", if request.orderType.isAlgo then "clientAlgoId" else "newClientOrderId"]

theorem payloadNames_spec (request : DecimalRequest) : (payloadNames request).Nodup ∧
    ∀ name ∈ "algoType" :: stampNames, name ∉ payloadNames request := by
  unfold payloadNames
  split
  · decide
  · decide

theorem payload_fields (request : DecimalRequest) :
    Fields (payloadNames request) (DecimalOrders.toPayload request) := by
  have head : Fields ["symbol", "side", "type", "positionSide"]
      [("symbol", .str request.symbol), ("side", .str request.side.value),
        ("type", .str request.orderType.value), ("positionSide", .str request.positionSide)] :=
    ⟨.refl _, by simp [IsScalar]⟩
  have amount (key : String) (value : Option Decimal) : Fields [key] (DecimalOrders.numberField key value) :=
    optional_fields key value Decimal.str
  have text (key : String) (value : Option String) : Fields [key] (OrderRouter.textField key value) :=
    optional_fields key (value.filter (· ≠ "")) id
  exact ((((((((((((head.append (amount _ _)).append (amount _ _)).append (amount _ _)).append
    (optional_fields _ _ TimeInForce.value)).append (flag_fields _ _ _)).append (flag_fields _ _ _)).append
    (text _ _)).append (flag_fields _ _ _)).append (text _ _)).append (text _ _)).append
    (amount _ _)).append (amount _ _)).append (text _ _)

end Payloads

section Calls

/-- The signed calls the program makes. -/
inductive SignedOp where
  | getLeverageBrackets (symbol : Option String)
  | getPositionRisk (symbol : Option String)
  | getAccountInfo
  | getOpenOrders (symbol : Option String)
  | getApiTradingStatus (symbol : Option String)
  | place (normalized : DecimalRequest)
  | countdownCancelAll (symbol : String) (countdownMs : ℤ)

namespace SignedOp

def call (client : SigningClient) (now : ℤ) : SignedOp → HttpCall
  | .getLeverageBrackets symbol => client.getLeverageBrackets now symbol
  | .getPositionRisk symbol => client.getPositionRisk now symbol
  | .getAccountInfo => client.getAccountInfo now
  | .getOpenOrders symbol => client.getOpenOrders now symbol
  | .getApiTradingStatus symbol => client.getApiTradingStatus now symbol
  | .place normalized => client.place now normalized
  | .countdownCancelAll symbol countdownMs => client.countdownCancelAll now symbol countdownMs

/-- The fields a call is about: of an order, those of its payload. -/
def fields : SignedOp → List (String × PyValue)
  | .getLeverageBrackets symbol | .getPositionRisk symbol | .getOpenOrders symbol
  | .getApiTradingStatus symbol => ((symbol.filter (· ≠ "")).map fun text => ("symbol", PyValue.str text)).toList
  | .getAccountInfo => []
  | .place normalized =>
      (if normalized.orderType.isAlgo then [("algoType", .str "CONDITIONAL")] else []) ++
        DecimalOrders.toPayload normalized
  | .countdownCancelAll symbol countdownMs => [("symbol", .str symbol), ("countdownTime", .int countdownMs)]

end SignedOp

variable (client : SigningClient) (now : ℤ)

theorem fields_sends {names : List String} {entries : List (String × PyValue)} (fields : Fields names entries)
    (distinct : names.Nodup) (free : ∀ name ∈ stampNames, name ∉ names) (method path : String) :
    SendsWhatItSigns client now entries (client.request now method path (.ofList entries) true) := by
  have sends := request_sends client now method path (fields.signable distinct free)
  rwa [fields.built distinct] at sends

theorem symbol_sends (symbol : Option String) (path : String) :
    SendsWhatItSigns client now
      ((symbol.filter (· ≠ "")).map fun text => ("symbol", PyValue.str text)).toList
      (client.request now "GET" path (symbolParams symbol) true) :=
  fields_sends client now (symbol_fields symbol) (by decide) (by decide) "GET" path

theorem place_sends (normalized : DecimalRequest) :
    SendsWhatItSigns client now (SignedOp.place normalized).fields (client.place now normalized) := by
  obtain ⟨distinct, free⟩ := payloadNames_spec normalized
  obtain ⟨untyped, free⟩ := List.forall_mem_cons.mp free
  have payload := payload_fields normalized
  cases algo : normalized.orderType.isAlgo with
  | false =>
      simp only [place, SignedOp.fields, algo, Bool.false_eq_true, if_false, List.nil_append]
      exact fields_sends client now payload distinct free "POST" "/fapi/v1/order"
  | true =>
      have unstamped : "algoType" ∉ stampNames := by decide
      have typed : Fields ["algoType"] [("algoType", PyValue.str "CONDITIONAL")] :=
        ⟨.refl _, List.forall_mem_singleton.mpr trivial⟩
      have merged : (OrderedDict.ofList [("algoType", PyValue.str "CONDITIONAL")]).update
          (.ofList (DecimalOrders.toPayload normalized)) =
            .ofList ([("algoType", .str "CONDITIONAL")] ++ DecimalOrders.toPayload normalized) := by
        rw [OrderedDict.update, payload.built distinct]
        rfl
      simp only [place, SignedOp.fields, algo, if_true, newAlgoOrder, merged]
      exact fields_sends client now (typed.append payload) (List.nodup_cons.mpr ⟨untyped, distinct⟩)
        (fun name stamp listed => (List.mem_cons.mp listed).elim (fun same => unstamped (same ▸ stamp))
          (free name stamp)) "POST" "/fapi/v1/algoOrder"

/-- Every signed call sends the fields it is about, once each, with its stamps and
the signature of a query that is read back as exactly these fields and stamps:
whatever the texts of an order hold, none of them passes for another field. -/
theorem signed_calls_read_back (op : SignedOp) :
    SendsWhatItSigns client now op.fields (op.call client now) := by
  cases op with
  | getLeverageBrackets symbol => exact symbol_sends client now symbol _
  | getPositionRisk symbol => exact symbol_sends client now symbol _
  | getAccountInfo =>
      have none : Fields [] [] := ⟨.refl _, List.forall_mem_nil _⟩
      exact fields_sends client now none .nil (by decide) "GET" "/fapi/v3/account"
  | getOpenOrders symbol => exact symbol_sends client now symbol _
  | getApiTradingStatus symbol => exact symbol_sends client now symbol _
  | place normalized => exact place_sends client now normalized
  | countdownCancelAll symbol countdownMs =>
      have named : Fields ["symbol", "countdownTime"]
          [("symbol", .str symbol), ("countdownTime", .int countdownMs)] := ⟨.refl _, by simp [IsScalar]⟩
      exact fields_sends client now named (by decide) (by decide) "POST" "/fapi/v1/countdownCancelAll"

end Calls

end SigningClient

end CatsPy
