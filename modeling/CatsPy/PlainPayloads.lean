import CatsPy.DecimalOrders
import CatsPy.RequestNormalization

/-!
# Plain numbers in order payloads

A payload sends the text of each rounded number. Whether the text has an
exponent is decided by the unit of the step and by how much of the value is left
in whole steps: cheap symbols and very fine steps fall below the sixth place.
-/
namespace CatsPy
open PythonValues DecimalArithmetic StateRuns

namespace DecimalOrders

section Flooring

theorem checked_ok {α : Type} {result : Except PyError α} {a : α} (returned : checked result = .ok a) :
    result = .ok a := by
  cases result with
  | error e => cases returned
  | ok b =>
      cases returned
      rfl

theorem computed_ok {α : Type} {result : Except Signal α} {a : α} (returned : computed result = .ok a) :
    result = .ok a := by
  cases result with
  | error e => cases returned
  | ok b =>
      cases returned
      rfl

/-- So many steps fit into the value, by their quotient in the digits of the context. -/
def Fits (value step : Decimal) (k : ℕ) : Prop := k ≤ defaultContext.nearest (value.value / step.value)

/-- The whole steps in a value are written without an exponent: the step has no
positive exponent, and they come to less than the digits of the context hold and
to a millionth or more, up to the rounding; or there are none, at a step of six
places at most. -/
structure PlainSteps (value step : Decimal) : Prop where
  unit : step.exponent ≤ 0
  bounded : ∀ k : ℕ, Fits value step k → k * step.value < 10 ^ 28 - 1 / 2
  visible : (¬ Fits value step 1 ∧ -6 ≤ step.exponent) ∨
    ∃ k : ℕ, Fits value step k ∧ 10 ^ (-6 : ℤ) - 10 ^ (-34 : ℤ) / 2 ≤ k * step.value

variable {value step r : Decimal}

/-- Flooring multiplies the step by the whole part of the quotient. -/
theorem floorToStep_ok (positive : 0 < value.value) (returned : floorToStep value step = .ok r) :
    0 < step.value ∧ defaultContext.finish false
      ((⌊defaultContext.nearest (value.value / step.value)⌋₊ * step.coefficient : ℕ) * 10 ^ step.exponent)
      step.exponent = .ok r := by
  obtain ⟨⟨⟩, accepted, returned⟩ := bind_ok returned
  obtain ⟨quotient, divided, returned⟩ := bind_ok returned
  obtain ⟨count, truncated, returned⟩ := bind_ok returned
  have step_pos : 0 < step.value := not_le.mp (rejectIf_ok_iff.mp (checked_ok accepted))
  obtain ⟨sign, size⟩ := Decimal.positive_of_value positive
  obtain ⟨step_sign, step_size⟩ := Decimal.positive_of_value step_pos
  have divided := computed_ok divided
  rw [Context.divide, if_neg step_size, sign, step_sign, ← Decimal.value_of_positive sign,
    ← Decimal.value_of_positive step_sign] at divided
  obtain ⟨plus, nearest⟩ := Context.finish_nearest (div_pos positive step_pos) divided
  have truncated := computed_ok truncated
  rw [Context.truncate, plus, nearest] at truncated
  split at truncated
  · cases truncated
  · cases truncated
    refine ⟨step_pos, ?_⟩
    have multiplied := computed_ok returned
    rw [Context.multiply, step_sign] at multiplied
    rw [← multiplied]
    congr 1
    · rw [Decimal.magnitude, Decimal.magnitude, zpow_zero, mul_one, Nat.cast_mul, mul_assoc]
    · exact (zero_add _).symm

theorem fits_iff (positive : 0 < value.value) (step_pos : 0 < step.value) (k : ℕ) :
    Fits value step k ↔ k ≤ ⌊defaultContext.nearest (value.value / step.value)⌋₊ :=
  (Nat.le_floor_iff (Context.nearest_nonneg (div_pos positive step_pos))).symm

/-- The least value rounded to a millionth, and the least beyond the digits of the context. -/
theorem millionth_iff {q : ℚ} (positive : 0 < q) :
    10 ^ (-6 : ℤ) ≤ defaultContext.nearest q ↔ 10 ^ (-6 : ℤ) - 10 ^ (-34 : ℤ) / 2 ≤ q :=
  Context.le_nearest_iff positive (by decide)

theorem within_digits_iff {q : ℚ} (positive : 0 < q) :
    defaultContext.nearest q < 10 ^ defaultContext.precision ↔ q < 10 ^ 28 - 1 / 2 := by
  have reached : 10 ^ (28 : ℤ) ≤ defaultContext.nearest q ↔ 10 ^ (28 : ℤ) - 10 ^ (0 : ℤ) / 2 ≤ q :=
    Context.le_nearest_iff positive (by decide)
  rw [← not_le, ← not_le, not_iff_not]
  exact reached

/-- The text of a floored value is plain and denotes it exactly if the whole steps
in the value can be written without an exponent. -/
theorem floor_plain_iff (positive : 0 < value.value) (returned : floorToStep value step = .ok r) :
    PlainNotation r.str r.value ↔ PlainSteps value step := by
  obtain ⟨step_pos, finished⟩ := floorToStep_ok positive returned
  have fits := fits_iff positive step_pos
  obtain ⟨step_sign, step_size⟩ := Decimal.positive_of_value step_pos
  generalize ⌊defaultContext.nearest (value.value / step.value)⌋₊ = n at finished fits
  rcases Nat.eq_zero_or_pos n with rfl | some
  · rw [zero_mul, Nat.cast_zero, zero_mul] at finished
    have sign : r.negative = false := by
      rw [Context.finish, if_pos rfl] at finished
      cases finished
      rfl
    rw [Decimal.str_plain_iff sign, Context.finish_zero_positional_iff (by decide) (by decide) finished]
    constructor
    · rintro ⟨unit, places⟩
      refine ⟨unit, fun k fit => ?_, .inl ⟨fun fit => absurd ((fits 1).mp fit) (by decide), places⟩⟩
      rw [Nat.le_zero.mp ((fits k).mp fit), Nat.cast_zero, zero_mul]
      norm_num
    · rintro ⟨unit, -, ⟨-, places⟩ | ⟨k, fit, visible⟩⟩
      · exact ⟨unit, places⟩
      · rw [Nat.le_zero.mp ((fits k).mp fit), Nat.cast_zero, zero_mul] at visible
        norm_num at visible
  · have nonzero : n * step.coefficient ≠ 0 := mul_ne_zero some.ne' step_size
    have amount : ((n * step.coefficient : ℕ) : ℚ) * 10 ^ step.exponent = n * step.value := by
      rw [Decimal.value_of_positive step_sign, Decimal.magnitude, Nat.cast_mul, mul_assoc]
    have amount_pos : 0 < n * step.value := mul_pos (Nat.cast_pos.mpr some) step_pos
    have sign : r.negative = false := (Context.finish_nearest (amount ▸ amount_pos) finished).1
    rw [Decimal.str_plain_iff sign, Context.finish_positional_iff (by decide) nonzero finished, amount,
      millionth_iff amount_pos, within_digits_iff amount_pos]
    constructor
    · rintro ⟨unit, bounded, visible⟩
      refine ⟨unit, fun k fit => lt_of_le_of_lt ?_ bounded, .inr ⟨n, (fits n).mpr le_rfl, visible⟩⟩
      exact mul_le_mul_of_nonneg_right (by exact_mod_cast (fits k).mp fit) step_pos.le
    · rintro ⟨unit, bounded, ⟨none, -⟩ | ⟨k, fit, visible⟩⟩
      · exact absurd ((fits 1).mpr some) none
      · refine ⟨unit, bounded n ((fits n).mpr le_rfl), visible.trans ?_⟩
        exact mul_le_mul_of_nonneg_right (by exact_mod_cast (fits k).mp fit) step_pos.le

end Flooring

section Requests

variable {symbolRules : DecimalRules} {rules : DecimalRule} {request normalized : DecimalRequest}
  {markPrice : Option Decimal}

theorem ruleFor_ok (known : ruleFor symbolRules request = .ok rules) :
    symbolRules.get? request.symbol = some rules := by
  unfold ruleFor at known
  cases ruled : symbolRules.get? request.symbol with
  | none =>
      rw [ruled] at known
      cases known
  | some found =>
      rw [ruled] at known
      obtain ⟨⟨⟩, -, returned⟩ := bind_ok known
      cases returned
      rfl

/-- A number is kept as floored by whatever checks follow. -/
theorem floored_some {v step : Decimal} {floored : Option Decimal}
    {next : Decimal → Except OrderError (Option Decimal)}
    (returned : floorToStep v step >>= next = .ok floored)
    (keeps : ∀ r kept, next r = .ok kept → kept = some r) :
    Option.Rel (fun v r => floorToStep v step = .ok r) (some v) floored := by
  obtain ⟨r, rounded, returned⟩ := bind_ok returned
  rw [keeps r floored returned]
  exact .some rounded

theorem checks_keep {first second : Except OrderError Unit} {r : Decimal} {kept : Option Decimal}
    (returned : (do first; second; return some r) = Except.ok kept) : kept = some r := by
  obtain ⟨⟨⟩, -, returned⟩ := bind_ok returned
  obtain ⟨⟨⟩, -, returned⟩ := bind_ok returned
  cases returned
  rfl

theorem floorOptional_ok {value floored : Option Decimal} {step : Decimal}
    (returned : floorOptional value step = .ok floored) :
    Option.Rel (fun v r => floorToStep v step = .ok r) value floored := by
  cases value with
  | none =>
      cases returned
      exact .none
  | some v =>
      refine floored_some returned fun r kept same => ?_
      cases same
      rfl

theorem normalizeQuantity_ok {floored : Option Decimal}
    (returned : normalizeQuantity rules request = .ok floored) :
    Option.Rel (fun v r => floorToStep v (quantityStep rules request) = .ok r) request.quantity floored := by
  unfold normalizeQuantity at returned
  cases given : request.quantity with
  | none =>
      rw [given] at returned
      cases returned
      exact .none
  | some quantity =>
      rw [given] at returned
      exact floored_some returned fun _ _ => checks_keep

theorem normalizePrice_ok {floored : Option Decimal}
    (returned : normalizePrice rules request = .ok floored) :
    Option.Rel (fun v r => floorToStep v rules.tickSize = .ok r) request.price floored := by
  unfold normalizePrice at returned
  cases given : request.price with
  | none =>
      rw [given] at returned
      cases returned
      exact .none
  | some price =>
      rw [given] at returned
      exact floored_some returned fun _ _ => checks_keep

/-- What a returned request has in place of its numbers. -/
structure Floors (rules : DecimalRule) (request normalized : DecimalRequest) : Prop where
  quantity : Option.Rel (fun v r => floorToStep v (quantityStep rules request) = .ok r)
    request.quantity normalized.quantity
  price : Option.Rel (fun v r => floorToStep v rules.tickSize = .ok r) request.price normalized.price
  triggerPrice : Option.Rel (fun v r => floorToStep v rules.tickSize = .ok r)
    request.triggerPrice normalized.triggerPrice
  activatePrice : Option.Rel (fun v r => floorToStep v rules.tickSize = .ok r)
    request.activatePrice normalized.activatePrice

theorem validate_floors (accepted : validate symbolRules request markPrice = .ok normalized) :
    ∃ rules, symbolRules.get? request.symbol = some rules ∧ Floors rules request normalized := by
  obtain ⟨rules, ruled, accepted⟩ := bind_ok accepted
  obtain ⟨⟨⟩, -, accepted⟩ := bind_ok accepted
  obtain ⟨quantity, sized, accepted⟩ := bind_ok accepted
  obtain ⟨price, priced, accepted⟩ := bind_ok accepted
  obtain ⟨triggerPrice, triggered, accepted⟩ := bind_ok accepted
  obtain ⟨activatePrice, activated, accepted⟩ := bind_ok accepted
  obtain ⟨⟨⟩, -, accepted⟩ := bind_ok accepted
  obtain ⟨⟨⟩, -, accepted⟩ := bind_ok accepted
  cases accepted
  exact ⟨rules, ruleFor_ok ruled, normalizeQuantity_ok sized, normalizePrice_ok priced,
    floorOptional_ok triggered, floorOptional_ok activated⟩

end Requests

end DecimalOrders

/-- The numbers of a request that are rounded to a step, by the keys they are sent under. -/
def DecimalRequest.amounts (request : DecimalRequest) : List (String × Option Decimal) :=
  [("quantity", request.quantity), ("price", request.price), ("triggerPrice", request.triggerPrice),
    ("activatePrice", request.activatePrice)]

namespace DecimalOrders

section Payloads

/-- Every text sent for a rounded number is plain and denotes the number. -/
def PlainPayload (request : DecimalRequest) : Prop :=
  ∀ amount ∈ request.amounts, ∀ text, (amount.1, PyValue.str text) ∈ toPayload request →
    ∃ number, amount.2 = some number ∧ PlainNotation text number.value

/-- The steps a rule rounds the numbers of a request to, by the same keys. -/
def steps (rules : DecimalRule) (request : DecimalRequest) : List (String × Decimal) :=
  [("quantity", quantityStep rules request), ("price", rules.tickSize), ("triggerPrice", rules.tickSize),
    ("activatePrice", rules.tickSize)]

/-- Every number of a request is worth whole steps that can be written plainly. -/
def PlainRequest (rules : DecimalRule) (request : DecimalRequest) : Prop :=
  ∀ pair ∈ request.amounts.zip (steps rules request), ∀ value, pair.1.2 = some value →
    PlainSteps value pair.2.2

theorem mem_numberField {key other text : String} {value : Option Decimal} :
    (key, PyValue.str text) ∈ numberField other value ↔
      key = other ∧ ∃ number, value = some number ∧ text = number.str := by
  cases value with
  | none => simp [numberField]
  | some number => simp [numberField]

theorem not_mem_flagField {key other text : String} (different : key ≠ other) (flag : Bool) (sent : String) :
    (key, PyValue.str text) ∉ OrderRouter.flagField flag other sent := by
  unfold OrderRouter.flagField
  split <;> simp [different]

theorem not_mem_textField {key other text : String} (different : key ≠ other) (value : Option String) :
    (key, PyValue.str text) ∉ OrderRouter.textField other value := by
  simp [OrderRouter.textField, different.symm]

theorem mem_toPayload {request : DecimalRequest} {amount : String × Option Decimal}
    (sent : amount ∈ request.amounts) (text : String) :
    (amount.1, PyValue.str text) ∈ toPayload request ↔ ∃ number, amount.2 = some number ∧ text = number.str := by
  have identifier (key : String) (known : key ≠ "clientAlgoId" ∧ key ≠ "newClientOrderId") :
      key ≠ if request.orderType.isAlgo then "clientAlgoId" else "newClientOrderId" := by
    split
    · exact known.1
    · exact known.2
  simp only [DecimalRequest.amounts, List.mem_cons, List.not_mem_nil, or_false] at sent
  rcases sent with rfl | rfl | rfl | rfl <;>
    simp [toPayload, mem_numberField, not_mem_flagField, not_mem_textField, identifier]

variable {symbolRules : DecimalRules} {rules : DecimalRule} {request normalized : DecimalRequest}
  {markPrice : Option Decimal}

/-- One number of a request, its step and what is sent of it. -/
theorem amount_plain_iff {value floored : Option Decimal} {step : Decimal}
    (rounds : Option.Rel (fun v r => floorToStep v step = .ok r) value floored)
    (positive : ∀ v ∈ value, 0 < v.value) :
    (∀ number ∈ floored, PlainNotation number.str number.value) ↔ ∀ v ∈ value, PlainSteps v step := by
  cases rounds with
  | none => simp
  | some rounded =>
      have plain := floor_plain_iff (positive _ rfl) rounded
      simpa using plain

theorem plainPayload_iff (request : DecimalRequest) : PlainPayload request ↔
    ∀ amount ∈ request.amounts, ∀ number ∈ amount.2, PlainNotation number.str number.value := by
  refine forall₂_congr fun amount sent => ?_
  constructor
  · intro plain number present
    obtain ⟨other, same, written⟩ := plain number.str ((mem_toPayload sent _).mpr ⟨number, present, rfl⟩)
    obtain rfl : number = other := Option.some.inj ((Option.mem_def.mp present).symm.trans same)
    exact written
  · intro plain text listed
    obtain ⟨number, present, rfl⟩ := (mem_toPayload sent text).mp listed
    exact ⟨number, present, plain number present⟩

/-- The numbers of an accepted request go out as plain decimals exactly if each is
worth whole steps that can be written plainly. -/
theorem payload_plain_iff (ruled : symbolRules.get? request.symbol = some rules)
    (accepted : validate symbolRules request markPrice = .ok normalized)
    (positive : ∀ amount ∈ request.amounts, ∀ value ∈ amount.2, 0 < value.value) :
    PlainPayload normalized ↔ PlainRequest rules request := by
  obtain ⟨found, known, floors⟩ := validate_floors accepted
  obtain rfl : found = rules := Option.some.inj (known.symm.trans ruled)
  simp only [DecimalRequest.amounts, List.forall_mem_cons] at positive
  obtain ⟨quantity, price, triggerPrice, activatePrice, -⟩ := positive
  rw [plainPayload_iff]
  simp only [PlainRequest, DecimalRequest.amounts, steps, List.zip_cons_cons, List.zip_nil_right,
    List.forall_mem_cons, List.not_mem_nil, false_implies, implies_true, and_true]
  exact and_congr (amount_plain_iff floors.quantity quantity)
    (and_congr (amount_plain_iff floors.price price)
      (and_congr (amount_plain_iff floors.triggerPrice triggerPrice)
        (amount_plain_iff floors.activatePrice activatePrice)))

def bitcoinRules : DecimalRule where
  symbol := "BTCUSDT"
  tickSize := ⟨false, 10, -2⟩
  stepSize := ⟨false, 1, -3⟩
  minQty := ⟨false, 1, -3⟩
  minNotional := ⟨false, 100, 0⟩

/-- Half a step and seven hundredths too much. -/
def bitcoinBuy : DecimalRequest where
  symbol := "BTCUSDT"
  side := .buy
  orderType := .limit
  quantity := some ⟨false, 155, -4⟩
  price := some ⟨false, 5000007, -2⟩

def bitcoinBuyRounded : DecimalRequest :=
  { bitcoinBuy with quantity := some ⟨false, 15, -3⟩, price := some ⟨false, 5000000, -2⟩ }

theorem payload_plain_bitcoin : PlainPayload bitcoinBuyRounded ↔ PlainRequest bitcoinRules bitcoinBuy := by
  have accepted : validate (.ofList [("BTCUSDT", bitcoinRules)]) bitcoinBuy = .ok bitcoinBuyRounded := by
    decide +kernel
  refine payload_plain_iff rfl accepted ?_
  simp [DecimalRequest.amounts, bitcoinBuy, Decimal.value, Decimal.magnitude]

/-- A symbol priced in ten-millionths. -/
def cheapRules : DecimalRule where
  symbol := "1000SATSUSDT"
  tickSize := ⟨false, 1, -7⟩
  stepSize := ⟨false, 1, 0⟩
  minQty := ⟨false, 1, 0⟩
  minNotional := ⟨false, 5, 0⟩

def cheapBuy : DecimalRequest where
  symbol := "1000SATSUSDT"
  side := .buy
  orderType := .limit
  quantity := some ⟨false, 20000000, 0⟩
  price := some ⟨false, 5, -7⟩

/-- Five ten-millionths are sent as `5E-7`. -/
theorem cheap_price_scientific :
    0 < cheapRules.tickSize.value ∧ 0 < cheapRules.stepSize.value ∧
    (∀ amount ∈ cheapBuy.amounts, ∀ value ∈ amount.2, 0 < value.value) ∧
    validate (.ofList [("1000SATSUSDT", cheapRules)]) cheapBuy = .ok cheapBuy ∧
    ("price", PyValue.str "5E-7") ∈ toPayload cheapBuy ∧ ¬ PlainPayload cheapBuy := by
  have sent : ("price", cheapBuy.price) ∈ cheapBuy.amounts := by simp [DecimalRequest.amounts]
  refine ⟨by decide +kernel, by decide +kernel, ?_, by decide +kernel, ?_, ?_⟩
  · simp [DecimalRequest.amounts, cheapBuy, Decimal.value, Decimal.magnitude]
  · exact (mem_toPayload sent "5E-7").mpr ⟨⟨false, 5, -7⟩, rfl, by decide +kernel⟩
  · intro plain
    have written := (plainPayload_iff cheapBuy).mp plain ("price", cheapBuy.price) sent ⟨false, 5, -7⟩ rfl
    have positional := (Decimal.str_plain_iff rfl).mp written
    exact absurd positional.2 (by decide)

end Payloads

end DecimalOrders

end CatsPy
