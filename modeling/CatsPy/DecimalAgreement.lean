import CatsPy.ExactDecimals
import CatsPy.PlainPayloads

/-!
# Decimal and rational orders

On numbers of at most fourteen digits the validator does in decimal arithmetic
what its rational model does: no operation rounds or raises a signal, the same
checks reject with the same messages, and the accepted request has the values of
the rational one.
-/
namespace CatsPy
open PythonValues DecimalArithmetic StateRuns

/-- The rule with the values of its numbers; brackets and trigger protection play no part. -/
def DecimalRule.rational (rules : DecimalRule) : SymbolRule where
  symbol := rules.symbol
  tickSize := rules.tickSize.value
  stepSize := rules.stepSize.value
  minQty := rules.minQty.value
  minNotional := rules.minNotional.value
  marketStepSize := rules.marketStepSize.map Decimal.value
  marketMinQty := rules.marketMinQty.map Decimal.value
  marketMaxQty := rules.marketMaxQty.map Decimal.value
  minPrice := rules.minPrice.map Decimal.value
  maxPrice := rules.maxPrice.map Decimal.value
  percentPriceUp := rules.percentPriceUp.map Decimal.value
  percentPriceDown := rules.percentPriceDown.map Decimal.value
  marketTakeBound := rules.marketTakeBound.map Decimal.value
  status := rules.status

namespace DecimalOrders

section Outcomes

/-- An exception of the program itself, not of the arithmetic. -/
def SameError (raised : OrderError) (error : PyError) : Prop := raised = .python error

abbrev Agrees {α β : Type} (values : α → β → Prop) : Except OrderError α → Except PyError β → Prop :=
  SameOutcome SameError values

theorem checked_agrees {condition condition' : Prop} [Decidable condition] [Decidable condition']
    (same : condition ↔ condition') (message : String) :
    Agrees (fun _ _ => ¬ condition) (checked (rejectIf condition message)) (rejectIf condition' message) := by
  unfold rejectIf
  by_cases rejected : condition
  · rw [if_pos rejected, if_pos (same.mp rejected)]
    exact .raised rfl
  · rw [if_neg rejected, if_neg (same.not.mp rejected)]
    exact .returned rejected

/-- An operation that returns its exact result goes unnoticed. -/
theorem exact_agrees {α β : Type} {values : α → β → Prop} {result : Except Signal Decimal}
    {next : Decimal → Except OrderError α} {other : Except PyError β} {holds : Decimal → Prop}
    (here : ∃ r, result = .ok r ∧ holds r) (later : ∀ r, holds r → Agrees values (next r) other) :
    Agrees values (computed result >>= next) other := by
  obtain ⟨r, returned, sound⟩ := here
  rw [returned]
  exact later r sound

theorem computed_agrees {β : Type} {values : Decimal → β → Prop} {result : Except Signal Decimal} {b : β}
    (here : ∃ r, result = .ok r ∧ values r b) : Agrees values (computed result) (.ok b) := by
  obtain ⟨r, returned, related⟩ := here
  rw [returned]
  exact .returned related

end Outcomes

section Numbers

/-- The digits that leave room for every product the validator forms. -/
def digits : ℕ := 14

/-- A short number and its value. -/
def Reads (places : ℕ) (d : Decimal) (q : ℚ) : Prop := d.value = q ∧ d.Short places digits

variable {value step : Decimal} {places : ℕ}

theorem roomy {places : ℕ} (few : places ≤ 56) : defaultContext.Roomy places where
  low := by
    change (-999999 : ℤ) < -places
    omega
  high := by decide

theorem value_eq_zero_iff (d : Decimal) : d.value = 0 ↔ d.coefficient = 0 := by
  rw [← abs_eq_zero, d.abs_value, Decimal.magnitude, mul_eq_zero_iff_right (zpow_pos (by norm_num) _).ne',
    Nat.cast_eq_zero]

/-- The steps in a value, counted toward zero. -/
def wholeSteps (value step : Decimal) : Decimal := ⟨value.negative, ⌊value.magnitude / step.magnitude⌋₊, 0⟩

theorem wholeSteps_value (positive : 0 < step.magnitude) : (wholeSteps value step).value =
    ((if 0 ≤ value.value / step.magnitude then ⌊value.value / step.magnitude⌋
      else -⌊-(value.value / step.magnitude)⌋ : ℤ) : ℚ) := by
  have count : 0 ≤ value.magnitude / step.magnitude := div_nonneg value.magnitude_nonneg positive.le
  have size : (wholeSteps value step).magnitude = ⌊value.magnitude / step.magnitude⌋ := by
    rw [← natCast_floor_eq_intCast_floor count, Decimal.magnitude, wholeSteps, zpow_zero, mul_one]
  rw [Decimal.value, size]
  cases sign : value.negative with
  | false => rw [Decimal.value_of_positive sign, if_pos count, if_neg (by simp [wholeSteps, sign])]
  | true =>
      rw [Decimal.value, if_pos sign, neg_div, neg_neg, if_pos (by simp [wholeSteps, sign])]
      split
      next zero =>
        have none : value.magnitude / step.magnitude = 0 := le_antisymm (neg_nonneg.mp zero) count
        simp [none]
      next => rw [Int.cast_neg]

theorem floorToStep_agrees (few : places ≤ 28) (short : value.Short places digits)
    (unit : -(places : ℤ) ≤ step.exponent) :
    Agrees (Reads places) (floorToStep value step) (CatsPy.floorToStep value.value step.value) := by
  refine (checked_agrees Iff.rfl _).bind fun _ _ rejected => ?_
  have step_pos := not_le.mp rejected
  obtain ⟨step_sign, step_size⟩ := Decimal.positive_of_value step_pos
  rw [Decimal.value_of_positive step_sign] at step_pos ⊢
  have divided := Context.divide_truncate (roomy (show places ≤ 56 by omega)) (by decide) short unit step_size
  refine exact_agrees divided fun quotient truncated => ?_
  have counted : ∃ count, defaultContext.truncate quotient = .ok count ∧ count = wholeSteps value step := by
    refine ⟨_, truncated, ?_⟩
    rw [step_sign, Bool.bne_false, wholeSteps]
  refine exact_agrees counted fun count same => computed_agrees ?_
  have least : count.magnitude * step.magnitude ≤ value.magnitude := by
    have whole := Nat.floor_le (div_nonneg value.magnitude_nonneg step_pos.le)
    rw [same, Decimal.magnitude, wholeSteps, zpow_zero, mul_one]
    exact (le_div_iff₀ step_pos).mp whole
  have place : -(places : ℤ) ≤ count.exponent + step.exponent := by
    rw [same]
    simpa [wholeSteps] using unit
  obtain ⟨r, returned, product, kept⟩ := Context.multiply_short (roomy (show places ≤ 56 by omega))
    (by decide) place (least.trans_lt short.small)
  refine ⟨r, returned, ?_, kept⟩
  rw [product, same, wholeSteps_value step_pos, Decimal.value_of_positive step_sign]

theorem floorOptional_agrees {value : Option Decimal} (few : places ≤ 28)
    (short : ∀ v ∈ value, v.Short places digits) (unit : -(places : ℤ) ≤ step.exponent) :
    Agrees (Option.Rel (Reads places)) (floorOptional value step)
      (CatsPy.floorOptional (value.map Decimal.value) step.value) := by
  cases value with
  | none => exact .returned .none
  | some v =>
      have wrapped : CatsPy.floorOptional (some v.value) step.value = (do
          let floored ← CatsPy.floorToStep v.value step.value
          return some floored) := by
        rw [CatsPy.floorOptional]
        cases CatsPy.floorToStep v.value step.value <;> rfl
      rw [Option.map_some, wrapped]
      exact (floorToStep_agrees few (short v rfl) unit).bind fun r q reads => .returned (.some reads)

end Numbers

section Checks

variable {rules : DecimalRule} {request : DecimalRequest} {markPrice : Option Decimal}
  {quantityPlaces pricePlaces : ℕ}

/-- The numbers of an order are short, prices and quantities each with places of their own. -/
structure ShortOrder (quantityPlaces pricePlaces : ℕ) (rules : DecimalRule) (request : DecimalRequest)
    (markPrice : Option Decimal) : Prop where
  places : quantityPlaces ≤ 28 ∧ pricePlaces ≤ 28
  quantity : ∀ v ∈ request.quantity, v.Short quantityPlaces digits
  price : ∀ v ∈ request.price, v.Short pricePlaces digits
  triggerPrice : ∀ v ∈ request.triggerPrice, v.Short pricePlaces digits
  activatePrice : ∀ v ∈ request.activatePrice, v.Short pricePlaces digits
  markPrice : ∀ v ∈ markPrice, v.Short pricePlaces digits
  quantityStep : -(quantityPlaces : ℤ) ≤ (quantityStep rules request).exponent
  tickSize : -(pricePlaces : ℤ) ≤ rules.tickSize.exponent
  percentPriceUp : ∀ v ∈ rules.percentPriceUp, v.Short 12 digits
  percentPriceDown : ∀ v ∈ rules.percentPriceDown, v.Short 12 digits
  marketTakeBound : ∀ v ∈ rules.marketTakeBound, v.Short 12 13

theorem rational_quantity (request : DecimalRequest) :
    request.rational.quantity = request.quantity.map Decimal.value := rfl

theorem rational_price (request : DecimalRequest) :
    request.rational.price = request.price.map Decimal.value := rfl

theorem filter_value (setting : Option Decimal) :
    (setting.map Decimal.value).filter (· ≠ 0) = (setting.filter (·.coefficient ≠ 0)).map Decimal.value := by
  rw [Option.filter_map]
  congr 2
  funext d
  simp [value_eq_zero_iff]

theorem marketSetting_value (request : DecimalRequest) (setting : Option Decimal) :
    CatsPy.marketSetting request.rational (setting.map Decimal.value) =
      (marketSetting request setting).map Decimal.value := by
  unfold CatsPy.marketSetting marketSetting
  change (if request.orderType = .market then _ else none) = _
  split
  · exact filter_value setting
  · rfl

theorem settingOr_value (request : DecimalRequest) (setting : Option Decimal) (general : Decimal) :
    (CatsPy.marketSetting request.rational (setting.map Decimal.value)).getD general.value =
      ((marketSetting request setting).getD general).value := by
  rw [marketSetting_value]
  cases marketSetting request setting <;> rfl

theorem quantityStep_value (rules : DecimalRule) (request : DecimalRequest) :
    PreTradeValidator.quantityStep rules.rational request.rational = (quantityStep rules request).value :=
  settingOr_value request rules.marketStepSize rules.stepSize

theorem leastQuantity_value (rules : DecimalRule) (request : DecimalRequest) :
    PreTradeValidator.leastQuantity rules.rational request.rational = (leastQuantity rules request).value :=
  settingOr_value request rules.marketMinQty rules.minQty

theorem exists_mem_map_value (setting : Option Decimal) (holds : ℚ → Prop) :
    (∃ d ∈ setting, holds d.value) ↔ ∃ q ∈ setting.map Decimal.value, holds q := by
  cases setting <;> simp

theorem normalizeQuantity_agrees (short : ShortOrder quantityPlaces pricePlaces rules request markPrice) :
    Agrees (Option.Rel (Reads quantityPlaces)) (normalizeQuantity rules request)
      (PreTradeValidator.normalizeQuantity rules.rational request.rational) := by
  cases given : request.quantity with
  | none =>
      simp only [normalizeQuantity, PreTradeValidator.normalizeQuantity, rational_quantity, given,
        Option.map_none]
      exact .returned .none
  | some quantity =>
      simp only [normalizeQuantity, PreTradeValidator.normalizeQuantity, rational_quantity, given,
        Option.map_some]
      have floors := floorToStep_agrees short.places.1 (short.quantity quantity given) short.quantityStep
      rw [← quantityStep_value] at floors
      refine floors.bind fun r q reads => ?_
      obtain ⟨rfl, kept⟩ := reads
      refine (checked_agrees ?_ _).bind fun _ _ _ => (checked_agrees ?_ _).bind fun _ _ _ => ?_
      · rw [← leastQuantity_value]
        exact Iff.rfl
      · change _ ↔ ∃ maxQty ∈ CatsPy.marketSetting request.rational (rules.marketMaxQty.map Decimal.value), _
        rw [marketSetting_value]
        exact exists_mem_map_value _ (· < r.value)
      · exact .returned (.some ⟨rfl, kept⟩)

theorem normalizePrice_agrees (short : ShortOrder quantityPlaces pricePlaces rules request markPrice) :
    Agrees (Option.Rel (Reads pricePlaces)) (normalizePrice rules request)
      (PreTradeValidator.normalizePrice rules.rational request.rational) := by
  cases given : request.price with
  | none =>
      simp only [normalizePrice, PreTradeValidator.normalizePrice, rational_price, given, Option.map_none]
      exact .returned .none
  | some price =>
      simp only [normalizePrice, PreTradeValidator.normalizePrice, rational_price, given, Option.map_some]
      refine (floorToStep_agrees short.places.2 (short.price price given) short.tickSize).bind fun r q reads => ?_
      obtain ⟨rfl, kept⟩ := reads
      refine (checked_agrees ?_ _).bind fun _ _ _ => (checked_agrees ?_ _).bind fun _ _ _ => ?_
      · exact exists_mem_map_value _ (r.value < ·)
      · exact exists_mem_map_value _ (· < r.value)
      · exact .returned (.some ⟨rfl, kept⟩)

/-- A check that is the last of its group. -/
theorem check_agrees {condition condition' : Prop} [Decidable condition] [Decidable condition']
    (same : condition ↔ condition') (message : String) :
    Agrees (fun _ _ => True) (checked (rejectIf condition message)) (rejectIf condition' message) :=
  (checked_agrees same message).mono fun _ _ _ => trivial

theorem accepted_agrees {condition : Prop} [Decidable condition] (never : ¬ condition) (message : String) :
    Agrees (fun _ _ => True) (.ok ()) (rejectIf condition message) := by
  rw [rejectIf, if_neg never]
  exact .returned trivial

theorem rejectSmall_agrees {price quantity : Option Decimal} {condition : Prop} [Decidable condition]
    (few : quantityPlaces ≤ 28 ∧ pricePlaces ≤ 28)
    (priced : ∀ p ∈ price, p.Short pricePlaces digits) (sized : ∀ q ∈ quantity, q.Short quantityPlaces digits)
    (same : condition ↔ ∃ p ∈ price, ∃ q ∈ quantity, p.value * q.value < rules.minNotional.value) :
    Agrees (fun _ _ => True) (rejectSmall rules price quantity)
      (rejectIf condition "notional below minimum") := by
  cases price with
  | none => exact accepted_agrees (by simp [same]) _
  | some p =>
      cases quantity with
      | none => exact accepted_agrees (by simp [same]) _
      | some q =>
          have product := Context.multiply_exact (roomy (by omega)) (by decide) (priced p rfl) (sized q rfl)
          refine exact_agrees product fun notional exact_value => check_agrees ?_ _
          rw [exact_value.1, same]
          simp

theorem checkNotional_agrees {quantity price : Option Decimal}
    (short : ShortOrder quantityPlaces pricePlaces rules request markPrice)
    (sized : ∀ q ∈ quantity, q.Short quantityPlaces digits) (priced : ∀ p ∈ price, p.Short pricePlaces digits) :
    Agrees (fun _ _ => True) (checkNotional rules quantity price markPrice)
      (PreTradeValidator.checkNotional rules.rational (quantity.map Decimal.value) (price.map Decimal.value)
        (markPrice.map Decimal.value)) := by
  have reference : ∀ p ∈ (markPrice.filter (·.coefficient ≠ 0)).or price, p.Short pricePlaces digits := by
    intro p listed
    rcases Option.or_eq_some_iff.mp listed with marked | ⟨-, given⟩
    · exact short.markPrice p (Option.filter_eq_some_iff.mp marked).1
    · exact priced p given
  refine (rejectSmall_agrees short.places priced sized ?_).bind fun _ _ _ =>
    rejectSmall_agrees short.places reference sized ?_
  · simp [DecimalRule.rational]
  · rw [filter_value, ← Option.map_or]
    simp only [Option.mem_map, DecimalRule.rational]
    grind

theorem checkTakeBound_agrees {p mark : Decimal} (few : pricePlaces ≤ 28)
    (short : ∀ v ∈ rules.marketTakeBound, v.Short 12 13) (marked : mark.Short pricePlaces digits)
    {condition : Prop} [Decidable condition]
    (same : condition ↔ ∃ bound ∈ rules.marketTakeBound,
      mark.value * (1 + bound.value) < p.value ∨ p.value < mark.value * (1 - bound.value)) :
    Agrees (fun _ _ => True) (checkTakeBound rules p mark)
      (rejectIf condition "market execution price outside marketTakeBound") := by
  unfold checkTakeBound
  cases given : rules.marketTakeBound with
  | none => exact accepted_agrees (by simp [same, given]) _
  | some bound =>
      have unit : one.Short 12 13 := ⟨by decide, by norm_num [one, Decimal.magnitude]⟩
      have unit_value : one.value = 1 := by norm_num [one, Decimal.value, Decimal.magnitude]
      have short := short bound given
      refine exact_agrees (Context.add_exact (roomy (by decide)) (by decide) unit short) fun above sum => ?_
      refine exact_agrees (Context.multiply_exact (roomy (by omega)) (by decide) marked sum.2) fun upper high => ?_
      refine exact_agrees (Context.subtract_exact (roomy (by decide)) (by decide) unit short)
        fun below difference => ?_
      refine exact_agrees (Context.multiply_exact (roomy (by omega)) (by decide) marked difference.2)
        fun lower low => check_agrees ?_ _
      rw [high.1, low.1, sum.1, difference.1, unit_value, same, given]
      simp

theorem rejectPast_agrees {factor : Option Decimal} {mark : Decimal} (few : pricePlaces ≤ 28)
    (short : ∀ v ∈ factor, v.Short 12 digits) (marked : mark.Short pricePlaces digits)
    (past : ℚ → Prop) [DecidablePred past] {condition : Prop} [Decidable condition]
    (same : condition ↔ ∃ v ∈ factor, past (mark.value * v.value)) (message : String) :
    Agrees (fun _ _ => True) (rejectPast factor mark past message) (rejectIf condition message) := by
  cases factor with
  | none => exact accepted_agrees (by simp [same]) _
  | some v =>
      have product := Context.multiply_exact (roomy (by omega)) (by decide) marked (short v rfl)
      refine exact_agrees product fun bound exact_value => check_agrees ?_ _
      rw [exact_value.1, same]
      simp

theorem checkMarkBounds_agrees {quantity price : Option Decimal}
    (short : ShortOrder quantityPlaces pricePlaces rules request markPrice) :
    Agrees (fun _ _ => True) (checkMarkBounds rules request quantity price markPrice)
      (PreTradeValidator.checkMarkBounds rules.rational request.rational (quantity.map Decimal.value)
        (price.map Decimal.value) (markPrice.map Decimal.value)) := by
  unfold PreTradeValidator.checkMarkBounds
  cases price with
  | none =>
      exact (accepted_agrees (by simp) _).bind fun _ _ _ => (accepted_agrees (by simp) _).bind fun _ _ _ =>
        accepted_agrees (by simp) _
  | some p =>
      cases mark : markPrice with
      | none =>
          exact (accepted_agrees (by simp) _).bind fun _ _ _ => (accepted_agrees (by simp) _).bind fun _ _ _ =>
            accepted_agrees (by simp) _
      | some m =>
          have marked := short.markPrice m mark
          have percent : Agrees (fun _ _ => True) (checkPercentPrice rules p m) (do
              rejectIf (∃ p' ∈ (some p).map Decimal.value, ∃ mark ∈ (some m).map Decimal.value,
                ∃ up ∈ rules.rational.percentPriceUp, mark * up < p') "price above PERCENT_PRICE upper bound"
              rejectIf (∃ p' ∈ (some p).map Decimal.value, ∃ mark ∈ (some m).map Decimal.value,
                ∃ down ∈ rules.rational.percentPriceDown, p' < mark * down)
                "price below PERCENT_PRICE lower bound") := by
            refine (rejectPast_agrees short.places.2 short.percentPriceUp marked _ ?_ _).bind fun _ _ _ =>
              rejectPast_agrees short.places.2 short.percentPriceDown marked _ ?_ _
            · simp [DecimalRule.rational]
            · simp [DecimalRule.rational]
          by_cases market : request.orderType = .market ∧ quantity.isSome
          · simp only [checkMarkBounds, if_pos market]
            refine (checkTakeBound_agrees short.places.2 short.marketTakeBound marked ?_).bind fun _ _ _ => percent
            simp [DecimalRule.rational, DecimalRequest.rational, market]
          · simp only [checkMarkBounds, if_neg market]
            change Agrees _ (Except.ok () >>= fun _ => checkPercentPrice rules p m) _
            refine (accepted_agrees ?_ _).bind fun _ _ _ => percent
            rintro ⟨type, sized, -⟩
            exact market ⟨type, by simpa using sized⟩

theorem checkFlags_agrees (request : DecimalRequest) :
    Agrees (fun _ _ => True) (checkFlags request) (PreTradeValidator.checkFlags request.rational) := by
  refine (checked_agrees ?_ _).bind fun _ _ _ => (checked_agrees Iff.rfl _).bind fun _ _ _ =>
    check_agrees Iff.rfl _
  rw [rational_quantity, Option.isSome_map]
  exact Iff.rfl

theorem ruleFor_agrees (symbolRules : DecimalRules) (request : DecimalRequest) :
    Agrees (fun found other => other = found.rational ∧ symbolRules.get? request.symbol = some found)
      (ruleFor symbolRules request)
      (PreTradeValidator.ruleFor (symbolRules.mapValues DecimalRule.rational) request.rational) := by
  have other : (symbolRules.mapValues DecimalRule.rational).get? request.rational.symbol =
      (symbolRules.get? request.symbol).map DecimalRule.rational :=
    OrderedDict.get?_mapValues DecimalRule.rational symbolRules request.symbol
  unfold ruleFor PreTradeValidator.ruleFor
  cases ruled : symbolRules.get? request.symbol with
  | none =>
      rw [ruled, Option.map_none] at other
      simp only [other]
      exact .raised rfl
  | some found =>
      rw [ruled, Option.map_some] at other
      simp only [other]
      have rejects : (if found.rational.status ≠ "TRADING" then
            Except.error ⟨.valueError, "symbol not tradable: " ++ request.rational.symbol⟩
          else .ok found.rational) = (do
            rejectIf (found.rational.status ≠ "TRADING") ("symbol not tradable: " ++ request.rational.symbol)
            return found.rational) := by
        unfold rejectIf
        split <;> rfl
      rw [rejects]
      exact (checked_agrees Iff.rfl _).bind fun _ _ _ => .returned ⟨rfl, rfl⟩

/-- An option of short numbers and the option of their values. -/
theorem reads_option {places : ℕ} {number : Option Decimal} {value : Option ℚ}
    (reads : Option.Rel (Reads places) number value) :
    value = number.map Decimal.value ∧ ∀ d ∈ number, d.Short places digits := by
  cases reads with
  | none => exact ⟨rfl, by simp⟩
  | some related =>
      obtain ⟨rfl, short⟩ := related
      exact ⟨rfl, by simpa using short⟩

/-- On short numbers the validator computes what its rational model does, the
rejections and their messages included. -/
theorem validate_agrees {symbolRules : DecimalRules}
    (short : ∀ rules, symbolRules.get? request.symbol = some rules →
      ShortOrder quantityPlaces pricePlaces rules request markPrice) :
    Agrees (fun normalized rational => rational = normalized.rational)
      (validate symbolRules request markPrice)
      (PreTradeValidator.validate (symbolRules.mapValues DecimalRule.rational) request.rational
        (markPrice.map Decimal.value)) := by
  refine (ruleFor_agrees symbolRules request).bind fun rules other found => ?_
  obtain ⟨rfl, ruled⟩ := found
  have short := short rules ruled
  refine (checkFlags_agrees request).bind fun _ _ _ => ?_
  refine (normalizeQuantity_agrees short).bind fun quantity quantity' reads => ?_
  obtain ⟨rfl, sized⟩ := reads_option reads
  refine (normalizePrice_agrees short).bind fun price price' reads => ?_
  obtain ⟨rfl, priced⟩ := reads_option reads
  refine (floorOptional_agrees short.places.2 short.triggerPrice short.tickSize).bind
    fun triggerPrice triggerPrice' reads => ?_
  obtain ⟨rfl, -⟩ := reads_option reads
  refine (floorOptional_agrees short.places.2 short.activatePrice short.tickSize).bind
    fun activatePrice activatePrice' reads => ?_
  obtain ⟨rfl, -⟩ := reads_option reads
  refine (checkNotional_agrees short sized priced).bind fun _ _ _ => ?_
  exact (checkMarkBounds_agrees short).bind fun _ _ _ => .returned rfl

end Checks

section Payload
open OrderRouter (optionalField decimalText)

/-- One field of the two payloads: the same, or the texts of a number and of its value. -/
def SameField (field field' : String × PyValue) : Prop :=
  field = field' ∨ ∃ key, ∃ d : Decimal, field = (key, .str d.str) ∧ field' = (key, .str (decimalText d.value))

theorem sameFields_refl (fields : List (String × PyValue)) : List.Forall₂ SameField fields fields :=
  List.forall₂_same.mpr fun _ _ => .inl rfl

theorem numberField_agrees (key : String) (value : Option Decimal) :
    List.Forall₂ SameField (numberField key value) (optionalField key (value.map Decimal.value)) := by
  cases value with
  | none => exact .nil
  | some d => exact .cons (.inr ⟨key, d, rfl, rfl⟩) .nil

/-- The payloads have the same fields in the same order; only the numbers' texts differ. -/
theorem toPayload_agrees (request : DecimalRequest) :
    List.Forall₂ SameField (toPayload request) (OrderRouter.toPayload request.rational) := by
  unfold toPayload OrderRouter.toPayload
  repeat' apply List.rel_append
  all_goals first | exact numberField_agrees _ _ | exact sameFields_refl _

end Payload

end DecimalOrders

end CatsPy
