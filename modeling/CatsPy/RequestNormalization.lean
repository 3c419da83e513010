import CatsPy.OrderRouting
import CatsPy.StateRuns

/-!
# Request normalization

What a request satisfies once the validator has accepted it, and that a second
validation changes nothing. On references the validator works on a copy.
-/
namespace CatsPy
open PythonValues RoundingGrid StateRuns

section Flooring

theorem rejectIf_ok_iff {condition : Prop} [Decidable condition] {message : String} :
    rejectIf condition message = .ok () ↔ ¬ condition := by
  unfold rejectIf
  split <;> simp_all

theorem floorToStep_eq_quantize {value step : ℚ} (positive : 0 < step) (nonneg : 0 ≤ value) :
    floorToStep value step = .ok (quantize Int.floor step value) := by
  have count : 0 ≤ value / step := div_nonneg nonneg positive.le
  simp only [floorToStep, rejectIf, if_neg positive.not_ge, if_pos count, quantize]
  rfl

/-- A value is floored by a positive step only, to a whole number of steps. -/
theorem floorToStep_ok {value step floored : ℚ} (returned : floorToStep value step = .ok floored) :
    0 < step ∧ OnGrid step floored := by
  obtain ⟨⟨⟩, positive, returned⟩ := bind_ok returned
  cases returned
  refine ⟨not_le.mp (rejectIf_ok_iff.mp positive), ?_⟩
  split
  · exact ⟨_, rfl⟩
  · exact ⟨_, by push_cast; rfl⟩

theorem floorToStep_of_onGrid {value step : ℚ} (positive : 0 < step) (grid : OnGrid step value) :
    floorToStep value step = .ok value := by
  obtain ⟨n, rfl⟩ := grid
  have count : (n * step) / step = n := mul_div_cancel_right₀ _ positive.ne'
  simp only [floorToStep, rejectIf, if_neg positive.not_ge, count]
  split
  · rw [Int.floor_intCast]
    rfl
  · rw [← Int.cast_neg, Int.floor_intCast, neg_neg]
    rfl

/-- Flooring twice is flooring once. -/
theorem floorToStep_idempotent {value step floored : ℚ} (returned : floorToStep value step = .ok floored) :
    floorToStep floored step = .ok floored :=
  floorToStep_of_onGrid (floorToStep_ok returned).1 (floorToStep_ok returned).2

/-- The greatest multiple of the step that is not above the value. -/
def LastMultiple (step value floored : ℚ) : Prop := IsGreatest {m | OnGrid step m ∧ m ≤ value} floored

theorem floorToStep_lastMultiple {value step floored : ℚ} (nonneg : 0 ≤ value)
    (returned : floorToStep value step = .ok floored) : LastMultiple step value floored := by
  have positive := (floorToStep_ok returned).1
  rw [floorToStep_eq_quantize positive nonneg] at returned
  cases returned
  exact quantize_floor_isGreatest positive value

theorem floorOptional_some {v step : ℚ} {floored : Option ℚ}
    (returned : floorOptional (some v) step = .ok floored) :
    ∃ r, floored = some r ∧ floorToStep v step = .ok r := by
  simp only [floorOptional] at returned
  cases once : floorToStep v step with
  | error e =>
      rw [once] at returned
      cases returned
  | ok r =>
      rw [once] at returned
      cases returned
      exact ⟨r, rfl, rfl⟩

theorem floorOptional_idempotent {value floored : Option ℚ} {step : ℚ}
    (returned : floorOptional value step = .ok floored) : floorOptional floored step = .ok floored := by
  cases value with
  | none =>
      cases returned
      rfl
  | some v =>
      obtain ⟨r, rfl, once⟩ := floorOptional_some returned
      simp only [floorOptional, floorToStep_idempotent once]
      rfl

theorem floorOptional_lastMultiple {value floored : Option ℚ} {step : ℚ} (nonneg : ∀ v ∈ value, 0 ≤ v)
    (returned : floorOptional value step = .ok floored) :
    Option.Rel (LastMultiple step) value floored := by
  cases value with
  | none =>
      cases returned
      exact .none
  | some v =>
      obtain ⟨r, rfl, once⟩ := floorOptional_some returned
      exact .some (floorToStep_lastMultiple (nonneg v rfl) once)

end Flooring

namespace PreTradeValidator

theorem ruleFor_eq {symbolRules : SymbolRules} {request : OrderRequest} {rules found : SymbolRule}
    (ruled : symbolRules.get? request.symbol = some rules)
    (known : ruleFor symbolRules request = .ok found) : found = rules := by
  unfold ruleFor at known
  rw [ruled] at known
  dsimp only at known
  split at known
  · cases known
  · exact (Except.ok.inj known).symm

theorem ruleFor_get? {symbolRules : SymbolRules} {request : OrderRequest} {rules : SymbolRule}
    (known : ruleFor symbolRules request = .ok rules) : symbolRules.get? request.symbol = some rules := by
  cases ruled : symbolRules.get? request.symbol with
  | none => simp [ruleFor, ruled] at known
  | some found => rw [ruleFor_eq ruled known]

section Acceptance

/-- The step and the least size of the order type, with the market settings where set. -/
def quantityStep (rules : SymbolRule) (request : OrderRequest) : ℚ :=
  (marketSetting request rules.marketStepSize).getD rules.stepSize

def leastQuantity (rules : SymbolRule) (request : OrderRequest) : ℚ :=
  (marketSetting request rules.marketMinQty).getD rules.minQty

/-- Every check of `validate()` passes and these are the rounded values. -/
structure Accepts (symbolRules : SymbolRules) (request normalized : OrderRequest) (markPrice : Option ℚ)
    (rules : SymbolRule) : Prop where
  ruled : ruleFor symbolRules request = .ok rules
  flags : checkFlags request = .ok ()
  quantity : normalizeQuantity rules request = .ok normalized.quantity
  price : normalizePrice rules request = .ok normalized.price
  triggerPrice : floorOptional request.triggerPrice rules.tickSize = .ok normalized.triggerPrice
  activatePrice : floorOptional request.activatePrice rules.tickSize = .ok normalized.activatePrice
  notional : checkNotional rules normalized.quantity normalized.price markPrice = .ok ()
  markBounds : checkMarkBounds rules request normalized.quantity normalized.price markPrice = .ok ()
  others : normalized = { request with
    quantity := normalized.quantity
    price := normalized.price
    triggerPrice := normalized.triggerPrice
    activatePrice := normalized.activatePrice }

variable {symbolRules : SymbolRules} {request normalized : OrderRequest} {markPrice : Option ℚ}
  {rules : SymbolRule}

theorem validate_ok_iff : validate symbolRules request markPrice = .ok normalized ↔
    ∃ rules, Accepts symbolRules request normalized markPrice rules := by
  constructor
  · intro accepted
    obtain ⟨rules, ruled, accepted⟩ := bind_ok accepted
    obtain ⟨⟨⟩, flags, accepted⟩ := bind_ok accepted
    obtain ⟨quantity, sized, accepted⟩ := bind_ok accepted
    obtain ⟨price, priced, accepted⟩ := bind_ok accepted
    obtain ⟨triggerPrice, triggered, accepted⟩ := bind_ok accepted
    obtain ⟨activatePrice, activated, accepted⟩ := bind_ok accepted
    obtain ⟨⟨⟩, notional, accepted⟩ := bind_ok accepted
    obtain ⟨⟨⟩, markBounds, accepted⟩ := bind_ok accepted
    cases accepted
    exact ⟨rules, ruled, flags, sized, priced, triggered, activated, notional, markBounds, rfl⟩
  · rintro ⟨rules, ruled, flags, sized, priced, triggered, activated, notional, markBounds, others⟩
    unfold validate
    simp only [ruled, flags, sized, priced, triggered, activated, notional, markBounds, bind, Except.bind]
    exact congrArg Except.ok others.symm

theorem normalizeQuantity_some_iff {quantity : ℚ} {floored : Option ℚ}
    (given : request.quantity = some quantity) : normalizeQuantity rules request = .ok floored ↔
      ∃ r, floored = some r ∧ floorToStep quantity (quantityStep rules request) = .ok r ∧
        leastQuantity rules request ≤ r ∧
        ∀ maxQty ∈ marketSetting request rules.marketMaxQty, r ≤ maxQty := by
  simp only [normalizeQuantity, given]
  constructor
  · intro returned
    obtain ⟨r, rounded, returned⟩ := bind_ok returned
    obtain ⟨⟨⟩, least, returned⟩ := bind_ok returned
    obtain ⟨⟨⟩, most, returned⟩ := bind_ok returned
    cases returned
    refine ⟨r, rfl, rounded, not_lt.mp (rejectIf_ok_iff.mp least), fun maxQty set => ?_⟩
    exact not_lt.mp fun above => rejectIf_ok_iff.mp most ⟨maxQty, set, above⟩
  · rintro ⟨r, rfl, rounded, least, most⟩
    have small : rejectIf (r < leastQuantity rules request) "quantity below minQty" = .ok () :=
      rejectIf_ok_iff.mpr least.not_gt
    have large : rejectIf (∃ maxQty ∈ marketSetting request rules.marketMaxQty, maxQty < r)
        "quantity above maxQty" = .ok () :=
      rejectIf_ok_iff.mpr fun ⟨maxQty, set, above⟩ => (most maxQty set).not_gt above
    rw [quantityStep] at rounded
    rw [leastQuantity] at small
    simp only [rounded, small, large, bind, Except.bind]
    rfl

theorem normalizePrice_some_iff {price : ℚ} {floored : Option ℚ} (given : request.price = some price) :
    normalizePrice rules request = .ok floored ↔
      ∃ r, floored = some r ∧ floorToStep price rules.tickSize = .ok r ∧
        (∀ minPrice ∈ rules.minPrice, minPrice ≤ r) ∧ ∀ maxPrice ∈ rules.maxPrice, r ≤ maxPrice := by
  simp only [normalizePrice, given]
  constructor
  · intro returned
    obtain ⟨r, rounded, returned⟩ := bind_ok returned
    obtain ⟨⟨⟩, least, returned⟩ := bind_ok returned
    obtain ⟨⟨⟩, most, returned⟩ := bind_ok returned
    cases returned
    refine ⟨r, rfl, rounded, fun minPrice set => ?_, fun maxPrice set => ?_⟩
    · exact not_lt.mp fun below => rejectIf_ok_iff.mp least ⟨minPrice, set, below⟩
    · exact not_lt.mp fun above => rejectIf_ok_iff.mp most ⟨maxPrice, set, above⟩
  · rintro ⟨r, rfl, rounded, least, most⟩
    have low : rejectIf (∃ minPrice ∈ rules.minPrice, r < minPrice) "price below minPrice" = .ok () :=
      rejectIf_ok_iff.mpr fun ⟨minPrice, set, below⟩ => (least minPrice set).not_gt below
    have high : rejectIf (∃ maxPrice ∈ rules.maxPrice, maxPrice < r) "price above maxPrice" = .ok () :=
      rejectIf_ok_iff.mpr fun ⟨maxPrice, set, above⟩ => (most maxPrice set).not_gt above
    simp only [rounded, low, high, bind, Except.bind]
    rfl

/-- Under its bounds the quantity is the floored one. -/
theorem normalizeQuantity_floored {floored : Option ℚ}
    (returned : normalizeQuantity rules request = .ok floored) :
    floorOptional request.quantity (quantityStep rules request) = .ok floored := by
  cases given : request.quantity with
  | none =>
      simp only [normalizeQuantity, given] at returned
      exact returned
  | some quantity =>
      obtain ⟨r, rfl, rounded, -, -⟩ := (normalizeQuantity_some_iff given).mp returned
      simp only [floorOptional, rounded]
      rfl

theorem normalizePrice_floored {floored : Option ℚ} (returned : normalizePrice rules request = .ok floored) :
    floorOptional request.price rules.tickSize = .ok floored := by
  cases given : request.price with
  | none =>
      simp only [normalizePrice, given] at returned
      exact returned
  | some price =>
      obtain ⟨r, rfl, rounded, -, -⟩ := (normalizePrice_some_iff given).mp returned
      simp only [floorOptional, rounded]
      rfl

end Acceptance

section Idempotence

variable {symbolRules : SymbolRules} {request normalized : OrderRequest} {markPrice : Option ℚ}
  {rules : SymbolRule}

theorem normalizeQuantity_again {floored : Option ℚ}
    (returned : normalizeQuantity rules request = .ok floored)
    (price triggerPrice activatePrice : Option ℚ) :
    floored.isSome = request.quantity.isSome ∧ normalizeQuantity rules
      { request with quantity := floored, price, triggerPrice, activatePrice } = .ok floored := by
  cases given : request.quantity with
  | none =>
      simp only [normalizeQuantity, given] at returned
      cases returned
      exact ⟨rfl, rfl⟩
  | some quantity =>
      obtain ⟨r, rfl, rounded, least, most⟩ := (normalizeQuantity_some_iff given).mp returned
      refine ⟨rfl, (normalizeQuantity_some_iff rfl).mpr ⟨r, rfl, ?_, least, most⟩⟩
      exact floorToStep_idempotent rounded

theorem normalizePrice_again {floored : Option ℚ} (returned : normalizePrice rules request = .ok floored)
    (quantity triggerPrice activatePrice : Option ℚ) : normalizePrice rules
      { request with quantity, price := floored, triggerPrice, activatePrice } = .ok floored := by
  cases given : request.price with
  | none =>
      simp only [normalizePrice, given] at returned
      cases returned
      rfl
  | some price =>
      obtain ⟨r, rfl, rounded, least, most⟩ := (normalizePrice_some_iff given).mp returned
      exact (normalizePrice_some_iff rfl).mpr ⟨r, rfl, floorToStep_idempotent rounded, least, most⟩

/-- The rounded request passes the same checks and rounds to itself. -/
theorem Accepts.again (accepts : Accepts symbolRules request normalized markPrice rules) :
    Accepts symbolRules normalized normalized markPrice rules := by
  obtain ⟨ruled, flags, sized, priced, triggered, activated, notional, markBounds, others⟩ := accepts
  generalize normalized.quantity = quantity at sized notional markBounds others
  generalize normalized.price = price at priced notional markBounds others
  generalize normalized.triggerPrice = triggerPrice at triggered others
  generalize normalized.activatePrice = activatePrice at activated others
  subst others
  obtain ⟨present, again⟩ := normalizeQuantity_again sized price triggerPrice activatePrice
  constructor
  · exact ruled
  · simpa only [checkFlags, present] using flags
  · exact again
  · exact normalizePrice_again priced quantity triggerPrice activatePrice
  · exact floorOptional_idempotent triggered
  · exact floorOptional_idempotent activated
  · exact notional
  · simpa only [checkMarkBounds] using markBounds
  · rfl

theorem validate_idempotent (accepted : validate symbolRules request markPrice = .ok normalized) :
    validate symbolRules normalized markPrice = .ok normalized := by
  obtain ⟨rules, accepts⟩ := validate_ok_iff.mp accepted
  exact validate_ok_iff.mpr ⟨rules, accepts.again⟩

end Idempotence

section Soundness

/-- Quantity and prices are not negative where present. -/
structure NonnegRequest (request : OrderRequest) : Prop where
  quantity : ∀ q ∈ request.quantity, 0 ≤ q
  price : ∀ p ∈ request.price, 0 ≤ p
  triggerPrice : ∀ p ∈ request.triggerPrice, 0 ≤ p
  activatePrice : ∀ p ∈ request.activatePrice, 0 ≤ p

/-- What the accepted request promises beside the request it was made of. A
market setting counts as set when it is present and not zero. -/
structure Normalized (rules : SymbolRule) (request normalized : OrderRequest) (markPrice : Option ℚ) :
    Prop where
  quantity : Option.Rel (LastMultiple (quantityStep rules request)) request.quantity normalized.quantity
  minQty : ∀ q ∈ normalized.quantity, leastQuantity rules request ≤ q
  maxQty : ∀ q ∈ normalized.quantity, ∀ maxQty ∈ marketSetting request rules.marketMaxQty, q ≤ maxQty
  price : Option.Rel (LastMultiple rules.tickSize) request.price normalized.price
  triggerPrice : Option.Rel (LastMultiple rules.tickSize) request.triggerPrice normalized.triggerPrice
  activatePrice : Option.Rel (LastMultiple rules.tickSize) request.activatePrice normalized.activatePrice
  minPrice : ∀ p ∈ normalized.price, ∀ minPrice ∈ rules.minPrice, minPrice ≤ p
  maxPrice : ∀ p ∈ normalized.price, ∀ maxPrice ∈ rules.maxPrice, p ≤ maxPrice
  percentPriceUp : ∀ p ∈ normalized.price, ∀ mark ∈ markPrice, ∀ up ∈ rules.percentPriceUp, p ≤ mark * up
  percentPriceDown : ∀ p ∈ normalized.price, ∀ mark ∈ markPrice, ∀ down ∈ rules.percentPriceDown,
    mark * down ≤ p
  priceNotional : ∀ p ∈ normalized.price, ∀ q ∈ normalized.quantity, rules.minNotional ≤ p * q
  markNotional : ∀ mark ∈ markPrice, ∀ q ∈ normalized.quantity, rules.minNotional ≤ mark * q
  others : normalized = { request with
    quantity := normalized.quantity
    price := normalized.price
    triggerPrice := normalized.triggerPrice
    activatePrice := normalized.activatePrice }

variable {symbolRules : SymbolRules} {request normalized : OrderRequest} {markPrice : Option ℚ}
  {rules : SymbolRule}

theorem normalizeQuantity_sound {floored : Option ℚ} (nonneg : ∀ q ∈ request.quantity, 0 ≤ q)
    (returned : normalizeQuantity rules request = .ok floored) :
    Option.Rel (LastMultiple (quantityStep rules request)) request.quantity floored ∧
      (∀ q ∈ floored, leastQuantity rules request ≤ q) ∧
      ∀ q ∈ floored, ∀ maxQty ∈ marketSetting request rules.marketMaxQty, q ≤ maxQty := by
  cases given : request.quantity with
  | none =>
      simp only [normalizeQuantity, given] at returned
      cases returned
      exact ⟨.none, by simp, by simp⟩
  | some quantity =>
      obtain ⟨r, rfl, rounded, least, most⟩ := (normalizeQuantity_some_iff given).mp returned
      exact ⟨.some (floorToStep_lastMultiple (nonneg quantity given) rounded), by simpa using least,
        by simpa using most⟩

theorem normalizePrice_sound {floored : Option ℚ} (nonneg : ∀ p ∈ request.price, 0 ≤ p)
    (returned : normalizePrice rules request = .ok floored) :
    Option.Rel (LastMultiple rules.tickSize) request.price floored ∧
      (∀ p ∈ floored, ∀ minPrice ∈ rules.minPrice, minPrice ≤ p) ∧
      ∀ p ∈ floored, ∀ maxPrice ∈ rules.maxPrice, p ≤ maxPrice := by
  cases given : request.price with
  | none =>
      simp only [normalizePrice, given] at returned
      cases returned
      exact ⟨.none, by simp, by simp⟩
  | some price =>
      obtain ⟨r, rfl, rounded, least, most⟩ := (normalizePrice_some_iff given).mp returned
      exact ⟨.some (floorToStep_lastMultiple (nonneg price given) rounded), by simpa using least,
        by simpa using most⟩

/-- Both notional checks, the second at the mark where there is one. -/
theorem checkNotional_ok {quantity price : Option ℚ} (marked : ∀ mark ∈ markPrice, 0 < mark)
    (passed : checkNotional rules quantity price markPrice = .ok ()) :
    (∀ p ∈ price, ∀ q ∈ quantity, rules.minNotional ≤ p * q) ∧
      ∀ mark ∈ markPrice, ∀ q ∈ quantity, rules.minNotional ≤ mark * q := by
  obtain ⟨⟨⟩, atPrice, atReference⟩ := bind_ok passed
  have atPrice := rejectIf_ok_iff.mp atPrice
  have atReference := rejectIf_ok_iff.mp atReference
  constructor
  · intro p stated q sized
    exact not_lt.mp fun below => atPrice ⟨p, stated, q, sized, below⟩
  · rintro mark rfl q sized
    have used : (Option.filter (fun x => decide (x ≠ 0)) (some mark)).or price = some mark := by
      simp [(marked mark rfl).ne']
    exact not_lt.mp fun below => atReference ⟨q, sized, mark, used, below⟩

theorem checkMarkBounds_ok {quantity price : Option ℚ}
    (passed : checkMarkBounds rules request quantity price markPrice = .ok ()) :
    (∀ p ∈ price, ∀ mark ∈ markPrice, ∀ up ∈ rules.percentPriceUp, p ≤ mark * up) ∧
      ∀ p ∈ price, ∀ mark ∈ markPrice, ∀ down ∈ rules.percentPriceDown, mark * down ≤ p := by
  obtain ⟨⟨⟩, -, passed⟩ := bind_ok passed
  obtain ⟨⟨⟩, upper, lower⟩ := bind_ok passed
  have upper := rejectIf_ok_iff.mp upper
  have lower := rejectIf_ok_iff.mp lower
  constructor
  · intro p stated mark marked up set
    exact not_lt.mp fun above => upper ⟨p, stated, mark, marked, up, set, above⟩
  · intro p stated mark marked down set
    exact not_lt.mp fun below => lower ⟨p, stated, mark, marked, down, set, below⟩

theorem Accepts.sound (accepts : Accepts symbolRules request normalized markPrice rules)
    (nonneg : NonnegRequest request) (marked : ∀ mark ∈ markPrice, 0 < mark) :
    Normalized rules request normalized markPrice := by
  obtain ⟨quantity, minQty, maxQty⟩ := normalizeQuantity_sound nonneg.quantity accepts.quantity
  obtain ⟨price, minPrice, maxPrice⟩ := normalizePrice_sound nonneg.price accepts.price
  obtain ⟨priceNotional, markNotional⟩ := checkNotional_ok marked accepts.notional
  obtain ⟨percentPriceUp, percentPriceDown⟩ := checkMarkBounds_ok accepts.markBounds
  exact { quantity, minQty, maxQty, price, minPrice, maxPrice, priceNotional, markNotional, percentPriceUp,
          percentPriceDown
          triggerPrice := floorOptional_lastMultiple nonneg.triggerPrice accepts.triggerPrice
          activatePrice := floorOptional_lastMultiple nonneg.activatePrice accepts.activatePrice
          others := accepts.others }

end Soundness

section Objects

/-- `validate()` on references: a copy of the request is made, and each rounded
field assigned to the copy. The price is assigned before its bounds are checked. -/
def validateObject (symbolRules : SymbolRules) (heap : ObjectHeap OrderRequest) (ref : ℕ)
    (markPrice : Option ℚ := none) :
    Except (ObjectHeap OrderRequest × PyError) (ObjectHeap OrderRequest × ℕ) := do
  let request ← raiseFrom heap (fetchObject heap ref)
  let rules ← raiseFrom heap (ruleFor symbolRules request)
  let (heap, copy) := heap.alloc request
  raiseFrom heap (checkFlags request)
  let quantity ← raiseFrom heap (normalizeQuantity rules request)
  let heap := heap.assign copy fun normalized => { normalized with quantity }
  let price ← raiseFrom heap (floorOptional request.price rules.tickSize)
  let heap := heap.assign copy fun normalized => { normalized with price }
  let price ← raiseFrom heap (normalizePrice rules request)
  let triggerPrice ← raiseFrom heap (floorOptional request.triggerPrice rules.tickSize)
  let heap := heap.assign copy fun normalized => { normalized with triggerPrice }
  let activatePrice ← raiseFrom heap (floorOptional request.activatePrice rules.tickSize)
  let heap := heap.assign copy fun normalized => { normalized with activatePrice }
  raiseFrom heap (checkNotional rules quantity price markPrice)
  raiseFrom heap (checkMarkBounds rules request quantity price markPrice)
  return (heap, copy)

variable {symbolRules : SymbolRules} {request normalized : OrderRequest} {markPrice : Option ℚ}
  {rules : SymbolRule}

/-- The copy reads as the accepted request, every object before the call as it did. -/
theorem validateObject_of_read {heap : ObjectHeap OrderRequest} {ref : ℕ}
    (stored : heap.read ref = some request)
    (accepted : validate symbolRules request markPrice = .ok normalized) :
    ∃ after copy, validateObject symbolRules heap ref markPrice = .ok (after, copy) ∧
      after.read copy = some normalized ∧ heap.Extends after := by
  obtain ⟨rules, accepts⟩ := validate_ok_iff.mp accepted
  have floored := normalizePrice_floored accepts.price
  have fresh := heap.read_alloc_fresh request
  have filled := heap.read_alloc_self request
  have kept := heap.extends_alloc request
  let copy := (heap.alloc request).2
  refine ⟨((((heap.alloc request).1.assign copy fun r => { r with quantity := normalized.quantity }).assign
      copy fun r => { r with price := normalized.price }).assign
      copy fun r => { r with triggerPrice := normalized.triggerPrice }).assign
      copy fun r => { r with activatePrice := normalized.activatePrice }, copy, ?_, ?_, ?_⟩
  · simp only [validateObject, fetchObject_of_read stored, accepts.ruled, accepts.flags, accepts.quantity,
      floored, accepts.price, accepts.triggerPrice, accepts.activatePrice, accepts.notional,
      accepts.markBounds, raiseFrom, Except.mapError, bind, Except.bind]
    rfl
  · simp only [copy, ObjectHeap.assign_assign, ObjectHeap.read_assign_self, filled, Option.map_some]
    exact congrArg some accepts.others.symm
  · exact (((kept.assign fresh _).assign fresh _).assign fresh _).assign fresh _

end Objects

section Validation

variable {symbolRules : SymbolRules} {request normalized : OrderRequest} {markPrice : Option ℚ}
  {rules : SymbolRule}

/-- What is accepted is normalized and is accepted again as it is; the
validated request is a new object. No step that was used is zero or below. -/
theorem validate_sound_idempotent (ruled : symbolRules.get? request.symbol = some rules)
    (nonneg : NonnegRequest request) (marked : ∀ mark ∈ markPrice, 0 < mark)
    (accepted : validate symbolRules request markPrice = .ok normalized) :
    Normalized rules request normalized markPrice ∧
      validate symbolRules normalized markPrice = .ok normalized ∧
      ∀ (heap : ObjectHeap OrderRequest) (ref : ℕ), heap.read ref = some request →
        ∃ after copy, validateObject symbolRules heap ref markPrice = .ok (after, copy) ∧
          after.read copy = some normalized ∧ heap.Extends after := by
  obtain ⟨found, accepts⟩ := validate_ok_iff.mp accepted
  obtain rfl : found = rules := ruleFor_eq ruled accepts.ruled
  exact ⟨accepts.sound nonneg marked, validate_idempotent accepted,
    fun heap ref stored => validateObject_of_read stored accepted⟩

/-- A buy stop limit order of BTCUSDT that the validator rounds in three fields. -/
def stopLimitBuy : OrderRequest where
  symbol := "BTCUSDT"
  side := .buy
  orderType := .stop
  quantity := some (127 / 10000)
  price := some (5000007 / 100)
  triggerPrice := some (4999999 / 100)

def stopLimitBuyRules : SymbolRule where
  symbol := "BTCUSDT"
  tickSize := 1 / 10
  stepSize := 1 / 1000
  minQty := 1 / 1000
  minNotional := 100
  marketStepSize := some (1 / 100)
  minPrice := some 500
  maxPrice := some 4000000
  percentPriceUp := some (105 / 100)
  percentPriceDown := some (95 / 100)

def stopLimitBuyRounded : OrderRequest :=
  { stopLimitBuy with
    quantity := some (12 / 1000)
    price := some 50000
    triggerPrice := some (499999 / 10) }

theorem stopLimitBuy_sound_idempotent :
    validate (.ofList [("BTCUSDT", stopLimitBuyRules)]) stopLimitBuy (some 50010) =
        .ok stopLimitBuyRounded ∧
      Normalized stopLimitBuyRules stopLimitBuy stopLimitBuyRounded (some 50010) ∧
      validate (.ofList [("BTCUSDT", stopLimitBuyRules)]) stopLimitBuyRounded (some 50010) =
        .ok stopLimitBuyRounded ∧
      ∀ (heap : ObjectHeap OrderRequest) (ref : ℕ), heap.read ref = some stopLimitBuy →
        ∃ after copy, validateObject (.ofList [("BTCUSDT", stopLimitBuyRules)]) heap ref (some 50010) =
            .ok (after, copy) ∧ after.read copy = some stopLimitBuyRounded ∧ heap.Extends after := by
  have accepted : validate (.ofList [("BTCUSDT", stopLimitBuyRules)]) stopLimitBuy (some 50010) =
      .ok stopLimitBuyRounded := by decide +kernel
  refine ⟨accepted, validate_sound_idempotent rfl ?_ ?_ accepted⟩
  · constructor <;> simp [stopLimitBuy] <;> norm_num
  · simp

end Validation

end PreTradeValidator

end CatsPy
