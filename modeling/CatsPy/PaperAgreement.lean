import CatsPy.DecimalFills

/-!
# Fills in the range of twenty-eight digits

Within the range of a fill no figure loses a digit: every sum and product is a
number of the context, and no quotient is so near a tie of eight places that its
rounding crosses one. There the figures of a fill are those of exact arithmetic,
and so are the totals of the wallet.
-/
namespace CatsPy.PaperArithmetic
open PythonValues RoundingGrid DecimalArithmetic PaperExecutionService

section Digits

theorem places_low {place : ℤ} (few : -100 ≤ place) : defaultContext.etiny ≤ place := by
  have least : defaultContext.etiny = -1000026 := rfl
  omega

/-- A number of so few decimals and digits before them is kept as it is. -/
theorem decimal_keep {q : ℚ} (place : ℤ) (few : -100 ≤ place) (grid : OnGrid ((10 : ℚ) ^ place) q)
    (small : |q| ≤ 10 ^ (28 + place)) : decimal.keep q = q :=
  Context.keep_of_onGrid (places_low few) grid small

/-- A quotient rounds to eight places as it would without the digits kept before. -/
theorem quotient_quantized {round : ℚ → ℤ} (nearest : Nearest round) {n d : ℚ}
    (numerator : OnGrid ((10 : ℚ) ^ (-17 : ℤ)) n) (divisor : OnGrid decimalPlaces d) (nonzero : d ≠ 0)
    (n_small : |n| ≤ 10 ^ 10) (d_small : |d| ≤ 10 ^ 20) :
    quantize round decimalPlaces (decimal.keep (n / d)) = quantize round decimalPlaces (n / d) ∧
      |n / d| ≤ 10 ^ 18 := by
  have unit : decimalPlaces ≤ |d| := by
    by_contra below
    exact nonzero (divisor.eq_zero_of_small decimalPlaces_pos (not_le.mp below))
  have size : |n / d| ≤ 10 ^ 18 := by
    rw [abs_div, div_le_iff₀ (abs_pos.mpr nonzero)]
    rw [decimalPlaces] at unit
    linarith
  refine ⟨Context.quantize_keep nearest decimalPlaces_pos ?_, size⟩
  intro t tie near
  have t_small : |t| ≤ 10 ^ 19 := by
    have split : |t| ≤ |t - n / d| + |n / d| := by simpa using abs_add_le (t - n / d) (n / d)
    have place : decimalPlaces ≤ 1 := by norm_num [decimalPlaces]
    linarith
  have fine : OnGrid ((10 : ℚ) ^ (-9 : ℤ)) t := tie.refine ⟨5, by norm_num [decimalPlaces]⟩
  refine ⟨Context.holds_of_onGrid (places_low (by norm_num)) fine (t_small.trans (by norm_num [defaultContext])), ?_⟩
  intro kept
  -- The distance of numerator and tie is a number of seventeen places, and too small for one.
  have error : |defaultContext.keep (n / d) - n / d| ≤ |n / d| * 10 ^ (-27 : ℤ) / 2 +
      10 ^ defaultContext.etiny / 2 := Context.keep_error_any _
  rw [show defaultContext.keep (n / d) = t from kept] at error
  have whole : OnGrid ((10 : ℚ) ^ (-17 : ℤ)) (t * d - n) := by
    refine OnGrid.sub ?_ numerator
    exact (fine.mul divisor).refine ⟨1, by norm_num [decimalPlaces]⟩
  have least : (10 : ℚ) ^ defaultContext.etiny ≤ 10 ^ (-100 : ℤ) := Context.power_mono (places_low le_rfl)
  have short : |t * d - n| < 10 ^ (-17 : ℤ) := by
    have scaled : |t * d - n| = |t - n / d| * |d| := by
      rw [← abs_mul, sub_mul, div_mul_cancel₀ n nonzero]
    have product : |n / d| * |d| = |n| := by rw [← abs_mul, div_mul_cancel₀ n nonzero]
    calc |t * d - n| = |t - n / d| * |d| := scaled
      _ ≤ (|n / d| * 10 ^ (-27 : ℤ) / 2 + 10 ^ defaultContext.etiny / 2) * |d| := by gcongr
      _ = |n| * 10 ^ (-27 : ℤ) / 2 + 10 ^ defaultContext.etiny * |d| / 2 := by
        rw [← product]
        ring
      _ ≤ 10 ^ 10 * 10 ^ (-27 : ℤ) / 2 + 10 ^ (-100 : ℤ) * 10 ^ 20 / 2 := by gcongr
      _ < 10 ^ (-17 : ℤ) := by norm_num
  have same := whole.eq_zero_of_small (by norm_num) short
  rw [div_eq_iff nonzero]
  linarith

end Digits

section Figures

variable {svc : PaperExecutionService} {position : PositionState} {side : Side} {risk : RiskDecision}
  {referencePrice : ℚ}

/-- The range of a fill: basis points of two places, a price of twelve, a notional
of seventeen, and a position of eight places whose cost is bounded like the order. -/
structure ShortFill (svc : PaperExecutionService) (position : PositionState) (risk : RiskDecision)
    (referencePrice : ℚ) : Prop where
  slippage : OnGrid (1 / 100) svc.slippageBps ∧ |svc.slippageBps| ≤ 10 ^ 4
  takerFee : OnGrid (1 / 100) svc.takerFeeBps ∧ |svc.takerFeeBps| ≤ 100
  price : OnGrid ((10 : ℚ) ^ (-12 : ℤ)) referencePrice ∧ |referencePrice| ≤ 10 ^ 8
  notional : OnGrid ((10 : ℚ) ^ (-17 : ℤ)) risk.approvedNotional ∧ |risk.approvedNotional| ≤ 10 ^ 7
  quantity : OnGrid decimalPlaces position.quantity ∧ |position.quantity| ≤ 10 ^ 18
  entryPrice : OnGrid decimalPlaces position.entryPrice ∧ |position.entryPrice| ≤ 10 ^ 9
  cost : |position.quantity * position.entryPrice| ≤ 10 ^ 9

theorem slippageMultiplier_exact (side : Side) (short : OnGrid (1 / 100) svc.slippageBps ∧ |svc.slippageBps| ≤ 10 ^ 4) :
    decimal.slippageMultiplier svc.slippageBps side = exact.slippageMultiplier svc.slippageBps side ∧
      OnGrid ((10 : ℚ) ^ (-6 : ℤ)) (exact.slippageMultiplier svc.slippageBps side) ∧
      |exact.slippageMultiplier svc.slippageBps side| ≤ 2 := by
  obtain ⟨grid, small⟩ := short
  have ratio : OnGrid ((10 : ℚ) ^ (-6 : ℤ)) (svc.slippageBps / 10000) := by
    rw [div_eq_mul_one_div]
    exact (grid.mul (⟨1, by norm_num⟩ : OnGrid (1 / 10000) (1 / 10000 : ℚ))).refine ⟨1, by norm_num⟩
  have ratio_small : |svc.slippageBps / 10000| ≤ 1 := by
    rw [abs_div]
    norm_num
    linarith
  have one : OnGrid ((10 : ℚ) ^ (-6 : ℤ)) 1 := ⟨10 ^ 6, by norm_num⟩
  have kept := decimal_keep (-6) (by norm_num) ratio (ratio_small.trans (by norm_num))
  have sums : ∀ x ∈ [1 - svc.slippageBps / 10000, 1 + svc.slippageBps / 10000],
      decimal.keep x = x ∧ OnGrid ((10 : ℚ) ^ (-6 : ℤ)) x ∧ |x| ≤ 2 := by
    obtain ⟨low, high⟩ := abs_le.mp ratio_small
    intro x listed
    have held : OnGrid ((10 : ℚ) ^ (-6 : ℤ)) x ∧ |x| ≤ 2 := by
      rcases List.mem_pair.mp listed with rfl | rfl
      · exact ⟨one.sub ratio, abs_le.mpr ⟨by linarith, by linarith⟩⟩
      · exact ⟨one.add ratio, abs_le.mpr ⟨by linarith, by linarith⟩⟩
    exact ⟨decimal_keep (-6) (by norm_num) held.1 (held.2.trans (by norm_num)), held⟩
  rw [slippageMultiplier, slippageMultiplier, kept]
  simp only [exact, id_eq]
  split
  · exact sums _ (by simp)
  · exact sums _ (by simp)

/-- Rounding to eight places moves a number by half a tick at most. -/
theorem abs_quantize_le {round : ℚ → ℤ} (nearest : Nearest round) (q : ℚ) :
    |quantize round decimalPlaces q| ≤ |q| + decimalPlaces / 2 := by
  have moved := quantize_error nearest decimalPlaces_pos q
  have split : |quantize round decimalPlaces q| ≤ |quantize round decimalPlaces q - q| + |q| := by
    simpa using abs_add_le (quantize round decimalPlaces q - q) q
  linarith

theorem quantized_exact {round : ℚ → ℤ} (rounds : Rounds round) {q : ℚ} (small : |q| ≤ 10 ^ 18) :
    decimal.quantized round q = .ok (quantize round decimalPlaces q) := by
  have fits : Fits q := small.trans_lt (by norm_num [decimalPlaces])
  rw [rounds.quantized, if_pos fits]

theorem applySlippage_exact (side : Side) (short : ShortFill svc position risk referencePrice) :
    decimal.applySlippage svc referencePrice side = .ok (svc.applySlippage referencePrice side) ∧
      OnGrid decimalPlaces (svc.applySlippage referencePrice side) ∧
      |svc.applySlippage referencePrice side| ≤ 10 ^ 9 := by
  obtain ⟨multiplier, grid, size⟩ := slippageMultiplier_exact side short.slippage
  obtain ⟨price_grid, price_size⟩ := short.price
  have product : OnGrid ((10 : ℚ) ^ (-18 : ℤ)) (referencePrice * exact.slippageMultiplier svc.slippageBps side) :=
    (price_grid.mul grid).refine ⟨1, by norm_num⟩
  have product_size : |referencePrice * exact.slippageMultiplier svc.slippageBps side| ≤ 2 * 10 ^ 8 := by
    rw [abs_mul]
    calc _ ≤ 10 ^ 8 * 2 := mul_le_mul price_size size (abs_nonneg _) (by norm_num)
      _ = 2 * 10 ^ 8 := by norm_num
  have slipped_eq : svc.applySlippage referencePrice side =
      quantize halfUp decimalPlaces (referencePrice * exact.slippageMultiplier svc.slippageBps side) := rfl
  rw [slipped_eq]
  refine ⟨?_, quantize_onGrid _ _ _, ?_⟩
  · rw [applySlippage, multiplier, decimal_keep (-18) (by norm_num) product (product_size.trans (by norm_num)),
      quantized_exact halfUp_rounds (product_size.trans (by norm_num))]
  · have moved := abs_quantize_le halfUp_nearest (referencePrice * exact.slippageMultiplier svc.slippageBps side)
    rw [decimalPlaces] at moved ⊢
    linarith

/-- A product of two numbers of eight places. -/
theorem product_exact {x y : ℚ} (hx : OnGrid decimalPlaces x) (hy : OnGrid decimalPlaces y)
    (small : |x * y| ≤ 10 ^ 11) : decimal.keep (x * y) = x * y :=
  decimal_keep (-16) (by norm_num) (product_onGrid hx hy)
    (small.trans (by norm_num))

theorem sum_exact {x : ℚ} (grid : OnGrid decimalPlaces x) (small : |x| ≤ 10 ^ 19) : decimal.keep x = x :=
  decimal_keep (-8) (by norm_num) (onGrid_iff.mp grid) (small.trans (by norm_num))

variable {fillPrice fillQuantity : ℚ}

theorem fee_exact (takerFee : OnGrid (1 / 100) svc.takerFeeBps ∧ |svc.takerFeeBps| ≤ 100)
    (quantity : OnGrid decimalPlaces fillQuantity) (price : OnGrid decimalPlaces fillPrice)
    (turnover : |fillQuantity * fillPrice| ≤ 10 ^ 8) :
    decimal.keep (decimal.keep (|fillQuantity * fillPrice| * svc.takerFeeBps) / 10000) =
        |fillQuantity * fillPrice| * svc.takerFeeBps / 10000 ∧
      |(|fillQuantity * fillPrice| * svc.takerFeeBps / 10000)| ≤ 10 ^ 6 := by
  obtain ⟨grid, small⟩ := takerFee
  have product : OnGrid ((10 : ℚ) ^ (-18 : ℤ)) (|fillQuantity * fillPrice| * svc.takerFeeBps) :=
    ((quantity.mul price).abs.mul grid).refine ⟨1, by norm_num [decimalPlaces]⟩
  have size : |(|fillQuantity * fillPrice| * svc.takerFeeBps)| ≤ 10 ^ 10 := by
    rw [abs_mul, abs_abs]
    calc _ ≤ 10 ^ 8 * 100 := mul_le_mul turnover small (abs_nonneg _) (by norm_num)
      _ = 10 ^ 10 := by norm_num
  have quotient : OnGrid ((10 : ℚ) ^ (-22 : ℤ)) (|fillQuantity * fillPrice| * svc.takerFeeBps / 10000) := by
    rw [div_eq_mul_one_div]
    exact (product.mul (⟨1, by norm_num⟩ : OnGrid (1 / 10000) (1 / 10000 : ℚ))).refine ⟨1, by norm_num⟩
  have quotient_size : |(|fillQuantity * fillPrice| * svc.takerFeeBps / 10000)| ≤ 10 ^ 6 := by
    rw [abs_div, abs_of_pos (by norm_num : (0 : ℚ) < 10000)]
    linarith
  rw [decimal_keep (-18) (by norm_num) product (size.trans (by norm_num)),
    decimal_keep (-22) (by norm_num) quotient (quotient_size.trans (by norm_num))]
  exact ⟨rfl, quotient_size⟩

/-- A quotient of the range is kept to the same eight places. -/
theorem quotient_exact {round : ℚ → ℤ} (rounds : Rounds round) {n d : ℚ}
    (numerator : OnGrid ((10 : ℚ) ^ (-17 : ℤ)) n) (divisor : OnGrid decimalPlaces d) (nonzero : d ≠ 0)
    (n_small : |n| ≤ 10 ^ 10) (d_small : |d| ≤ 10 ^ 20) :
    decimal.quantized round (decimal.keep (n / d)) = .ok (quantize round decimalPlaces (n / d)) := by
  obtain ⟨same, small⟩ := quotient_quantized rounds.nearest numerator divisor nonzero n_small d_small
  have fits : Fits (decimal.keep (n / d)) :=
    (fits_keep_iff _).mpr (small.trans_lt (by norm_num [decimalPlaces]))
  rw [rounds.quantized, if_pos fits, same]

variable {oldQuantity oldEntryPrice signedQuantity : ℚ}

/-- The numbers a fill settles with. -/
structure ShortSettling (oldQuantity oldEntryPrice signedQuantity fillPrice : ℚ) : Prop where
  held : OnGrid decimalPlaces oldQuantity ∧ |oldQuantity| ≤ 10 ^ 18
  filled : OnGrid decimalPlaces signedQuantity ∧ |signedQuantity| ≤ 2 * 10 ^ 18
  entry : OnGrid decimalPlaces oldEntryPrice ∧ |oldEntryPrice| ≤ 10 ^ 9
  price : OnGrid decimalPlaces fillPrice ∧ |fillPrice| ≤ 10 ^ 9
  cost : |oldQuantity * oldEntryPrice| ≤ 10 ^ 9
  turnover : |signedQuantity * fillPrice| ≤ 10 ^ 9

theorem weightedEntryPrice_exact (short : ShortSettling oldQuantity oldEntryPrice signedQuantity fillPrice) :
    decimal.weightedEntryPrice oldQuantity oldEntryPrice signedQuantity fillPrice =
      exact.weightedEntryPrice oldQuantity oldEntryPrice signedQuantity fillPrice := by
  have size_grid := short.held.1.abs.add short.filled.1.abs
  have size_small : |(|oldQuantity| + |signedQuantity|)| ≤ 10 ^ 19 := by
    rw [abs_of_nonneg (by positivity)]
    linarith [short.held.2, short.filled.2]
  have held := product_exact short.held.1.abs short.entry.1
    (show |(|oldQuantity| * oldEntryPrice)| ≤ 10 ^ 11 by
      rw [abs_mul, abs_abs, ← abs_mul]
      linarith [short.cost])
  have added := product_exact short.filled.1.abs short.price.1
    (show |(|signedQuantity| * fillPrice)| ≤ 10 ^ 11 by
      rw [abs_mul, abs_abs, ← abs_mul]
      linarith [short.turnover])
  have notional_grid : OnGrid ((10 : ℚ) ^ (-16 : ℤ))
      (|oldQuantity| * oldEntryPrice + |signedQuantity| * fillPrice) :=
    (product_onGrid short.held.1.abs short.entry.1).add (product_onGrid short.filled.1.abs short.price.1)
  have notional_small : |(|oldQuantity| * oldEntryPrice + |signedQuantity| * fillPrice)| ≤ 10 ^ 10 := by
    refine (abs_add_le _ _).trans ?_
    rw [abs_mul, abs_mul, abs_abs, abs_abs, ← abs_mul, ← abs_mul]
    linarith [short.cost, short.turnover]
  have notional := decimal_keep (-16) (by norm_num) notional_grid (notional_small.trans (by norm_num))
  rw [weightedEntryPrice, weightedEntryPrice, averagePrice, held, added, notional, sum_exact size_grid size_small]
  by_cases nothing : |oldQuantity| + |signedQuantity| = 0
  · rw [if_pos nothing, if_pos (show exact.keep (|oldQuantity| + |signedQuantity|) = 0 from nothing)]
  · rw [if_neg nothing, if_neg (show ¬ exact.keep (|oldQuantity| + |signedQuantity|) = 0 from nothing)]
    exact quotient_exact halfUp_rounds (notional_grid.refine ⟨10, by norm_num⟩) size_grid nothing
      notional_small (size_small.trans (by norm_num))

theorem reduced_exact (short : ShortSettling oldQuantity oldEntryPrice signedQuantity fillPrice) :
    decimal.reduced oldQuantity oldEntryPrice signedQuantity fillPrice =
      exact.reduced oldQuantity oldEntryPrice signedQuantity fillPrice := by
  have move_grid := short.price.1.sub short.entry.1
  have move_small : |fillPrice - oldEntryPrice| ≤ 10 ^ 19 := by
    refine (abs_sub _ _).trans ?_
    linarith [short.price.2, short.entry.2]
  have closed_grid : OnGrid decimalPlaces (min |oldQuantity| |signedQuantity|) := by
    rcases min_choice |oldQuantity| |signedQuantity| with same | same <;> rw [same]
    · exact short.held.1.abs
    · exact short.filled.1.abs
  have closed_nonneg : 0 ≤ min |oldQuantity| |signedQuantity| := le_min (abs_nonneg _) (abs_nonneg _)
  have gain_small : |((fillPrice - oldEntryPrice) * min |oldQuantity| |signedQuantity|)| ≤ 10 ^ 10 := by
    have bound := mul_le_mul_of_nonneg_right (abs_sub fillPrice oldEntryPrice) closed_nonneg
    have at_fill := mul_le_mul_of_nonneg_left (min_le_right |oldQuantity| |signedQuantity|) (abs_nonneg fillPrice)
    have at_entry := mul_le_mul_of_nonneg_left (min_le_left |oldQuantity| |signedQuantity|)
      (abs_nonneg oldEntryPrice)
    have turnover := short.turnover
    have cost := short.cost
    rw [abs_mul] at turnover cost
    rw [abs_mul, abs_of_nonneg closed_nonneg]
    linarith
  have gain := product_exact move_grid closed_grid (gain_small.trans (by norm_num))
  have signed : decimal.keep ((fillPrice - oldEntryPrice) * min |oldQuantity| |signedQuantity| *
      quantitySign oldQuantity) =
      (fillPrice - oldEntryPrice) * min |oldQuantity| |signedQuantity| * quantitySign oldQuantity := by
    rw [quantitySign]
    split_ifs
    · rw [mul_one, gain]
    · rw [mul_neg_one]
      exact (Context.keep_neg _).trans (congrArg Neg.neg gain)
    · rw [mul_zero]
      exact Context.keep_zero
  rw [reduced, reduced, sum_exact move_grid move_small, gain, signed]
  rfl

theorem settle_exact (short : ShortSettling oldQuantity oldEntryPrice signedQuantity fillPrice) :
    decimal.settle oldQuantity oldEntryPrice signedQuantity fillPrice =
      exact.settle oldQuantity oldEntryPrice signedQuantity fillPrice := by
  have grows : 0 < decimal.keep (oldQuantity * signedQuantity) ↔ 0 < exact.keep (oldQuantity * signedQuantity) :=
    keep_pos_iff (product_onGrid short.held.1 short.filled.1)
  rw [settle, settle, weightedEntryPrice_exact short, reduced_exact short]
  simp only [grows]

/-- The size bought at a price of the range. -/
theorem fillQuantity_exact (short : ShortFill svc position risk referencePrice)
    (price_grid : OnGrid decimalPlaces fillPrice) (price_small : |fillPrice| ≤ 10 ^ 9) (nonzero : fillPrice ≠ 0) :
    decimal.quantized halfEven (decimal.keep (risk.approvedNotional / fillPrice)) =
        .ok (quantizeHalfEven (risk.approvedNotional / fillPrice)) ∧
      |quantizeHalfEven (risk.approvedNotional / fillPrice)| ≤ 2 * 10 ^ 18 ∧
      |quantizeHalfEven (risk.approvedNotional / fillPrice) * fillPrice| ≤ 10 ^ 8 := by
  obtain ⟨grid, small⟩ := short.notional
  have numerator : |risk.approvedNotional| ≤ 10 ^ 10 := small.trans (by norm_num)
  have divisor : |fillPrice| ≤ 10 ^ 20 := price_small.trans (by norm_num)
  have size := (quotient_quantized halfEven_nearest grid price_grid nonzero numerator divisor).2
  refine ⟨quotient_exact halfEven_rounds grid price_grid nonzero numerator divisor, ?_, ?_⟩
  · have moved := abs_quantize_le halfEven_nearest (risk.approvedNotional / fillPrice)
    have place : decimalPlaces ≤ 1 := by norm_num [decimalPlaces]
    rw [quantizeHalfEven]
    linarith
  · -- The size is half a tick at most from the quotient, so the product is that close to the notional.
    have moved := quantize_error halfEven_nearest decimalPlaces_pos (risk.approvedNotional / fillPrice)
    have split : quantizeHalfEven (risk.approvedNotional / fillPrice) * fillPrice =
        (quantizeHalfEven (risk.approvedNotional / fillPrice) - risk.approvedNotional / fillPrice) * fillPrice +
          risk.approvedNotional := by
      rw [sub_mul, div_mul_cancel₀ _ nonzero]
      ring
    have scaled := mul_le_mul moved price_small (abs_nonneg _) (half_pos decimalPlaces_pos).le
    have half : decimalPlaces / 2 * 10 ^ 9 = 5 := by norm_num [decimalPlaces]
    rw [half] at scaled
    rw [split]
    refine (abs_add_le _ _).trans ?_
    rw [abs_mul, quantizeHalfEven]
    linarith

/-- Within the range every figure of a fill in decimals is the exact one. -/
theorem fillFigures_agree (short : ShortFill svc position risk referencePrice) :
    decimal.fillFigures svc position side risk referencePrice =
      exact.fillFigures svc position side risk referencePrice := by
  obtain ⟨slips, price_grid, price_small⟩ := applySlippage_exact side short
  rw [fillFigures, fillFigures, slips, exact_applySlippage]
  generalize svc.applySlippage referencePrice side = fillPrice at price_grid price_small
  simp only [bind, Except.bind]
  by_cases free : fillPrice = 0
  · simp only [divided, if_pos free]
  · obtain ⟨sized, quantity_small, turnover_small⟩ := fillQuantity_exact short price_grid price_small free
    simp only [divided, if_neg free, sized, exact_quantized]
    have quantity_grid : OnGrid decimalPlaces (quantizeHalfEven (risk.approvedNotional / fillPrice)) :=
      quantize_onGrid _ _ _
    have quantity_eq : quantize halfEven decimalPlaces (exact.keep (risk.approvedNotional / fillPrice)) =
        quantizeHalfEven (risk.approvedNotional / fillPrice) := rfl
    rw [quantity_eq]
    generalize quantizeHalfEven (risk.approvedNotional / fillPrice) = fillQuantity
      at quantity_small turnover_small quantity_grid
    have signed : ShortSettling position.quantity position.entryPrice
        (if side = .buy then fillQuantity else -fillQuantity) fillPrice := by
      refine ⟨short.quantity, ?_, short.entryPrice, ⟨price_grid, price_small⟩, short.cost, ?_⟩
      · split
        · exact ⟨quantity_grid, quantity_small⟩
        · exact ⟨quantity_grid.neg, by rwa [abs_neg]⟩
      · split
        · exact turnover_small.trans (by norm_num)
        · rw [neg_mul, abs_neg]
          exact turnover_small.trans (by norm_num)
    obtain ⟨charged, fee_small⟩ := fee_exact short.takerFee quantity_grid price_grid turnover_small
    have turnover := product_exact quantity_grid price_grid (turnover_small.trans (by norm_num))
    have total := sum_exact (short.quantity.1.add signed.filled.1) ((abs_add_le _ _).trans (by
      linarith [short.quantity.2, signed.filled.2]))
    rw [turnover, charged, quantized_exact halfUp_rounds (fee_small.trans (by norm_num)), total, settle_exact signed]
    rfl

end Figures

section Totals

variable {svc : PaperExecutionService}

/-- An amount of sixteen places, far below the number of digits before the point. -/
def Amount (q : ℚ) : Prop := OnGrid ((10 : ℚ) ^ (-16 : ℤ)) q ∧ |q| ≤ 10 ^ 10

theorem total_exact {q : ℚ} (grid : OnGrid ((10 : ℚ) ^ (-16 : ℤ)) q) (small : |q| ≤ 10 ^ 12) : decimal.keep q = q :=
  decimal_keep (-16) (by norm_num) grid (small.trans (by norm_num))

/-- The wallet is the exact sum of its books. -/
theorem walletTotal_agree (initial : Amount svc.initialBalance) (realized : Amount svc.realizedPnl)
    (funding : Amount svc.fundingPnl) (fees : Amount svc.feesPaid) :
    decimal.walletTotal svc = exact.walletTotal svc := by
  have traded := abs_add_le svc.initialBalance svc.realizedPnl
  have funded := abs_add_le (svc.initialBalance + svc.realizedPnl) svc.fundingPnl
  have charged := abs_sub (svc.initialBalance + svc.realizedPnl + svc.fundingPnl) svc.feesPaid
  have bounds := And.intro (And.intro initial.2 realized.2) (And.intro funding.2 fees.2)
  have first := initial.1.add realized.1
  have second := first.add funding.1
  rw [walletTotal, total_exact first (by linarith), total_exact second (by linarith),
    total_exact (second.sub fees.1) (by linarith)]
  rfl

/-- Amounts of a bounded total are summed exactly. -/
theorem sum_agree {values : List ℚ} (grid : ∀ value ∈ values, OnGrid ((10 : ℚ) ^ (-16 : ℤ)) value)
    (small : (values.map abs).sum ≤ 10 ^ 11) :
    decimal.sum values = values.sum ∧ OnGrid ((10 : ℚ) ^ (-16 : ℤ)) values.sum ∧ |values.sum| ≤ 10 ^ 11 := by
  have fold (rest : List ℚ) : ∀ total : ℚ, OnGrid ((10 : ℚ) ^ (-16 : ℤ)) total →
      (∀ value ∈ rest, OnGrid ((10 : ℚ) ^ (-16 : ℤ)) value) → |total| + (rest.map abs).sum ≤ 10 ^ 11 →
      rest.foldl (fun total value => decimal.keep (total + value)) total = total + rest.sum ∧
        OnGrid ((10 : ℚ) ^ (-16 : ℤ)) (total + rest.sum) ∧ |total + rest.sum| ≤ 10 ^ 11 := by
    induction rest with
    | nil =>
        intro total whole _ bound
        rw [List.sum_nil, add_zero]
        exact ⟨rfl, whole, by simpa using bound⟩
    | cons value rest ih =>
        intro total whole listed bound
        rw [List.map_cons, List.sum_cons] at bound
        have remaining : 0 ≤ (rest.map abs).sum :=
          List.sum_nonneg fun _ member => by
            obtain ⟨other, -, rfl⟩ := List.mem_map.mp member
            exact abs_nonneg other
        have added := abs_add_le total value
        have next := whole.add (listed value List.mem_cons_self)
        rw [List.foldl_cons, total_exact next (by linarith), List.sum_cons, ← add_assoc]
        exact ih (total + value) next (fun other member => listed other (List.mem_cons_of_mem value member))
          (by linarith)
  simpa [sum] using fold values 0 (onGrid_zero _) grid (by simpa using small)

/-- Equity is exact where wallets and open profits are amounts of a bounded total. -/
theorem totalEquity_agree {state : AccountState}
    (wallets : ∀ balance ∈ state.balances.values, OnGrid ((10 : ℚ) ^ (-16 : ℤ)) balance.walletBalance)
    (profits : ∀ position ∈ state.positions.values, OnGrid ((10 : ℚ) ^ (-16 : ℤ)) position.unrealizedPnl)
    (wallets_small : ((state.balances.values.map BalanceState.walletBalance).map abs).sum ≤ 10 ^ 11)
    (profits_small : (((state.positions.values.filter PositionState.isOpen).map
      PositionState.unrealizedPnl).map abs).sum ≤ 10 ^ 11) :
    decimal.totalEquity state = exact.totalEquity state := by
  obtain ⟨cash, cash_grid, cash_small⟩ := sum_agree (by
    intro value member
    obtain ⟨balance, stored, rfl⟩ := List.mem_map.mp member
    exact wallets balance stored) wallets_small
  obtain ⟨gain, gain_grid, gain_small⟩ := sum_agree (by
    intro value member
    obtain ⟨position, stored, rfl⟩ := List.mem_map.mp member
    exact profits position (List.mem_filter.mp stored).1) profits_small
  rw [totalEquity, totalEquity, cash, gain, exact_sum, exact_sum,
    total_exact (cash_grid.add gain_grid) ((abs_add_le _ _).trans (by linarith))]
  rfl

end Totals

end CatsPy.PaperArithmetic
