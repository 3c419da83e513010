import CatsPy.PaperCycles
import CatsPy.UserStream

/-!
# NOFX features

The feature a cycle builds for one symbol from the coin, funding and heatmap
payloads. The derived scores keep their defaults here; the engine fills them in
when it decides.
-/
namespace CatsPy
open PythonValues StateRuns

section Normalizers

/-- AI500 scores taken when the payload gives zero. -/
def mainstreamAiDefaults : OrderedDict String ℚ :=
  .ofList [("BTCUSDT", 75), ("ETHUSDT", 75), ("SOLUSDT", 70), ("BNBUSDT", 65), ("XRPUSDT", 60),
    ("DOGEUSDT", 55), ("LINKUSDT", 60)]

def toRatio (value : PyValue) (alreadyPercentLiteral : Bool) : Except PyError ℚ :=
  match value with
  | .none => .ok 0
  | value => do
      let result ← toFloat value
      return if alreadyPercentLiteral then result / 100 else result

/-- `float(mapping.get(key, 0.0) or 0.0)`. -/
def floatOrZero (mapping : PyValue) (key : String) : Except PyError ℚ := do
  let value ← mapping.get key (.float 0)
  toFloat (value.or (.float 0))

/-- `value.get(first, {}).get(second, {})...` -/
def getPath (value : PyValue) (keys : List String) : Except PyError PyValue :=
  keys.foldlM (fun inner key => inner.get key (.dict [])) value

def normalizeTimestamp (ts : PyValue) (now : Datetime) : Except PyError Datetime := toDatetime ts now

def latestAvailableTimestamp (timestamps : List PyValue) (now : Datetime) : Except PyError Datetime := do
  let present := timestamps.filter fun ts => match ts with
    | .none => false
    | _ => true
  let normalized ← present.mapM fun ts => normalizeTimestamp ts now
  return normalized.max?.getD now

def referencePriceKeys : List String :=
  ["price", "mark_price", "markPrice", "last_price", "lastPrice", "close", "close_price"]

/-- The first key whose value reads as a number; `data` is known to be a dict. -/
def extractReferencePrice (data : PyValue) : ℚ :=
  (referencePriceKeys.findSome? fun key => match data.item key with
    | .none => none
    | value => (toFloat value).toOption).getD 0

def normalizeCoinSnapshot (symbol : String) (coinPayload fundingPayload heatmapPayload : PyValue)
    (queryRank : Option ℤ) (ai300LevelScore : ℚ) (now : Datetime) : Except PyError FeatureVector := do
  let data ← coinPayload.get "data" (.dict [])
  let priceChange ← data.get "price_change" (.dict [])
  let netflow ← data.get "netflow" (.dict [])
  let institutionFuture ← getPath netflow ["institution", "future"]
  let personalFuture ← getPath netflow ["personal", "future"]
  let oi ← data.get "oi" (.dict [])
  let binance ← getPath oi ["binance", "delta", "1h"]
  let bybit ← getPath oi ["bybit", "delta", "1h"]
  let fundingData ← (fundingPayload.or (.dict [])).get "data" (.dict [])
  let heatmapData ← getPath (heatmapPayload.or (.dict [])) ["data", "heatmap"]
  let ai500 ← data.get "ai500" (.dict [])
  let ts ← latestAvailableTimestamp
    [← data.get "timestamp", ← fundingData.get "timestamp", ← heatmapData.get "timestamp"] now
  let scored ← floatOrZero ai500 "score"
  let ai500Score := if scored = 0 then mainstreamAiDefaults.getD symbol scored else scored
  let priceChange15m ← toRatio (← priceChange.get "15m") false
  let priceChange1h ← toRatio (← priceChange.get "1h") false
  let priceChange4h ← toRatio (← priceChange.get "4h") false
  let instFutureFlow15m ← floatOrZero institutionFuture "15m"
  let instFutureFlow1h ← floatOrZero institutionFuture "1h"
  let instFutureFlow4h ← floatOrZero institutionFuture "4h"
  let retailFutureFlow1h ← floatOrZero personalFuture "1h"
  let oiBinance1h ← toRatio (← binance.get "oi_delta_percent") true
  let oiBybit1h ← toRatio (← bybit.get "oi_delta_percent") true
  let fundingRate ← toRatio (← fundingData.get "funding_rate") true
  let heatmapDelta ← floatOrZero heatmapData "delta"
  return { symbol, ts, referencePrice := extractReferencePrice data, ai500Score, ai300LevelScore,
           priceChange15m, priceChange1h, priceChange4h,
           instFutureFlow15m, instFutureFlow1h, instFutureFlow4h, retailFutureFlow1h,
           oiBinance1h, oiBybit1h, fundingRate, heatmapDelta, queryRank, staleSeconds := 0 }

theorem normalizeCoinSnapshot_unscored {symbol : String} {coin funding heatmap : PyValue}
    {queryRank : Option ℤ} {level : ℚ} {now : Datetime} {feature : FeatureVector}
    (built : normalizeCoinSnapshot symbol coin funding heatmap queryRank level now = .ok feature) :
    feature.symbol = symbol ∧ feature.trendScore = 0 ∧ feature.flowScore = 0 := by
  unfold normalizeCoinSnapshot at built
  repeat obtain ⟨_, -, built⟩ := bind_ok built
  cases built
  exact ⟨rfl, rfl, rfl⟩

end Normalizers

section Fetching

structure CachedPayload where
  payload : PyValue
  fetchedAt : Datetime

/-- What the three cached requests for one symbol returned, and the clock the
normalizer reads when no payload carries a timestamp. -/
structure SymbolResponses where
  coin : Except PyError CachedPayload
  funding : Except PyError CachedPayload
  heatmap : Except PyError CachedPayload
  normalizedAt : Datetime

/-- `DecisionRuntimeService._build_feature`. -/
def buildFeature (input : CycleInput) (responses : SymbolResponses) (symbol : String) :
    Except PyError FeatureVector := do
  let coin ← responses.coin
  let funding ← responses.funding
  let heatmap ← responses.heatmap
  let feature ← normalizeCoinSnapshot symbol coin.payload funding.payload heatmap.payload
    (input.queryRankMap.get? symbol) (input.ai300LevelMap.getD symbol 0) responses.normalizedAt
  let fetchedTs := max (max coin.fetchedAt funding.fetchedAt) heatmap.fetchedAt
  return { feature with
    sourceTs := some feature.ts
    ts := fetchedTs
    staleSeconds := max (totalSeconds input.startedAt fetchedTs) 0
    sourceLagSeconds := max (totalSeconds input.startedAt feature.ts) 0 }

theorem buildFeature_unscored {input : CycleInput} {responses : SymbolResponses} {symbol : String}
    {feature : FeatureVector} (built : buildFeature input responses symbol = .ok feature) :
    feature.symbol = symbol ∧ feature.trendScore = 0 ∧ feature.flowScore = 0 := by
  obtain ⟨coin, -, built⟩ := bind_ok built
  obtain ⟨funding, -, built⟩ := bind_ok built
  obtain ⟨heatmap, -, built⟩ := bind_ok built
  obtain ⟨normalized, snapshot, built⟩ := bind_ok built
  have unscored := normalizeCoinSnapshot_unscored snapshot
  cases built
  exact unscored

/-- What a failed build records; the texts of the exception are an argument. -/
def fetchSymbolFeature (input : CycleInput) (responses : SymbolResponses)
    (describe : PyError → FetchFailure) (symbol : String) : Except FetchFailure FeatureVector :=
  (buildFeature input responses symbol).mapError describe

theorem fetchSymbolFeature_unscored {input : CycleInput} {responses : SymbolResponses}
    {describe : PyError → FetchFailure} {symbol : String} {feature : FeatureVector}
    (fetched : fetchSymbolFeature input responses describe symbol = .ok feature) :
    feature.symbol = symbol ∧ feature.trendScore = 0 ∧ feature.flowScore = 0 := by
  unfold fetchSymbolFeature at fetched
  cases built : buildFeature input responses symbol with
  | error error =>
      rw [built] at fetched
      cases fetched
  | ok normalized =>
      rw [built] at fetched
      cases fetched
      exact buildFeature_unscored built

/-- The cycle whose features are built from the responses to its requests. -/
def CycleInput.fed (input : CycleInput) (responses : ℕ → String → SymbolResponses)
    (describe : PyError → FetchFailure) : CycleInput :=
  { input with
    built := fun i symbol => fetchSymbolFeature input (responses i symbol) describe symbol
    aligned := fun _ _ _ fetched => (fetchSymbolFeature_unscored fetched).1 }

/-- No feature has a trend or a flow score before the engine decides. -/
theorem fed_unscored {service : DecisionRuntimeService} {input : CycleInput}
    {responses : ℕ → String → SymbolResponses} {describe : PyError → FetchFailure} {symbol : String}
    {feature : FeatureVector}
    (collected : (service.builtFeatures (input.fed responses describe)).get? symbol = some feature) :
    feature.symbol = symbol ∧ feature.trendScore = 0 ∧ feature.flowScore = 0 := by
  obtain ⟨i, fetched⟩ := DecisionRuntimeService.collectFeatures_built collected
  exact fetchSymbolFeature_unscored fetched

end Fetching

end CatsPy
