import CatsPy.JsonlFiles
import CatsPy.PayloadFreshness
import CatsPy.UniverseSymbols

/-!
# The NOFX collector

One run of the collector: the coin lists, and for each of the first symbols the
raw answers and the feature made of them, all appended to the journal. The raw
streams keep in step, and the features can be made again from what is read back.
-/
namespace CatsPy
open PythonValues StateRuns JsonText StreamFiles

/-- A GET of the NOFX client, its key apart. -/
structure NofxCall where
  path : String
  params : OrderedDict String PyValue := .empty

namespace NofxClient

/-- `{"limit": limit} if limit is not None else None`. -/
def limitParams (limit : Option ℤ) : OrderedDict String PyValue :=
  .ofList (limit.map fun n => ("limit", PyValue.int n)).toList

def ai500List (limit : Option ℤ := none) : NofxCall := ⟨"/api/ai500/list", limitParams limit⟩

def ai300List (limit : Option ℤ := none) : NofxCall := ⟨"/api/ai300/list", limitParams limit⟩

def coin (symbol : String) (included : Option String := none) : NofxCall :=
  ⟨"/api/coin/" ++ symbol, .ofList ((included.filter (· ≠ "")).map fun text => ("include", PyValue.str text)).toList⟩

def fundingRate (symbol : String) : NofxCall := ⟨"/api/funding-rate/" ++ symbol, .empty⟩

def heatmapFuture (symbol : String) : NofxCall := ⟨"/api/heatmap/future/" ++ symbol, .empty⟩

def queryRank (limit : ℤ := 20) : NofxCall := ⟨"/api/query-rank/list", .ofList [("limit", .int limit)]⟩

/-- `get_json`, from where its request was answered. -/
def getJson (response : Except PyError PyValue) : Except PyError PyValue := do
  let payload ← response
  if isDict payload then .ok payload else .error ⟨.typeError, "NOFX response must be a dict"⟩

end NofxClient

/-- The items of `asdict(feature)`; the model's features do not carry `raw`. -/
def FeatureVector.asDict (feature : FeatureVector) (raw : PyValue) : List (String × PyValue) :=
  [("symbol", .str feature.symbol), ("ts", .str (isoformat feature.ts)),
    ("source_ts", ofOptional (feature.sourceTs.map isoformat)),
    ("reference_price", .float feature.referencePrice), ("ai500_score", .float feature.ai500Score),
    ("ai300_level_score", .float feature.ai300LevelScore),
    ("price_change_15m", .float feature.priceChange15m), ("price_change_1h", .float feature.priceChange1h),
    ("price_change_4h", .float feature.priceChange4h),
    ("inst_future_flow_15m", .float feature.instFutureFlow15m),
    ("inst_future_flow_1h", .float feature.instFutureFlow1h),
    ("inst_future_flow_4h", .float feature.instFutureFlow4h),
    ("retail_future_flow_1h", .float feature.retailFutureFlow1h), ("oi_binance_1h", .float feature.oiBinance1h),
    ("oi_bybit_1h", .float feature.oiBybit1h), ("funding_rate", .float feature.fundingRate),
    ("heatmap_delta", .float feature.heatmapDelta),
    ("query_rank", (feature.queryRank.map PyValue.int).getD .none),
    ("stale_seconds", .float feature.staleSeconds), ("source_lag_seconds", .float feature.sourceLagSeconds),
    ("trend_score", .float feature.trendScore), ("flow_score", .float feature.flowScore),
    ("oi_score", .float feature.oiScore), ("crowding_score", .float feature.crowdingScore),
    ("source_freshness", .float feature.sourceFreshness), ("raw", raw)]

/-- What a run is answered and the clock readings it takes; `i` counts the symbols. -/
structure CollectorRun where
  response : ℕ → NofxCall → Except PyError PyValue
  listedAt : String → Datetime
  fetchedAt : ℕ → Datetime
  normalizedAt : ℕ → Datetime
  writtenAt : ℕ → Datetime

/-- The envelope of `append_snapshot`. -/
def snapshotEnvelope (payload : PyValue) (source endpoint : String) (params : PyValue) (fetchedAt : Datetime)
    (tags : PyValue := .none) (status : String := "ok") (latencyMs : PyValue := .none) : PyValue :=
  .dict [("fetched_at", .str (isoformat fetchedAt)), ("source", .str source), ("endpoint", .str endpoint),
    ("params", params.or (.dict [])), ("status", .str status), ("latency_ms", latencyMs),
    ("tags", tags.or (.dict [])), ("payload", jsonReady payload)]

/-- What a stretch of the run appends, and whether it raised at its end. -/
abbrev Journaled := List (String × PyValue) × Except PyError Unit

namespace CollectorRun
open NofxClient

/-- The three payloads of a symbol. -/
structure Fetched where
  coin : PyValue
  funding : PyValue
  heatmap : PyValue

variable (run : CollectorRun)

def fetch (i : ℕ) (symbol : String) : Except PyError Fetched := do
  let coin ← getJson (run.response i (NofxClient.coin symbol))
  let funding ← getJson (run.response i (fundingRate (baseSymbol symbol)))
  let heatmap ← getJson (run.response i (heatmapFuture (baseSymbol symbol)))
  return ⟨coin, funding, heatmap⟩

def symbolSnapshot (i : ℕ) (symbol : String) (payload : PyValue) (endpoint : String) : PyValue :=
  snapshotEnvelope payload "nofx" endpoint (.dict []) (run.fetchedAt i) (.dict [("symbol", .str symbol)])

def rawWrites (i : ℕ) (symbol : String) (fetched : Fetched) : List (String × PyValue) :=
  [("nofx_coin_raw", run.symbolSnapshot i symbol fetched.coin ("/api/coin/" ++ symbol)),
    ("nofx_funding_raw", run.symbolSnapshot i symbol fetched.funding ("/api/funding-rate/" ++ baseSymbol symbol)),
    ("nofx_heatmap_raw",
      run.symbolSnapshot i symbol fetched.heatmap ("/api/heatmap/future/" ++ baseSymbol symbol))]

/-- The `raw` field of a feature. -/
def rawField (fetched : Fetched) : PyValue :=
  .dict [("coin", fetched.coin), ("funding", fetched.funding.or (.dict [])), ("heatmap", fetched.heatmap.or (.dict []))]

def normalizedWrite (i : ℕ) (feature : FeatureVector) (fetched : Fetched) : String × PyValue :=
  ("nofx_normalized", .dict [("ts", .str (isoformat (run.writtenAt i))),
    ("payload", jsonReady (.dict (feature.asDict (rawField fetched))))])

/-- The maps of a run, made of its lists. -/
structure Maps where
  queryRanks : OrderedDict String ℤ
  ai300Levels : OrderedDict String ℚ

def normalize (maps : Maps) (symbol : String) (fetched : Fetched) (now : Datetime) : Except PyError FeatureVector :=
  normalizeCoinSnapshot symbol fetched.coin fetched.funding fetched.heatmap (maps.queryRanks.get? symbol)
    (maps.ai300Levels.getD symbol 0) now

/-- The loop over the symbols; a raise ends it, after the raw answers were kept. -/
def collectSymbols (maps : Maps) : List (String × ℕ) → Journaled
  | [] => ([], .ok ())
  | (symbol, i) :: rest =>
      match run.fetch i symbol with
      | .error error => ([], .error error)
      | .ok fetched =>
          match normalize maps symbol fetched (run.normalizedAt i) with
          | .error error => (run.rawWrites i symbol fetched, .error error)
          | .ok feature =>
              let later := collectSymbols maps rest
              (run.rawWrites i symbol fetched ++ run.normalizedWrite i feature fetched :: later.1, later.2)

/-- The three lists the run begins with. -/
structure Lists where
  ai500 : PyValue
  ai300 : PyValue
  queryRank : PyValue

def fetchLists : Except PyError Lists := do
  let ai500 ← getJson (run.response 0 (ai500List (some 20)))
  let ai300 ← getJson (run.response 0 (ai300List (some 20)))
  let queryRank ← getJson (run.response 0 (NofxClient.queryRank 20))
  return ⟨ai500, ai300, queryRank⟩

def listSnapshot (stream endpoint : String) (payload : PyValue) : String × PyValue :=
  (stream, snapshotEnvelope payload "nofx" endpoint (.dict [("limit", .int 20)]) (run.listedAt stream))

def listWrites (lists : Lists) : List (String × PyValue) :=
  [run.listSnapshot "nofx_ai500" "/api/ai500/list" lists.ai500,
    run.listSnapshot "nofx_ai300" "/api/ai300/list" lists.ai300,
    run.listSnapshot "nofx_query_rank" "/api/query-rank/list" lists.queryRank]

def mapsOf (queryRank ai300 : PyValue) : Except PyError Maps := do
  let queryRanks ← buildQueryRankMap queryRank
  let ai300Levels ← buildAi300LevelMap ai300
  return ⟨queryRanks, ai300Levels⟩

/-- The symbols the loop goes over, with the maps. -/
def plan (lists : Lists) : Except PyError (Maps × List String) := do
  let maps ← mapsOf lists.queryRank lists.ai300
  let symbols ← UniverseBuilder.build lists.ai500 lists.ai300
  return (maps, symbols.take 10)

/-- `main`: what a run appends, and how it ends; the client is closed if it returns. -/
def collect : Journaled :=
  match run.fetchLists with
  | .error error => ([], .error error)
  | .ok lists =>
      match plan lists with
      | .error error => (run.listWrites lists, .error error)
      | .ok (maps, symbols) =>
          let later := run.collectSymbols maps symbols.zipIdx
          (run.listWrites lists ++ later.1, later.2)

section Loop

variable {run} {maps : Maps}

/-- The loop by the way each symbol goes: not fetched, fetched but not
normalized, or collected. -/
inductive Collects (run : CollectorRun) (maps : Maps) :
    List (String × ℕ) → List (String × PyValue) → Except PyError Unit → Prop
  | done : Collects run maps [] [] (.ok ())
  | unfetched {symbol i rest error} (raised : run.fetch i symbol = .error error) :
      Collects run maps ((symbol, i) :: rest) [] (.error error)
  | unnormalized {symbol i rest fetched error} (answered : run.fetch i symbol = .ok fetched)
      (raised : normalize maps symbol fetched (run.normalizedAt i) = .error error) :
      Collects run maps ((symbol, i) :: rest) (run.rawWrites i symbol fetched) (.error error)
  | collected {symbol i rest fetched feature writes outcome} (answered : run.fetch i symbol = .ok fetched)
      (normalized : normalize maps symbol fetched (run.normalizedAt i) = .ok feature)
      (later : Collects run maps rest writes outcome) :
      Collects run maps ((symbol, i) :: rest)
        (run.rawWrites i symbol fetched ++ run.normalizedWrite i feature fetched :: writes) outcome

theorem collectSymbols_collects (items : List (String × ℕ)) :
    Collects run maps items (run.collectSymbols maps items).1 (run.collectSymbols maps items).2 := by
  induction items with
  | nil => exact .done
  | cons item rest ih =>
      obtain ⟨symbol, i⟩ := item
      rw [collectSymbols]
      cases answered : run.fetch i symbol with
      | error error => exact .unfetched answered
      | ok fetched =>
          dsimp only
          cases normalized : normalize maps symbol fetched (run.normalizedAt i) with
          | error error => exact .unnormalized answered normalized
          | ok feature => exact .collected answered normalized ih

def symbolStreams : List String := ["nofx_coin_raw", "nofx_funding_raw", "nofx_heatmap_raw"]

/-- The symbol a raw snapshot is tagged with. -/
def symbolTag (record : PyValue) : PyValue := (record.item "tags").item "symbol"

def featureSymbol (record : PyValue) : PyValue := (record.item "payload").item "symbol"

theorem rawWrites_tags (i : ℕ) (symbol : String) (fetched : Fetched) : ∀ stream ∈ symbolStreams,
    (written (run.rawWrites i symbol fetched) stream).map symbolTag = [.str symbol] := by
  intro stream listed
  simp only [symbolStreams, List.mem_cons, List.not_mem_nil, or_false] at listed
  rcases listed with rfl | rfl | rfl <;> rfl

theorem asDict_nodup (feature : FeatureVector) (raw : PyValue) : ((feature.asDict raw).map Prod.fst).Nodup := by
  simp only [FeatureVector.asDict, List.map_cons, List.map_nil]
  decide

theorem normalizedWrite_symbol (i : ℕ) (feature : FeatureVector) (fetched : Fetched) :
    featureSymbol (run.normalizedWrite i feature fetched).2 = .str feature.symbol := by
  have ready : jsonReady (.dict (feature.asDict (rawField fetched))) =
      .dict (jsonReadyEntries (feature.asDict (rawField fetched))) := by
    rw [jsonReady, OrderedDict.entries_ofList]
    rw [jsonReadyEntries_keys]
    exact asDict_nodup feature _
  rw [normalizedWrite, ready]
  rfl

theorem written_collected (i : ℕ) (symbol : String) (feature : FeatureVector) (fetched : Fetched)
    (writes : List (String × PyValue)) (stream : String) :
    written (run.rawWrites i symbol fetched ++ run.normalizedWrite i feature fetched :: writes) stream =
      written (run.rawWrites i symbol fetched) stream ++
        ((if "nofx_normalized" = stream then [(run.normalizedWrite i feature fetched).2] else []) ++
          written writes stream) := by
  rw [written_append, written_cons]
  rfl

/-- The raw streams of a run list the same symbols, the first of the plan in
order, and the features are there for all of them or all but the last. -/
theorem Collects.aligned {items : List (String × ℕ)} {writes : List (String × PyValue)}
    {outcome : Except PyError Unit} (collects : Collects run maps items writes outcome) :
    ∃ kept normalized, normalized ≤ kept ∧ kept ≤ normalized + 1 ∧ kept ≤ items.length ∧
      (∀ stream ∈ symbolStreams,
        (written writes stream).map symbolTag = (items.take kept).map fun item => .str item.1) ∧
      (written writes "nofx_normalized").map featureSymbol = (items.take normalized).map (fun item => .str item.1) ∧
      (outcome.isOk = true ↔ normalized = items.length) := by
  induction collects with
  | done => exact ⟨0, 0, le_rfl, by simp, le_rfl, by simp [written], rfl, by simp [Except.isOk, Except.toBool]⟩
  | unfetched raised =>
      exact ⟨0, 0, le_rfl, by simp, by simp, by simp [written], rfl, by simp [Except.isOk, Except.toBool]⟩
  | unnormalized answered raised =>
      refine ⟨1, 0, by simp, by simp, by simp, fun stream listed => ?_, rfl, by simp [Except.isOk, Except.toBool]⟩
      rw [rawWrites_tags _ _ _ stream listed]
      rfl
  | @collected symbol i rest fetched feature writes outcome answered normalized later ih =>
      obtain ⟨kept, done, ordered, close, within, tags, features, returned⟩ := ih
      have named : feature.symbol = symbol := (normalizeCoinSnapshot_unscored normalized).1
      refine ⟨kept + 1, done + 1, by omega, by omega, by simpa using within, fun stream listed => ?_, ?_, ?_⟩
      · have apart : "nofx_normalized" ≠ stream := by
          rintro rfl
          exact absurd listed (by decide)
        rw [written_collected, if_neg apart, List.nil_append, List.map_append, rawWrites_tags _ _ _ stream listed,
          tags stream listed]
        rfl
      · rw [written_collected, if_pos rfl, List.map_append, List.map_append, features, List.map_singleton,
          normalizedWrite_symbol, named]
        rfl
      · rw [returned]
        simp

theorem listWrites_apart (lists : Lists) : ∀ stream ∈ "nofx_normalized" :: symbolStreams,
    written (run.listWrites lists) stream = [] := by
  intro stream listed
  simp only [symbolStreams, List.mem_cons, List.not_mem_nil, or_false] at listed
  rcases listed with rfl | rfl | rfl | rfl <;> rfl

/-- The symbols a run goes over, if it gets to them. -/
def planned (run : CollectorRun) : List String := ((run.fetchLists >>= plan).toOption.map Prod.snd).getD []

/-- A run raises before it gets to a symbol, or it goes over the planned ones. -/
theorem collect_cases (run : CollectorRun) :
    ((run.fetchLists >>= plan).isOk = false ∧ run.planned = [] ∧ run.collect.2.isOk = false ∧
        ∀ stream ∈ "nofx_normalized" :: symbolStreams, written run.collect.1 stream = []) ∨
      ∃ lists maps symbols, run.fetchLists = .ok lists ∧ plan lists = .ok (maps, symbols) ∧ run.planned = symbols ∧
        run.collect = (run.listWrites lists ++ (run.collectSymbols maps symbols.zipIdx).1,
          (run.collectSymbols maps symbols.zipIdx).2) := by
  unfold planned collect
  cases run.fetchLists with
  | error error => exact .inl ⟨rfl, rfl, rfl, fun _ _ => rfl⟩
  | ok lists =>
      have bound : (Except.ok lists >>= plan) = plan lists := rfl
      rw [bound]
      cases planned : plan lists with
      | error error =>
          refine .inl ⟨rfl, rfl, ?_, ?_⟩
          · simp [planned, Except.isOk, Except.toBool]
          · simpa [planned] using run.listWrites_apart lists
      | ok both => exact .inr ⟨lists, both.1, both.2, rfl, planned, rfl, by simp [planned]⟩

/-- However a run ends, the three raw streams gain the snapshots of the same symbols,
the first of the plan and in its order, and the feature stream gains the features of
these or of all but the last; it returns exactly if it got to the features of all. -/
theorem symbol_streams_align (run : CollectorRun) :
    ∃ kept normalized, normalized ≤ kept ∧ kept ≤ normalized + 1 ∧ kept ≤ run.planned.length ∧
      (∀ stream ∈ symbolStreams,
        (written run.collect.1 stream).map symbolTag = (run.planned.take kept).map PyValue.str) ∧
      (written run.collect.1 "nofx_normalized").map featureSymbol = (run.planned.take normalized).map PyValue.str ∧
      (run.collect.2.isOk = true ↔ (run.fetchLists >>= plan).isOk = true ∧ normalized = run.planned.length) := by
  rcases run.collect_cases with ⟨unplanned, none, raised, apart⟩ | ⟨lists, maps, symbols, answered, planned, same, ran⟩
  · rw [none, raised, unplanned, apart _ List.mem_cons_self]
    refine ⟨0, 0, le_rfl, Nat.zero_le _, le_rfl, fun stream listed => ?_, rfl, by simp⟩
    rw [apart stream (List.mem_cons_of_mem _ listed)]
    rfl
  · have apart := run.listWrites_apart lists
    have loop : Collects run maps symbols.zipIdx _ _ := collectSymbols_collects _
    have firsts : symbols.zipIdx.map (fun item => PyValue.str item.1) = symbols.map PyValue.str :=
      List.map_map.symm.trans (congrArg (List.map PyValue.str) (List.zipIdx_map_fst 0 symbols))
    obtain ⟨kept, done, ordered, close, within, tags, features, returned⟩ := loop.aligned
    simp only [List.map_take, firsts, List.length_zipIdx] at within tags features returned ⊢
    rw [same, ran, answered]
    refine ⟨kept, done, ordered, close, within, fun stream listed => ?_, ?_, ?_⟩
    · rw [written_append, apart stream (List.mem_cons_of_mem _ listed), List.nil_append, tags stream listed]
    · rw [written_append, apart _ List.mem_cons_self, List.nil_append, features]
    · have bound : (Except.ok lists >>= plan) = .ok (maps, symbols) := planned
      rw [bound, returned]
      simp [Except.isOk, Except.toBool]

end Loop

section Rebuilding

variable {run} {maps : Maps} {codec : FloatText}

/-- The payloads of three raw snapshots. -/
def ofRecords (coin funding heatmap : PyValue) : Fetched :=
  ⟨coin.item "payload", funding.item "payload", heatmap.item "payload"⟩

/-- The feature made from records of the journal alone, but for the clock. -/
def rebuild (queryRank ai300 coin funding heatmap : PyValue) (now : Datetime) : Except PyError FeatureVector := do
  let maps ← mapsOf (queryRank.item "payload") (ai300.item "payload")
  normalize maps ((asText (symbolTag coin)).getD "") (ofRecords coin funding heatmap) now

/-- Every answer a run gets is decoded JSON. -/
def AnswersJson (codec : FloatText) (run : CollectorRun) : Prop :=
  ∀ i call payload, run.response i call = .ok payload → Dumpable codec payload

theorem AnswersJson.getJson (json : AnswersJson codec run) {i : ℕ} {call : NofxCall} {payload : PyValue}
    (answered : NofxClient.getJson (run.response i call) = .ok payload) : Dumpable codec payload := by
  obtain ⟨value, response, answered⟩ := bind_ok answered
  split at answered
  · cases answered
    exact json i call payload response
  · cases answered

theorem AnswersJson.fetch (json : AnswersJson codec run) {i : ℕ} {symbol : String} {fetched : Fetched}
    (answered : run.fetch i symbol = .ok fetched) :
    Dumpable codec fetched.coin ∧ Dumpable codec fetched.funding ∧ Dumpable codec fetched.heatmap := by
  obtain ⟨coin, first, answered⟩ := bind_ok answered
  obtain ⟨funding, second, answered⟩ := bind_ok answered
  obtain ⟨heatmap, third, answered⟩ := bind_ok answered
  cases answered
  exact ⟨json.getJson first, json.getJson second, json.getJson third⟩

theorem AnswersJson.fetchLists (json : AnswersJson codec run) {lists : Lists}
    (answered : run.fetchLists = .ok lists) :
    Dumpable codec lists.ai500 ∧ Dumpable codec lists.ai300 ∧ Dumpable codec lists.queryRank := by
  obtain ⟨ai500, first, answered⟩ := bind_ok answered
  obtain ⟨ai300, second, answered⟩ := bind_ok answered
  obtain ⟨queryRank, third, answered⟩ := bind_ok answered
  cases answered
  exact ⟨json.getJson first, json.getJson second, json.getJson third⟩

theorem symbolSnapshot_record {payload : PyValue} (ready : Dumpable codec payload) (i : ℕ)
    (symbol endpoint : String) : IsRecord codec (run.symbolSnapshot i symbol payload endpoint) ∧
      (run.symbolSnapshot i symbol payload endpoint).item "payload" = payload := by
  have same := jsonReady_of_dumpable payload ready
  have envelope : run.symbolSnapshot i symbol payload endpoint =
      .dict [("fetched_at", .str (isoformat (run.fetchedAt i))), ("source", .str "nofx"),
        ("endpoint", .str endpoint), ("params", .dict []), ("status", .str "ok"), ("latency_ms", .none),
        ("tags", .dict [("symbol", .str symbol)]), ("payload", payload)] := by
    rw [symbolSnapshot, snapshotEnvelope, same]
    rfl
  rw [envelope]
  refine ⟨⟨rfl, by simp, ?_⟩, rfl⟩
  simp [DumpableEntries, Dumpable, ready]

theorem listSnapshot_record {payload : PyValue} (ready : Dumpable codec payload) (stream endpoint : String) :
    IsRecord codec (run.listSnapshot stream endpoint payload).2 ∧
      (run.listSnapshot stream endpoint payload).2.item "payload" = payload := by
  have same := jsonReady_of_dumpable payload ready
  have envelope : (run.listSnapshot stream endpoint payload).2 =
      .dict [("fetched_at", .str (isoformat (run.listedAt stream))), ("source", .str "nofx"),
        ("endpoint", .str endpoint), ("params", .dict [("limit", .int 20)]), ("status", .str "ok"),
        ("latency_ms", .none), ("tags", .dict []), ("payload", payload)] := by
    rw [listSnapshot, snapshotEnvelope, same]
    rfl
  rw [envelope]
  refine ⟨⟨rfl, by simp, ?_⟩, rfl⟩
  simp [DumpableEntries, Dumpable, ready]

theorem rawWrites_records {fetched : Fetched} (json : AnswersJson codec run) {i : ℕ} {symbol : String}
    (answered : run.fetch i symbol = .ok fetched) :
    ∀ write ∈ run.rawWrites i symbol fetched, IsRecord codec write.2 := by
  obtain ⟨coin, funding, heatmap⟩ := json.fetch answered
  intro write listed
  simp only [rawWrites, List.mem_cons, List.not_mem_nil, or_false] at listed
  rcases listed with rfl | rfl | rfl
  · exact (symbolSnapshot_record coin i symbol _).1
  · exact (symbolSnapshot_record funding i symbol _).1
  · exact (symbolSnapshot_record heatmap i symbol _).1

theorem listWrites_records {lists : Lists} (json : AnswersJson codec run) (answered : run.fetchLists = .ok lists) :
    ∀ write ∈ run.listWrites lists, IsRecord codec write.2 := by
  obtain ⟨ai500, ai300, queryRank⟩ := json.fetchLists answered
  intro write listed
  simp only [listWrites, List.mem_cons, List.not_mem_nil, or_false] at listed
  rcases listed with rfl | rfl | rfl
  · exact (listSnapshot_record ai500 _ _).1
  · exact (listSnapshot_record ai300 _ _).1
  · exact (listSnapshot_record queryRank _ _).1

section Collected

variable {items : List (String × ℕ)} {writes : List (String × PyValue)} {outcome : Except PyError Unit}

theorem Collects.records (json : AnswersJson codec run) (collects : Collects run maps items writes outcome)
    {stream : String} (apart : "nofx_normalized" ≠ stream) :
    ∀ record ∈ written writes stream, IsRecord codec record := by
  induction collects with
  | done => exact List.forall_mem_nil _
  | unfetched raised => exact List.forall_mem_nil _
  | unnormalized answered raised => exact written_records (rawWrites_records json answered) stream
  | collected answered normalized later ih =>
      rw [written_collected, if_neg apart, List.nil_append, List.forall_mem_append]
      exact ⟨written_records (rawWrites_records json answered) stream, ih⟩

def listStreams : List String := ["nofx_ai500", "nofx_ai300", "nofx_query_rank"]

theorem Collects.unlisted (collects : Collects run maps items writes outcome) :
    ∀ stream ∈ listStreams, written writes stream = [] := by
  intro stream listed
  have raw (i : ℕ) (symbol : String) (fetched : Fetched) : written (run.rawWrites i symbol fetched) stream = [] := by
    simp only [listStreams, List.mem_cons, List.not_mem_nil, or_false] at listed
    rcases listed with rfl | rfl | rfl <;> rfl
  have apart : "nofx_normalized" ≠ stream := by
    rintro rfl
    exact absurd listed (by decide)
  induction collects with
  | done => rfl
  | unfetched raised => rfl
  | unnormalized answered raised => exact raw _ _ _
  | collected answered normalized later ih => rw [written_collected, raw, if_neg apart, ih]; rfl

/-- The feature a record holds is what three snapshots make. -/
def MadeOf (maps : Maps) (record coin funding heatmap : PyValue) (now : Datetime) (feature : FeatureVector) : Prop :=
  normalize maps ((asText (symbolTag coin)).getD "") (ofRecords coin funding heatmap) now = .ok feature ∧
    record.item "payload" = jsonReady (.dict (feature.asDict (rawField (ofRecords coin funding heatmap))))

theorem Collects.made (json : AnswersJson codec run) (collects : Collects run maps items writes outcome) :
    ∀ (n : ℕ) (record : PyValue), (written writes "nofx_normalized")[n]? = some record →
      ∃ coin funding heatmap now feature, (written writes "nofx_coin_raw")[n]? = some coin ∧
        (written writes "nofx_funding_raw")[n]? = some funding ∧
        (written writes "nofx_heatmap_raw")[n]? = some heatmap ∧
        MadeOf maps record coin funding heatmap now feature := by
  induction collects with
  | done => exact fun n record listed => by cases listed
  | unfetched raised => exact fun n record listed => by cases listed
  | unnormalized answered raised => exact fun n record listed => by cases listed
  | @collected symbol i rest fetched feature writes outcome answered normalized later ih =>
      obtain ⟨coin, funding, heatmap⟩ := json.fetch answered
      intro n record listed
      simp only [written_collected] at listed ⊢
      cases n with
      | zero =>
          cases listed
          refine ⟨_, _, _, run.normalizedAt i, feature, rfl, rfl, rfl, ?_, ?_⟩
          · rw [ofRecords, (symbolSnapshot_record coin i symbol _).2, (symbolSnapshot_record funding i symbol _).2,
              (symbolSnapshot_record heatmap i symbol _).2]
            exact normalized
          · rw [ofRecords, (symbolSnapshot_record coin i symbol _).2, (symbolSnapshot_record funding i symbol _).2,
              (symbolSnapshot_record heatmap i symbol _).2]
            rfl
      | succ n => exact ih n record listed

end Collected

def rawStreams : List String := listStreams ++ symbolStreams

theorem collect_records (json : AnswersJson codec run) {stream : String} (apart : "nofx_normalized" ≠ stream) :
    ∀ record ∈ written run.collect.1 stream, IsRecord codec record := by
  unfold collect
  cases answered : run.fetchLists with
  | error error => exact List.forall_mem_nil _
  | ok lists =>
      have listed := written_records (listWrites_records json answered) stream
      dsimp only
      cases plan lists with
      | error error => exact listed
      | ok planned =>
          rw [written_append, List.forall_mem_append]
          exact ⟨listed, (collectSymbols_collects planned.2.zipIdx).records json apart⟩

/-- Whatever the journal held and however the run ends: each raw stream reads back
with the snapshots of the run behind, and every feature the run wrote is made again
from the records that stand at its place in the three symbol streams and the
two list records, but for the clock. -/
theorem collected_features_rebuild (json : AnswersJson codec run) (files : StreamFiles) (whole : files.Whole) :
    (∀ stream ∈ rawStreams, (files.appendAll codec run.collect.1).readStream codec stream =
        (files.readStream codec stream).map fun found => found ++ written run.collect.1 stream) ∧
      ∀ (n : ℕ) (record : PyValue), (written run.collect.1 "nofx_normalized")[n]? = some record →
        ∃ queryRank ai300 coin funding heatmap now feature,
          written run.collect.1 "nofx_query_rank" = [queryRank] ∧ written run.collect.1 "nofx_ai300" = [ai300] ∧
          (written run.collect.1 "nofx_coin_raw")[n]? = some coin ∧
          (written run.collect.1 "nofx_funding_raw")[n]? = some funding ∧
          (written run.collect.1 "nofx_heatmap_raw")[n]? = some heatmap ∧
          rebuild queryRank ai300 coin funding heatmap now = .ok feature ∧
          record.item "payload" =
            jsonReady (.dict (feature.asDict (rawField (ofRecords coin funding heatmap)))) := by
  refine ⟨fun stream listed => readStream_written files whole (collect_records json ?_), ?_⟩
  · rintro rfl
    exact absurd listed (by decide)
  · intro n record listed
    rcases run.collect_cases with ⟨-, -, -, apart⟩ | ⟨lists, maps, symbols, answered, planned, -, ran⟩
    · rw [apart _ List.mem_cons_self] at listed
      cases listed
    · rw [ran] at listed ⊢
      obtain ⟨-, ai300, queryRank⟩ := json.fetchLists answered
      obtain ⟨made, built, planned⟩ := bind_ok planned
      obtain ⟨found, -, planned⟩ := bind_ok planned
      cases planned
      have loop : Collects run maps (found.take 10).zipIdx _ _ := collectSymbols_collects _
      obtain ⟨coin, funding, heatmap, now, feature, coins, fundings, heatmaps, normalized, same⟩ :=
        loop.made json n record listed
      refine ⟨(run.listSnapshot "nofx_query_rank" "/api/query-rank/list" lists.queryRank).2,
        (run.listSnapshot "nofx_ai300" "/api/ai300/list" lists.ai300).2, coin, funding, heatmap, now, feature,
        ?_, ?_, coins, fundings, heatmaps, ?_, same⟩
      · rw [written_append, loop.unlisted "nofx_query_rank" (by decide), List.append_nil]
        rfl
      · rw [written_append, loop.unlisted "nofx_ai300" (by decide), List.append_nil]
        rfl
      · rw [rebuild, (listSnapshot_record queryRank _ _).2, (listSnapshot_record ai300 _ _).2, built]
        exact normalized

section Sample

/-- A run whose requests all answer one payload, with one coin in it. -/
def sampleRun : CollectorRun where
  response _ _ := .ok (.dict [("data", .dict [("coins", .list [.dict [("pair", .str "BTCUSDT")]])])])
  listedAt _ := 0
  fetchedAt _ := 0
  normalizedAt _ := 0
  writtenAt _ := 0

theorem sampleRun_json : AnswersJson sampleFloats sampleRun := by
  intro i call payload answered
  cases answered
  simp [Dumpable, DumpableEntries, DumpableItems]

theorem collected_features_rebuild_sample :
    ∃ record queryRank ai300 coin funding heatmap now feature,
      (written sampleRun.collect.1 "nofx_normalized")[0]? = some record ∧
      rebuild queryRank ai300 coin funding heatmap now = .ok feature ∧
      record.item "payload" =
        jsonReady (.dict (feature.asDict (rawField (ofRecords coin funding heatmap)))) := by
  have rebuilt := (collected_features_rebuild sampleRun_json noFiles noFiles_whole).2 0
  cases listed : (written sampleRun.collect.1 "nofx_normalized")[0]? with
  | none => exact absurd listed (by decide +kernel)
  | some record =>
      obtain ⟨queryRank, ai300, coin, funding, heatmap, now, feature, -, -, -, -, -, made, same⟩ :=
        rebuilt record listed
      exact ⟨record, queryRank, ai300, coin, funding, heatmap, now, feature, rfl, made, same⟩

end Sample

end Rebuilding

end CollectorRun

end CatsPy
