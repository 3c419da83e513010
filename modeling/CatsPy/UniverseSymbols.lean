import CatsPy.FirstOccurrences
import CatsPy.UserStream

/-!
# The universe

The symbols collected from the AI500 and AI300 lists, and the maps the
normalizers build for the same coins. Whether a symbol of the universe is the
key its coin has in the maps.
-/
namespace CatsPy
open PythonValues StateRuns FirstOccurrences

section Symbols

/-- `symbol.endswith(suffix)`. -/
def endsWith (symbol suffix : String) : Bool := suffix.toList.isSuffixOf symbol.toList

/-- `symbol if symbol.endswith("USDT") else f"{symbol}USDT"`. -/
def executionSymbol (symbol : String) : String :=
  if endsWith symbol "USDT" then symbol else symbol ++ "USDT"

theorem endsWith_append (symbol suffix : String) : endsWith (symbol ++ suffix) suffix = true := by
  simp [endsWith]

theorem executionSymbol_endsWith (symbol : String) : endsWith (executionSymbol symbol) "USDT" = true := by
  unfold executionSymbol
  split
  next suffixed => exact suffixed
  next => exact endsWith_append symbol "USDT"

theorem executionSymbol_of_endsWith {symbol : String} (suffixed : endsWith symbol "USDT" = true) :
    executionSymbol symbol = symbol := if_pos suffixed

end Symbols

section Payloads

/-- `payload.get("data", {}).get(key, [])`, iterated. -/
def dataItems (payload : PyValue) (key : String) : Except PyError (List PyValue) := do
  let data ← payload.get "data" (.dict [])
  let items ← data.get key (.list [])
  iterate items

/-- The items whose entry under a key is a text. -/
def namesOf (key : String) (items : List PyValue) : List String :=
  items.filterMap fun item => asText (item.item key)

theorem namesOf_append (key : String) (items later : List PyValue) :
    namesOf key (items ++ later) = namesOf key items ++ namesOf key later := List.filterMap_append

/-- A payload whose coins can be read. -/
def ListPayload (payload : PyValue) : Prop :=
  ∃ coins, dataItems payload "coins" = .ok coins ∧ ∀ item ∈ coins, isDict item = true

/-- The texts its coins have under a key. -/
def coinNames (payload : PyValue) (key : String) : List String :=
  namesOf key ((dataItems payload "coins").toOption.getD [])

theorem coinNames_of_ok {payload : PyValue} {key : String} {coins : List PyValue}
    (read : dataItems payload "coins" = .ok coins) : coinNames payload key = namesOf key coins := by
  rw [coinNames, read]
  rfl

end Payloads

namespace UniverseBuilder

/-- The body of both collecting loops. -/
def appendName (key : String) (name : String → String) (symbols : List String) (item : PyValue) :
    Except PyError (List String) := do
  let value ← item.get key
  return match asText value with
    | some symbol => symbols ++ [name symbol]
    | none => symbols

def build (ai500Payload ai300Payload : PyValue) : Except PyError (List String) := do
  let coins ← dataItems ai500Payload "coins"
  let symbols ← coins.foldlM (appendName "pair" id) []
  let ai300Coins ← dataItems ai300Payload "coins"
  let symbols ← ai300Coins.foldlM (appendName "symbol" executionSymbol) symbols
  return (symbols.foldl keepNew (∅, [])).2

theorem appendName_dict {key : String} {name : String → String} (symbols : List String) {item : PyValue}
    (dict : isDict item = true) :
    appendName key name symbols item = .ok (symbols ++ (namesOf key [item]).map name) := by
  cases item with
  | dict entries =>
      simp only [appendName, PyValue.get, namesOf, List.filterMap_cons, List.filterMap_nil, PyValue.item,
        bind, Except.bind]
      cases asText ((entries.lookup key).getD .none) <;> simp [pure, Except.pure]
  | _ => cases dict

theorem appendName_other {key : String} {name : String → String} (symbols : List String) {item : PyValue}
    (other : isDict item = false) : ∃ error, appendName key name symbols item = .error error := by
  cases item with
  | dict entries => cases other
  | _ => exact ⟨_, rfl⟩

/-- A loop that returned went over dicts only, and appended their names. -/
theorem foldlM_appendName {key : String} {name : String → String} {items : List PyValue}
    {symbols collected : List String} :
    items.foldlM (appendName key name) symbols = .ok collected ↔
      (∀ item ∈ items, isDict item = true) ∧ collected = symbols ++ (namesOf key items).map name := by
  induction items generalizing symbols with
  | nil =>
      constructor
      · intro returned
        cases returned
        simp [namesOf]
      · rintro ⟨-, rfl⟩
        simp [namesOf, pure, Except.pure]
  | cons item rest ih =>
      rw [List.foldlM_cons, List.forall_mem_cons, ← List.singleton_append, namesOf_append, List.map_append,
        ← List.append_assoc]
      cases dict : isDict item with
      | true =>
          rw [appendName_dict symbols dict]
          simp only [true_and]
          exact ih
      | false =>
          obtain ⟨error, raised⟩ : ∃ error, appendName key name symbols item = .error error :=
            appendName_other symbols dict
          rw [raised]
          refine iff_of_false (fun returned => by cases returned) ?_
          rintro ⟨⟨absent, -⟩, -⟩
          cases absent

/-- The symbols of two lists that can be read. -/
theorem build_ok_iff {ai500Payload ai300Payload : PyValue} {symbols : List String} :
    build ai500Payload ai300Payload = .ok symbols ↔
      ListPayload ai500Payload ∧ ListPayload ai300Payload ∧
        symbols = (coinNames ai500Payload "pair" ++
          (coinNames ai300Payload "symbol").map executionSymbol).eraseDups := by
  constructor
  · intro built
    obtain ⟨coins, coins_read, built⟩ := bind_ok built
    obtain ⟨pairs, collected, built⟩ := bind_ok built
    obtain ⟨ai300Coins, ai300_read, built⟩ := bind_ok built
    obtain ⟨all, completed, built⟩ := bind_ok built
    cases built
    obtain ⟨dicts, rfl⟩ := foldlM_appendName.mp collected
    obtain ⟨ai300_dicts, rfl⟩ := foldlM_appendName.mp completed
    refine ⟨⟨coins, coins_read, dicts⟩, ⟨ai300Coins, ai300_read, ai300_dicts⟩, ?_⟩
    rw [foldl_keepNew, coinNames_of_ok coins_read, coinNames_of_ok ai300_read, List.map_id, List.nil_append]
  · rintro ⟨⟨coins, coins_read, dicts⟩, ⟨ai300Coins, ai300_read, ai300_dicts⟩, rfl⟩
    have collected : coins.foldlM (appendName "pair" id) [] = .ok (namesOf "pair" coins) :=
      foldlM_appendName.mpr ⟨dicts, by simp⟩
    have completed : ai300Coins.foldlM (appendName "symbol" executionSymbol) (namesOf "pair" coins) =
        .ok (namesOf "pair" coins ++ (namesOf "symbol" ai300Coins).map executionSymbol) :=
      foldlM_appendName.mpr ⟨ai300_dicts, rfl⟩
    simp only [build, coins_read, collected, ai300_read, completed, coinNames_of_ok coins_read,
      coinNames_of_ok ai300_read, foldl_keepNew, bind, Except.bind]
    rfl

end UniverseBuilder

section Maps

/-- `isinstance(value, int)`; a bool is one. -/
def asInt : PyValue → Option ℤ
  | .int n => some n
  | .bool b => some (if b then 1 else 0)
  | _ => none

/-- Items that are no dicts, and ranks that are no integers, are passed over. -/
def storeRank (result : OrderedDict String ℤ) (item : PyValue) : OrderedDict String ℤ :=
  match asText (item.item "symbol"), asInt (item.item "rank") with
  | some symbol, some rank => result.set (executionSymbol symbol) rank
  | _, _ => result

def buildQueryRankMap (queryRankPayload : PyValue) : Except PyError (OrderedDict String ℤ) := do
  let rankings ← dataItems queryRankPayload "rankings"
  return rankings.foldl storeRank .empty

def ai300LevelToScore (level : PyValue) : Except PyError ℚ :=
  let mapping : OrderedDict String ℚ := .ofList [("A", 1), ("B", 75 / 100), ("C", 5 / 10), ("D", 25 / 100)]
  match level with
  | .none => .ok 0
  | .str s => .ok (mapping.getD s.toUpper 0)
  | value => .error ⟨.attributeError, "'" ++ typeName value ++ "' object has no attribute 'upper'"⟩

/-- Items that are no dicts, and symbols that are no texts, are passed over. -/
def storeLevel (result : OrderedDict String ℚ) (item : PyValue) : Except PyError (OrderedDict String ℚ) :=
  match asText (item.item "symbol") with
  | none => .ok result
  | some symbol => do
      let score ← ai300LevelToScore (item.item "level")
      return result.set (executionSymbol symbol) score

def buildAi300LevelMap (ai300Payload : PyValue) : Except PyError (OrderedDict String ℚ) := do
  let coins ← dataItems ai300Payload "coins"
  coins.foldlM storeLevel .empty

/-- The names of the ranked coins. -/
def rankedNames (queryRankPayload : PyValue) : List String :=
  namesOf "symbol" (((dataItems queryRankPayload "rankings").toOption.getD []).filter fun item =>
    (asInt (item.item "rank")).isSome)

theorem mem_storeRank (result : OrderedDict String ℤ) (item : PyValue) (symbol : String) :
    symbol ∈ (storeRank result item).keys ↔ symbol ∈ result.keys ∨
      ∃ name ∈ namesOf "symbol" ([item].filter fun item => (asInt (item.item "rank")).isSome),
        executionSymbol name = symbol := by
  unfold storeRank
  cases ranked : asInt (item.item "rank") <;> cases named : asText (item.item "symbol") <;>
    simp [namesOf, ranked, named, OrderedDict.mem_keys_set, eq_comm, or_comm]

/-- A ranked coin is kept under its execution symbol. -/
theorem mem_queryRankMap {payload : PyValue} {ranks : OrderedDict String ℤ}
    (built : buildQueryRankMap payload = .ok ranks) (symbol : String) :
    symbol ∈ ranks.keys ↔ ∃ name ∈ rankedNames payload, executionSymbol name = symbol := by
  have loop : ∀ (items : List PyValue) (result : OrderedDict String ℤ),
      symbol ∈ (items.foldl storeRank result).keys ↔ symbol ∈ result.keys ∨
        ∃ name ∈ namesOf "symbol" (items.filter fun item => (asInt (item.item "rank")).isSome),
          executionSymbol name = symbol := by
    intro items
    induction items with
    | nil => simp [namesOf]
    | cons item rest ih =>
        intro result
        rw [List.foldl_cons, ih, mem_storeRank, ← List.singleton_append (l := rest), List.filter_append,
          namesOf_append]
        simp only [List.mem_append, or_and_right, exists_or, or_assoc]
  obtain ⟨rankings, read, built⟩ := bind_ok built
  cases built
  rw [loop, rankedNames, read]
  exact or_iff_right (by simp [OrderedDict.keys, OrderedDict.empty])

theorem mem_storeLevel {result next : OrderedDict String ℚ} {item : PyValue}
    (stored : storeLevel result item = .ok next) (symbol : String) :
    symbol ∈ next.keys ↔ symbol ∈ result.keys ∨
      ∃ name ∈ namesOf "symbol" [item], executionSymbol name = symbol := by
  unfold storeLevel at stored
  cases named : asText (item.item "symbol") with
  | none =>
      simp only [named] at stored
      cases stored
      simp [namesOf, named]
  | some name =>
      simp only [named] at stored
      obtain ⟨score, -, stored⟩ := bind_ok stored
      cases stored
      simp [namesOf, named, OrderedDict.mem_keys_set, eq_comm, or_comm]

/-- A levelled coin is kept under its execution symbol. -/
theorem mem_ai300LevelMap {payload : PyValue} {levels : OrderedDict String ℚ}
    (built : buildAi300LevelMap payload = .ok levels) (symbol : String) :
    symbol ∈ levels.keys ↔ ∃ name ∈ coinNames payload "symbol", executionSymbol name = symbol := by
  have loop : ∀ (items : List PyValue) (result after : OrderedDict String ℚ),
      items.foldlM storeLevel result = .ok after →
      (symbol ∈ after.keys ↔ symbol ∈ result.keys ∨
        ∃ name ∈ namesOf "symbol" items, executionSymbol name = symbol) := by
    intro items
    induction items with
    | nil =>
        intro result after returned
        cases returned
        simp [namesOf]
    | cons item rest ih =>
        intro result after returned
        rw [List.foldlM_cons] at returned
        obtain ⟨next, stored, returned⟩ := bind_ok returned
        rw [ih next after returned, mem_storeLevel stored, ← List.singleton_append (l := rest), namesOf_append]
        simp only [List.mem_append, or_and_right, exists_or, or_assoc]
  obtain ⟨coins, read, built⟩ := bind_ok built
  rw [coinNames_of_ok read, loop _ _ _ built]
  exact or_iff_right (by simp [OrderedDict.keys, OrderedDict.empty])

end Maps

section Universe

/-- The universe lists the execution symbol of every named coin once, in order of
first occurrence, and its symbols are the keys of their coins in both maps. -/
structure OneSymbolPerCoin (ai500Payload ai300Payload : PyValue) (symbols : List String) : Prop where
  canonical : symbols =
    ((coinNames ai500Payload "pair" ++ coinNames ai300Payload "symbol").map executionSymbol).eraseDups
  distinct : symbols.Nodup
  execution : ∀ symbol ∈ symbols, endsWith symbol "USDT" = true
  ranked : ∀ payload ranks, buildQueryRankMap payload = .ok ranks → ∀ symbol ∈ symbols,
    (symbol ∈ ranks.keys ↔ ∃ name ∈ rankedNames payload, executionSymbol name = executionSymbol symbol)
  levelled : ∀ levels, buildAi300LevelMap ai300Payload = .ok levels → ∀ symbol ∈ symbols,
    (symbol ∈ levels.keys ↔
      ∃ name ∈ coinNames ai300Payload "symbol", executionSymbol name = executionSymbol symbol)

/-- It does exactly when both lists can be read and the AI500 pairs are execution
symbols as they come. -/
theorem one_symbol_per_coin_iff (ai500Payload ai300Payload : PyValue) :
    (∃ symbols, UniverseBuilder.build ai500Payload ai300Payload = .ok symbols ∧
        OneSymbolPerCoin ai500Payload ai300Payload symbols) ↔
      ListPayload ai500Payload ∧ ListPayload ai300Payload ∧
        ∀ pair ∈ coinNames ai500Payload "pair", endsWith pair "USDT" = true := by
  constructor
  · rintro ⟨symbols, built, one⟩
    obtain ⟨ai500_read, ai300_read, listed⟩ := UniverseBuilder.build_ok_iff.mp built
    refine ⟨ai500_read, ai300_read, ?_⟩
    intro pair named
    have member : pair ∈ symbols := by
      rw [listed, List.mem_eraseDups]
      exact List.mem_append_left _ named
    exact one.execution pair member
  · rintro ⟨ai500_read, ai300_read, suffixed⟩
    have pairs : (coinNames ai500Payload "pair").map executionSymbol = coinNames ai500Payload "pair" :=
      (List.map_congr_left fun pair named => executionSymbol_of_endsWith (suffixed pair named)).trans
        (List.map_id _)
    have execution : ∀ symbol ∈ ((coinNames ai500Payload "pair" ++
        coinNames ai300Payload "symbol").map executionSymbol).eraseDups, endsWith symbol "USDT" = true := by
      intro symbol member
      obtain ⟨name, -, rfl⟩ := List.mem_map.mp (List.mem_eraseDups.mp member)
      exact executionSymbol_endsWith name
    refine ⟨_, UniverseBuilder.build_ok_iff.mpr ⟨ai500_read, ai300_read, rfl⟩, ?_⟩
    rw [← pairs, ← List.map_append]
    exact
      { canonical := rfl
        distinct := nodup_eraseDups _
        execution := execution
        ranked := by
          intro payload ranks built symbol member
          rw [mem_queryRankMap built, executionSymbol_of_endsWith (execution symbol member)]
        levelled := by
          intro levels built symbol member
          rw [mem_ai300LevelMap built, executionSymbol_of_endsWith (execution symbol member)] }

/-- A bare pair of the AI500 list beside the same coin in the AI300 list. -/
theorem bare_pair_listed_twice :
    let ai500 : PyValue := .dict [("data", .dict [("coins", .list [.dict [("pair", .str "BTC")]])])]
    let ai300 : PyValue :=
      .dict [("data", .dict [("coins", .list [.dict [("symbol", .str "BTC"), ("level", .str "A")]])])]
    UniverseBuilder.build ai500 ai300 = .ok ["BTC", "BTCUSDT"] ∧
      (buildAi300LevelMap ai300).toOption.map OrderedDict.keys = some ["BTCUSDT"] ∧
      ¬ ∃ symbols, UniverseBuilder.build ai500 ai300 = .ok symbols ∧
        OneSymbolPerCoin ai500 ai300 symbols := by
  have built : UniverseBuilder.build
      (.dict [("data", .dict [("coins", .list [.dict [("pair", .str "BTC")]])])])
      (.dict [("data", .dict [("coins", .list [.dict [("symbol", .str "BTC"), ("level", .str "A")]])])]) =
      .ok ["BTC", "BTCUSDT"] := by
    decide +kernel
  refine ⟨built, by decide +kernel, ?_⟩
  rintro ⟨symbols, returned, one⟩
  rw [built] at returned
  cases returned
  exact absurd (one.execution "BTC" List.mem_cons_self) (by decide)

end Universe

end CatsPy
