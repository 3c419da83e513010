import CatsPy.DatasetReports
import CatsPy.JournalStreams
import CatsPy.JsonlFiles

/-!
# Dataset export

The dataset, its summary and its aggregates, built from the journal files and
written as files beside them. Exporting leaves the journal alone, what was
written reads back, and a second export changes nothing.
-/
namespace CatsPy
open PythonValues StateRuns JsonText

namespace StreamFiles

variable (codec : FloatText)

/-- The streams `build_dataset_rows` reads, in the order it reads them. -/
def loadJournal (files : StreamFiles) : Except PyError JsonlStorage := do
  let decisions ← files.readStream codec "paper_decision_log"
  let fills ← files.readStream codec "paper_fill_log"
  let pnl ← files.readStream codec "paper_pnl_log"
  return .ofList [("paper_decision_log", decisions), ("paper_fill_log", fills), ("paper_pnl_log", pnl)]

/-- `build_dataset_rows` over the files. -/
def datasetRows (files : StreamFiles) : Except PyError (List PyValue) :=
  files.loadJournal codec >>= PaperDatasetService.buildDatasetRows

/-- A file opened for writing and the lines of `_to_json_line`. -/
def writeRows (files : StreamFiles) (stream : String) (rows : List PyValue) : StreamFiles :=
  files.set stream (rows.flatMap fun row => dumps codec row ++ ['\n'])

/-- What the three exports share: the rows built anew, what is made of them,
and the file written. -/
def exportRows (files : StreamFiles) (report : List PyValue → Except PyError (List PyValue)) (stream : String) :
    Except PyError StreamFiles := do
  let rows ← files.datasetRows codec
  let payloads ← report rows
  return files.writeRows codec stream payloads

def summaryRows (rows : List PyValue) : Except PyError (List PyValue) :=
  (PaperDatasetService.buildSummary rows).map fun summary => [summary.payload]

def aggregateRows (rows : List PyValue) : Except PyError (List PyValue) :=
  (PaperDatasetService.buildAggregateRows rows).map fun aggregates =>
    aggregates.map PaperDatasetService.AggregateRow.payload

def exportDataset (files : StreamFiles) (stream : String) : Except PyError StreamFiles :=
  files.exportRows codec .ok stream

def exportSummary (files : StreamFiles) (stream : String) : Except PyError StreamFiles :=
  files.exportRows codec summaryRows stream

def exportAggregates (files : StreamFiles) (stream : String) : Except PyError StreamFiles :=
  files.exportRows codec aggregateRows stream

/-- `run_paper_export`: what a step that raises had written before stays. -/
def runPaperExport (files : StreamFiles) :
    Except (StreamFiles × PyError) (StreamFiles × PaperDatasetService.PaperReplaySummary) := do
  let files ← raiseFrom files (files.exportDataset codec "paper_replay_dataset")
  let files ← raiseFrom files (files.exportSummary codec "paper_replay_summary")
  let files ← raiseFrom files (files.exportAggregates codec "paper_replay_aggregates")
  let summary ← raiseFrom files (files.datasetRows codec >>= PaperDatasetService.buildSummary)
  return (files, summary)

end StreamFiles

section Records

variable {codec : FloatText}

theorem readLine_records {line : List Char} {found : List PyValue} (read : readLine codec line = .ok found) :
    ∀ payload ∈ found, IsRecord codec payload := by
  rw [readLine] at read
  split_ifs at read
  · cases read
    exact List.forall_mem_nil _
  · split at read
    · cases read
    next payload loaded =>
      cases read
      split
      next dict => exact List.forall_mem_singleton.mpr ⟨dict, loads_dumpable loaded⟩
      next => exact List.forall_mem_nil _

theorem readLines_records {lines : List (List Char)} {found : List PyValue}
    (read : readLines codec lines = .ok found) : ∀ payload ∈ found, IsRecord codec payload := by
  induction lines generalizing found with
  | nil =>
      cases read
      exact List.forall_mem_nil _
  | cons line rest ih =>
      obtain ⟨first, head, read⟩ := bind_ok read
      obtain ⟨others, tail, read⟩ := bind_ok read
      cases read
      intro payload listed
      rcases List.mem_append.mp listed with left | right
      · exact readLine_records head payload left
      · exact ih tail payload right

theorem StreamFiles.readStream_records {files : StreamFiles} {stream : String} {found : List PyValue}
    (read : files.readStream codec stream = .ok found) : ∀ payload ∈ found, IsRecord codec payload := by
  rw [StreamFiles.readStream_eq] at read
  exact readLines_records read

end Records

section Rows

variable {codec : FloatText}

theorem dumpable_lookup {entries : List (String × PyValue)} (ready : DumpableEntries codec entries) {key : String}
    {item : PyValue} (found : entries.lookup key = some item) : Dumpable codec item := by
  obtain ⟨before, after, split, -⟩ := List.lookup_eq_some_iff.mp found
  refine (dumpableEntries_iff entries).mp ready item ?_
  rw [split]
  simp

theorem dumpable_item {v : PyValue} (ready : Dumpable codec v) (key : String) : Dumpable codec (v.item key) := by
  cases v with
  | dict entries =>
      rw [PyValue.item]
      cases found : entries.lookup key with
      | none => trivial
      | some item => exact dumpable_lookup ready.2 found
  | _ => trivial

theorem dumpable_get {v item default : PyValue} (ready : Dumpable codec v) (readyDefault : Dumpable codec default)
    {key : String} (got : v.get key default = .ok item) : Dumpable codec item := by
  cases v with
  | dict entries =>
      cases got
      cases found : entries.lookup key with
      | none => exact readyDefault
      | some item => exact dumpable_lookup ready.2 found
  | _ => cases got

theorem dumpable_or {v other : PyValue} (ready : Dumpable codec v) (readyOther : Dumpable codec other) :
    Dumpable codec (v.or other) := by
  unfold PyValue.or
  split
  · exact ready
  · exact readyOther

theorem dumpable_empty : Dumpable codec (.dict []) := ⟨List.nodup_nil, trivial⟩

namespace PaperDatasetService

theorem column_dumpable {record : Option PyValue} (ready : ∀ r ∈ record, Dumpable codec r) (key : String) :
    Dumpable codec (column record key).2 := by
  refine dumpable_item (dumpable_or ?_ dumpable_empty) key
  cases record with
  | none => trivial
  | some r => exact ready r rfl

theorem groupLastByKey_mem {items : List PyValue} {key value : String} {item : PyValue}
    (found : (groupLastByKey items key).get? value = some item) : item ∈ items := by
  have stored := OrderedDict.mem_values_ofList ((OrderedDict.mem_values_iff _ item).mpr ⟨value, found⟩)
  obtain ⟨pair, kept, rfl⟩ := List.mem_map.mp stored
  obtain ⟨source, listed, keyed⟩ := List.mem_filterMap.mp kept
  split at keyed
  · cases keyed
  · cases keyed
    exact listed

/-- The keys of a row, in order. -/
def rowKeys : List String :=
  ["ts", "cycle_id", "decision_id", "mode", "symbol", "symbol_source", "decision_status", "regime",
    "selected_strategy", "action_score", "feature_stale_seconds", "risk_status", "risk_reason", "approved_notional",
    "approved_leverage"] ++ fillColumns ++ pnlColumns

theorem rowKeys_nodup : rowKeys.Nodup := by decide +kernel

/-- A row built from records that dump is a record that dumps. -/
theorem buildRow_isRecord {fills pnlByCycle : OrderedDict String PyValue} {decision row : PyValue}
    (ready : Dumpable codec decision) (fillsReady : ∀ id fill, fills.get? id = some fill → Dumpable codec fill)
    (pnlReady : ∀ id pnl, pnlByCycle.get? id = some pnl → Dumpable codec pnl)
    (built : buildRow fills pnlByCycle decision = .ok row) : IsRecord codec row := by
  obtain ⟨decisionId, -, built⟩ := bind_ok built
  have riskReady := dumpable_or (dumpable_item ready "risk") dumpable_empty
  obtain ⟨riskStatus, statusRead, built⟩ := bind_ok built
  obtain ⟨riskReason, reasonRead, built⟩ := bind_ok built
  obtain ⟨approvedNotional, notionalRead, built⟩ := bind_ok built
  obtain ⟨approvedLeverage, leverageRead, built⟩ := bind_ok built
  cases built
  have own : ∀ key, Dumpable codec (decision.item key) := fun key => dumpable_item ready key
  have fill : ∀ key, Dumpable codec (column (fills.get? decisionId) key).2 := column_dumpable (fillsReady decisionId)
  have pnl : ∀ key, Dumpable codec (column (pnlByCycle.get? (textOrEmpty (decision.item "cycle_id"))) key).2 :=
    column_dumpable (pnlReady _)
  have text : ∀ s, Dumpable codec (.str s) := fun _ => trivial
  have blank : Dumpable codec .none := trivial
  refine ⟨rfl, rowKeys_nodup, (dumpableEntries_iff _).mpr fun v listed => ?_⟩
  rw [List.map_append, List.map_append, List.map_map, List.map_map] at listed
  rcases List.mem_append.mp listed with first | pnls
  · rcases List.mem_append.mp first with head | filled
    · have each : ∀ v ∈ [decision.item "ts", .str (textOrEmpty (decision.item "cycle_id")), .str decisionId,
          decision.item "mode", decision.item "symbol", decision.item "symbol_source",
          decision.item "decision_status", decision.item "regime", decision.item "selected_strategy",
          decision.item "action_score", decision.item "feature_stale_seconds", riskStatus, riskReason,
          approvedNotional, approvedLeverage], Dumpable codec v := by
        simp only [List.forall_mem_cons]
        exact ⟨own _, text _, text _, own _, own _, own _, own _, own _, own _, own _, own _,
          dumpable_get riskReady blank statusRead, dumpable_get riskReady blank reasonRead,
          dumpable_get riskReady blank notionalRead, dumpable_get riskReady blank leverageRead,
          List.forall_mem_nil _⟩
      exact each v head
    · obtain ⟨key, -, rfl⟩ := List.mem_map.mp filled
      exact fill key
  · obtain ⟨key, -, rfl⟩ := List.mem_map.mp pnls
    exact pnl key

theorem exists_of_mapM {α β : Type} {f : α → Except PyError β} {l : List α} {results : List β}
    (returned : l.mapM f = .ok results) : ∀ b ∈ results, ∃ a ∈ l, f a = .ok b := by
  have pointwise := forall₂_of_mapM returned
  clear returned
  induction pointwise with
  | nil => exact List.forall_mem_nil _
  | cons first _ ih =>
      refine List.forall_mem_cons.mpr ⟨⟨_, List.mem_cons_self, first⟩, fun b listed => ?_⟩
      obtain ⟨a, known, same⟩ := ih b listed
      exact ⟨a, List.mem_cons_of_mem _ known, same⟩

theorem buildDatasetRows_records {storage : JsonlStorage} {rows : List PyValue}
    (ready : ∀ stream, ∀ payload ∈ storage.readStream stream, Dumpable codec payload)
    (built : buildDatasetRows storage = .ok rows) : ∀ row ∈ rows, IsRecord codec row := by
  intro row listed
  obtain ⟨decision, known, same⟩ := exists_of_mapM built row listed
  have kept : ∀ {stream payload}, payload ∈ readRecords storage stream → Dumpable codec payload :=
    fun member => ready _ _ (List.mem_filter.mp member).1
  exact buildRow_isRecord (kept known) (fun _ _ found => kept (groupLastByKey_mem found))
    (fun _ _ found => kept (groupLastByKey_mem found)) same

end PaperDatasetService

end Rows

namespace StreamFiles

variable {codec : FloatText} {files : StreamFiles}

theorem loadJournal_ok {journal : JsonlStorage} (loaded : files.loadJournal codec = .ok journal) :
    ∃ decisions fills pnl, files.readStream codec "paper_decision_log" = .ok decisions ∧
      files.readStream codec "paper_fill_log" = .ok fills ∧ files.readStream codec "paper_pnl_log" = .ok pnl ∧
      journal = .ofList [("paper_decision_log", decisions), ("paper_fill_log", fills), ("paper_pnl_log", pnl)] := by
  obtain ⟨decisions, decisionsRead, loaded⟩ := bind_ok loaded
  obtain ⟨fills, fillsRead, loaded⟩ := bind_ok loaded
  obtain ⟨pnl, pnlRead, loaded⟩ := bind_ok loaded
  cases loaded
  exact ⟨decisions, fills, pnl, decisionsRead, fillsRead, pnlRead, rfl⟩

theorem loadJournal_dumpable {journal : JsonlStorage} (loaded : files.loadJournal codec = .ok journal)
    (stream : String) : ∀ payload ∈ journal.readStream stream, Dumpable codec payload := by
  obtain ⟨decisions, fills, pnl, decisionsRead, fillsRead, pnlRead, rfl⟩ := loadJournal_ok loaded
  intro payload listed
  rw [JsonlStorage.readStream, OrderedDict.getD] at listed
  cases found : (OrderedDict.ofList [("paper_decision_log", decisions), ("paper_fill_log", fills),
      ("paper_pnl_log", pnl)]).get? stream with
  | none =>
      rw [found] at listed
      cases listed
  | some payloads =>
      rw [found] at listed
      have stored := OrderedDict.mem_values_ofList ((OrderedDict.mem_values_iff _ payloads).mpr ⟨stream, found⟩)
      simp only [List.map_cons, List.map_nil, List.mem_cons, List.not_mem_nil, or_false] at stored
      rcases stored with rfl | rfl | rfl
      · exact (readStream_records decisionsRead payload listed).ready
      · exact (readStream_records fillsRead payload listed).ready
      · exact (readStream_records pnlRead payload listed).ready

theorem datasetRows_records {rows : List PyValue} (built : files.datasetRows codec = .ok rows) :
    ∀ row ∈ rows, IsRecord codec row := by
  obtain ⟨journal, loaded, built⟩ := bind_ok built
  exact PaperDatasetService.buildDatasetRows_records (loadJournal_dumpable loaded) built

theorem writeRows_getD (files : StreamFiles) (stream other : String) (rows : List PyValue) :
    (files.writeRows codec stream rows).getD other [] =
      if other = stream then rows.flatMap (fun row => dumps codec row ++ ['\n']) else files.getD other [] :=
  getD_set files stream other _

/-- Written rows read back as they are. -/
theorem readStream_writeRows {rows : List PyValue} (records : ∀ row ∈ rows, IsRecord codec row) (stream : String) :
    (files.writeRows codec stream rows).readStream codec stream = .ok rows := by
  have lines : rows.flatMap (fun row => dumps codec row ++ ['\n']) = rows.flatMap (jsonLine codec) := by
    refine List.flatMap_congr fun row listed => ?_
    rw [jsonLine_eq (records row listed).ready]
  rw [readStream_eq, writeRows_getD, if_pos rfl, lines, readText_jsonLines records]

/-- The streams the dataset is built from. -/
def journalStreams : List String := ["paper_decision_log", "paper_fill_log", "paper_pnl_log"]

theorem datasetRows_congr {others : StreamFiles}
    (same : ∀ stream ∈ journalStreams, files.getD stream [] = others.getD stream []) :
    files.datasetRows codec = others.datasetRows codec := by
  have read : ∀ stream ∈ journalStreams, files.readStream codec stream = others.readStream codec stream := by
    intro stream listed
    rw [readStream_eq, readStream_eq, same stream listed]
  simp only [datasetRows, loadJournal, read "paper_decision_log" (by decide), read "paper_fill_log" (by decide),
    read "paper_pnl_log" (by decide)]

/-- The exported dataset, read back, is the dataset, whatever the journal files
hold; every other file is as it was. -/
theorem exportDataset_reads_back (files : StreamFiles) (stream : String) {after : StreamFiles}
    (exported : files.exportDataset codec stream = .ok after) :
    ∃ rows, files.datasetRows codec = .ok rows ∧ after.readStream codec stream = .ok rows ∧
      (∀ other, other ≠ stream → after.getD other [] = files.getD other []) ∧
      (stream ∉ journalStreams → after.exportDataset codec stream = .ok after) := by
  obtain ⟨rows, built, exported⟩ := bind_ok exported
  cases exported
  refine ⟨rows, built, readStream_writeRows (datasetRows_records built) stream, fun other differs => ?_,
    fun outside => ?_⟩
  · rw [writeRows_getD, if_neg differs]
  · have unchanged : (files.writeRows codec stream rows).datasetRows codec = files.datasetRows codec := by
      refine datasetRows_congr fun journal listed => ?_
      rw [writeRows_getD, if_neg]
      rintro rfl
      exact outside listed
    rw [exportDataset, exportRows, unchanged, built]
    exact congrArg Except.ok (OrderedDict.set_of_get? (OrderedDict.get?_set_self files stream _))

/-- The streams `run_paper_export` writes. -/
def exportStreams : List String := ["paper_replay_dataset", "paper_replay_summary", "paper_replay_aggregates"]

theorem journal_not_exported : ∀ stream ∈ journalStreams, stream ∉ exportStreams := by decide

theorem writeRows_again {stream : String} {rows : List PyValue}
    (present : files.get? stream = some (rows.flatMap fun row => dumps codec row ++ ['\n'])) :
    files.writeRows codec stream rows = files := OrderedDict.set_of_get? present

theorem writeRows_get?_of_ne {stream other : String} (differs : other ≠ stream) (rows : List PyValue) :
    (files.writeRows codec stream rows).get? other = files.get? other :=
  OrderedDict.get?_set_of_ne files _ differs

/-- Files that agree outside the exported streams. -/
def SameBesideExports (files others : StreamFiles) : Prop :=
  ∀ stream, stream ∉ exportStreams → files.getD stream [] = others.getD stream []

theorem SameBesideExports.datasetRows {others : StreamFiles} (same : SameBesideExports files others) :
    files.datasetRows codec = others.datasetRows codec :=
  datasetRows_congr fun stream listed => same stream (journal_not_exported stream listed)

theorem SameBesideExports.written {others : StreamFiles} (same : SameBesideExports files others) {stream : String}
    (exported : stream ∈ exportStreams) (rows : List PyValue) :
    SameBesideExports (files.writeRows codec stream rows) others := by
  intro other outside
  rw [writeRows_getD, if_neg]
  · exact same other outside
  · rintro rfl
    exact outside exported

theorem exportRows_iff {after : StreamFiles} {report : List PyValue → Except PyError (List PyValue)}
    {stream : String} :
    files.exportRows codec report stream = .ok after ↔
      ∃ rows payloads, files.datasetRows codec = .ok rows ∧ report rows = .ok payloads ∧
        after = files.writeRows codec stream payloads := by
  constructor
  · intro exported
    obtain ⟨rows, built, exported⟩ := bind_ok exported
    obtain ⟨payloads, reported, same⟩ := bind_ok exported
    cases same
    exact ⟨rows, payloads, built, reported, rfl⟩
  · rintro ⟨rows, payloads, built, reported, rfl⟩
    have unfolded : files.exportRows codec report stream =
      (files.datasetRows codec >>= fun rows => report rows >>= fun payloads =>
        .ok (files.writeRows codec stream payloads)) := rfl
    rw [unfolded, built]
    change (report rows >>= _) = _
    rw [reported]
    rfl

/-- An export that returns writes nothing but its own stream. -/
theorem SameBesideExports.exported {others after : StreamFiles} (same : SameBesideExports files others)
    {report : List PyValue → Except PyError (List PyValue)} {stream : String} (known : stream ∈ exportStreams)
    (returned : files.exportRows codec report stream = .ok after) : SameBesideExports after others := by
  obtain ⟨rows, payloads, -, -, rfl⟩ := exportRows_iff.mp returned
  exact same.written known payloads

/-- An export whose file is already there changes nothing. -/
theorem exportRows_again {others : StreamFiles} (same : SameBesideExports files others)
    {report : List PyValue → Except PyError (List PyValue)} {stream : String} {rows payloads : List PyValue}
    (built : others.datasetRows codec = .ok rows) (reported : report rows = .ok payloads)
    (present : files.get? stream = some (payloads.flatMap fun row => dumps codec row ++ ['\n'])) :
    files.exportRows codec report stream = .ok files :=
  exportRows_iff.mpr ⟨rows, payloads, same.datasetRows.trans built, reported, (writeRows_again present).symm⟩

/-- What a run leaves, at the step that raised or at its end. -/
theorem runPaperExport_beside (codec : FloatText) (files : StreamFiles) :
    SameBesideExports (final ((files.runPaperExport codec).map Prod.fst)) files := by
  have start : SameBesideExports files files := fun _ _ => rfl
  unfold runPaperExport
  refine final_raiseFrom (P := fun left => SameBesideExports left files) start fun first dataset => ?_
  have one := start.exported (by decide) dataset
  refine final_raiseFrom (P := fun left => SameBesideExports left files) one fun second summary => ?_
  have two := one.exported (by decide) summary
  refine final_raiseFrom (P := fun left => SameBesideExports left files) two fun third aggregates => ?_
  have three := two.exported (by decide) aggregates
  exact final_raiseFrom (P := fun left => SameBesideExports left files) three fun result _ => three

/-- An export, run over whatever the files hold, leaves every file but its three
as it was, also where it raises; once it returned, a second one returns the same
summary and changes no file. -/
theorem runPaperExport_idempotent (codec : FloatText) (files : StreamFiles) :
    SameBesideExports (final ((files.runPaperExport codec).map Prod.fst)) files ∧
    ∀ after summary, files.runPaperExport codec = .ok (after, summary) →
      after.runPaperExport codec = .ok (after, summary) := by
  refine ⟨runPaperExport_beside codec files, fun after summary ran => ?_⟩
  obtain ⟨first, dataset, ran⟩ := bind_ok ran
  obtain ⟨second, summarised, ran⟩ := bind_ok ran
  obtain ⟨third, aggregated, ran⟩ := bind_ok ran
  obtain ⟨last, summed, ran⟩ := bind_ok ran
  cases ran
  have summed := raiseFrom_ok summed
  have start : SameBesideExports files files := fun _ _ => rfl
  have one := start.exported (by decide) (raiseFrom_ok dataset)
  have two := one.exported (by decide) (raiseFrom_ok summarised)
  have three := two.exported (by decide) (raiseFrom_ok aggregated)
  obtain ⟨rows, rowsWritten, built, reported, rfl⟩ := exportRows_iff.mp (raiseFrom_ok dataset)
  obtain ⟨rowsAgain, summaryWritten, builtAgain, summarisedRows, rfl⟩ := exportRows_iff.mp (raiseFrom_ok summarised)
  obtain ⟨rowsLast, aggregatesWritten, builtLast, totalled, rfl⟩ := exportRows_iff.mp (raiseFrom_ok aggregated)
  -- Each file is as the same export would write it, and the journal is what it was.
  have againDataset := exportRows_again three built reported
    ((writeRows_get?_of_ne (by decide) _).trans ((writeRows_get?_of_ne (by decide) _).trans
      (OrderedDict.get?_set_self _ _ _)))
  have againSummary := exportRows_again three (one.datasetRows.symm.trans builtAgain) summarisedRows
    ((writeRows_get?_of_ne (by decide) _).trans (OrderedDict.get?_set_self _ _ _))
  have againAggregates := exportRows_again three (two.datasetRows.symm.trans builtLast) totalled
    (OrderedDict.get?_set_self _ _ _)
  rw [runPaperExport, exportDataset, againDataset]
  change (raiseFrom _ (exportRows codec _ summaryRows "paper_replay_summary") >>= _) = _
  rw [againSummary]
  change (raiseFrom _ (exportRows codec _ aggregateRows "paper_replay_aggregates") >>= _) = _
  rw [againAggregates]
  change (raiseFrom _ (datasetRows codec _ >>= PaperDatasetService.buildSummary) >>= _) = _
  rw [summed]
  rfl

/-- A decision and its fill, as the journal of a short run. -/
def sampleWrites : List (String × PyValue) :=
  [("paper_decision_log", .dict [("cycle_id", .str "c-1"), ("decision_status", .str "EXECUTE"),
      ("regime", .str "TREND"), ("action_score", .float (4 / 5)), ("decision", .dict [("decision_id", .str "d-1")])]),
    ("paper_fill_log", .dict [("decision_id", .str "d-1"), ("realized_pnl_delta", .float (1 / 2))])]

theorem runPaperExport_twice : ∃ after summary,
    (noFiles.appendAll sampleFloats sampleWrites).runPaperExport sampleFloats = .ok (after, summary) ∧
      after.runPaperExport sampleFloats = .ok (after, summary) := by
  have returned : ((noFiles.appendAll sampleFloats sampleWrites).runPaperExport sampleFloats).isOk = true := by
    decide +kernel
  cases ran : (noFiles.appendAll sampleFloats sampleWrites).runPaperExport sampleFloats with
  | error e =>
      rw [ran] at returned
      cases returned
  | ok result =>
      obtain ⟨after, summary⟩ := result
      exact ⟨after, summary, rfl, (runPaperExport_idempotent sampleFloats _).2 after summary ran⟩

section Journal

variable (writes : List (String × PyValue))

/-- The same records on the journal the model keeps. -/
def recorded : JsonlStorage := run (fun storage write => storage.record write.1 write.2) .empty writes

theorem readStream_recorded (stream : String) : (recorded writes).readStream stream = written writes stream := by
  induction writes using List.reverseRecOn with
  | nil => rfl
  | append_singleton writes write ih =>
      have step : recorded (writes ++ [write]) = (recorded writes).record write.1 write.2 := by
        rw [recorded, run, List.foldl_append]
        rfl
      rw [step, readStream_record, written, List.filter_append, List.map_append]
      by_cases own : write.1 = stream
      · subst own
        simpa [written] using ih
      · simpa [own, Ne.symm own, written] using ih

theorem buildDatasetRows_congr {storage other : JsonlStorage}
    (same : ∀ stream ∈ journalStreams, storage.readStream stream = other.readStream stream) :
    PaperDatasetService.buildDatasetRows storage = PaperDatasetService.buildDatasetRows other := by
  simp only [PaperDatasetService.buildDatasetRows, PaperDatasetService.readRecords,
    same "paper_decision_log" (by decide), same "paper_fill_log" (by decide), same "paper_pnl_log" (by decide)]

/-- Records written to files from the start make the dataset that the same
records make in the model's journal, in whatever order the streams were written. -/
theorem datasetRows_recorded (writes : List (String × PyValue))
    (records : ∀ write ∈ writes, IsRecord codec write.2) :
    (noFiles.appendAll codec writes).datasetRows codec = PaperDatasetService.buildDatasetRows (recorded writes) := by
  have read : ∀ stream, (noFiles.appendAll codec writes).readStream codec stream = .ok (written writes stream) :=
    fun stream => readStream_appendAll noFiles noFiles_whole writes records stream
  have loaded : (noFiles.appendAll codec writes).loadJournal codec =
      .ok (.ofList (journalStreams.map fun stream => (stream, written writes stream))) := by
    simp only [loadJournal, read]
    rfl
  have unfolded : (noFiles.appendAll codec writes).datasetRows codec =
      ((noFiles.appendAll codec writes).loadJournal codec >>= PaperDatasetService.buildDatasetRows) := rfl
  rw [unfolded, loaded]
  refine buildDatasetRows_congr fun stream listed => ?_
  rw [readStream_recorded, JsonlStorage.readStream, OrderedDict.getD]
  have keys : ((journalStreams.map fun stream => (stream, written writes stream)).map Prod.fst).Nodup := by
    simp only [List.map_map, Function.comp_def, List.map_id']
    decide
  have stored : (OrderedDict.ofList (journalStreams.map fun stream => (stream, written writes stream))).get? stream =
      some (written writes stream) := by
    rw [OrderedDict.get?_eq_some_iff, OrderedDict.entries_ofList keys]
    exact List.mem_map.mpr ⟨stream, listed, rfl⟩
  rw [stored, Option.getD_some]

theorem sampleWrites_records : ∀ write ∈ sampleWrites, IsRecord sampleFloats write.2 := by
  have four : sampleFloats.exact (4 / 5) := by simp [sampleFloats, floatTexts]
  have half : sampleFloats.exact (1 / 2) := by simp [sampleFloats, floatTexts]
  have nested : Dumpable sampleFloats (.dict [("decision_id", .str "d-1")]) := ⟨by decide, trivial, trivial⟩
  refine List.forall_mem_cons.mpr ⟨⟨rfl, by decide, ?_⟩, List.forall_mem_singleton.mpr ⟨rfl, by decide, ?_⟩⟩
  · exact ⟨trivial, trivial, trivial, four, nested, trivial⟩
  · exact ⟨trivial, half, trivial⟩

theorem datasetRows_recorded_sample : (noFiles.appendAll sampleFloats sampleWrites).datasetRows sampleFloats =
    PaperDatasetService.buildDatasetRows (recorded sampleWrites) :=
  datasetRows_recorded sampleWrites sampleWrites_records

theorem exportDataset_reads_back_sample : ∃ after rows,
    (noFiles.appendAll sampleFloats sampleWrites).exportDataset sampleFloats "paper_replay_dataset" = .ok after ∧
      after.readStream sampleFloats "paper_replay_dataset" = .ok rows ∧
      after.exportDataset sampleFloats "paper_replay_dataset" = .ok after := by
  have returned : ((noFiles.appendAll sampleFloats sampleWrites).exportDataset sampleFloats
      "paper_replay_dataset").isOk = true := by decide +kernel
  cases exported : (noFiles.appendAll sampleFloats sampleWrites).exportDataset sampleFloats "paper_replay_dataset" with
  | error e =>
      rw [exported] at returned
      cases returned
  | ok after =>
      obtain ⟨rows, -, read, -, again⟩ := exportDataset_reads_back _ _ exported
      exact ⟨after, rows, rfl, read, again (by decide)⟩

end Journal

end StreamFiles

end CatsPy
