import CatsPy.JsonNesting
import CatsPy.PaperDataset
import CatsPy.StateRuns
import Mathlib.Data.List.DropRight

/-!
# Stream files

The journal as it lies on disk: each stream is a text file to which an append
adds one dumped line, and reading decodes the file line by line.
-/
namespace CatsPy
open PythonValues StateRuns JsonText

/-- The files of the base directory, one text for each stream. -/
abbrev StreamFiles := OrderedDict String (List Char)

section Lines

/-- The characters `str.strip` takes off. -/
def isSpace (c : Char) : Bool :=
  c.toNat ∈ [9, 10, 11, 12, 13, 28, 29, 30, 31, 32, 0x85, 0xa0, 0x1680, 0x2028, 0x2029, 0x202f, 0x205f, 0x3000] ||
    (0x2000 ≤ c.toNat && c.toNat ≤ 0x200a)

def stripLine (line : List Char) : List Char := (line.dropWhile isSpace).rdropWhile isSpace

/-- What a file opened as text hands out for `\r\n` and `\r`. -/
def universalNewlines : List Char → List Char
  | [] => []
  | '\r' :: '\n' :: rest => '\n' :: universalNewlines rest
  | c :: rest => (if c = '\r' then '\n' else c) :: universalNewlines rest

def errorText : JsonError → String
  | .expectingValue => "Expecting value"
  | .expectingName => "Expecting property name enclosed in double quotes"
  | .expectingColon => "Expecting ':' delimiter"
  | .expectingComma => "Expecting ',' delimiter"
  | .unterminatedString => "Unterminated string"
  | .invalidControl => "Invalid control character"
  | .invalidEscape => "Invalid \\escape"
  | .extraData => "Extra data"
  | .unrepresented => "not a value of the model"
  | .outOfFuel => "out of fuel"

/-- `JSONDecodeError`, a `ValueError`. -/
def decodeError (e : JsonError) : PyError := ⟨.valueError, errorText e⟩

/-- One round of `iter_stream`: what the line yields. -/
def readLine (codec : FloatText) (line : List Char) : Except PyError (List PyValue) :=
  let line := stripLine line
  if line = [] then .ok []
  else
    match loads codec line with
    | .error e => .error (decodeError e)
    | .ok payload => .ok (if isDict payload then [payload] else [])

/-- `list(iter_stream(...))`: the first line that does not decode raises. -/
def readLines (codec : FloatText) : List (List Char) → Except PyError (List PyValue)
  | [] => .ok []
  | line :: rest => do
      let found ← readLine codec line
      let more ← readLines codec rest
      return found ++ more

def readText (codec : FloatText) (text : List Char) : Except PyError (List PyValue) :=
  readLines codec ((universalNewlines text).splitOn '\n')

end Lines

mutual

/-- `json_ready` on a value that holds no object of a class. -/
def jsonReady : PyValue → PyValue
  | .list items => .list (jsonReadyItems items)
  | .dict entries => .dict (OrderedDict.ofList (jsonReadyEntries entries)).entries
  | .none => .none
  | .bool b => .bool b
  | .int n => .int n
  | .float q => .float q
  | .str s => .str s

def jsonReadyItems : List PyValue → List PyValue
  | [] => []
  | v :: rest => jsonReady v :: jsonReadyItems rest

def jsonReadyEntries : List (String × PyValue) → List (String × PyValue)
  | [] => []
  | (k, v) :: rest => (k, jsonReady v) :: jsonReadyEntries rest

end

theorem jsonReadyEntries_keys (entries : List (String × PyValue)) :
    (jsonReadyEntries entries).map Prod.fst = entries.map Prod.fst := by
  induction entries with
  | nil => rfl
  | cons entry rest ih => rw [jsonReadyEntries, List.map_cons, List.map_cons, ih]

namespace StreamFiles

/-- The line an append writes. -/
def jsonLine (codec : FloatText) (payload : PyValue) : List Char := dumps codec (jsonReady payload) ++ ['\n']

/-- `JsonlStorage.append`. -/
def append (codec : FloatText) (files : StreamFiles) (stream : String) (payload : PyValue) : StreamFiles :=
  files.set stream (files.getD stream [] ++ jsonLine codec payload)

/-- `JsonlStorage.read_stream`; a stream without a file is empty. -/
def readStream (codec : FloatText) (files : StreamFiles) (stream : String) : Except PyError (List PyValue) :=
  match files.get? stream with
  | none => .ok []
  | some text => readText codec text

/-- An append that ended after `written` characters of its line. -/
def tornAppend (codec : FloatText) (files : StreamFiles) (stream : String) (payload : PyValue) (written : ℕ) :
    StreamFiles :=
  files.set stream (files.getD stream [] ++ (jsonLine codec payload).take written)

/-- The appends one after the other. -/
def appendAll (codec : FloatText) : StreamFiles → List (String × PyValue) → StreamFiles :=
  run fun files write => files.append codec write.1 write.2

end StreamFiles

section Ready

variable {codec : FloatText}

mutual

theorem jsonReady_of_dumpable : ∀ v : PyValue, Dumpable codec v → jsonReady v = v
  | .none, _ => rfl
  | .bool _, _ => rfl
  | .int _, _ => rfl
  | .float _, _ => rfl
  | .str _, _ => rfl
  | .list items, ready => by rw [jsonReady, jsonReadyItems_of_dumpable items ready]
  | .dict entries, ready => by
      rw [jsonReady, jsonReadyEntries_of_dumpable entries ready.2, OrderedDict.entries_ofList ready.1]

theorem jsonReadyItems_of_dumpable : ∀ items : List PyValue, DumpableItems codec items →
    jsonReadyItems items = items
  | [], _ => rfl
  | v :: items, ready => by
      rw [jsonReadyItems, jsonReady_of_dumpable v ready.1, jsonReadyItems_of_dumpable items ready.2]

theorem jsonReadyEntries_of_dumpable : ∀ entries : List (String × PyValue), DumpableEntries codec entries →
    jsonReadyEntries entries = entries
  | [], _ => rfl
  | (key, v) :: entries, ready => by
      rw [jsonReadyEntries, jsonReady_of_dumpable v ready.1, jsonReadyEntries_of_dumpable entries ready.2]

end

end Ready

section Reading

variable {codec : FloatText}

/-- Nothing stands behind the last newline. -/
def Terminated (text : List Char) : Prop := ∀ c ∈ text.getLast?, c = '\n'

theorem readLines_append (first second : List (List Char)) :
    readLines codec (first ++ second) =
      (readLines codec first >>= fun found => readLines codec second >>= fun more => .ok (found ++ more)) := by
  induction first with
  | nil =>
      rw [List.nil_append, readLines]
      cases readLines codec second <;> rfl
  | cons line first ih =>
      rw [List.cons_append, readLines, readLines, ih]
      cases readLine codec line with
      | error e => rfl
      | ok found =>
          cases readLines codec first with
          | error e => rfl
          | ok more =>
              cases readLines codec second with
              | error e => rfl
              | ok others =>
                  exact congrArg Except.ok (List.append_assoc found more others).symm

theorem Terminated.of_cons {c : Char} {text : List Char} (terminated : Terminated (c :: text)) :
    Terminated text := by
  cases text with
  | nil => exact fun _ last => by cases last
  | cons d text => exact fun e last => terminated e (by rwa [List.getLast?_cons_cons])

theorem terminated_append {text line : List Char} (terminated : Terminated line) (present : line ≠ []) :
    Terminated (text ++ line) := by
  intro c last
  rw [List.getLast?_append_of_ne_nil _ present] at last
  exact terminated c last

theorem universalNewlines_append {text : List Char} (terminated : Terminated text) (rest : List Char) :
    universalNewlines (text ++ rest) = universalNewlines text ++ universalNewlines rest := by
  induction text using universalNewlines.induct with
  | case1 => rfl
  | case2 text ih =>
      rw [List.cons_append, List.cons_append, universalNewlines, universalNewlines, ih terminated.of_cons.of_cons]
      rfl
  | case3 c text other ih =>
      rw [universalNewlines.eq_3 c text other, List.cons_append, List.cons_append, ← ih terminated.of_cons]
      refine universalNewlines.eq_3 c (text ++ rest) fun more carriage feed => ?_
      cases text with
      | nil =>
          have newline := terminated c rfl
          rw [carriage] at newline
          cases newline
      | cons d text =>
          cases feed
          exact other text carriage rfl

theorem universalNewlines_cons (c : Char) (text : List Char) :
    ∃ d more, universalNewlines (c :: text) = d :: more := by
  rw [universalNewlines.eq_def]
  split
  next empty => cases empty
  next => exact ⟨_, _, rfl⟩
  next => exact ⟨_, _, rfl⟩

theorem universalNewlines_terminated {text : List Char} (terminated : Terminated text) :
    Terminated (universalNewlines text) := by
  induction text using universalNewlines.induct with
  | case1 => exact terminated
  | case2 text ih =>
      rw [universalNewlines]
      have tail := ih terminated.of_cons.of_cons
      cases same : universalNewlines text with
      | nil => exact fun d last => (Option.some.inj last).symm
      | cons d more =>
          rw [same] at tail
          exact fun e last => tail e (by rwa [List.getLast?_cons_cons] at last)
  | case3 c text other ih =>
      rw [universalNewlines.eq_3 c text other]
      have tail := ih terminated.of_cons
      cases text with
      | nil =>
          intro d last
          rw [← Option.some.inj last, terminated c rfl]
          rfl
      | cons d text =>
          obtain ⟨e, more, same⟩ := universalNewlines_cons d text
          rw [same] at tail ⊢
          exact fun f last => tail f (by rwa [List.getLast?_cons_cons] at last)

theorem universalNewlines_of_no_carriage {line : List Char} (plain : '\r' ∉ line) : universalNewlines line = line := by
  induction line with
  | nil => rfl
  | cons c line ih =>
      have own : c ≠ '\r' := fun same => plain (same ▸ List.mem_cons_self)
      rw [universalNewlines.eq_3 c line fun _ same _ => own same, if_neg own,
        ih fun listed => plain (List.mem_cons_of_mem c listed)]

theorem readLines_blank : readLines codec [[]] = .ok [] := rfl

theorem readLines_split {text : List Char} (terminated : Terminated text) (rest : List Char) :
    readLines codec ((text ++ rest).splitOn '\n') =
      (readLines codec (text.splitOn '\n') >>= fun found =>
        readLines codec (rest.splitOn '\n') >>= fun more => .ok (found ++ more)) := by
  rcases List.eq_nil_or_concat text with rfl | ⟨body, last, rfl⟩
  · rw [List.nil_append, List.splitOn_nil, readLines_blank]
    cases readLines codec (rest.splitOn '\n') <;> rfl
  · rw [List.concat_eq_append] at terminated ⊢
    obtain rfl : last = '\n' := terminated last (by simp)
    have whole : body ++ ['\n'] ++ rest = body ++ '\n' :: rest := by simp
    rw [whole, List.splitOn_append_cons_self, List.splitOn_append_cons_self, List.splitOn_nil, readLines_append,
      readLines_append, readLines_blank]
    cases readLines codec (body.splitOn '\n') with
    | error e => rfl
    | ok found =>
        have same : (.ok found >>= fun found => .ok [] >>= fun more => .ok (found ++ more) : Except PyError _) =
            .ok found := congrArg Except.ok (List.append_nil found)
        rw [same]

/-- Behind a terminated text, what follows is read on its own. -/
theorem readText_append {text : List Char} (terminated : Terminated text) (rest : List Char) :
    readText codec (text ++ rest) =
      (readText codec text >>= fun found => readText codec rest >>= fun more => .ok (found ++ more)) := by
  rw [readText, universalNewlines_append terminated, readLines_split (universalNewlines_terminated terminated)]
  rfl

theorem readText_line {line : List Char} (noFeed : '\n' ∉ line) (noCarriage : '\r' ∉ line) :
    readText codec (line ++ ['\n']) = readText codec line := by
  have own : '\r' ∉ line ++ ['\n'] := by simpa using noCarriage
  rw [readText, readText, universalNewlines_of_no_carriage own, universalNewlines_of_no_carriage noCarriage,
    List.splitOn_append_cons_self, List.splitOn_eq_singleton noFeed, List.splitOn_nil, readLines_append,
    readLines_blank]
  cases readLines codec [line] with
  | error e => rfl
  | ok found => exact congrArg Except.ok (List.append_nil found)

end Reading

section Records

variable {codec : FloatText} {entries others : List (String × PyValue)}

/-- A record as the journal holds them: a dict that dumps and reads back. -/
structure IsRecord (codec : FloatText) (payload : PyValue) : Prop where
  dict : isDict payload = true
  ready : Dumpable codec payload

theorem IsRecord.exists_entries {payload : PyValue} (isRecord : IsRecord codec payload) :
    ∃ entries, payload = .dict entries ∧ Dumpable codec (.dict entries) := by
  obtain ⟨dict, ready⟩ := isRecord
  cases payload with
  | dict entries => exact ⟨entries, rfl, ready⟩
  | _ => cases dict

theorem jsonLine_eq {payload : PyValue} (ready : Dumpable codec payload) :
    StreamFiles.jsonLine codec payload = dumps codec payload ++ ['\n'] := by
  rw [StreamFiles.jsonLine, jsonReady_of_dumpable payload ready]

theorem one_line {text : List Char} (printable : ∀ c ∈ text, 32 ≤ c.toNat) : '\n' ∉ text ∧ '\r' ∉ text :=
  ⟨fun listed => absurd (printable _ listed) (by decide), fun listed => absurd (printable _ listed) (by decide)⟩

theorem stripLine_braces (body : List Char) :
    stripLine ('\x7b' :: (body ++ ['\x7d'])) = '\x7b' :: (body ++ ['\x7d']) := by
  have first : ('\x7b' :: (body ++ ['\x7d'])).dropWhile isSpace = ('\x7b' :: body) ++ ['\x7d'] := by
    rw [List.dropWhile_cons_of_neg (by decide), List.cons_append]
  rw [stripLine, first, List.rdropWhile_concat_neg _ _ _ (by decide), List.cons_append]

/-- What stripping leaves of a line that opens with a brace is a head of it. -/
theorem stripLine_open (rest : List Char) :
    stripLine ('\x7b' :: rest) <+: '\x7b' :: rest ∧ stripLine ('\x7b' :: rest) ≠ [] := by
  have first : ('\x7b' :: rest).dropWhile isSpace = '\x7b' :: rest := List.dropWhile_cons_of_neg (by decide)
  rw [stripLine, first]
  refine ⟨List.rdropWhile_prefix _ _, fun gone => ?_⟩
  exact absurd (List.rdropWhile_eq_nil_iff.mp gone '\x7b' List.mem_cons_self) (by decide)

theorem readLine_of_loads {line : List Char} {payload : PyValue} (present : stripLine line ≠ [])
    (dict : isDict payload = true) (read : loads codec (stripLine line) = .ok payload) :
    readLine codec line = .ok [payload] := by
  rw [readLine]
  simp only [if_neg present, read, dict, if_true]

theorem readLine_refused {line : List Char} (present : stripLine line ≠ [])
    (refused : ∀ read, loads codec (stripLine line) ≠ .ok read) (found : List PyValue) :
    readLine codec line ≠ .ok found := by
  rw [readLine]
  simp only [if_neg present]
  split
  · exact fun same => by cases same
  next payload read => exact absurd read (refused payload)

/-- A line that is refused is one the JSON decoder refuses: its fuel is always enough. -/
theorem readLine_error {line : List Char} {e : PyError} (refused : readLine codec line = .error e) :
    ∃ fault, fault ≠ .outOfFuel ∧ e = decodeError fault := by
  simp only [readLine] at refused
  split at refused
  · cases refused
  · split at refused
    · next fault failed =>
      cases refused
      refine ⟨fault, ?_, rfl⟩
      rintro rfl
      exact loads_fuel _ failed
    · cases refused

theorem readLines_error {lines : List (List Char)} {e : PyError} (refused : readLines codec lines = .error e) :
    ∃ fault, fault ≠ .outOfFuel ∧ e = decodeError fault := by
  induction lines with
  | nil => cases refused
  | cons line rest ih =>
      rw [readLines] at refused
      cases first : readLine codec line with
      | error raised =>
          rw [first] at refused
          cases refused
          exact readLine_error first
      | ok found =>
          rw [first] at refused
          cases later : readLines codec rest with
          | error raised =>
              simp only [later, bind, Except.bind] at refused
              cases refused
              exact ih later
          | ok more =>
              simp only [later, bind, Except.bind] at refused
              cases refused

theorem readText_one_line {line : List Char} (printable : ∀ c ∈ line, 32 ≤ c.toNat) :
    readText codec line = readLine codec line := by
  obtain ⟨noFeed, noCarriage⟩ := one_line printable
  rw [readText, universalNewlines_of_no_carriage noCarriage, List.splitOn_eq_singleton noFeed, readLines, readLines]
  cases readLine codec line with
  | error e => rfl
  | ok found => exact congrArg Except.ok (List.append_nil found)

theorem readLine_dumps (ready : Dumpable codec (.dict entries)) :
    readLine codec (dumps codec (.dict entries)) = .ok [.dict entries] := by
  obtain ⟨body, text⟩ := dumps_dict codec entries
  have strip : stripLine (dumps codec (.dict entries)) = dumps codec (.dict entries) := by
    rw [text, stripLine_braces]
  refine readLine_of_loads ?_ rfl ?_
  · rw [strip, text]
    exact List.cons_ne_nil _ _
  · rw [strip, loads_dumps ready]

/-- The line of a record is read back as the record. -/
theorem readText_jsonLine {payload : PyValue} (isRecord : IsRecord codec payload) :
    readText codec (StreamFiles.jsonLine codec payload) = .ok [payload] := by
  obtain ⟨entries, rfl, ready⟩ := isRecord.exists_entries
  have printable := printable_invariant.holds codec (.dict entries) ready
  obtain ⟨noFeed, noCarriage⟩ := one_line printable
  rw [jsonLine_eq ready, readText_line noFeed noCarriage, readText_one_line printable, readLine_dumps ready]

theorem jsonLine_terminated (payload : PyValue) : Terminated (StreamFiles.jsonLine codec payload) := by
  intro c last
  rw [StreamFiles.jsonLine, List.getLast?_concat] at last
  exact (Option.some.inj last).symm

theorem jsonLine_ne_nil (payload : PyValue) : StreamFiles.jsonLine codec payload ≠ [] := by
  simp [StreamFiles.jsonLine]

end Records

namespace StreamFiles

variable {codec : FloatText}

/-- Every file ends with its last line. -/
def Whole (files : StreamFiles) : Prop := ∀ stream, Terminated (files.getD stream [])

theorem readStream_eq (files : StreamFiles) (stream : String) :
    files.readStream codec stream = readText codec (files.getD stream []) := by
  unfold readStream OrderedDict.getD
  cases files.get? stream <;> rfl

theorem getD_set (files : StreamFiles) (stream other : String) (text : List Char) :
    (files.set stream text).getD other [] = if other = stream then text else files.getD other [] := by
  simp only [OrderedDict.getD, OrderedDict.get?_set]
  split <;> rfl

theorem Whole.append {files : StreamFiles} (whole : files.Whole) (stream : String) (payload : PyValue) :
    (files.append codec stream payload).Whole := by
  intro other
  rw [StreamFiles.append, getD_set]
  split
  · exact terminated_append (jsonLine_terminated payload) (jsonLine_ne_nil payload)
  · exact whole other

theorem Whole.appendAll {files : StreamFiles} (whole : files.Whole) (writes : List (String × PyValue)) :
    (files.appendAll codec writes).Whole :=
  run_invariant _ Whole (fun _ write kept => kept.append write.1 write.2) files writes whole

/-- What was appended to a stream, in order. -/
def written (writes : List (String × PyValue)) (stream : String) : List PyValue :=
  (writes.filter fun write => write.1 = stream).map Prod.snd

theorem written_cons (write : String × PyValue) (writes : List (String × PyValue)) (stream : String) :
    written (write :: writes) stream = (if write.1 = stream then [write.2] else []) ++ written writes stream := by
  unfold written
  by_cases own : write.1 = stream <;> simp [own]

theorem written_append (first second : List (String × PyValue)) (stream : String) :
    written (first ++ second) stream = written first stream ++ written second stream := by
  rw [written, List.filter_append, List.map_append]
  rfl

theorem append_getD (files : StreamFiles) (stream other : String) (payload : PyValue) :
    (files.append codec stream payload).getD other [] =
      files.getD other [] ++ (if stream = other then [payload] else []).flatMap (jsonLine codec) := by
  rw [append, getD_set]
  by_cases own : other = stream
  · subst own
    simp
  · simp [own, Ne.symm own]

/-- The text of a stream grows by the lines appended to it. -/
theorem getD_appendAll (files : StreamFiles) (writes : List (String × PyValue)) (stream : String) :
    (files.appendAll codec writes).getD stream [] =
      files.getD stream [] ++ (written writes stream).flatMap (jsonLine codec) := by
  induction writes generalizing files with
  | nil => exact (List.append_nil _).symm
  | cons write writes ih =>
      have step : files.appendAll codec (write :: writes) =
          (files.append codec write.1 write.2).appendAll codec writes := rfl
      rw [step, ih, append_getD, written_cons, List.flatMap_append, List.append_assoc]

theorem readText_jsonLines {payloads : List PyValue} (records : ∀ payload ∈ payloads, IsRecord codec payload) :
    readText codec (payloads.flatMap (jsonLine codec)) = .ok payloads := by
  induction payloads with
  | nil => rfl
  | cons payload rest ih =>
      rw [List.flatMap_cons, readText_append (jsonLine_terminated payload),
        readText_jsonLine (records payload List.mem_cons_self),
        ih fun later listed => records later (List.mem_cons_of_mem payload listed)]
      rfl

theorem written_records {writes : List (String × PyValue)}
    (records : ∀ write ∈ writes, IsRecord codec write.2) (stream : String) :
    ∀ payload ∈ written writes stream, IsRecord codec payload := by
  intro payload listed
  obtain ⟨write, kept, rfl⟩ := List.mem_map.mp listed
  exact records write (List.mem_filter.mp kept).1

/-- A stream reads as before with the records appended to it behind, whatever was
appended to other streams in between. -/
theorem readStream_written (files : StreamFiles) (whole : files.Whole) {writes : List (String × PyValue)}
    {stream : String} (records : ∀ payload ∈ written writes stream, IsRecord codec payload) :
    (files.appendAll codec writes).readStream codec stream =
      (files.readStream codec stream).map fun found => found ++ written writes stream := by
  rw [readStream_eq, readStream_eq, getD_appendAll, readText_append (whole stream), readText_jsonLines records]
  cases readText codec (files.getD stream []) <;> rfl

theorem readStream_appendAll (files : StreamFiles) (whole : files.Whole) (writes : List (String × PyValue))
    (records : ∀ write ∈ writes, IsRecord codec write.2) (stream : String) :
    (files.appendAll codec writes).readStream codec stream =
      (files.readStream codec stream).map fun found => found ++ written writes stream :=
  readStream_written files whole (written_records records stream)

section Torn

variable {files : StreamFiles} {stream : String} {payload : PyValue} {later : List (String × PyValue)}

theorem tornAppend_getD (files : StreamFiles) (stream other : String) (payload : PyValue) (count : ℕ) :
    (files.tornAppend codec stream payload count).getD other [] =
      files.getD other [] ++ if other = stream then (jsonLine codec payload).take count else [] := by
  rw [tornAppend, getD_set]
  by_cases own : other = stream
  · subst own
    simp
  · simp [own]

/-- What is read behind the texts of before. -/
theorem readStream_torn (whole : files.Whole) (other : String) (count : ℕ) :
    ((files.tornAppend codec stream payload count).appendAll codec later).readStream codec other =
      (files.readStream codec other >>= fun found =>
        readText codec ((if other = stream then (jsonLine codec payload).take count else []) ++
          (written later other).flatMap (jsonLine codec)) >>= fun more => .ok (found ++ more)) := by
  rw [readStream_eq, readStream_eq, getD_appendAll, tornAppend_getD, List.append_assoc, readText_append (whole other)]

/-- The line cut before its newline: what stands in the file is a head of the dump. -/
theorem take_jsonLine (isRecord : IsRecord codec payload) {count : ℕ}
    (cut : count < (jsonLine codec payload).length) :
    (jsonLine codec payload).take count = (dumps codec payload).take count := by
  rw [jsonLine_eq isRecord.ready] at cut ⊢
  rw [List.length_append, List.length_singleton] at cut
  exact List.take_append_of_le_length (by omega)

theorem readLine_torn (isRecord : IsRecord codec payload) {torn : List Char} (cut : torn <+: dumps codec payload)
    (present : torn ≠ []) (missing : torn ≠ dumps codec payload) (found : List PyValue) :
    readLine codec torn ≠ .ok found := by
  obtain ⟨entries, rfl, ready⟩ := isRecord.exists_entries
  obtain ⟨body, text⟩ := dumps_dict codec entries
  have opens : ∃ rest, torn = '\x7b' :: rest := by
    rw [text] at cut
    obtain ⟨rest, same, -⟩ := (List.prefix_cons_iff.mp cut).resolve_left present
    exact ⟨rest, same⟩
  obtain ⟨rest, rfl⟩ := opens
  obtain ⟨head, kept⟩ := stripLine_open rest
  refine readLine_refused kept (fun read => ?_) found
  refine torn_refused ready (head.trans cut) kept (fun same => missing ?_) read
  exact cut.eq_of_length_le (by rw [← same]; exact head.length_le)

/-- The line on which the next record was written behind the cut one. -/
theorem readLine_joined (isRecord : IsRecord codec payload) {next : PyValue} (isNext : IsRecord codec next)
    {torn : List Char} (cut : torn <+: dumps codec payload) (present : torn ≠ []) (found : List PyValue) :
    readLine codec (torn ++ dumps codec next) ≠ .ok found := by
  obtain ⟨entries, rfl, ready⟩ := isRecord.exists_entries
  obtain ⟨others, rfl, readyNext⟩ := isNext.exists_entries
  obtain ⟨body, text⟩ := dumps_dict codec entries
  obtain ⟨bodyNext, textNext⟩ := dumps_dict codec others
  have strip : stripLine (torn ++ dumps codec (.dict others)) = torn ++ dumps codec (.dict others) := by
    rw [text] at cut
    obtain ⟨rest, same, -⟩ := (List.prefix_cons_iff.mp cut).resolve_left present
    have braces : torn ++ dumps codec (.dict others) = '\x7b' :: ((rest ++ ('\x7b' :: bodyNext)) ++ ['\x7d']) := by
      simp [same, textNext]
    rw [braces, stripLine_braces]
  refine readLine_refused ?_ ?_ found
  · rw [strip]
    simp [present]
  · rw [strip]
    by_cases missing : torn = dumps codec (.dict entries)
    · rw [missing]
      exact joined_refused ready
    · exact torn_append_refused ready readyNext cut present missing

theorem dumps_printable (isRecord : IsRecord codec payload) : ∀ c ∈ dumps codec payload, 32 ≤ c.toNat :=
  printable_invariant.holds codec payload isRecord.ready

theorem readText_torn (isRecord : IsRecord codec payload) {torn : List Char} (cut : torn <+: dumps codec payload)
    (present : torn ≠ []) (missing : torn ≠ dumps codec payload) (found : List PyValue) :
    readText codec torn ≠ .ok found := by
  rw [readText_one_line fun c listed => dumps_printable isRecord c (cut.subset listed)]
  exact readLine_torn isRecord cut present missing found

theorem readText_joined (isRecord : IsRecord codec payload) {next : PyValue} (isNext : IsRecord codec next)
    {torn : List Char} (cut : torn <+: dumps codec payload) (present : torn ≠ []) (rest : List Char)
    (found : List PyValue) : readText codec (torn ++ (jsonLine codec next ++ rest)) ≠ .ok found := by
  have printable : ∀ c ∈ torn ++ dumps codec next, 32 ≤ c.toNat := by
    intro c listed
    rcases List.mem_append.mp listed with left | right
    · exact dumps_printable isRecord c (cut.subset left)
    · exact dumps_printable isNext c right
  obtain ⟨noFeed, noCarriage⟩ := one_line printable
  have line : torn ++ jsonLine codec next = torn ++ dumps codec next ++ ['\n'] := by
    rw [jsonLine_eq isNext.ready, List.append_assoc]
  have ended : Terminated (torn ++ jsonLine codec next) :=
    terminated_append (jsonLine_terminated next) (jsonLine_ne_nil next)
  rw [← List.append_assoc, readText_append ended, line, readText_line noFeed noCarriage, readText_one_line printable]
  cases refused : readLine codec (torn ++ dumps codec next) with
  | error e => exact fun same => by cases same
  | ok read => exact absurd refused (readLine_joined isRecord isNext cut present read)

/-- A stream whose last append was cut in the middle of its line. -/
theorem torn_unreadable (whole : files.Whole) (isRecord : IsRecord codec payload) {count : ℕ} (begun : 0 < count)
    (cut : count < (jsonLine codec payload).length) (records : ∀ write ∈ later, IsRecord codec write.2)
    (broken : count + 1 ≠ (jsonLine codec payload).length ∨ written later stream ≠ []) (found : List PyValue) :
    ((files.tornAppend codec stream payload count).appendAll codec later).readStream codec stream ≠ .ok found := by
  have length : (jsonLine codec payload).length = (dumps codec payload).length + 1 := by
    rw [jsonLine_eq isRecord.ready, List.length_append, List.length_singleton]
  have head : (dumps codec payload).take count <+: dumps codec payload := List.take_prefix count _
  have size : ((dumps codec payload).take count).length = count := List.length_take_of_le (by omega)
  have present : (dumps codec payload).take count ≠ [] := by
    intro none
    rw [none] at size
    simp only [List.length_nil] at size
    omega
  rw [readStream_torn whole, if_pos rfl, take_jsonLine isRecord cut]
  cases files.readStream codec stream with
  | error e => exact fun same => by cases same
  | ok before =>
      cases same : written later stream with
      | nil =>
          have missing : (dumps codec payload).take count ≠ dumps codec payload := by
            intro all
            rw [all] at size
            rcases broken with short | more
            · omega
            · exact more same
          rw [List.flatMap_nil, List.append_nil]
          cases refused : readText codec ((dumps codec payload).take count) with
          | error e => exact fun read => by cases read
          | ok read => exact absurd refused (readText_torn isRecord head present missing read)
      | cons next rest =>
          have isNext := written_records records stream next (by rw [same]; exact List.mem_cons_self)
          rw [List.flatMap_cons]
          cases refused : readText codec ((dumps codec payload).take count ++
              (jsonLine codec next ++ rest.flatMap (jsonLine codec))) with
          | error e => exact fun read => by cases read
          | ok read => exact absurd refused (readText_joined isRecord isNext head present _ read)

/-- A line that lacks only its newline is read, as long as nothing follows. -/
theorem unterminated_read (whole : files.Whole) (isRecord : IsRecord codec payload)
    (nothing : written later stream = []) :
    ((files.tornAppend codec stream payload ((jsonLine codec payload).length - 1)).appendAll codec later).readStream
        codec stream = (files.append codec stream payload).readStream codec stream := by
  obtain ⟨noFeed, noCarriage⟩ := one_line (dumps_printable isRecord)
  have taken : (jsonLine codec payload).take ((jsonLine codec payload).length - 1) = dumps codec payload := by
    rw [jsonLine_eq isRecord.ready]
    simp
  rw [readStream_torn whole, if_pos rfl, taken, nothing, List.flatMap_nil, List.append_nil, readStream_eq,
    readStream_eq, append_getD, if_pos rfl, readText_append (whole stream), List.flatMap_singleton,
    jsonLine_eq isRecord.ready, readText_line noFeed noCarriage]

/-- Two directories whose streams hold the same texts. -/
theorem readStream_congr {files others : StreamFiles} {other : String}
    (same : files.getD other [] = others.getD other []) (writes : List (String × PyValue)) :
    (files.appendAll codec writes).readStream codec other = (others.appendAll codec writes).readStream codec other := by
  rw [readStream_eq, readStream_eq, getD_appendAll, getD_appendAll, same]

theorem appendAll_isOk (whole : files.Whole) (records : ∀ write ∈ later, IsRecord codec write.2) :
    ((files.appendAll codec later).readStream codec stream).isOk = (files.readStream codec stream).isOk := by
  rw [readStream_appendAll files whole later records]
  cases files.readStream codec stream <;> rfl

theorem append_isOk (whole : files.Whole) (isRecord : IsRecord codec payload) :
    ((files.append codec stream payload).readStream codec stream).isOk = (files.readStream codec stream).isOk :=
  have records : ∀ write ∈ [(stream, payload)], IsRecord codec write.2 := by simpa using isRecord
  appendAll_isOk whole records

/-- What an append cut anywhere leaves behind, whatever is appended later: the
stream can be read exactly if the whole line or nothing of it was written, or
only the newline is missing and no record follows; what is read then is the log
without the record or with it, and what raises is the JSON decoder. No other stream
is affected. -/
theorem cut_append_all_or_error (files : StreamFiles) (whole : files.Whole) (stream : String) {payload : PyValue}
    (isRecord : IsRecord codec payload) {count : ℕ} (fits : count ≤ (jsonLine codec payload).length)
    {later : List (String × PyValue)} (records : ∀ write ∈ later, IsRecord codec write.2) :
    let cut := (files.tornAppend codec stream payload count).appendAll codec later
    let unrecorded := files.appendAll codec later
    let recorded := (files.append codec stream payload).appendAll codec later
    ((cut.readStream codec stream).isOk = true ↔
      (files.readStream codec stream).isOk = true ∧ (count = 0 ∨ count = (jsonLine codec payload).length ∨
        count + 1 = (jsonLine codec payload).length ∧ written later stream = [])) ∧
    (∀ read, cut.readStream codec stream = .ok read →
      unrecorded.readStream codec stream = .ok read ∨ recorded.readStream codec stream = .ok read) ∧
    (∀ e, cut.readStream codec stream = .error e → ∃ fault, fault ≠ .outOfFuel ∧ e = decodeError fault) ∧
    ∀ other, other ≠ stream → cut.readStream codec other = unrecorded.readStream codec other := by
  have raises : ∀ e, ((files.tornAppend codec stream payload count).appendAll codec later).readStream codec stream =
      .error e → ∃ fault, fault ≠ .outOfFuel ∧ e = decodeError fault := by
    intro e raised
    rw [readStream_eq] at raised
    exact readLines_error raised
  have others : ∀ other, other ≠ stream →
      ((files.tornAppend codec stream payload count).appendAll codec later).readStream codec other =
        (files.appendAll codec later).readStream codec other := by
    intro other differs
    refine readStream_congr ?_ later
    rw [tornAppend_getD, if_neg differs, List.append_nil]
  have wholeRecorded : (files.append codec stream payload).Whole := whole.append stream payload
  intro cut unrecorded recorded
  by_cases none : count = 0
  · have same : cut.readStream codec stream = unrecorded.readStream codec stream := by
      refine readStream_congr ?_ later
      rw [tornAppend_getD, none, List.take_zero, ite_self, List.append_nil]
    refine ⟨?_, fun read found => .inl (same ▸ found), raises, others⟩
    rw [same, appendAll_isOk whole records]
    simp [none]
  by_cases all : count = (jsonLine codec payload).length
  · have same : cut.readStream codec stream = recorded.readStream codec stream := by
      refine readStream_congr ?_ later
      rw [tornAppend_getD, append_getD, all, List.take_length, if_pos rfl, if_pos rfl, List.flatMap_singleton]
    refine ⟨?_, fun read found => .inr (same ▸ found), raises, others⟩
    rw [same, appendAll_isOk wholeRecorded records, append_isOk whole isRecord]
    simp [all]
  by_cases last : count + 1 = (jsonLine codec payload).length ∧ written later stream = []
  · obtain ⟨missing, nothing⟩ := last
    have same : cut.readStream codec stream = recorded.readStream codec stream := by
      have size : count = (jsonLine codec payload).length - 1 := by omega
      have stays : recorded.readStream codec stream = (files.append codec stream payload).readStream codec stream := by
        rw [readStream_eq, readStream_eq, getD_appendAll, nothing, List.flatMap_nil, List.append_nil]
      rw [stays, ← unterminated_read whole isRecord nothing, ← size]
    refine ⟨?_, fun read found => .inr (same ▸ found), raises, others⟩
    rw [same, appendAll_isOk wholeRecorded records, append_isOk whole isRecord]
    simp [missing, nothing]
  · have broken : count + 1 ≠ (jsonLine codec payload).length ∨ written later stream ≠ [] := by tauto
    have refused := torn_unreadable whole isRecord (Nat.pos_of_ne_zero none) (lt_of_le_of_ne fits all) records broken
    refine ⟨⟨fun readable => ?_, fun held => ?_⟩, fun read found => absurd found (refused read), raises, others⟩
    · cases read : cut.readStream codec stream with
      | error e =>
          rw [read] at readable
          cases readable
      | ok found => exact absurd read (refused found)
    · tauto

end Torn

section Sample

/-- A few floats with their texts. -/
def floatTexts : List (ℚ × List Char) := [(0, ['0', '.', '0']), (1 / 2, ['0', '.', '5']), (4 / 5, ['0', '.', '8'])]

theorem floatTexts_numeral : ∀ row ∈ floatTexts, FloatNumeral row.2 := by
  have digit : ∀ c, c.isDigit = true → Digits [c] := fun c own => ⟨by simp, by simpa using own⟩
  have fraction : ∀ c, c.isDigit = true → FloatNumeral ['0', '.', c] := fun c own =>
    ⟨['0'], ['.', c], [], ⟨[], ['0'], rfl, .inl rfl, digit '0' rfl, .inl rfl⟩, .inr ⟨[c], digit c own, rfl⟩, .inl rfl,
      rfl, .inl (by simp)⟩
  intro row listed
  simp only [floatTexts, List.mem_cons, List.not_mem_nil, or_false] at listed
  rcases listed with rfl | rfl | rfl
  · exact fraction '0' rfl
  · exact fraction '5' rfl
  · exact fraction '8' rfl

def sampleFloats : FloatText where
  exact q := q ∈ floatTexts.map Prod.fst
  repr q := (floatTexts.lookup q).getD []
  read text := (floatTexts.find? fun row => row.2 = text).map Prod.fst
  read_repr := by
    have known : ∀ q ∈ floatTexts.map Prod.fst,
        (floatTexts.find? fun row => row.2 = (floatTexts.lookup q).getD []).map Prod.fst = some q := by decide +kernel
    exact known
  exact_of_read text q read := by
    obtain ⟨row, found, rfl⟩ := Option.map_eq_some_iff.mp read
    exact List.mem_map_of_mem (List.mem_of_find?_eq_some found)
  repr_numeral q exact := by
    obtain ⟨row, listed, rfl⟩ := List.mem_map.mp exact
    have known : ∀ row ∈ floatTexts, (floatTexts.lookup row.1).getD [] = row.2 := by decide +kernel
    rw [known row listed]
    exact floatTexts_numeral row listed

/-- A record with a quote, a newline and a float in it. -/
def sampleRecord : PyValue :=
  .dict [("rationale", .list [.str "over \"10x\"\n", .none]), ("action_score", .float (4 / 5))]

theorem sampleRecord_isRecord : IsRecord sampleFloats sampleRecord :=
  ⟨rfl, by decide, ⟨trivial, trivial, trivial⟩, by simp [Dumpable, sampleFloats, floatTexts], trivial⟩

/-- A base directory just made. -/
def noFiles : StreamFiles := .empty

theorem noFiles_whole : noFiles.Whole := fun _ _ last => by cases last

example :
    (noFiles.appendAll sampleFloats [("paper_decision_log", sampleRecord), ("paper_fill_log", .dict []),
      ("paper_decision_log", .dict [])]).readStream sampleFloats "paper_decision_log" =
        .ok [sampleRecord, .dict []] :=
  readStream_appendAll noFiles noFiles_whole _ (by
    have blank : IsRecord sampleFloats (.dict []) := ⟨rfl, List.nodup_nil, trivial⟩
    simp [sampleRecord_isRecord, blank]) "paper_decision_log"

def laterWrites : List (String × PyValue) := [("paper_decision_log", sampleRecord), ("paper_fill_log", .dict [])]

/-- Twenty characters of the second record reached the file. The first one is lost with
it, and a later one does not help; the other stream reads on. -/
theorem cut_append_sample :
    let files := noFiles.append sampleFloats "paper_decision_log" sampleRecord
    let cut := (files.tornAppend sampleFloats "paper_decision_log" sampleRecord 20).appendAll sampleFloats laterWrites
    (files.readStream sampleFloats "paper_decision_log").isOk = true ∧
      (cut.readStream sampleFloats "paper_decision_log").isOk = false ∧
      cut.readStream sampleFloats "paper_fill_log" =
        (files.appendAll sampleFloats laterWrites).readStream sampleFloats "paper_fill_log" := by
  have fits : 20 + 1 < (jsonLine sampleFloats sampleRecord).length := by decide +kernel
  have blank : IsRecord sampleFloats (.dict []) := ⟨rfl, List.nodup_nil, trivial⟩
  have records : ∀ write ∈ laterWrites, IsRecord sampleFloats write.2 := by
    simp [laterWrites, sampleRecord_isRecord, blank]
  obtain ⟨readable_iff, -, -, others⟩ := cut_append_all_or_error
    (noFiles.append sampleFloats "paper_decision_log" sampleRecord)
    (noFiles_whole.append "paper_decision_log" sampleRecord) "paper_decision_log" sampleRecord_isRecord
    (le_of_lt (Nat.lt_of_succ_lt fits)) records
  refine ⟨append_isOk noFiles_whole sampleRecord_isRecord, ?_, others "paper_fill_log" (by decide)⟩
  rw [Bool.eq_false_iff]
  intro readable
  rcases (readable_iff.mp readable).2 with none | all | last
  · cases none
  · omega
  · omega

end Sample

end StreamFiles

end CatsPy
