import CatsPy.JsonText
import Mathlib.Data.List.TakeWhile

/-!
# Nesting of JSON texts

What scanning preserves, stated once for the three mutual scanners. From it:
a value read is one that dumps back, and the text read closes every bracket and
quote it opens. A cut dump leaves something open, and no later dump closes it.
-/
namespace JsonText
open PythonValues

section Scanning

/-- Closure of three properties under everything a scanner accepts. -/
structure ScanInvariant (codec : FloatText) (value : List Char → PyValue → List Char → Prop)
    (items : List Char → List PyValue → List Char → Prop)
    (pairs : List Char → List (String × PyValue) → List Char → Prop) : Prop where
  str : ∀ {text read rest}, scanString text = .ok (read, rest) → value ('"' :: text) (.str (String.ofList read)) rest
  emptyDict : ∀ {text rest}, skip text = '\x7d' :: rest → value ('\x7b' :: text) (.dict []) rest
  dict : ∀ {text read rest}, pairs (skip text) read rest → value ('\x7b' :: text) (dictOf read) rest
  emptyList : ∀ {text rest}, skip text = ']' :: rest → value ('[' :: text) (.list []) rest
  list : ∀ {text read rest}, items (skip text) read rest → value ('[' :: text) (.list read) rest
  null : ∀ rest, value ('n' :: 'u' :: 'l' :: 'l' :: rest) .none rest
  isTrue : ∀ rest, value ('t' :: 'r' :: 'u' :: 'e' :: rest) (.bool true) rest
  isFalse : ∀ rest, value ('f' :: 'a' :: 'l' :: 's' :: 'e' :: rest) (.bool false) rest
  number : ∀ {text v rest}, scanNumber codec text = .ok (v, rest) → value text v rest
  lastItem : ∀ {text v left rest}, value text v left → skip left = ']' :: rest → items text [v] rest
  moreItems : ∀ {text v left next read rest}, value text v left → skip left = ',' :: next →
    items (skip next) read rest → items text (v :: read) rest
  lastPair : ∀ {text key colon body v left rest}, scanString text = .ok (key, colon) →
    skip colon = ':' :: body → value (skip body) v left → skip left = '\x7d' :: rest →
    pairs ('"' :: text) [(String.ofList key, v)] rest
  morePairs : ∀ {text key colon body v left next read rest}, scanString text = .ok (key, colon) →
    skip colon = ':' :: body → value (skip body) v left → skip left = ',' :: next →
    pairs (skip next) read rest → pairs ('"' :: text) ((String.ofList key, v) :: read) rest

theorem map_ok {ε α β : Type} {f : α → β} {read : Except ε α} {b : β} (mapped : read.map f = .ok b) :
    ∃ a, read = .ok a ∧ b = f a := by
  cases read with
  | error e => cases mapped
  | ok a =>
      cases mapped
      exact ⟨a, rfl, rfl⟩

theorem eq_cons_tail {c : Char} {text : List Char} (first : text.head? = some c) : text = c :: text.tail :=
  List.eq_cons_of_mem_head? first

theorem drop_of_isPrefixOf {word text : List Char} (starts : word.isPrefixOf text = true) :
    text = word ++ text.drop word.length := by
  obtain ⟨rest, rfl⟩ := List.isPrefixOf_iff_prefix.mp starts
  simp

variable {codec : FloatText} {value : List Char → PyValue → List Char → Prop}
  {items : List Char → List PyValue → List Char → Prop}
  {pairs : List Char → List (String × PyValue) → List Char → Prop}

theorem ScanInvariant.scanOnce_step (closed : ScanInvariant codec value items pairs) {fuel : ℕ}
    (itemsRead : ∀ text read rest, scanItems codec fuel text = .ok (read, rest) → items text read rest)
    (pairsRead : ∀ text read rest, scanPairs codec fuel text = .ok (read, rest) → pairs text read rest)
    {text : List Char} {v : PyValue} {rest : List Char} (read : scanOnce codec (fuel + 1) text = .ok (v, rest)) :
    value text v rest := by
  cases text with
  | nil => cases read
  | cons c text =>
      rw [scanOnce] at read
      split_ifs at read with quote brace ended bracket closing null isTrue isFalse
      · obtain ⟨found, scanned, same⟩ := map_ok read
        cases same
        subst quote
        exact closed.str scanned
      · cases read
        subst brace
        exact closed.emptyDict (eq_cons_tail ended)
      · obtain ⟨found, scanned, same⟩ := map_ok read
        cases same
        subst brace
        exact closed.dict (pairsRead _ _ _ scanned)
      · cases read
        subst bracket
        exact closed.emptyList (eq_cons_tail closing)
      · obtain ⟨found, scanned, same⟩ := map_ok read
        cases same
        subst bracket
        exact closed.list (itemsRead _ _ _ scanned)
      · cases read
        rw [drop_of_isPrefixOf null]
        exact closed.null _
      · cases read
        rw [drop_of_isPrefixOf isTrue]
        exact closed.isTrue _
      · cases read
        rw [drop_of_isPrefixOf isFalse]
        exact closed.isFalse _
      · exact closed.number read

theorem ScanInvariant.scanItems_step (closed : ScanInvariant codec value items pairs) {fuel : ℕ}
    (valueRead : ∀ text v rest, scanOnce codec fuel text = .ok (v, rest) → value text v rest)
    (itemsRead : ∀ text read rest, scanItems codec fuel text = .ok (read, rest) → items text read rest)
    {text : List Char} {listed : List PyValue} {rest : List Char}
    (read : scanItems codec (fuel + 1) text = .ok (listed, rest)) : items text listed rest := by
  rw [scanItems] at read
  split at read
  · cases read
  next v left scanned =>
    have own := valueRead _ _ _ scanned
    split at read
    next next comma =>
      obtain ⟨found, more, same⟩ := map_ok read
      cases same
      exact closed.moreItems own comma (itemsRead _ _ _ more)
    next last closing =>
      cases read
      exact closed.lastItem own closing
    next => cases read

theorem ScanInvariant.scanPairs_step (closed : ScanInvariant codec value items pairs) {fuel : ℕ}
    (valueRead : ∀ text v rest, scanOnce codec fuel text = .ok (v, rest) → value text v rest)
    (pairsRead : ∀ text read rest, scanPairs codec fuel text = .ok (read, rest) → pairs text read rest)
    {text : List Char} {listed : List (String × PyValue)} {rest : List Char}
    (read : scanPairs codec (fuel + 1) text = .ok (listed, rest)) : pairs text listed rest := by
  cases text with
  | nil => cases read
  | cons quote text =>
      rw [scanPairs] at read
      split_ifs at read with other
      · obtain rfl : quote = '"' := not_not.mp other
        split at read
        · cases read
        next key colon named =>
          split at read
          next body separated =>
            split at read
            · cases read
            next v left scanned =>
              have own := valueRead _ _ _ scanned
              split at read
              next next comma =>
                obtain ⟨found, more, same⟩ := map_ok read
                cases same
                exact closed.morePairs named separated own comma (pairsRead _ _ _ more)
              next last closing =>
                cases read
                exact closed.lastPair named separated own closing
              next => cases read
          next => cases read

/-- What the closure says holds of everything scanned, whatever the fuel. -/
theorem ScanInvariant.holds (closed : ScanInvariant codec value items pairs) (fuel : ℕ) :
    (∀ text v rest, scanOnce codec fuel text = .ok (v, rest) → value text v rest) ∧
    (∀ text read rest, scanItems codec fuel text = .ok (read, rest) → items text read rest) ∧
    (∀ text read rest, scanPairs codec fuel text = .ok (read, rest) → pairs text read rest) := by
  induction fuel with
  | zero =>
      refine ⟨?_, ?_, ?_⟩
      · intro text v rest read
        cases read
      · intro text listed rest read
        cases read
      · intro text listed rest read
        cases read
  | succ fuel ih =>
      obtain ⟨valueRead, itemsRead, pairsRead⟩ := ih
      exact ⟨fun _ _ _ => closed.scanOnce_step itemsRead pairsRead,
        fun _ _ _ => closed.scanItems_step valueRead itemsRead,
        fun _ _ _ => closed.scanPairs_step valueRead pairsRead⟩

end Scanning

section Readable

variable {codec : FloatText}

theorem dumpableEntries_iff (entries : List (String × PyValue)) :
    DumpableEntries codec entries ↔ ∀ v ∈ entries.map Prod.snd, Dumpable codec v := by
  induction entries with
  | nil => simp [DumpableEntries]
  | cons e rest ih =>
      obtain ⟨k, v⟩ := e
      simp [DumpableEntries, ih]

theorem dictOf_dumpable {pairs : List (String × PyValue)} (ready : DumpableEntries codec pairs) :
    Dumpable codec (dictOf pairs) := by
  refine ⟨(OrderedDict.ofList pairs).nodup, (dumpableEntries_iff _).mpr fun v listed => ?_⟩
  exact (dumpableEntries_iff pairs).mp ready v (OrderedDict.mem_values_ofList listed)

theorem scanNumber_dumpable {text rest : List Char} {v : PyValue} (read : scanNumber codec text = .ok (v, rest)) :
    Dumpable codec v := by
  rw [scanNumber] at read
  split at read
  · cases read
  next integer left whole =>
    dsimp only at read
    split_ifs at read
    · cases read
      trivial
    · split at read
      next q decoded =>
        cases read
        exact codec.exact_of_read _ _ decoded
      next => cases read

theorem dumpable_invariant (codec : FloatText) :
    ScanInvariant codec (fun _ v _ => Dumpable codec v) (fun _ read _ => DumpableItems codec read)
      (fun _ read _ => DumpableEntries codec read) where
  str _ := trivial
  emptyDict _ := ⟨List.nodup_nil, trivial⟩
  dict ready := dictOf_dumpable ready
  emptyList _ := trivial
  list ready := ready
  null _ := trivial
  isTrue _ := trivial
  isFalse _ := trivial
  number read := scanNumber_dumpable read
  lastItem ready _ := ⟨ready, trivial⟩
  moreItems ready _ more := ⟨ready, more⟩
  lastPair _ _ ready _ := ⟨ready, trivial⟩
  morePairs _ _ ready _ more := ⟨ready, more⟩

/-- What `loads` returns dumps and reads back. -/
theorem loads_dumpable {text : List Char} {v : PyValue} (read : loads codec text = .ok v) : Dumpable codec v := by
  rw [loads] at read
  split at read
  · cases read
  next found left scanned =>
    split_ifs at read
    cases read
    exact ((dumpable_invariant codec).holds _).1 _ _ _ scanned

end Readable

section Nesting

/-- Where a text stands: how many brackets are open, and whether a string is. -/
inductive Place where
  | code (depth : ℤ)
  | quoted (depth : ℤ)
  | escaped (depth : ℤ)
  deriving DecidableEq

/-- Outside a string no backslash can stand. -/
def Place.step : Place → Char → Option Place
  | .code depth, c =>
      if c = '"' then some (.quoted depth)
      else if c = '\\' then none
      else if c = '\x7b' ∨ c = '[' then some (.code (depth + 1))
      else if c = '\x7d' ∨ c = ']' then some (.code (depth - 1))
      else some (.code depth)
  | .quoted depth, c =>
      if c = '"' then some (.code depth)
      else if c = '\\' then some (.escaped depth)
      else some (.quoted depth)
  | .escaped depth, _ => some (.quoted depth)

def Place.run : Place → List Char → Option Place
  | place, [] => some place
  | place, c :: rest => (place.step c).bind fun next => next.run rest

def Place.depth : Place → ℤ
  | .code depth => depth
  | .quoted depth => depth
  | .escaped depth => depth

theorem Place.run_append (place : Place) (text rest : List Char) :
    place.run (text ++ rest) = (place.run text).bind fun next => next.run rest := by
  induction text generalizing place with
  | nil => rfl
  | cons c text ih =>
      rw [List.cons_append, run, run]
      cases place.step c with
      | none => rfl
      | some next => exact ih next

/-- The text opens and closes the same brackets, outside strings. -/
def Closed (text : List Char) : Prop := ∀ depth, (Place.code depth).run text = some (.code depth)

/-- A character without a meaning for the nesting. -/
def Plain (c : Char) : Prop := c ∉ ['"', '\\', '\x7b', '[', '\x7d', ']']

theorem Plain.step_code {c : Char} (plain : Plain c) (depth : ℤ) : (Place.code depth).step c = some (.code depth) := by
  simp only [Plain, List.mem_cons, List.not_mem_nil, or_false, not_or] at plain
  simp [Place.step, plain]

theorem Closed.nil : Closed [] := fun _ => rfl

theorem Closed.append {text rest : List Char} (first : Closed text) (second : Closed rest) :
    Closed (text ++ rest) := by
  intro depth
  rw [Place.run_append, first depth, Option.bind_some, second depth]

theorem Closed.cons {c : Char} {text : List Char} (plain : Plain c) (rest : Closed text) : Closed (c :: text) := by
  intro depth
  rw [Place.run, plain.step_code, Option.bind_some, rest depth]

theorem closed_of_plain {text : List Char} (plain : ∀ c ∈ text, Plain c) : Closed text := by
  induction text with
  | nil => exact .nil
  | cons c text ih =>
      exact .cons (plain c List.mem_cons_self) (ih fun d listed => plain d (List.mem_cons_of_mem c listed))

theorem plain_of_digit {c : Char} (digit : c.isDigit = true) : Plain c := by
  have other : ∀ d ∈ ['"', '\\', '\x7b', '[', '\x7d', ']'], d.isDigit = false := by simp
  intro listed
  rw [other c listed] at digit
  cases digit

theorem plain_of_blank {c : Char} (blank : isBlank c = true) : Plain c := by
  have other : ∀ d ∈ ['"', '\\', '\x7b', '[', '\x7d', ']'], isBlank d = false := by simp [isBlank]
  intro listed
  rw [other c listed] at blank
  cases blank

/-- What was skipped is plain. -/
theorem skip_split (text : List Char) : ∃ blanks, text = blanks ++ skip text ∧ ∀ c ∈ blanks, isBlank c = true :=
  ⟨text.takeWhile isBlank, List.takeWhile_append_dropWhile.symm, fun _ => List.mem_takeWhile_imp⟩

theorem takeMark_split {marks text mark rest : List Char} (split : takeMark marks text = (mark, rest)) :
    text = mark ++ rest ∧ ∀ c ∈ mark, c ∈ marks := by
  cases text with
  | nil =>
      cases split
      exact ⟨rfl, by simp⟩
  | cons c text =>
      rw [takeMark] at split
      split_ifs at split with listed
      · cases split
        exact ⟨rfl, by simpa using listed⟩
      · cases split
        exact ⟨rfl, by simp⟩

theorem span_split {text digits rest : List Char} (split : text.span Char.isDigit = (digits, rest)) :
    text = digits ++ rest ∧ ∀ c ∈ digits, Plain c := by
  rw [List.span_eq_takeWhile_dropWhile] at split
  cases split
  exact ⟨List.takeWhile_append_dropWhile.symm, fun c listed => plain_of_digit (List.mem_takeWhile_imp listed)⟩

/-- The plain head of a text and what follows it. -/
structure PlainHead (text head rest : List Char) : Prop where
  split : text = head ++ rest
  plain : ∀ c ∈ head, Plain c

theorem PlainHead.nil (text : List Char) : PlainHead text [] text := ⟨rfl, by simp⟩

theorem PlainHead.append {text first middle second rest : List Char} (one : PlainHead text first middle)
    (two : PlainHead middle second rest) : PlainHead text (first ++ second) rest := by
  refine ⟨by rw [one.split, two.split, List.append_assoc], fun c listed => ?_⟩
  rcases List.mem_append.mp listed with left | right
  · exact one.plain c left
  · exact two.plain c right

theorem takeMark_plain {marks text mark rest : List Char} (split : takeMark marks text = (mark, rest))
    (known : ∀ c ∈ marks, Plain c) : PlainHead text mark rest :=
  ⟨(takeMark_split split).1, fun c listed => known c ((takeMark_split split).2 c listed)⟩

theorem span_plain {text digits rest : List Char} (split : text.span Char.isDigit = (digits, rest)) :
    PlainHead text digits rest := ⟨(span_split split).1, (span_split split).2⟩

theorem scanInteger_plain {text integer rest : List Char} (read : scanInteger text = some (integer, rest)) :
    PlainHead text integer rest ∧ integer ≠ [] := by
  rw [scanInteger] at read
  cases signed : takeMark ['-'] text with
  | mk sign body =>
      have one := takeMark_plain signed (by simp [Plain])
      rw [signed] at read
      dsimp only at read
      cases zeroed : takeMark ['0'] body with
      | mk zero left =>
          have two := takeMark_plain zeroed (by simp [Plain])
          rw [zeroed] at read
          cases digited : body.span Char.isDigit with
          | mk digits left =>
              have three := span_plain digited
              rw [digited] at read
              dsimp only at read
              split_ifs at read with some none
              · cases read
                exact ⟨one.append two, by simp [some]⟩
              · cases read
                exact ⟨one.append three, by simp [none]⟩

theorem scanFraction_plain (text : List Char) : PlainHead text (scanFraction text).1 (scanFraction text).2 := by
  rw [scanFraction]
  cases marked : takeMark ['.'] text with
  | mk point body =>
      have one := takeMark_plain marked (by simp [Plain])
      cases digited : body.span Char.isDigit with
      | mk digits left =>
          have two := span_plain digited
          dsimp only
          rw [digited]
          dsimp only
          split
          · exact .nil text
          · exact one.append two

theorem scanExponent_plain (text : List Char) : PlainHead text (scanExponent text).1 (scanExponent text).2 := by
  rw [scanExponent]
  cases marked : takeMark ['e', 'E'] text with
  | mk mark signed =>
      have one := takeMark_plain marked (by simp [Plain])
      dsimp only
      cases signs : takeMark ['-', '+'] signed with
      | mk sign body =>
          have two := takeMark_plain signs (by simp [Plain])
          dsimp only
          cases digited : body.span Char.isDigit with
          | mk digits left =>
              have three := span_plain digited
              dsimp only
              split
              · exact .nil text
              · exact one.append (two.append three)

theorem scanNumber_plain {codec : FloatText} {text rest : List Char} {v : PyValue}
    (read : scanNumber codec text = .ok (v, rest)) : ∃ head, PlainHead text head rest ∧ head ≠ [] := by
  rw [scanNumber] at read
  split at read
  · cases read
  next integer left whole =>
    obtain ⟨one, some⟩ := scanInteger_plain whole
    have two := scanFraction_plain left
    have three := scanExponent_plain (scanFraction left).2
    have all := one.append (two.append three)
    refine ⟨integer ++ ((scanFraction left).1 ++ (scanExponent (scanFraction left).2).1), ?_, by simp [some]⟩
    dsimp only at read
    split_ifs at read
    · cases read
      exact all
    · split at read
      · cases read
        exact all
      · cases read

end Nesting

section Strings

theorem hexDigit_inside {c : Char} (coded : (hexDigit c).isSome) (depth : ℤ) :
    (Place.quoted depth).step c = some (.quoted depth) := by
  have quote : c ≠ '"' := by
    rintro rfl
    cases coded
  have slash : c ≠ '\\' := by
    rintro rfl
    cases coded
  rw [Place.step, if_neg quote, if_neg slash]

theorem hexCode_inside {a b c d : Char} {code : ℕ} (coded : hexCode a b c d = some code) (depth : ℤ)
    (rest : List Char) :
    (Place.quoted depth).run ('\\' :: 'u' :: a :: b :: c :: d :: rest) = (Place.quoted depth).run rest := by
  have four : (hexDigit a).isSome ∧ (hexDigit b).isSome ∧ (hexDigit c).isSome ∧ (hexDigit d).isSome := by
    cases ha : hexDigit a <;> cases hb : hexDigit b <;> cases hc : hexDigit c <;> cases hd : hexDigit d <;>
      simp_all [hexCode]
  obtain ⟨first, second, third, fourth⟩ := four
  have opened : (Place.quoted depth).step '\\' = some (.escaped depth) := rfl
  have letter : (Place.escaped depth).step 'u' = some (.quoted depth) := rfl
  simp only [Place.run, opened, letter, Option.bind_some, hexDigit_inside first, hexDigit_inside second,
    hexDigit_inside third, hexDigit_inside fourth]

/-- The text up to the closing quote leaves the string open at no other place. -/
def ClosesString (text rest : List Char) : Prop :=
  ∃ used, text = used ++ rest ∧ ∀ depth, (Place.quoted depth).run used = some (.code depth)

theorem ClosesString.before {text next rest : List Char} (more : ClosesString next rest) (head : List Char)
    (split : text = head ++ next)
    (inside : ∀ depth rest, (Place.quoted depth).run (head ++ rest) = (Place.quoted depth).run rest) :
    ClosesString text rest := by
  obtain ⟨used, rfl, closes⟩ := more
  exact ⟨head ++ used, by rw [split, List.append_assoc], fun depth => by rw [inside, closes]⟩

theorem prepend_ok {c : Char} {read : Except JsonError (List Char × List Char)} {text rest : List Char}
    (found : prepend c read = .ok (text, rest)) : ∃ more, read = .ok (more, rest) := by
  obtain ⟨⟨more, left⟩, scanned, same⟩ := map_ok found
  cases same
  exact ⟨more, scanned⟩

theorem scanString_closes (text read rest : List Char) (scanned : scanString text = .ok (read, rest)) :
    ClosesString text rest := by
  induction text using scanString.induct generalizing read with
  | case1 => cases scanned
  | case2 a b c d rest bad => simp [scanString, bad] at scanned
  | case3 a b c d next code coded plain ih =>
      simp only [scanString, coded, plain, if_true] at scanned
      obtain ⟨more, found⟩ := prepend_ok scanned
      exact (ih more found).before ['\\', 'u', a, b, c, d] rfl fun depth rest => hexCode_inside coded depth rest
  | case4 a b c d next code coded other low => simp [scanString, coded, other, low] at scanned
  | case5 a b c d code coded other high e f g h next bad => simp [scanString, coded, other, high, bad] at scanned
  | case6 a b c d code coded other high e f g h next low coded' bad =>
      simp [scanString, coded, other, high, coded', bad] at scanned
  | case7 a b c d code coded other high e f g h next low coded' good ih =>
      simp only [scanString, coded, other, high, coded', good, if_false] at scanned
      obtain ⟨more, found⟩ := prepend_ok scanned
      refine (ih more found).before ['\\', 'u', a, b, c, d, '\\', 'u', e, f, g, h] rfl fun depth rest => ?_
      rw [← hexCode_inside coded' depth rest]
      exact hexCode_inside coded depth _
  | case8 a b c d next code coded other high alone =>
      rw [scanString.eq_def] at scanned
      simp [coded, other, high] at scanned
  | case9 next =>
      rw [scanString.eq_def] at scanned
      cases scanned
      exact ⟨['"'], rfl, fun depth => rfl⟩
  | case10 => cases scanned
  | case11 letter next unknown =>
      rw [scanString.eq_def] at scanned
      simp [unknown] at scanned
  | case12 letter next plain known differs other ih =>
      have ordinary : letter ≠ 'u' := by
        rintro rfl
        cases known
      rw [scanString_letter known ordinary] at scanned
      obtain ⟨more, found⟩ := prepend_ok scanned
      exact (ih more found).before ['\\', letter] rfl fun depth rest => rfl
  | case13 c next other noQuote noEscape control =>
      rw [scanString.eq_def] at scanned
      simp [noQuote, noEscape, control] at scanned
  | case14 c next other noQuote noEscape printable ih =>
      rw [scanString_plain noQuote noEscape printable] at scanned
      obtain ⟨more, found⟩ := prepend_ok scanned
      refine (ih more found).before [c] rfl fun depth rest => ?_
      rw [List.singleton_append, Place.run, Place.step, if_neg noQuote, if_neg noEscape, Option.bind_some]

end Strings

section Consumption

/-- The text up to `rest` closes `closes` brackets more than it opens, and no
string is left open. -/
def Consumes (closes : ℤ) (text rest : List Char) : Prop :=
  ∃ used, text = used ++ rest ∧ ∀ depth, (Place.code (depth + closes)).run used = some (.code depth)

theorem Consumes.trans {first second : ℤ} {text middle rest : List Char} (one : Consumes first text middle)
    (two : Consumes second middle rest) : Consumes (first + second) text rest := by
  obtain ⟨used, rfl, closes⟩ := one
  obtain ⟨more, rfl, closesMore⟩ := two
  refine ⟨used ++ more, (List.append_assoc used more rest).symm, fun depth => ?_⟩
  have inner := closes (depth + second)
  rw [show depth + second + first = depth + (first + second) by ring] at inner
  rw [Place.run_append, inner, Option.bind_some, closesMore]

theorem Consumes.of_closed {head text rest : List Char} (split : text = head ++ rest) (closed : Closed head) :
    Consumes 0 text rest := ⟨head, split, fun depth => by simpa using closed depth⟩

theorem Consumes.skip (text : List Char) : Consumes 0 text (skip text) := by
  obtain ⟨blanks, split, blank⟩ := skip_split text
  exact .of_closed split (closed_of_plain fun c listed => plain_of_blank (blank c listed))

theorem Consumes.char {closes : ℤ} {c : Char}
    (steps : ∀ depth, (Place.code (depth + closes)).step c = some (.code depth)) (rest : List Char) :
    Consumes closes (c :: rest) rest :=
  ⟨[c], rfl, fun depth => by rw [Place.run, steps, Option.bind_some, Place.run]⟩

theorem Consumes.plain {c : Char} (plain : Plain c) (rest : List Char) : Consumes 0 (c :: rest) rest :=
  .char (fun depth => by rw [plain.step_code, add_zero]) rest

theorem Consumes.opening {c : Char} (opens : c = '\x7b' ∨ c = '[') (rest : List Char) :
    Consumes (-1) (c :: rest) rest := by
  refine .char (fun depth => ?_) rest
  rcases opens with rfl | rfl <;> simp [Place.step]

theorem Consumes.closing {c : Char} (closes : c = '\x7d' ∨ c = ']') (rest : List Char) :
    Consumes 1 (c :: rest) rest := by
  refine .char (fun depth => ?_) rest
  rcases closes with rfl | rfl <;> simp [Place.step]

theorem Consumes.string {text rest : List Char} (closes : ClosesString text rest) : Consumes 0 ('"' :: text) rest := by
  obtain ⟨used, rfl, inside⟩ := closes
  refine ⟨'"' :: used, rfl, fun depth => ?_⟩
  rw [add_zero, ← inside depth]
  rfl

theorem Consumes.length_le {closes : ℤ} {text rest : List Char} (h : Consumes closes text rest) :
    rest.length ≤ text.length := by
  obtain ⟨used, rfl, -⟩ := h
  simp

/-- A character scanned, blanks around it. -/
theorem Consumes.token {closes : ℤ} {c : Char} {text rest : List Char} (found : JsonText.skip text = c :: rest)
    (token : Consumes closes (c :: rest) rest) : Consumes closes text (JsonText.skip rest) := by
  have before := Consumes.skip text
  rw [found] at before
  simpa using (before.trans token).trans (.skip rest)

theorem skip_length {text rest : List Char} {c : Char} (found : skip text = c :: rest) :
    rest.length < text.length := by
  have shorter := (Consumes.skip text).length_le
  rw [found] at shorter
  exact shorter

/-- What a scanner reads is shorter by a character at least. -/
structure Reads (closes : ℤ) (text rest : List Char) : Prop where
  consumes : Consumes closes text rest
  shorter : rest.length < text.length

theorem Reads.literal {word : List Char} (present : word ≠ []) (plain : ∀ c ∈ word, Plain c) (rest : List Char) :
    Reads 0 (word ++ rest) rest := by
  refine ⟨.of_closed rfl (closed_of_plain plain), ?_⟩
  have some := List.length_pos_of_ne_nil present
  simp only [List.length_append]
  omega

theorem Reads.container {opens : Char} {text rest : List Char} (bracket : opens = '\x7b' ∨ opens = '[')
    (inner : Consumes 1 (skip text) rest) : Reads 0 (opens :: text) rest := by
  have whole := ((Consumes.opening bracket text).trans (.skip text)).trans inner
  refine ⟨by simpa using whole, ?_⟩
  have shorter := inner.length_le.trans (Consumes.skip text).length_le
  simp only [List.length_cons]
  omega

theorem Consumes.closed {closes : Char} {text rest : List Char} (bracket : closes = '\x7d' ∨ closes = ']')
    (found : JsonText.skip text = closes :: rest) : Consumes 1 text rest := by
  have before := Consumes.skip text
  rw [found] at before
  simpa using before.trans (.closing bracket rest)

theorem Reads.last {closes : Char} {text left rest : List Char} (bracket : closes = '\x7d' ∨ closes = ']')
    (value : Reads 0 text left) (found : skip left = closes :: rest) : Reads 1 text rest :=
  ⟨by simpa using value.consumes.trans (.closed bracket found), (skip_length found).trans value.shorter⟩

theorem plain_comma : Plain ',' := by simp [Plain]

theorem plain_colon : Plain ':' := by simp [Plain]

theorem Reads.more {text left next rest : List Char} (value : Reads 0 text left)
    (comma : skip left = ',' :: next) (others : Reads 1 (skip next) rest) : Reads 1 text rest := by
  have reached := value.consumes.trans (.token comma (.plain plain_comma next))
  refine ⟨by simpa using reached.trans others.consumes, ?_⟩
  have lengths := (Consumes.skip next).length_le
  have tail := skip_length comma
  have head := value.shorter
  have rest := others.shorter
  omega

/-- A key, its colon and the value. -/
theorem Reads.pair {text colon body left : List Char} {key : List Char}
    (named : scanString text = .ok (key, colon)) (separated : skip colon = ':' :: body)
    (value : Reads 0 (skip body) left) : Reads 0 ('"' :: text) left := by
  have string := Consumes.string (scanString_closes _ _ _ named)
  have head := string.trans (.token separated (.plain plain_colon body))
  refine ⟨by simpa using head.trans value.consumes, ?_⟩
  have lengths := (Consumes.skip body).length_le
  have tail := skip_length separated
  have inside := string.length_le
  have rest := value.shorter
  omega

theorem scanString_shorter {text rest : List Char} (closes : ClosesString text rest) :
    rest.length < ('"' :: text).length := by
  obtain ⟨used, rfl, -⟩ := closes
  simp only [List.length_cons, List.length_append]
  omega

theorem reads_invariant (codec : FloatText) :
    ScanInvariant codec (fun text _ rest => Reads 0 text rest) (fun text _ rest => Reads 1 text rest)
      (fun text _ rest => Reads 1 text rest) where
  str scanned :=
    have closes := scanString_closes _ _ _ scanned
    ⟨.string closes, scanString_shorter closes⟩
  emptyDict found := .container (.inl rfl) (by rw [found]; exact .closing (.inl rfl) _)
  dict inner := .container (.inl rfl) inner.consumes
  emptyList found := .container (.inr rfl) (by rw [found]; exact .closing (.inr rfl) _)
  list inner := .container (.inr rfl) inner.consumes
  null rest := .literal (List.cons_ne_nil 'n' ['u', 'l', 'l']) (by simp [Plain]) rest
  isTrue rest := .literal (List.cons_ne_nil 't' ['r', 'u', 'e']) (by simp [Plain]) rest
  isFalse rest := .literal (List.cons_ne_nil 'f' ['a', 'l', 's', 'e']) (by simp [Plain]) rest
  number read := by
    obtain ⟨head, plain, present⟩ := scanNumber_plain read
    rw [plain.split]
    exact .literal present plain.plain _
  lastItem value closing := value.last (.inr rfl) closing
  moreItems value comma others := value.more comma others
  lastPair named separated value closing := (Reads.pair named separated value).last (.inl rfl) closing
  morePairs named separated value comma others := (Reads.pair named separated value).more comma others

/-- A text that is read at all closes what it opens. -/
theorem loads_closed {codec : FloatText} {text : List Char} {v : PyValue} (read : loads codec text = .ok v) :
    (Place.code 0).run text = some (.code 0) := by
  rw [loads] at read
  split at read
  · cases read
  next found left scanned =>
    split_ifs at read with ended
    have value := ((reads_invariant codec).holds _).1 _ _ _ scanned
    have after := Consumes.skip left
    rw [ended] at after
    obtain ⟨used, rfl, closes⟩ := ((Consumes.skip text).trans value.consumes).trans after
    simpa using closes 0

end Consumption

section Fuel

variable {codec : FloatText}

theorem map_outOfFuel {α β : Type} {f : α → β} {read : Except JsonError α}
    (enough : read ≠ .error .outOfFuel) : read.map f ≠ .error .outOfFuel := by
  intro mapped
  cases read with
  | error e =>
      cases mapped
      exact enough rfl
  | ok a => cases mapped

theorem raised_outOfFuel {α β : Type} {read : Except JsonError α} {e : JsonError} (failed : read = .error e)
    (enough : read ≠ .error .outOfFuel) : (.error e : Except JsonError β) ≠ .error .outOfFuel := by
  rintro ⟨⟩
  exact enough failed

theorem scanString_fuel (text : List Char) : scanString text ≠ .error .outOfFuel := by
  induction text using scanString.induct with
  | case3 a b c d next code coded plain ih =>
      simp only [scanString, coded, plain, if_true]
      exact map_outOfFuel ih
  | case7 a b c d code coded other high e f g h next low coded' good ih =>
      simp only [scanString, coded, other, high, coded', good, if_false]
      exact map_outOfFuel ih
  | case12 letter next plain known differs other ih =>
      have ordinary : letter ≠ 'u' := by
        rintro rfl
        cases known
      rw [scanString_letter known ordinary]
      exact map_outOfFuel ih
  | case14 c next other noQuote noEscape printable ih =>
      rw [scanString_plain noQuote noEscape printable]
      exact map_outOfFuel ih
  | _ => rw [scanString.eq_def]; simp [*]

theorem scanNumber_fuel (text : List Char) : scanNumber codec text ≠ .error .outOfFuel := by
  rw [scanNumber]
  split
  · simp
  · dsimp only
    split
    · simp
    · split <;> simp

/-- Two calls for each character are enough, so that an error means the text. -/
theorem scan_fuel (fuel : ℕ) :
    (∀ text : List Char, 2 * text.length + 1 ≤ fuel → scanOnce codec fuel text ≠ .error .outOfFuel) ∧
    (∀ text : List Char, 2 * text.length + 2 ≤ fuel → scanItems codec fuel text ≠ .error .outOfFuel) ∧
    (∀ text : List Char, 2 * text.length + 2 ≤ fuel → scanPairs codec fuel text ≠ .error .outOfFuel) := by
  induction fuel with
  | zero => exact ⟨fun _ small => by omega, fun _ small => by omega, fun _ small => by omega⟩
  | succ fuel ih =>
      obtain ⟨valueRead, itemsRead, pairsRead⟩ := ih
      have shorter : ∀ {text v rest}, scanOnce codec fuel text = .ok (v, rest) → rest.length < text.length :=
        fun read => (((reads_invariant codec).holds fuel).1 _ _ _ read).shorter
      have skipped : ∀ text, (skip text).length ≤ text.length := fun text => (Consumes.skip text).length_le
      refine ⟨fun text small => ?_, fun text small => ?_, fun text small => ?_⟩
      · cases text with
        | nil => simp [scanOnce]
        | cons c text =>
            have inner := skipped text
            simp only [List.length_cons] at small
            rw [scanOnce]
            split_ifs
            · exact map_outOfFuel (scanString_fuel text)
            · simp
            · exact map_outOfFuel (pairsRead _ (by omega))
            · simp
            · exact map_outOfFuel (itemsRead _ (by omega))
            · simp
            · simp
            · simp
            · exact scanNumber_fuel _
      · rw [scanItems]
        split
        next e failed => exact raised_outOfFuel failed (valueRead text (by omega))
        next v left read =>
          have rest := shorter read
          split
          next others comma =>
            have behind := skip_length comma
            have inner := skipped others
            exact map_outOfFuel (itemsRead _ (by omega))
          next => simp
          next => simp
      · cases text with
        | nil => simp [scanPairs]
        | cons quote text =>
            simp only [List.length_cons] at small
            rw [scanPairs]
            split_ifs
            · simp
            · split
              next e failed => exact raised_outOfFuel failed (scanString_fuel text)
              next key colon named =>
                have string := scanString_shorter (scanString_closes _ _ _ named)
                simp only [List.length_cons] at string
                split
                next body separated =>
                  have value := skip_length separated
                  have inner := skipped body
                  split
                  next e failed => exact raised_outOfFuel failed (valueRead _ (by omega))
                  next v left read =>
                    have rest := shorter read
                    split
                    next others comma =>
                      have behind := skip_length comma
                      have inner := skipped others
                      exact map_outOfFuel (pairsRead _ (by omega))
                    next => simp
                    next => simp
                next => simp

theorem loads_fuel (text : List Char) : loads codec text ≠ .error .outOfFuel := by
  have enough : scanOnce codec (2 * text.length + 1) (skip text) ≠ .error .outOfFuel :=
    (scan_fuel _).1 (skip text) (by have inner := (Consumes.skip text).length_le; omega)
  rw [loads]
  split
  next e failed => exact raised_outOfFuel failed enough
  next => split <;> simp

end Fuel

section Dumping

/-- A character of a literal, a numeral or a separator. -/
def Token (c : Char) : Prop := Plain c ∧ 32 ≤ c.toNat

/-- A property of texts closed under everything a dump is made of. -/
structure DumpInvariant (P : List Char → Prop) : Prop where
  word : ∀ {text}, (∀ c ∈ text, Token c) → P text
  string : ∀ text, P (dumpsText text)
  append : ∀ {text rest}, P text → P rest → P (text ++ rest)
  bracket : ∀ {opens closes body}, opens = '\x7b' ∨ opens = '[' → closes = '\x7d' ∨ closes = ']' → P body →
    P (opens :: (body ++ [closes]))

theorem Digits.token {digits : List Char} (h : Digits digits) : ∀ c ∈ digits, Token c := by
  intro c listed
  have digit := h.2 c listed
  refine ⟨plain_of_digit digit, ?_⟩
  simp only [Char.isDigit, Bool.and_eq_true, decide_eq_true_eq] at digit
  have low : ('0' : Char).toNat ≤ c.toNat := digit.1
  exact le_trans (by decide) low

theorem Integer.token {integer : List Char} (numeral : Integer integer) : ∀ c ∈ integer, Token c := by
  obtain ⟨sign, digits, rfl, signed, ten, -⟩ := numeral
  intro c listed
  rcases List.mem_append.mp listed with left | right
  · rcases signed with rfl | rfl
    · cases left
    · obtain rfl := List.mem_singleton.mp left
      simp [Token, Plain]
  · exact ten.token c right

theorem FloatNumeral.token {text : List Char} (numeral : FloatNumeral text) : ∀ c ∈ text, Token c := by
  obtain ⟨integer, fraction, exponent, whole, part, power, rfl, -⟩ := numeral
  intro c listed
  rcases List.mem_append.mp listed with left | right
  · exact whole.token c left
  rcases List.mem_append.mp right with middle | last
  · rcases part with rfl | ⟨digits, ten, rfl⟩
    · cases middle
    · rcases List.mem_cons.mp middle with rfl | digit
      · simp [Token, Plain]
      · exact ten.token c digit
  · rcases power with rfl | ⟨mark, sign, digits, named, signed, ten, rfl⟩
    · cases last
    · rcases List.mem_cons.mp last with rfl | tail
      · rcases named with rfl | rfl <;> simp [Token, Plain]
      rcases List.mem_append.mp tail with signs | digit
      · rcases signed with rfl | rfl | rfl
        · cases signs
        · obtain rfl := List.mem_singleton.mp signs
          simp [Token, Plain]
        · obtain rfl := List.mem_singleton.mp signs
          simp [Token, Plain]
      · exact ten.token c digit

theorem DumpInvariant.intercalate {P : List Char → Prop} (closed : DumpInvariant P) {texts : List (List Char)}
    (each : ∀ text ∈ texts, P text) : P ([',', ' '].intercalate texts) := by
  have separator : P [',', ' '] := closed.word (by simp [Token, Plain])
  induction texts with
  | nil => exact closed.word (by simp)
  | cons text rest ih =>
      have others := ih fun later listed => each later (List.mem_cons_of_mem text listed)
      have own := each text List.mem_cons_self
      cases rest with
      | nil => simpa using own
      | cons next rest =>
          rw [List.intercalate_cons_cons]
          exact closed.append (closed.append own separator) others

mutual

/-- The property holds of every dump. -/
theorem DumpInvariant.holds {P : List Char → Prop} (closed : DumpInvariant P) (codec : FloatText) :
    ∀ v : PyValue, Dumpable codec v → P (dumps codec v)
  | .none, _ => closed.word (by simp [dumps, Token, Plain])
  | .bool true, _ => closed.word (by simp [dumps, Token, Plain])
  | .bool false, _ => closed.word (by simp [dumps, Token, Plain])
  | .int n, _ => closed.word (dumpsInt_integer n).token
  | .float q, exact => closed.word (codec.repr_numeral q exact).token
  | .str s, _ => closed.string s
  | .list items, ready => closed.bracket (.inr rfl) (.inr rfl) (closed.intercalate (closed.items codec items ready))
  | .dict entries, ready =>
      closed.bracket (.inl rfl) (.inl rfl) (closed.intercalate (closed.entries codec entries ready.2))

theorem DumpInvariant.items {P : List Char → Prop} (closed : DumpInvariant P) (codec : FloatText) :
    ∀ items : List PyValue, DumpableItems codec items → ∀ text ∈ dumpsItems codec items, P text
  | [], _, _, listed => by cases listed
  | v :: items, ready, text, listed => by
      rcases List.mem_cons.mp listed with rfl | later
      · exact closed.holds codec v ready.1
      · exact closed.items codec items ready.2 text later

theorem DumpInvariant.entries {P : List Char → Prop} (closed : DumpInvariant P) (codec : FloatText) :
    ∀ entries : List (String × PyValue), DumpableEntries codec entries → ∀ text ∈ dumpsEntries codec entries, P text
  | [], _, _, listed => by cases listed
  | (key, v) :: entries, ready, text, listed => by
      rcases List.mem_cons.mp listed with rfl | later
      · have colon : P [':', ' '] := closed.word (by simp [Token, Plain])
        exact closed.append (closed.string key) (closed.append colon (closed.holds codec v ready.1))
      · exact closed.entries codec entries ready.2 text later

end

theorem escapeChar_printable (c : Char) : ∀ d ∈ escapeChar c, 32 ≤ d.toNat := by
  have letters : ∀ e ∈ escapes, 32 ≤ e.1.toNat := by decide
  have hex : ∀ d < 16, 32 ≤ (Nat.digitChar d).toNat := by decide
  unfold escapeChar
  split
  next letter named =>
    obtain ⟨e, found, rfl⟩ := Option.map_eq_some_iff.mp named
    have own := letters e (List.mem_of_find?_eq_some found)
    simpa using own
  next =>
    split
    next control =>
      have high := hex (c.toNat / 16) (by omega)
      have low := hex (c.toNat % 16) (by omega)
      simpa using ⟨high, low⟩
    next printable => simpa using printable

/-- A dump stands on one line. -/
theorem printable_invariant : DumpInvariant fun text => ∀ c ∈ text, 32 ≤ c.toNat where
  word token c listed := (token c listed).2
  string text c listed := by
    rw [dumpsText] at listed
    rcases List.mem_cons.mp listed with rfl | inside
    · decide
    rcases List.mem_append.mp inside with escaped | last
    · obtain ⟨own, -, part⟩ := List.mem_flatMap.mp escaped
      exact escapeChar_printable own c part
    · obtain rfl := List.mem_singleton.mp last
      decide
  append one two c listed := (List.mem_append.mp listed).elim (one c) (two c)
  bracket opening closing body c listed := by
    rcases List.mem_cons.mp listed with rfl | inside
    · rcases opening with rfl | rfl <;> decide
    rcases List.mem_append.mp inside with middle | last
    · exact body c middle
    · obtain rfl := List.mem_singleton.mp last
      rcases closing with rfl | rfl <;> decide

end Dumping

section Dumps

/-- The text leads back to where it started, and no prefix of it closes more
brackets than it opens. -/
structure Keeps (home : ℤ → Place) (text : List Char) : Prop where
  back : ∀ depth, (home depth).run text = some (home depth)
  above : ∀ depth p, p <+: text → ∃ place, (home depth).run p = some place ∧ depth ≤ place.depth

/-- Closed at every level. -/
abbrev Nested : List Char → Prop := Keeps .code

theorem Keeps.append {home : ℤ → Place} {text rest : List Char} (first : Keeps home text)
    (second : Keeps home rest) : Keeps home (text ++ rest) where
  back depth := by rw [Place.run_append, first.back, Option.bind_some, second.back]
  above depth p inside := by
    rcases List.prefix_or_prefix_of_prefix inside (List.prefix_append text rest) with short | ⟨more, rfl⟩
    · exact first.above depth p short
    · rw [Place.run_append, first.back, Option.bind_some]
      exact second.above depth more ((List.prefix_append_right_inj text).mp inside)

theorem Keeps.flatMap {home : ℤ → Place} {f : Char → List Char} (level : ∀ depth, (home depth).depth = depth)
    (each : ∀ c, Keeps home (f c)) (text : List Char) : Keeps home (text.flatMap f) := by
  induction text with
  | nil =>
      refine ⟨fun depth => rfl, fun depth p inside => ?_⟩
      rw [List.flatMap_nil, List.prefix_nil] at inside
      exact ⟨home depth, by rw [inside]; rfl, (level depth).ge⟩
  | cons c text ih =>
      rw [List.flatMap_cons]
      exact (each c).append ih

theorem nested_of_plain {text : List Char} (plain : ∀ c ∈ text, Plain c) : Nested text where
  back := closed_of_plain plain
  above depth _ inside :=
    ⟨_, closed_of_plain (fun c listed => plain c (inside.subset listed)) depth, le_refl depth⟩

theorem quoted_char {c : Char} (steps : ∀ depth, (Place.quoted depth).step c = some (.quoted depth)) :
    Keeps .quoted [c] where
  back depth := by rw [Place.run, steps, Option.bind_some, Place.run]
  above depth p inside := by
    rcases List.prefix_cons_iff.mp inside with rfl | ⟨rest, rfl, ended⟩
    · exact ⟨_, rfl, le_refl depth⟩
    · rw [List.prefix_nil.mp ended, Place.run, steps]
      exact ⟨_, rfl, le_refl depth⟩

theorem quoted_escape (letter : Char) : Keeps .quoted ['\\', letter] where
  back depth := rfl
  above depth p inside := by
    rcases List.prefix_cons_iff.mp inside with rfl | ⟨rest, rfl, more⟩
    · exact ⟨_, rfl, le_refl depth⟩
    · rcases List.prefix_cons_iff.mp more with rfl | ⟨last, rfl, ended⟩
      · exact ⟨.escaped depth, rfl, le_refl depth⟩
      · rw [List.prefix_nil.mp ended]
        exact ⟨.quoted depth, rfl, le_refl depth⟩

theorem quoted_hex {d : ℕ} (small : d < 16) : Keeps .quoted [Nat.digitChar d] :=
  quoted_char (hexDigit_inside (by rw [hexDigit_digitChar d small]; rfl))

theorem escapeChar_keeps (c : Char) : Keeps .quoted (escapeChar c) := by
  unfold escapeChar
  split
  next letter named => exact quoted_escape letter
  next unnamed =>
    obtain ⟨noQuote, noEscape⟩ := escapeLetter_none unnamed
    split
    next control =>
      exact (quoted_escape 'u').append ((quoted_hex (d := 0) (by decide)).append
        ((quoted_hex (d := 0) (by decide)).append
          ((quoted_hex (d := c.toNat / 16) (by omega)).append (quoted_hex (d := c.toNat % 16) (by omega)))))
    next => exact quoted_char fun depth => by rw [Place.step, if_neg noQuote, if_neg noEscape]

theorem escapeText_keeps (text : List Char) : Keeps .quoted (escapeText text) :=
  .flatMap (fun _ => rfl) escapeChar_keeps text

theorem dumpsText_nested (text : String) : Nested (dumpsText text) where
  back depth := by
    have inside := (escapeText_keeps text.toList).back depth
    have opened : (Place.code depth).run (dumpsText text) =
        (Place.quoted depth).run (escapeText text.toList ++ ['"']) := rfl
    rw [opened, Place.run_append, inside]
    rfl
  above depth p inside := by
    rcases List.prefix_cons_iff.mp inside with rfl | ⟨more, rfl, body⟩
    · exact ⟨_, rfl, le_refl depth⟩
    · have opened : (Place.code depth).run ('"' :: more) = (Place.quoted depth).run more := rfl
      rw [opened]
      rcases List.prefix_concat_iff.mp body with rfl | short
      · rw [Place.run_append, (escapeText_keeps text.toList).back depth]
        exact ⟨.code depth, rfl, le_refl depth⟩
      · exact (escapeText_keeps text.toList).above depth more short

theorem code_opening {opens : Char} (bracket : opens = '\x7b' ∨ opens = '[') (depth : ℤ) :
    (Place.code depth).step opens = some (.code (depth + 1)) := by
  rcases bracket with rfl | rfl <;> rfl

theorem code_closing {closes : Char} (bracket : closes = '\x7d' ∨ closes = ']') (depth : ℤ) :
    (Place.code (depth + 1)).step closes = some (.code depth) := by
  rcases bracket with rfl | rfl <;> simp [Place.step]

/-- A cut container is still open. -/
theorem cut_bracket_open {opens closes : Char} {body p : List Char} (bracket : opens = '\x7b' ∨ opens = '[')
    (nested : Nested body) (depth : ℤ) (cut : p <+: opens :: (body ++ [closes])) (present : p ≠ [])
    (missing : p ≠ opens :: (body ++ [closes])) :
    ∃ place, (Place.code depth).run p = some place ∧ depth + 1 ≤ place.depth := by
  obtain ⟨more, rfl, inside⟩ := (List.prefix_cons_iff.mp cut).resolve_left present
  have short := (List.prefix_concat_iff.mp inside).resolve_left fun whole => missing (by rw [whole])
  rw [Place.run, code_opening bracket, Option.bind_some]
  exact nested.above (depth + 1) more short

theorem bracket_nested {opens closes : Char} {body : List Char} (opening : opens = '\x7b' ∨ opens = '[')
    (closing : closes = '\x7d' ∨ closes = ']') (nested : Nested body) :
    Nested (opens :: (body ++ [closes])) where
  back depth := by
    rw [Place.run, code_opening opening, Option.bind_some, Place.run_append, nested.back, Option.bind_some,
      Place.run, code_closing closing, Option.bind_some, Place.run]
  above depth p inside := by
    by_cases present : p = []
    · rw [present]
      exact ⟨_, rfl, le_refl depth⟩
    · by_cases whole : p = opens :: (body ++ [closes])
      · rw [whole, Place.run, code_opening opening, Option.bind_some, Place.run_append, nested.back,
          Option.bind_some, Place.run, code_closing closing]
        exact ⟨_, rfl, le_refl depth⟩
      · obtain ⟨place, reached, open_⟩ := cut_bracket_open opening nested depth inside present whole
        exact ⟨place, reached, by omega⟩

theorem nested_invariant : DumpInvariant Nested where
  word token := nested_of_plain fun c listed => (token c listed).1
  string := dumpsText_nested
  append := .append
  bracket := bracket_nested

end Dumps

section Shifted

/-- Read from inside a string, the text ends inside a string or stands where no
text can: its strings and what is between them have changed places. -/
def Shifted (text : List Char) : Prop :=
  ∀ depth place, (Place.quoted depth).run text = some place → ∃ other, place = .quoted other

theorem Shifted.append {text rest : List Char} (first : Shifted text) (second : Shifted rest) :
    Shifted (text ++ rest) := by
  intro depth place reached
  rw [Place.run_append] at reached
  obtain ⟨middle, inside, more⟩ := Option.bind_eq_some_iff.mp reached
  obtain ⟨other, rfl⟩ := first depth middle inside
  exact second other place more

theorem Keeps.shifted {text : List Char} (inside : Keeps .quoted text) : Shifted text := by
  intro depth place reached
  rw [inside.back] at reached
  exact ⟨depth, (Option.some.inj reached).symm⟩

theorem shifted_of_unquoted {text : List Char} (unquoted : ∀ c ∈ text, c ≠ '"' ∧ c ≠ '\\') : Shifted text := by
  induction text with
  | nil =>
      intro depth place reached
      exact ⟨depth, (Option.some.inj reached).symm⟩
  | cons c text ih =>
      have own := unquoted c List.mem_cons_self
      have char : Shifted [c] :=
        (quoted_char fun depth => by rw [Place.step, if_neg own.1, if_neg own.2]).shifted
      exact char.append (ih fun later listed => unquoted later (List.mem_cons_of_mem c listed))

theorem shifted_of_plain {text : List Char} (plain : ∀ c ∈ text, Plain c) : Shifted text := by
  refine shifted_of_unquoted fun c listed => ?_
  have own := plain c listed
  simp only [Plain, List.mem_cons, List.not_mem_nil, or_false, not_or] at own
  exact ⟨own.1, own.2.1⟩

/-- Outside a string, the inside of a dumped one stays outside or cannot stand. -/
theorem escapeText_outside (text : List Char) (depth : ℤ) (place : Place)
    (reached : (Place.code depth).run (escapeText text) = some place) : ∃ other, place = .code other := by
  induction text generalizing depth with
  | nil => exact ⟨depth, (Option.some.inj reached).symm⟩
  | cons c text ih =>
      have head : escapeText (c :: text) = escapeChar c ++ escapeText text := List.flatMap_cons
      rw [head, Place.run_append] at reached
      obtain ⟨middle, first, more⟩ := Option.bind_eq_some_iff.mp reached
      have stays : ∃ other, middle = .code other := by
        unfold escapeChar at first
        split at first
        · cases first
        next unnamed =>
          split at first
          · cases first
          · rw [Place.run, Place.step, if_neg (escapeLetter_none unnamed).1,
              if_neg (escapeLetter_none unnamed).2] at first
            split_ifs at first
            · exact ⟨_, (Option.some.inj first).symm⟩
            · exact ⟨_, (Option.some.inj first).symm⟩
            · exact ⟨_, (Option.some.inj first).symm⟩
      obtain ⟨other, rfl⟩ := stays
      exact ih other more

theorem dumpsText_shifted (text : String) : Shifted (dumpsText text) := by
  intro depth place reached
  have opened : (Place.quoted depth).run (dumpsText text) =
      (Place.code depth).run (escapeText text.toList ++ ['"']) := rfl
  rw [opened, Place.run_append] at reached
  obtain ⟨middle, inside, closing⟩ := Option.bind_eq_some_iff.mp reached
  obtain ⟨other, rfl⟩ := escapeText_outside _ _ _ inside
  exact ⟨other, (Option.some.inj closing).symm⟩

theorem bracket_shifted {opens closes : Char} {body : List Char} (opening : opens = '\x7b' ∨ opens = '[')
    (closing : closes = '\x7d' ∨ closes = ']') (shifted : Shifted body) : Shifted (opens :: (body ++ [closes])) := by
  have first : Shifted [opens] := shifted_of_unquoted (by rcases opening with rfl | rfl <;> simp)
  have last : Shifted [closes] := shifted_of_unquoted (by rcases closing with rfl | rfl <;> simp)
  exact first.append (shifted.append last)

theorem shifted_invariant : DumpInvariant Shifted where
  word token := shifted_of_plain fun c listed => (token c listed).1
  string := dumpsText_shifted
  append := .append
  bracket := bracket_shifted

end Shifted

section Torn

variable {codec : FloatText} {v later : PyValue}

/-- A dict opens with its brace; this is what an escape left open would take. -/
theorem dumps_dict (codec : FloatText) (entries : List (String × PyValue)) : ∃ body,
    dumps codec (.dict entries) = '\x7b' :: (body ++ ['\x7d']) := ⟨_, rfl⟩

theorem torn_open {entries : List (String × PyValue)} (ready : Dumpable codec (.dict entries)) {torn : List Char}
    (cut : torn <+: dumps codec (.dict entries)) (present : torn ≠ []) (missing : torn ≠ dumps codec (.dict entries)) :
    ∃ place, (Place.code 0).run torn = some place ∧ 1 ≤ place.depth :=
  have inside := nested_invariant.intercalate (nested_invariant.entries codec entries ready.2)
  cut_bracket_open (.inl rfl) inside 0 cut present missing

/-- The head of a dumped dict is no text of its own. -/
theorem torn_refused {entries : List (String × PyValue)} (ready : Dumpable codec (.dict entries))
    {torn : List Char} (cut : torn <+: dumps codec (.dict entries)) (present : torn ≠ [])
    (missing : torn ≠ dumps codec (.dict entries)) (read : PyValue) : loads codec torn ≠ .ok read := by
  intro accepted
  obtain ⟨place, reached, open_⟩ := torn_open ready cut present missing
  rw [loads_closed accepted] at reached
  cases reached
  exact absurd open_ (by decide)

/-- A dict dumped behind the head of another does not complete it. -/
theorem torn_append_refused {entries others : List (String × PyValue)} (ready : Dumpable codec (.dict entries))
    (readyLater : Dumpable codec (.dict others)) {torn : List Char}
    (cut : torn <+: dumps codec (.dict entries)) (present : torn ≠ [])
    (missing : torn ≠ dumps codec (.dict entries)) (read : PyValue) :
    loads codec (torn ++ dumps codec (.dict others)) ≠ .ok read := by
  intro accepted
  obtain ⟨place, reached, open_⟩ := torn_open ready cut present missing
  have whole := loads_closed accepted
  rw [Place.run_append, reached, Option.bind_some] at whole
  have shifted := shifted_invariant.holds codec (.dict others) readyLater
  cases place with
  | code depth =>
      rw [(nested_invariant.holds codec (.dict others) readyLater).back depth] at whole
      cases whole
      exact absurd open_ (by decide)
  | quoted depth =>
      obtain ⟨other, ends⟩ := shifted depth _ whole
      cases ends
  | escaped depth =>
      -- The brace is taken for the letter of the escape; the string goes on.
      obtain ⟨body, text⟩ := dumps_dict codec others
      have same : (Place.escaped depth).run (dumps codec (.dict others)) =
          (Place.quoted depth).run (dumps codec (.dict others)) := by rw [text]; rfl
      rw [same] at whole
      obtain ⟨other, ends⟩ := shifted depth _ whole
      cases ends

/-- Two dicts on one line are no text either. -/
theorem joined_refused {entries others : List (String × PyValue)} (ready : Dumpable codec (.dict entries))
    (read : PyValue) : loads codec (dumps codec (.dict entries) ++ dumps codec (.dict others)) ≠ .ok read := by
  obtain ⟨body, text⟩ := dumps_dict codec others
  have own := dumps_skip codec ready (dumps codec (.dict others))
  have first := scanOnce_dumps codec _ (2 * (dumps codec (.dict entries) ++ dumps codec (.dict others)).length + 1)
    (dumps codec (.dict others)) ready (by rw [text]; exact stops_cons _ (by decide))
    (by rw [List.length_append]; omega)
  rw [loads, own, first]
  simp only
  rw [if_neg (by rw [text]; simp [skip, isBlank])]
  exact fun same => by cases same

end Torn

end JsonText
