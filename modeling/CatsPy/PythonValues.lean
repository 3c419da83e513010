import CatsPy.RoundingGrid
import Mathlib.Algebra.Order.Field.Rat
import Mathlib.Algebra.GroupWithZero.Basic

/-!
# Dynamically typed values

Decoded JSON values with the truthiness, `get`, `or`, `str` and numeric
conversions of the language that handles them, exceptions included. A float
is the rational it denotes. The texts `NaN` and `Infinity` are not numbers here.
-/
namespace PythonValues

inductive ErrorKind where
  | keyError | valueError | typeError | attributeError | runtimeError
  | overflowError | divisionByZero | invalidOperation | nameError | transport
  deriving DecidableEq, Repr

/-- An exception: its class and `str(exc)`. -/
structure PyError where
  kind : ErrorKind
  message : String
  deriving DecidableEq, Repr

inductive PyValue where
  | none
  | bool (b : Bool)
  | int (n : ℤ)
  | float (q : ℚ)
  | str (s : String)
  | list (items : List PyValue)
  | dict (entries : List (String × PyValue))

instance : Inhabited PyValue := ⟨.none⟩

section Texts

/-- `f"{q:.{places}f}"`. -/
def formatFixed (places : ℕ) (q : ℚ) : String :=
  let scaled := RoundingGrid.halfEven (|q| * 10 ^ places)
  let digits := toString scaled
  let padded := "".pushn '0' (places + 1 - digits.length) ++ digits
  let whole := padded.length - places
  (if q < 0 then "-" else "") ++ String.ofList (padded.toList.take whole) ++
    (if places = 0 then "" else "." ++ String.ofList (padded.toList.drop whole))

/-- A float whose value is an integer prints with one zero decimal. A proper
fraction is written as such; its shortest decimal text is not reproduced. -/
def floatText (q : ℚ) : String :=
  if q.den = 1 then toString q.num ++ ".0" else toString q.num ++ "/" ++ toString q.den

mutual

def PyValue.repr : PyValue → String
  | .none => "None"
  | .bool b => if b then "True" else "False"
  | .int n => toString n
  | .float q => floatText q
  | .str s => "'" ++ s ++ "'"
  | .list items => "[" ++ String.intercalate ", " (reprItems items) ++ "]"
  | .dict entries => "\x7b" ++ String.intercalate ", " (reprEntries entries) ++ "\x7d"

def reprItems : List PyValue → List String
  | [] => []
  | v :: rest => v.repr :: reprItems rest

def reprEntries : List (String × PyValue) → List String
  | [] => []
  | (k, v) :: rest => ("'" ++ k ++ "': " ++ v.repr) :: reprEntries rest

end

/-- `str(value)`. -/
def PyValue.toStr : PyValue → String
  | .str s => s
  | v => v.repr

def typeName : PyValue → String
  | .none => "NoneType"
  | .bool _ => "bool"
  | .int _ => "int"
  | .float _ => "float"
  | .str _ => "str"
  | .list _ => "list"
  | .dict _ => "dict"

/-- Two counts with one numeral are equal. -/
theorem repr_inj {m n : ℕ} (same : m.repr = n.repr) : m = n := by
  have digits := congrArg String.toList same
  simp only [Nat.toList_repr] at digits
  rw [← Nat.ofDigitChars_toDigits (b := 10) (n := m) (by decide) (by decide), digits,
    Nat.ofDigitChars_toDigits (by decide) (by decide)]

end Texts

section Access

/-- `bool(value)`. -/
def PyValue.truthy : PyValue → Bool
  | .none => false
  | .bool b => b
  | .int n => n ≠ 0
  | .float q => q ≠ 0
  | .str s => s ≠ ""
  | .list items => !items.isEmpty
  | .dict entries => !entries.isEmpty

/-- `value or other`. -/
def PyValue.or (v other : PyValue) : PyValue := if v.truthy then v else other

/-- `value.get(key, default)`; only a dict has the method. -/
def PyValue.get (v : PyValue) (key : String) (default : PyValue := .none) : Except PyError PyValue :=
  match v with
  | .dict entries => .ok ((entries.lookup key).getD default)
  | _ => .error ⟨.attributeError, "'" ++ typeName v ++ "' object has no attribute 'get'"⟩

/-- The entry of a value already known to be a dict. -/
def PyValue.item (v : PyValue) (key : String) : PyValue :=
  match v with
  | .dict entries => (entries.lookup key).getD .none
  | _ => .none

/-- `isinstance(value, dict)`. -/
def isDict : PyValue → Bool
  | .dict _ => true
  | _ => false

/-- `isinstance(value, str)`. -/
def asText : PyValue → Option String
  | .str s => some s
  | _ => none

/-- `value[key] = item` on a dict. -/
def PyValue.insert (v : PyValue) (key : String) (item : PyValue) : PyValue :=
  match v with
  | .dict entries =>
      if entries.any (fun e => e.1 == key) then
        .dict (entries.map (fun e => if e.1 == key then (key, item) else e))
      else .dict (entries ++ [(key, item)])
  | v => v

def ofOptional (o : Option String) : PyValue := (o.map PyValue.str).getD .none

theorem lookup_replaced {key other : String} (differs : other ≠ key) (item : PyValue)
    (entries : List (String × PyValue)) :
    (entries.map fun e => if e.1 == key then (key, item) else e).lookup other = entries.lookup other := by
  induction entries with
  | nil => rfl
  | cons e rest ih =>
      obtain ⟨k, v⟩ := e
      by_cases same : k = key
      · subst same
        have unequal : (other == k) = false := by simpa using differs
        simpa [List.lookup_cons, unequal] using ih
      · simp only [List.map_cons, beq_iff_eq, same, if_false, List.lookup_cons]
        split
        · rfl
        · simpa using ih

theorem lookup_appended {key other : String} (differs : other ≠ key) (item : PyValue)
    (entries : List (String × PyValue)) :
    (entries ++ [(key, item)]).lookup other = entries.lookup other := by
  have unequal : (other == key) = false := by simpa using differs
  induction entries with
  | nil => simp [List.lookup_cons, unequal]
  | cons e rest ih =>
      obtain ⟨k, v⟩ := e
      simp only [List.cons_append, List.lookup_cons]
      split
      · rfl
      · exact ih

/-- Assigning one key leaves the entries of the others. -/
theorem PyValue.insert_dict (key : String) (item : PyValue) (entries : List (String × PyValue)) :
    ∃ updated, (PyValue.dict entries).insert key item = .dict updated ∧
      ∀ other, other ≠ key → updated.lookup other = entries.lookup other := by
  simp only [PyValue.insert]
  split
  · exact ⟨_, rfl, fun other differs => lookup_replaced differs item entries⟩
  · exact ⟨_, rfl, fun other differs => lookup_appended differs item entries⟩

/-- The assigned key reads back. -/
theorem PyValue.item_insert_self (key : String) (item : PyValue) (entries : List (String × PyValue)) :
    ((PyValue.dict entries).insert key item).item key = item := by
  simp only [PyValue.insert]
  split
  next present =>
    simp only [PyValue.item]
    induction entries with
    | nil => simp at present
    | cons e rest ih =>
        obtain ⟨k, v⟩ := e
        by_cases own : k = key
        · simp [own]
        · have unequal : (key == k) = false := by simpa using Ne.symm own
          have later : (rest.any fun e => e.1 == key) = true := by simpa [own] using present
          simpa [own, List.lookup_cons, unequal] using ih later
  next absent =>
    have unset : entries.lookup key = Option.none := by
      rw [List.lookup_eq_none_iff]
      intro e member
      simp only [List.any_eq_true, beq_iff_eq, not_exists, not_and] at absent
      simpa using Ne.symm (absent e member)
    simp [PyValue.item, List.lookup_append, unset]

end Access

section Numbers

def isBlank (c : Char) : Bool := c = ' ' || c = '\t' || c = '\n' || c = '\r'

def strip (cs : List Char) : List Char :=
  ((cs.dropWhile isBlank).reverse.dropWhile isBlank).reverse

def takeSign : List Char → Bool × List Char
  | '-' :: rest => (true, rest)
  | '+' :: rest => (false, rest)
  | rest => (false, rest)

def digitsToNat (cs : List Char) : ℕ := cs.foldl (fun n c => 10 * n + (c.toNat - '0'.toNat)) 0

def signedInt (cs : List Char) : Option ℤ :=
  let (negative, digits) := takeSign cs
  if digits ≠ [] ∧ digits.all Char.isDigit then
    some (if negative then -(digitsToNat digits : ℤ) else digitsToNat digits)
  else none

def exponentOf : List Char → Option ℤ
  | [] => some 0
  | c :: rest => if c = 'e' ∨ c = 'E' then signedInt rest else none

/-- A decimal numeral with optional sign, fraction and exponent. -/
def numeralOfText (s : String) : Option ℚ :=
  let (negative, body) := takeSign (strip (s.toList.filter (· ≠ '_')))
  let (whole, rest) := body.span Char.isDigit
  let (fraction, rest) := match rest with
    | '.' :: tail => tail.span Char.isDigit
    | tail => ([], tail)
  if whole = [] ∧ fraction = [] then none
  else (exponentOf rest).map fun (e : ℤ) =>
    let magnitude : ℚ := digitsToNat (whole ++ fraction) * (10 : ℚ) ^ (e - fraction.length)
    if negative then -magnitude else magnitude

/-- `Decimal(str(value))`. -/
def toDecimal (v : PyValue) : Except PyError ℚ :=
  let parsed := match v with
    | .int n => some (n : ℚ)
    | .float q => some q
    | v => numeralOfText v.toStr
  match parsed with
  | some q => .ok q
  | none => .error ⟨.invalidOperation, "[<class 'decimal.ConversionSyntax'>]"⟩

/-- `float(value)`. -/
def toFloat (v : PyValue) : Except PyError ℚ :=
  match v with
  | .int n => .ok n
  | .float q => .ok q
  | .bool b => .ok (if b then 1 else 0)
  | .str s =>
      match numeralOfText s with
      | some q => .ok q
      | none => .error ⟨.valueError, "could not convert string to float: '" ++ s ++ "'"⟩
  | v => .error ⟨.typeError,
      "float() argument must be a string or a real number, not '" ++ typeName v ++ "'"⟩

/-- `int(text)`. -/
def intOfText (s : String) : Except PyError ℤ :=
  match signedInt (strip (s.toList.filter (· ≠ '_'))) with
  | some n => .ok n
  | none => .error ⟨.valueError, "invalid literal for int() with base 10: '" ++ s ++ "'"⟩

end Numbers

section Clock

/-- An aware UTC datetime, in microseconds since the epoch. -/
abbrev Datetime := ℤ

/-- `(later - earlier).total_seconds()`. -/
def totalSeconds (later earlier : Datetime) : ℚ := ((later - earlier : ℤ) : ℚ) / 1000000

theorem totalSeconds_anti {earlier later : Datetime} (before : earlier ≤ later) (now : Datetime) :
    totalSeconds now later ≤ totalSeconds now earlier := by
  have shifted : ((now - later : ℤ) : ℚ) ≤ ((now - earlier : ℤ) : ℚ) := by
    exact_mod_cast sub_le_sub_left before now
  exact div_le_div_of_nonneg_right shifted (by norm_num)

theorem totalSeconds_mono {first second : Datetime} (before : first ≤ second) (earlier : Datetime) :
    totalSeconds first earlier ≤ totalSeconds second earlier := by
  have shifted : ((first - earlier : ℤ) : ℚ) ≤ ((second - earlier : ℤ) : ℚ) := by
    exact_mod_cast sub_le_sub_right before earlier
  exact div_le_div_of_nonneg_right shifted (by norm_num)

/-- `datetime.fromtimestamp(seconds, tz=utc)`, years 1 to 9999. -/
def fromTimestamp (seconds : ℚ) : Except PyError Datetime :=
  let micros := RoundingGrid.halfEven (seconds * 1000000)
  if -62135596800000000 ≤ micros ∧ micros < 253402300800000000 then .ok micros
  else .error ⟨.valueError, "year is out of range"⟩

def pad (width : ℕ) (n : ℤ) : String :=
  let digits := toString n
  "".pushn '0' (width - digits.length) ++ digits

/-- Proleptic Gregorian year, month and day of a day count since the epoch. -/
def civil (days : ℤ) : ℤ × ℤ × ℤ :=
  let z := days + 719468
  let era := z / 146097
  let doe := z % 146097
  let yoe := (doe - doe / 1460 + doe / 36524 - doe / 146096) / 365
  let doy := doe - (365 * yoe + yoe / 4 - yoe / 100)
  let mp := (5 * doy + 2) / 153
  let month := if mp < 10 then mp + 3 else mp - 9
  (yoe + era * 400 + (if month ≤ 2 then 1 else 0), month, doy - (153 * mp + 2) / 5 + 1)

def isoformat (t : Datetime) : String :=
  let (year, month, day) := civil (t / 86400000000)
  let second := t % 86400000000 / 1000000
  let micros := t % 1000000
  pad 4 year ++ "-" ++ pad 2 month ++ "-" ++ pad 2 day ++ "T" ++
    pad 2 (second / 3600) ++ ":" ++ pad 2 (second / 60 % 60) ++ ":" ++ pad 2 (second % 60) ++
    (if micros = 0 then "" else "." ++ pad 6 micros) ++ "+00:00"

end Clock

end PythonValues
