import CatsPy.OrderedDict
import CatsPy.PythonValues

/-!
# JSON texts

The text a value is dumped as, with the characters outside ASCII left raw, and
the scanner that reads such texts back. How a float is printed and read is a
parameter. A lone surrogate and the constants `NaN` and `Infinity` denote no
value here and are refused like malformed text.
-/
namespace JsonText
open PythonValues

inductive JsonError where
  | expectingValue | expectingName | expectingColon | expectingComma | unterminatedString
  | invalidControl | invalidEscape | extraData | unrepresented | outOfFuel
  deriving DecidableEq, Repr

section Grammar

def Digits (text : List Char) : Prop := text ≠ [] ∧ ∀ c ∈ text, c.isDigit = true

/-- `-?(0|[1-9][0-9]*)`. -/
def Integer (text : List Char) : Prop :=
  ∃ sign digits, text = sign ++ digits ∧ (sign = [] ∨ sign = ['-']) ∧ Digits digits ∧
    (digits = ['0'] ∨ digits.head? ≠ some '0')

/-- `(\.[0-9]+)?`. -/
def Fraction (text : List Char) : Prop := text = [] ∨ ∃ digits, Digits digits ∧ text = '.' :: digits

/-- `([eE][-+]?[0-9]+)?`. -/
def Exponent (text : List Char) : Prop :=
  text = [] ∨ ∃ mark sign digits, (mark = 'e' ∨ mark = 'E') ∧ (sign = [] ∨ sign = ['-'] ∨ sign = ['+']) ∧
    Digits digits ∧ text = mark :: (sign ++ digits)

/-- A numeral that is read as a float: it has a fraction or an exponent. -/
def FloatNumeral (text : List Char) : Prop :=
  ∃ integer fraction exponent, Integer integer ∧ Fraction fraction ∧ Exponent exponent ∧
    text = integer ++ (fraction ++ exponent) ∧ (fraction ≠ [] ∨ exponent ≠ [])

/-- How floats are printed and read; `exact` holds of the numbers a float can be. -/
structure FloatText where
  exact : ℚ → Prop
  repr : ℚ → List Char
  read : List Char → Option ℚ
  read_repr : ∀ q, exact q → read (repr q) = some q
  exact_of_read : ∀ text q, read text = some q → exact q
  repr_numeral : ∀ q, exact q → FloatNumeral (repr q)

end Grammar

section Printing

def escapes : List (Char × Char) :=
  [('"', '"'), ('\\', '\\'), ('n', '\n'), ('r', '\r'), ('t', '\t'), ('f', '\x0c'), ('b', '\x08')]

/-- The letter behind the backslash, for the characters that have one. -/
def escapeLetter (c : Char) : Option Char := (escapes.find? fun e => e.2 = c).map Prod.fst

def escapeChar (c : Char) : List Char :=
  match escapeLetter c with
  | some letter => ['\\', letter]
  | none =>
      if c.toNat < 32 then ['\\', 'u', '0', '0', Nat.digitChar (c.toNat / 16), Nat.digitChar (c.toNat % 16)]
      else [c]

def escapeText (text : List Char) : List Char := text.flatMap escapeChar

def dumpsText (text : String) : List Char := '"' :: (escapeText text.toList ++ ['"'])

def dumpsInt (n : ℤ) : List Char :=
  (if n < 0 then ['-'] else []) ++ Nat.toDigits 10 n.natAbs

mutual

/-- `json.dumps(value, ensure_ascii=False)`. -/
def dumps (codec : FloatText) : PyValue → List Char
  | .none => ['n', 'u', 'l', 'l']
  | .bool true => ['t', 'r', 'u', 'e']
  | .bool false => ['f', 'a', 'l', 's', 'e']
  | .int n => dumpsInt n
  | .float q => codec.repr q
  | .str s => dumpsText s
  | .list items => '[' :: ([',', ' '].intercalate (dumpsItems codec items) ++ [']'])
  | .dict entries => '\x7b' :: ([',', ' '].intercalate (dumpsEntries codec entries) ++ ['\x7d'])

def dumpsItems (codec : FloatText) : List PyValue → List (List Char)
  | [] => []
  | v :: rest => dumps codec v :: dumpsItems codec rest

def dumpsEntries (codec : FloatText) : List (String × PyValue) → List (List Char)
  | [] => []
  | (k, v) :: rest => (dumpsText k ++ (':' :: ' ' :: dumps codec v)) :: dumpsEntries codec rest

end

end Printing

section Scanning

/-- The blanks between tokens. -/
def skip (text : List Char) : List Char := text.dropWhile isBlank

def hexDigit (c : Char) : Option ℕ :=
  if c.isDigit then some (c.toNat - '0'.toNat)
  else if 'a' ≤ c ∧ c ≤ 'f' then some (c.toNat - 'a'.toNat + 10)
  else if 'A' ≤ c ∧ c ≤ 'F' then some (c.toNat - 'A'.toNat + 10)
  else none

def hexCode (a b c d : Char) : Option ℕ := do
  let a ← hexDigit a
  let b ← hexDigit b
  let c ← hexDigit c
  let d ← hexDigit d
  return ((a * 16 + b) * 16 + c) * 16 + d

def unescape (letter : Char) : Option Char := (('/', '/') :: escapes).lookup letter

def prepend (c : Char) (read : Except JsonError (List Char × List Char)) :
    Except JsonError (List Char × List Char) :=
  read.map fun found => (c :: found.1, found.2)

/-- The characters up to the closing quote, and what follows it. A high
surrogate has to be followed by the escape of a low one. -/
def scanString : List Char → Except JsonError (List Char × List Char)
  | [] => .error .unterminatedString
  | '\\' :: 'u' :: a :: b :: c :: d :: rest =>
      match hexCode a b c d with
      | none => .error .invalidEscape
      | some code =>
          if code < 0xd800 ∨ 0xdfff < code then prepend (Char.ofNat code) (scanString rest)
          else if 0xdbff < code then .error .unrepresented
          else
            match rest with
            | '\\' :: 'u' :: e :: f :: g :: h :: rest =>
                match hexCode e f g h with
                | none => .error .invalidEscape
                | some low =>
                    if low < 0xdc00 ∨ 0xdfff < low then .error .unrepresented
                    else
                      prepend (Char.ofNat (0x10000 + (code - 0xd800) * 0x400 + (low - 0xdc00))) (scanString rest)
            | _ => .error .unrepresented
  | c :: rest =>
      if c = '"' then .ok ([], rest)
      else if c = '\\' then
        match rest with
        | [] => .error .unterminatedString
        | letter :: rest =>
            match unescape letter with
            | none => .error .invalidEscape
            | some plain => prepend plain (scanString rest)
      else if c.toNat < 32 then .error .invalidControl
      else prepend c (scanString rest)

def takeMark (marks : List Char) : List Char → List Char × List Char
  | c :: rest => if c ∈ marks then ([c], rest) else ([], c :: rest)
  | [] => ([], [])

def scanInteger (text : List Char) : Option (List Char × List Char) :=
  let (sign, body) := takeMark ['-'] text
  let (zero, left) := takeMark ['0'] body
  if zero ≠ [] then some (sign ++ zero, left)
  else
    let (digits, rest) := body.span Char.isDigit
    if digits = [] then none else some (sign ++ digits, rest)

def scanFraction (text : List Char) : List Char × List Char :=
  let (point, body) := takeMark ['.'] text
  let (digits, rest) := body.span Char.isDigit
  if point = [] ∨ digits = [] then ([], text) else (point ++ digits, rest)

def scanExponent (text : List Char) : List Char × List Char :=
  let (mark, signed) := takeMark ['e', 'E'] text
  let (sign, body) := takeMark ['-', '+'] signed
  let (digits, rest) := body.span Char.isDigit
  if mark = [] ∨ digits = [] then ([], text) else (mark ++ (sign ++ digits), rest)

def readInt : List Char → ℤ
  | '-' :: digits => -(Nat.ofDigitChars 10 digits 0 : ℤ)
  | digits => Nat.ofDigitChars 10 digits 0

def scanNumber (codec : FloatText) (text : List Char) : Except JsonError (PyValue × List Char) :=
  match scanInteger text with
  | none => .error .expectingValue
  | some (integer, rest) =>
      let (fraction, rest) := scanFraction rest
      let (exponent, rest) := scanExponent rest
      if fraction = [] ∧ exponent = [] then .ok (.int (readInt integer), rest)
      else
        match codec.read (integer ++ (fraction ++ exponent)) with
        | some q => .ok (.float q, rest)
        | none => .error .unrepresented

/-- `dict(pairs)`. -/
def dictOf (pairs : List (String × PyValue)) : PyValue := .dict (OrderedDict.ofList pairs).entries

mutual

/-- `scan_once`: the value at the head of the text, and what follows it. -/
def scanOnce (codec : FloatText) : ℕ → List Char → Except JsonError (PyValue × List Char)
  | 0, _ => .error .outOfFuel
  | _ + 1, [] => .error .expectingValue
  | fuel + 1, c :: rest =>
      if c = '"' then (scanString rest).map fun read => (.str (String.ofList read.1), read.2)
      else if c = '\x7b' then
        if (skip rest).head? = some '\x7d' then .ok (.dict [], (skip rest).tail)
        else (scanPairs codec fuel (skip rest)).map fun read => (dictOf read.1, read.2)
      else if c = '[' then
        if (skip rest).head? = some ']' then .ok (.list [], (skip rest).tail)
        else (scanItems codec fuel (skip rest)).map fun read => (.list read.1, read.2)
      else if ['n', 'u', 'l', 'l'].isPrefixOf (c :: rest) then .ok (.none, rest.drop 3)
      else if ['t', 'r', 'u', 'e'].isPrefixOf (c :: rest) then .ok (.bool true, rest.drop 3)
      else if ['f', 'a', 'l', 's', 'e'].isPrefixOf (c :: rest) then .ok (.bool false, rest.drop 4)
      else scanNumber codec (c :: rest)

/-- The items up to the closing bracket. -/
def scanItems (codec : FloatText) : ℕ → List Char → Except JsonError (List PyValue × List Char)
  | 0, _ => .error .outOfFuel
  | fuel + 1, text =>
      match scanOnce codec fuel text with
      | .error e => .error e
      | .ok (v, rest) =>
          match skip rest with
          | ',' :: rest => (scanItems codec fuel (skip rest)).map fun read => (v :: read.1, read.2)
          | ']' :: rest => .ok ([v], rest)
          | _ => .error .expectingComma

/-- The pairs up to the closing brace. -/
def scanPairs (codec : FloatText) : ℕ → List Char → Except JsonError (List (String × PyValue) × List Char)
  | 0, _ => .error .outOfFuel
  | _ + 1, [] => .error .expectingName
  | fuel + 1, quote :: text =>
      if quote ≠ '"' then .error .expectingName
      else
        match scanString text with
        | .error e => .error e
        | .ok (key, rest) =>
            match skip rest with
            | ':' :: rest =>
                match scanOnce codec fuel (skip rest) with
                | .error e => .error e
                | .ok (v, rest) =>
                    match skip rest with
                    | ',' :: rest =>
                        (scanPairs codec fuel (skip rest)).map fun read =>
                          ((String.ofList key, v) :: read.1, read.2)
                    | '\x7d' :: rest => .ok ([(String.ofList key, v)], rest)
                    | _ => .error .expectingComma
            | _ => .error .expectingColon

end

/-- `json.loads(text)`. Each character costs at most two calls. -/
def loads (codec : FloatText) (text : List Char) : Except JsonError PyValue :=
  match scanOnce codec (2 * text.length + 1) (skip text) with
  | .error e => .error e
  | .ok (v, rest) => if skip rest = [] then .ok v else .error .extraData

end Scanning

section Numerals

/-- Nothing that would continue a numeral follows. -/
def Stops (rest : List Char) : Prop :=
  ∀ c ∈ rest.head?, c.isDigit = false ∧ c ∉ ['.'] ∧ c ∉ ['e', 'E']

theorem takeMark_marked {marks : List Char} {mark : Char} (listed : mark ∈ marks) (rest : List Char) :
    takeMark marks (mark :: rest) = ([mark], rest) := if_pos listed

theorem takeMark_unmarked {marks rest : List Char} (other : ∀ c ∈ rest.head?, c ∉ marks) :
    takeMark marks rest = ([], rest) := by
  cases rest with
  | nil => rfl
  | cons c rest => exact if_neg (other c rfl)

/-- An optional sign in front of a text that starts with none. -/
theorem takeMark_sign {marks sign body : List Char} (signed : sign = [] ∨ ∃ mark ∈ marks, sign = [mark])
    (other : ∀ c ∈ body.head?, c ∉ marks) : takeMark marks (sign ++ body) = (sign, body) := by
  rcases signed with rfl | ⟨mark, listed, rfl⟩
  · exact takeMark_unmarked other
  · exact takeMark_marked listed body

theorem span_digits {digits rest : List Char} (all : ∀ c ∈ digits, c.isDigit = true)
    (stops : ∀ c ∈ rest.head?, c.isDigit = false) :
    (digits ++ rest).span Char.isDigit = (digits, rest) := by
  rw [List.span_eq_takeWhile_dropWhile, List.takeWhile_append_of_pos all, List.dropWhile_append_of_pos all]
  cases rest with
  | nil => simp
  | cons c rest => simp [stops c rfl]

theorem Digits.head {digits : List Char} (h : Digits digits) (rest : List Char) :
    ∀ c ∈ (digits ++ rest).head?, c.isDigit = true := by
  obtain ⟨d, more, rfl⟩ := List.exists_cons_of_ne_nil h.1
  intro c first
  cases first
  exact h.2 d List.mem_cons_self

theorem Digits.unmarked {digits marks : List Char} (h : Digits digits) (rest : List Char)
    (other : ∀ c ∈ marks, c.isDigit = false) : ∀ c ∈ (digits ++ rest).head?, c ∉ marks := by
  intro c first listed
  exact absurd (h.head rest c first) (by simp [other c listed])

theorem scanInteger_append {integer rest : List Char} (numeral : Integer integer)
    (stops : ∀ c ∈ rest.head?, c.isDigit = false) :
    scanInteger (integer ++ rest) = some (integer, rest) := by
  obtain ⟨sign, digits, rfl, signed, ten, lead⟩ := numeral
  have split : takeMark ['-'] (sign ++ (digits ++ rest)) = (sign, digits ++ rest) :=
    takeMark_sign (by simpa using signed) (ten.unmarked rest (by simp))
  simp only [scanInteger, List.append_assoc, split]
  by_cases zero : digits = ['0']
  · subst zero
    simp [takeMark]
  · have other : takeMark ['0'] (digits ++ rest) = ([], digits ++ rest) := by
      refine takeMark_unmarked fun c first => ?_
      obtain ⟨d, more, rfl⟩ := List.exists_cons_of_ne_nil ten.1
      cases first
      simpa using lead.resolve_left zero
    simp only [other, span_digits ten.2 stops]
    simp [ten.1]

theorem scanFraction_append {fraction rest : List Char} (numeral : Fraction fraction)
    (point : ∀ c ∈ rest.head?, c ∉ ['.']) (stops : ∀ c ∈ rest.head?, c.isDigit = false) :
    scanFraction (fraction ++ rest) = (fraction, rest) := by
  rcases numeral with rfl | ⟨digits, ten, rfl⟩
  · simp only [scanFraction, List.nil_append, takeMark_unmarked point]
    simp
  · simp only [scanFraction, List.cons_append, takeMark_marked (List.mem_singleton_self '.'),
      span_digits ten.2 stops]
    simp [ten.1]

theorem scanExponent_append {exponent rest : List Char} (numeral : Exponent exponent)
    (mark : ∀ c ∈ rest.head?, c ∉ ['e', 'E']) (stops : ∀ c ∈ rest.head?, c.isDigit = false) :
    scanExponent (exponent ++ rest) = (exponent, rest) := by
  rcases numeral with rfl | ⟨letter, sign, digits, named, signed, ten, rfl⟩
  · simp only [scanExponent, List.nil_append, takeMark_unmarked mark]
    simp
  · have split : takeMark ['-', '+'] (sign ++ (digits ++ rest)) = (sign, digits ++ rest) :=
      takeMark_sign (by simpa using signed) (ten.unmarked rest (by simp))
    simp only [scanExponent, List.cons_append, List.append_assoc,
      takeMark_marked (show letter ∈ ['e', 'E'] by simpa using named), split, span_digits ten.2 stops]
    simp [ten.1]

theorem Exponent.head {exponent rest : List Char} (numeral : Exponent exponent) (stops : Stops rest) :
    ∀ c ∈ (exponent ++ rest).head?, c.isDigit = false ∧ c ∉ ['.'] := by
  rcases numeral with rfl | ⟨letter, sign, digits, named, -, -, rfl⟩
  · exact fun c first => ⟨(stops c first).1, (stops c first).2.1⟩
  · intro c first
    cases first
    rcases named with rfl | rfl <;> decide

theorem Fraction.head {fraction rest : List Char} (numeral : Fraction fraction)
    (stops : ∀ c ∈ rest.head?, c.isDigit = false) : ∀ c ∈ (fraction ++ rest).head?, c.isDigit = false := by
  rcases numeral with rfl | ⟨digits, -, rfl⟩
  · exact stops
  · intro c first
    cases first
    decide

/-- A float's numeral is read back as the float. -/
theorem scanNumber_float {codec : FloatText} {q : ℚ} (exact : codec.exact q) {rest : List Char}
    (stops : Stops rest) : scanNumber codec (codec.repr q ++ rest) = .ok (.float q, rest) := by
  obtain ⟨integer, fraction, exponent, whole, part, power, text, float⟩ := codec.repr_numeral q exact
  have afterFraction := power.head stops
  have read := codec.read_repr q exact
  rw [text] at read ⊢
  rw [scanNumber, List.append_assoc, List.append_assoc,
    scanInteger_append whole (part.head fun c first => (afterFraction c first).1)]
  simp only [scanFraction_append part (fun c first => (afterFraction c first).2)
      (fun c first => (afterFraction c first).1),
    scanExponent_append power (fun c first => (stops c first).2.2) (fun c first => (stops c first).1),
    read]
  rw [if_neg (by tauto)]

theorem toDigits_digits (n : ℕ) : Digits (Nat.toDigits 10 n) :=
  ⟨Nat.toDigits_ne_nil, fun _ listed => Nat.isDigit_of_mem_toDigits (by norm_num) (by norm_num) listed⟩

theorem head_toDigits {n : ℕ} (pos : 0 < n) : (Nat.toDigits 10 n).head? ≠ some '0' := by
  induction n using Nat.strongRecOn with
  | ind n ih =>
      rw [Nat.toDigits_eq_if (by norm_num)]
      split
      next small =>
        have digit : ∀ d < 10, 0 < d → Nat.digitChar d ≠ '0' := by decide
        simpa using digit n small pos
      next large =>
        rw [List.head?_append_of_ne_nil _ Nat.toDigits_ne_nil]
        exact ih (n / 10) (by omega) (by omega)

theorem dumpsInt_integer (n : ℤ) : Integer (dumpsInt n) := by
  refine ⟨if n < 0 then ['-'] else [], Nat.toDigits 10 n.natAbs, rfl, ?_, toDigits_digits _, ?_⟩
  · split <;> simp
  · by_cases zero : n.natAbs = 0
    · exact .inl (by rw [zero, Nat.toDigits_zero])
    · exact .inr (head_toDigits (Nat.pos_of_ne_zero zero))

theorem readInt_dumpsInt (n : ℤ) : readInt (dumpsInt n) = n := by
  unfold dumpsInt
  split
  next negative =>
    simp only [List.cons_append, List.nil_append, readInt, Nat.ofDigitChars_ten_toDigits]
    omega
  next positive =>
    obtain ⟨d, more, digits⟩ := List.exists_cons_of_ne_nil (Nat.toDigits_ne_nil (n := n.natAbs) (b := 10))
    have digit : d.isDigit = true := (toDigits_digits n.natAbs).2 d (by rw [digits]; exact List.mem_cons_self)
    have unsigned : ∀ rest, Nat.toDigits 10 n.natAbs ≠ '-' :: rest := by
      intro rest same
      rw [digits] at same
      cases same
      exact absurd digit (by decide)
    have read : readInt (Nat.toDigits 10 n.natAbs) = Nat.ofDigitChars 10 (Nat.toDigits 10 n.natAbs) 0 := by
      rw [readInt.eq_def]
      split
      next same => exact absurd same (unsigned _)
      next => rfl
    rw [List.nil_append, read, Nat.ofDigitChars_ten_toDigits]
    omega

theorem scanNumber_int {codec : FloatText} (n : ℤ) {rest : List Char} (stops : Stops rest) :
    scanNumber codec (dumpsInt n ++ rest) = .ok (.int n, rest) := by
  have noFraction := scanFraction_append (.inl rfl) (fun c first => (stops c first).2.1)
    (fun c first => (stops c first).1)
  have noExponent := scanExponent_append (.inl rfl) (fun c first => (stops c first).2.2)
    (fun c first => (stops c first).1)
  rw [List.nil_append] at noFraction noExponent
  rw [scanNumber, scanInteger_append (dumpsInt_integer n) fun c first => (stops c first).1]
  simp [noFraction, noExponent, readInt_dumpsInt]

end Numerals

section Strings

theorem escapeLetter_some {c letter : Char} (named : escapeLetter c = some letter) :
    unescape letter = some c ∧ letter ≠ 'u' := by
  have known : ∀ e ∈ escapes, unescape e.1 = some e.2 ∧ e.1 ≠ 'u' := by decide
  obtain ⟨e, found, rfl⟩ := Option.map_eq_some_iff.mp named
  have own := List.find?_some found
  rw [← of_decide_eq_true own]
  exact known e (List.mem_of_find?_eq_some found)

theorem escapeLetter_none {c : Char} (unnamed : escapeLetter c = none) : c ≠ '"' ∧ c ≠ '\\' := by
  constructor
  · rintro rfl
    cases unnamed
  · rintro rfl
    cases unnamed

theorem scanString_letter {letter plain : Char} (named : unescape letter = some plain) (other : letter ≠ 'u')
    (rest : List Char) : scanString ('\\' :: letter :: rest) = prepend plain (scanString rest) := by
  rw [scanString.eq_def]
  split
  next ended => cases ended
  next same => exact absurd (List.cons.inj (List.cons.inj same).2).1 other
  next same =>
    cases same
    simp [named]

theorem scanString_hex {a b c d : Char} {code : ℕ} (coded : hexCode a b c d = some code)
    (low : code < 0xd800) (rest : List Char) :
    scanString ('\\' :: 'u' :: a :: b :: c :: d :: rest) = prepend (Char.ofNat code) (scanString rest) := by
  rw [scanString.eq_def]
  simp only [coded]
  rw [if_pos (.inl low)]

theorem scanString_plain {c : Char} (noQuote : c ≠ '"') (noEscape : c ≠ '\\') (printable : ¬c.toNat < 32)
    (rest : List Char) : scanString (c :: rest) = prepend c (scanString rest) := by
  rw [scanString.eq_def]
  split
  next ended => cases ended
  next same => exact absurd (List.cons.inj same).1 noEscape
  next same =>
    cases same
    rw [if_neg noQuote, if_neg noEscape, if_neg printable]

theorem hexDigit_digitChar : ∀ d < 16, hexDigit (Nat.digitChar d) = some d := by decide

theorem scanString_escapeChar (c : Char) (rest : List Char) :
    scanString (escapeChar c ++ rest) = prepend c (scanString rest) := by
  unfold escapeChar
  split
  next letter named =>
    obtain ⟨back, other⟩ := escapeLetter_some named
    exact scanString_letter back other rest
  next unnamed =>
    obtain ⟨noQuote, noEscape⟩ := escapeLetter_none unnamed
    split
    next control =>
      have coded : hexCode '0' '0' (Nat.digitChar (c.toNat / 16)) (Nat.digitChar (c.toNat % 16)) =
          some c.toNat := by
        have high := hexDigit_digitChar (c.toNat / 16) (by omega)
        have low := hexDigit_digitChar (c.toNat % 16) (by omega)
        have zero : hexDigit '0' = some 0 := by decide
        simp only [hexCode, high, low, zero, Option.bind_eq_bind, Option.bind_some, Option.pure_def]
        congr 1
        omega
      have read := scanString_hex coded (by omega) rest
      rwa [Char.ofNat_toNat] at read
    next printable => exact scanString_plain noQuote noEscape printable rest

/-- A dumped string is read back up to its closing quote. -/
theorem scanString_escapeText (text rest : List Char) :
    scanString (escapeText text ++ '"' :: rest) = .ok (text, rest) := by
  induction text with
  | nil =>
      rw [escapeText, List.flatMap_nil, List.nil_append, scanString.eq_def]
      rfl
  | cons c text ih =>
      have head : escapeText (c :: text) = escapeChar c ++ escapeText text := List.flatMap_cons
      rw [head, List.append_assoc, scanString_escapeChar, ih]
      rfl

theorem scanString_dumpsText (text : String) (rest : List Char) :
    scanString ((dumpsText text).tail ++ rest) = .ok (text.toList, rest) := by
  simpa [dumpsText] using scanString_escapeText text.toList rest

end Strings

section RoundTrip

mutual

/-- What reads back as it was dumped: floats print exactly, keys are distinct. -/
def Dumpable (codec : FloatText) : PyValue → Prop
  | .none => True
  | .bool _ => True
  | .int _ => True
  | .float q => codec.exact q
  | .str _ => True
  | .list items => DumpableItems codec items
  | .dict entries => (entries.map Prod.fst).Nodup ∧ DumpableEntries codec entries

def DumpableItems (codec : FloatText) : List PyValue → Prop
  | [] => True
  | v :: rest => Dumpable codec v ∧ DumpableItems codec rest

def DumpableEntries (codec : FloatText) : List (String × PyValue) → Prop
  | [] => True
  | (_, v) :: rest => Dumpable codec v ∧ DumpableEntries codec rest

end

theorem skip_solid {c : Char} (solid : isBlank c = false) (rest : List Char) : skip (c :: rest) = c :: rest := by
  simp [skip, solid]

theorem skip_space (rest : List Char) : skip (' ' :: rest) = skip rest := rfl

/-- The first character of the text satisfies `P`. -/
def StartsWith (P : Char → Prop) (text : List Char) : Prop := ∃ c more, text = c :: more ∧ P c

theorem StartsWith.skip {text : List Char} (h : StartsWith (fun c => isBlank c = false) text) (rest : List Char) :
    skip (text ++ rest) = text ++ rest := by
  obtain ⟨c, more, rfl, solid⟩ := h
  exact skip_solid solid (more ++ rest)

def NumeralHead (c : Char) : Prop := c = '-' ∨ c.isDigit = true

theorem Integer.startsWith {integer : List Char} (numeral : Integer integer) (rest : List Char) :
    StartsWith NumeralHead (integer ++ rest) := by
  obtain ⟨sign, digits, rfl, rfl | rfl, ten, -⟩ := numeral
  · obtain ⟨d, more, rfl⟩ := List.exists_cons_of_ne_nil ten.1
    exact ⟨d, more ++ rest, by simp, .inr (ten.2 d List.mem_cons_self)⟩
  · exact ⟨'-', digits ++ rest, by simp, .inl rfl⟩

theorem NumeralHead.ne {c : Char} (h : NumeralHead c) {other : Char} (sign : other ≠ '-')
    (letter : other.isDigit = false) : c ≠ other := by
  rintro rfl
  rcases h with rfl | digit
  · exact sign rfl
  · rw [letter] at digit
    cases digit

theorem NumeralHead.solid {c : Char} (h : NumeralHead c) : isBlank c = false := by
  have space : c ≠ ' ' := h.ne (by decide) (by decide)
  have tab : c ≠ '\t' := h.ne (by decide) (by decide)
  have feed : c ≠ '\n' := h.ne (by decide) (by decide)
  have carriage : c ≠ '\r' := h.ne (by decide) (by decide)
  simp [isBlank, space, tab, feed, carriage]

/-- A numeral is scanned as a number whatever follows it. -/
theorem scanOnce_numeral (codec : FloatText) {text : List Char} (h : StartsWith NumeralHead text) (fuel : ℕ) :
    scanOnce codec (fuel + 1) text = scanNumber codec text := by
  obtain ⟨c, more, rfl, numeral⟩ := h
  have other : ∀ letter, letter ≠ '-' → letter.isDigit = false → ∀ word,
      (letter :: word).isPrefixOf (c :: more) = false := by
    intro letter sign plain word
    simp [List.isPrefixOf, Ne.symm (numeral.ne sign plain)]
  rw [scanOnce, if_neg (numeral.ne (by decide) (by decide)), if_neg (numeral.ne (by decide) (by decide)),
    if_neg (numeral.ne (by decide) (by decide)), other 'n' (by decide) (by decide),
    other 't' (by decide) (by decide), other 'f' (by decide) (by decide)]
  simp

theorem scanOnce_numeral_append (codec : FloatText) {text rest : List Char} {v : PyValue} {fuel : ℕ}
    (h : StartsWith NumeralHead (text ++ rest)) (read : scanNumber codec (text ++ rest) = .ok (v, rest))
    (enough : 1 ≤ fuel) : scanOnce codec fuel (text ++ rest) = .ok (v, rest) := by
  obtain ⟨fuel, rfl⟩ := Nat.exists_eq_succ_of_ne_zero (by omega : fuel ≠ 0)
  rw [scanOnce_numeral codec h, read]

theorem FloatText.startsWith (codec : FloatText) {q : ℚ} (exact : codec.exact q) (rest : List Char) :
    StartsWith NumeralHead (codec.repr q ++ rest) := by
  obtain ⟨integer, fraction, exponent, whole, -, -, text, -⟩ := codec.repr_numeral q exact
  rw [text, List.append_assoc]
  exact whole.startsWith _

/-- A dumped value starts with a solid character that closes nothing. -/
theorem dumps_startsWith (codec : FloatText) {v : PyValue} (ready : Dumpable codec v) :
    StartsWith (fun c => isBlank c = false ∧ c ≠ ']') (dumps codec v) := by
  have numeral : ∀ text, StartsWith NumeralHead (text ++ []) →
      StartsWith (fun c => isBlank c = false ∧ c ≠ ']') text := by
    rintro text ⟨c, more, same, head⟩
    exact ⟨c, more, by simpa using same, head.solid, head.ne (by decide) (by decide)⟩
  cases v with
  | none => exact ⟨'n', _, rfl, by decide, by decide⟩
  | bool b => cases b <;> exact ⟨_, _, rfl, by decide, by decide⟩
  | int n => exact numeral _ ((dumpsInt_integer n).startsWith [])
  | float q => exact numeral _ (codec.startsWith ready [])
  | str s => exact ⟨'"', _, rfl, by decide, by decide⟩
  | list items => exact ⟨'[', _, rfl, by decide, by decide⟩
  | dict entries => exact ⟨'\x7b', _, rfl, by decide, by decide⟩

theorem dumps_skip (codec : FloatText) {v : PyValue} (ready : Dumpable codec v) (rest : List Char) :
    skip (dumps codec v ++ rest) = dumps codec v ++ rest := by
  obtain ⟨c, more, same, solid, -⟩ := dumps_startsWith codec ready
  exact StartsWith.skip ⟨c, more, same, solid⟩ rest

theorem stops_cons {c : Char} (rest : List Char) (other : c.isDigit = false ∧ c ∉ ['.'] ∧ c ∉ ['e', 'E']) :
    Stops (c :: rest) := by
  intro head first
  cases first
  exact other

variable {codec : FloatText}

theorem scanOnce_str (text : String) (fuel : ℕ) (rest : List Char) :
    scanOnce codec (fuel + 1) (dumpsText text ++ rest) = .ok (.str text, rest) := by
  have read := scanString_dumpsText text rest
  rw [dumpsText, List.tail_cons] at read
  rw [dumpsText, List.cons_append, scanOnce, if_pos rfl, read]
  simp [Except.map]

theorem scanOnce_items {items : List PyValue} {fuel : ℕ} {text rest : List Char}
    (opens : StartsWith (fun c => isBlank c = false ∧ c ≠ ']') text)
    (read : scanItems codec fuel text = .ok (items, rest)) :
    scanOnce codec (fuel + 1) ('[' :: text) = .ok (.list items, rest) := by
  obtain ⟨c, more, rfl, solid, other⟩ := opens
  have own : skip (c :: more) = c :: more := skip_solid solid more
  rw [scanOnce, if_neg (by decide), if_neg (by decide), if_pos rfl, own, if_neg (by simp [other]), read]
  rfl

theorem scanOnce_pairs {pairs : List (String × PyValue)} {fuel : ℕ} {more rest : List Char}
    (distinct : (pairs.map Prod.fst).Nodup) (read : scanPairs codec fuel ('"' :: more) = .ok (pairs, rest)) :
    scanOnce codec (fuel + 1) ('\x7b' :: '"' :: more) = .ok (.dict pairs, rest) := by
  have own : skip ('"' :: more) = '"' :: more := skip_solid (by decide) _
  rw [scanOnce, if_neg (by decide), if_pos rfl, own, if_neg (by simp), read]
  simp [Except.map, dictOf, OrderedDict.entries_ofList distinct]

theorem scanItems_last {v : PyValue} {fuel : ℕ} {text rest : List Char}
    (read : scanOnce codec fuel text = .ok (v, ']' :: rest)) :
    scanItems codec (fuel + 1) text = .ok ([v], rest) := by
  have own : skip (']' :: rest) = ']' :: rest := skip_solid (by decide) _
  rw [scanItems, read]
  simp only [own]

theorem scanItems_more {v : PyValue} {items : List PyValue} {fuel : ℕ} {text next rest : List Char}
    (read : scanOnce codec fuel text = .ok (v, ',' :: ' ' :: next)) (solid : skip next = next)
    (more : scanItems codec fuel next = .ok (items, rest)) :
    scanItems codec (fuel + 1) text = .ok (v :: items, rest) := by
  have own : skip (',' :: ' ' :: next) = ',' :: ' ' :: next := skip_solid (by decide) _
  have blank : skip (' ' :: next) = next := (skip_space next).trans solid
  rw [scanItems, read]
  simp only [own, blank, more]
  rfl

/-- The value of a pair, once its key has been read. -/
theorem scanPairs_value {key : String} {fuel : ℕ} {text rest : List Char} {v : PyValue}
    (solid : skip text = text) (read : scanOnce codec fuel text = .ok (v, '\x7d' :: rest)) :
    scanPairs codec (fuel + 1) (dumpsText key ++ (':' :: ' ' :: text)) = .ok ([(key, v)], rest) := by
  have named := scanString_dumpsText key (':' :: ' ' :: text)
  have colon : skip (':' :: ' ' :: text) = ':' :: ' ' :: text := skip_solid (by decide) _
  have blank : skip (' ' :: text) = text := (skip_space text).trans solid
  have closing : skip ('\x7d' :: rest) = '\x7d' :: rest := skip_solid (by decide) _
  rw [dumpsText, List.tail_cons] at named
  rw [dumpsText, List.cons_append, scanPairs, if_neg (by simp), named]
  simp only [colon, blank, read, closing, String.ofList_toList]

theorem scanPairs_more {key : String} {fuel : ℕ} {text next rest : List Char} {v : PyValue}
    {pairs : List (String × PyValue)} (solid : skip text = text) (solidNext : skip next = next)
    (read : scanOnce codec fuel text = .ok (v, ',' :: ' ' :: next))
    (more : scanPairs codec fuel next = .ok (pairs, rest)) :
    scanPairs codec (fuel + 1) (dumpsText key ++ (':' :: ' ' :: text)) = .ok ((key, v) :: pairs, rest) := by
  have named := scanString_dumpsText key (':' :: ' ' :: text)
  have colon : skip (':' :: ' ' :: text) = ':' :: ' ' :: text := skip_solid (by decide) _
  have blank : skip (' ' :: text) = text := (skip_space text).trans solid
  have comma : skip (',' :: ' ' :: next) = ',' :: ' ' :: next := skip_solid (by decide) _
  have blankNext : skip (' ' :: next) = next := (skip_space next).trans solidNext
  rw [dumpsText, List.tail_cons] at named
  rw [dumpsText, List.cons_append, scanPairs, if_neg (by simp), named]
  simp only [colon, blank, read, comma, blankNext, more, Except.map, String.ofList_toList]

mutual

/-- A dumped value is scanned back, whatever follows that does not continue a
numeral. -/
theorem scanOnce_dumps (codec : FloatText) : ∀ (v : PyValue) (fuel : ℕ) (rest : List Char), Dumpable codec v →
    Stops rest → 2 * (dumps codec v).length + 1 ≤ fuel → scanOnce codec fuel (dumps codec v ++ rest) = .ok (v, rest)
  | _, 0, _, _, _, enough => by omega
  | .none, fuel + 1, rest, _, _, _ => by simp [dumps, scanOnce, List.isPrefixOf]
  | .bool true, fuel + 1, rest, _, _, _ => by simp [dumps, scanOnce, List.isPrefixOf]
  | .bool false, fuel + 1, rest, _, _, _ => by simp [dumps, scanOnce, List.isPrefixOf]
  | .int n, fuel + 1, rest, _, stops, _ => by
      rw [dumps]
      exact scanOnce_numeral_append codec ((dumpsInt_integer n).startsWith rest) (scanNumber_int n stops) (by omega)
  | .float q, fuel + 1, rest, ready, stops, _ => by
      rw [dumps]
      exact scanOnce_numeral_append codec (codec.startsWith ready rest) (scanNumber_float ready stops) (by omega)
  | .str s, fuel + 1, rest, _, _, _ => scanOnce_str s fuel rest
  | .list [], fuel + 1, rest, _, _, _ => by simp [dumps, dumpsItems, scanOnce, skip, isBlank]
  | .list (v :: items), fuel + 1, rest, ready, _, enough => by
      simp only [dumps, List.length_cons, List.length_append, List.length_nil] at enough
      have read := scanItems_dumps codec (v :: items) fuel rest ready (by simp) (by omega)
      have opens := dumps_startsWith codec ready.1
      simp only [dumps, List.cons_append, List.append_assoc, List.nil_append]
      refine scanOnce_items ?_ read
      obtain ⟨c, more, same, head⟩ := opens
      rw [dumpsItems, same, List.intercalate_cons_cons_left]
      exact ⟨c, _, rfl, head⟩
  | .dict [], fuel + 1, rest, _, _, _ => by simp [dumps, dumpsEntries, scanOnce, skip, isBlank]
  | .dict ((key, v) :: entries), fuel + 1, rest, ready, _, enough => by
      simp only [dumps, List.length_cons, List.length_append, List.length_nil] at enough
      have read := scanPairs_dumps codec ((key, v) :: entries) fuel rest ready.2 (by simp) (by omega)
      simp only [dumps, List.cons_append, List.append_assoc, List.nil_append]
      simp only [dumpsEntries, dumpsText, List.cons_append, List.intercalate_cons_cons_left] at read ⊢
      exact scanOnce_pairs ready.1 read

theorem scanItems_dumps (codec : FloatText) : ∀ (items : List PyValue) (fuel : ℕ) (rest : List Char),
    DumpableItems codec items → items ≠ [] →
    2 * ([',', ' '].intercalate (dumpsItems codec items)).length + 2 ≤ fuel →
    scanItems codec fuel ([',', ' '].intercalate (dumpsItems codec items) ++ ']' :: rest) = .ok (items, rest)
  | _, 0, _, _, _, enough => by omega
  | [], _, _, _, present, _ => absurd rfl present
  | [v], fuel + 1, rest, ready, _, enough => by
      simp only [dumpsItems, List.intercalate_singleton] at enough ⊢
      exact scanItems_last (scanOnce_dumps codec v fuel (']' :: rest) ready.1
        (stops_cons rest (by decide)) (by omega))
  | v :: w :: items, fuel + 1, rest, ready, _, enough => by
      have last := scanItems_dumps codec (w :: items) fuel rest ready.2 (by simp)
      simp only [dumpsItems, List.intercalate_cons_cons, List.length_append, List.length_cons,
        List.append_assoc, List.cons_append, List.nil_append] at enough last ⊢
      refine scanItems_more (scanOnce_dumps codec v fuel _ ready.1 (stops_cons _ (by decide)) (by omega)) ?_
        (last (by omega))
      obtain ⟨c, more, same, solid, -⟩ := dumps_startsWith codec ready.2.1
      rw [same, List.intercalate_cons_cons_left]
      simp [skip, solid]

theorem scanPairs_dumps (codec : FloatText) : ∀ (entries : List (String × PyValue)) (fuel : ℕ) (rest : List Char),
    DumpableEntries codec entries → entries ≠ [] →
    2 * ([',', ' '].intercalate (dumpsEntries codec entries)).length + 2 ≤ fuel →
    scanPairs codec fuel ([',', ' '].intercalate (dumpsEntries codec entries) ++ '\x7d' :: rest) =
      .ok (entries, rest)
  | _, 0, _, _, _, enough => by omega
  | [], _, _, _, present, _ => absurd rfl present
  | [(key, v)], fuel + 1, rest, ready, _, enough => by
      simp only [dumpsEntries, List.intercalate_singleton, List.length_append, List.length_cons,
        List.append_assoc, List.cons_append] at enough ⊢
      exact scanPairs_value (dumps_skip codec ready.1 _) (scanOnce_dumps codec v fuel ('\x7d' :: rest) ready.1
        (stops_cons rest (by decide)) (by omega))
  | (key, v) :: (name, w) :: entries, fuel + 1, rest, ready, _, enough => by
      have last := scanPairs_dumps codec ((name, w) :: entries) fuel rest ready.2 (by simp)
      simp only [dumpsEntries, List.intercalate_cons_cons, List.length_append, List.length_cons,
        List.append_assoc, List.cons_append, List.nil_append] at enough last ⊢
      refine scanPairs_more (dumps_skip codec ready.1 _) ?_
        (scanOnce_dumps codec v fuel _ ready.1 (stops_cons _ (by decide)) (by omega)) (last (by omega))
      simp [dumpsText, skip, isBlank]

end

/-- `json.loads(json.dumps(value)) == value`. -/
theorem loads_dumps {v : PyValue} (ready : Dumpable codec v) : loads codec (dumps codec v) = .ok v := by
  have own := dumps_skip codec ready []
  have read := scanOnce_dumps codec v _ [] ready (fun _ first => by cases first) (le_refl _)
  rw [List.append_nil] at own read
  rw [loads, own, read]
  rfl

end RoundTrip

end JsonText
