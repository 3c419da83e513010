import Mathlib.Data.List.Basic

/-!
# Percent encoding

Form-encoded queries: names and values as UTF-8 bytes, reserved bytes escaped,
pairs joined by ampersands. What was encoded is read back as it was, so no value
can add to the query or change another one.
-/
namespace PercentEncoding

section Bytes

def hexDigits : List Char :=
  ['0', '1', '2', '3', '4', '5', '6', '7', '8', '9', 'A', 'B', 'C', 'D', 'E', 'F']

def hexDigit (n : ℕ) : Char := hexDigits.getD n '0'

def ofHexDigit (c : Char) : Option ℕ := hexDigits.idxOf? c

/-- Letters, digits and four marks stand for themselves. -/
def isUnreserved (c : Char) : Bool := c.isAlphanum || c ∈ ['_', '.', '-', '~']

def quoteByte (b : UInt8) : List Char :=
  if isUnreserved (Char.ofNat b.toNat) then [Char.ofNat b.toNat]
  else if b = 32 then ['+']
  else ['%', hexDigit (b.toNat / 16), hexDigit (b.toNat % 16)]

def quoteBytes (bytes : List UInt8) : List Char := bytes.flatMap quoteByte

def unquoteBytes : List Char → Option (List UInt8)
  | [] => some []
  | '%' :: high :: low :: rest => do
      let high ← ofHexDigit high
      let low ← ofHexDigit low
      let bytes ← unquoteBytes rest
      return UInt8.ofNat (high * 16 + low) :: bytes
  | c :: rest => do
      let bytes ← unquoteBytes rest
      return (if c = '+' then 32 else UInt8.ofNat c.toNat) :: bytes

theorem ofHexDigit_hexDigit : ∀ n < 16, ofHexDigit (hexDigit n) = some n := by decide

theorem unreserved_char : ∀ n < 256, isUnreserved (Char.ofNat n) = true →
    Char.ofNat n ≠ '%' ∧ Char.ofNat n ≠ '+' ∧ (Char.ofNat n).toNat = n := by
  decide +kernel

theorem unquoteBytes_char {c : Char} (plain : c ≠ '%') (rest : List Char) :
    unquoteBytes (c :: rest) =
      (unquoteBytes rest).map ((if c = '+' then 32 else UInt8.ofNat c.toNat) :: ·) := by
  rw [unquoteBytes.eq_def (c :: rest)]
  split
  next same => cases same
  next same =>
    cases same
    exact absurd rfl plain
  next same =>
    cases same
    exact (Option.map_eq_bind ..).symm

/-- One byte is read back, whatever follows it. -/
theorem unquoteBytes_quoteByte (b : UInt8) (rest : List Char) :
    unquoteBytes (quoteByte b ++ rest) = (unquoteBytes rest).map (b :: ·) := by
  unfold quoteByte
  split
  next unreserved =>
    obtain ⟨percent, plus, code⟩ := unreserved_char b.toNat b.toNat_lt unreserved
    rw [List.singleton_append, unquoteBytes_char percent, if_neg plus, code, UInt8.ofNat_toNat]
  next =>
    split
    next space =>
      subst space
      rw [List.singleton_append, unquoteBytes_char (by decide), if_pos rfl]
    next =>
      have high : ofHexDigit (hexDigit (b.toNat / 16)) = some (b.toNat / 16) :=
        ofHexDigit_hexDigit _ (by have := b.toNat_lt; omega)
      have low : ofHexDigit (hexDigit (b.toNat % 16)) = some (b.toNat % 16) :=
        ofHexDigit_hexDigit _ (by omega)
      have whole : b.toNat / 16 * 16 + b.toNat % 16 = b.toNat := by omega
      simp only [List.cons_append, List.nil_append, unquoteBytes, high, low, Option.bind_eq_bind,
        Option.bind_some, whole, UInt8.ofNat_toNat]
      exact (Option.map_eq_bind ..).symm

theorem unquoteBytes_quoteBytes (bytes : List UInt8) : unquoteBytes (quoteBytes bytes) = some bytes := by
  induction bytes with
  | nil => rfl
  | cons b bytes ih =>
      rw [quoteBytes, List.flatMap_cons, unquoteBytes_quoteByte, ← quoteBytes, ih, Option.map_some]

theorem quoteByte_separators : ∀ n < 256, '&' ∉ quoteByte (UInt8.ofNat n) ∧ '=' ∉ quoteByte (UInt8.ofNat n) := by
  decide +kernel

/-- No byte is encoded with a separator. -/
theorem quoteBytes_separators (bytes : List UInt8) : '&' ∉ quoteBytes bytes ∧ '=' ∉ quoteBytes bytes := by
  have each (b : UInt8) : '&' ∉ quoteByte b ∧ '=' ∉ quoteByte b := by
    have separate := quoteByte_separators b.toNat b.toNat_lt
    rwa [UInt8.ofNat_toNat] at separate
  constructor
  · intro listed
    obtain ⟨b, -, inside⟩ := List.mem_flatMap.mp listed
    exact (each b).1 inside
  · intro listed
    obtain ⟨b, -, inside⟩ := List.mem_flatMap.mp listed
    exact (each b).2 inside

end Bytes

section Queries

def utf8 (text : String) : List UInt8 := text.toByteArray.data.toList

def ofUtf8 (bytes : List UInt8) : Option String := String.fromUTF8? ⟨bytes.toArray⟩

def quotePlus (text : String) : List Char := quoteBytes (utf8 text)

def unquotePlus (text : List Char) : Option String := (unquoteBytes text).bind ofUtf8

def quoteItem (item : String × String) : List Char := quotePlus item.1 ++ '=' :: quotePlus item.2

def urlencode (items : List (String × String)) : List Char := ['&'].intercalate (items.map quoteItem)

/-- A pair is split at its first equals sign. -/
def readItem (text : List Char) : Option (String × String) := do
  let name ← unquotePlus (text.takeWhile (· ≠ '='))
  let value ← unquotePlus (text.dropWhile (· ≠ '=')).tail
  return (name, value)

def readQuery (text : List Char) : Option (List (String × String)) :=
  if text = [] then some [] else (text.splitOn '&').mapM readItem

theorem ofUtf8_utf8 (text : String) : ofUtf8 (utf8 text) = some text := by
  have whole : (⟨(utf8 text).toArray⟩ : ByteArray) = text.toByteArray := by simp [utf8]
  rw [ofUtf8, whole, String.fromUTF8?, dif_pos text.isValidUTF8]
  rfl

theorem unquotePlus_quotePlus (text : String) : unquotePlus (quotePlus text) = some text := by
  rw [unquotePlus, quotePlus, unquoteBytes_quoteBytes, Option.bind_some, ofUtf8_utf8]

theorem readItem_quoteItem (item : String × String) : readItem (quoteItem item) = some item := by
  have name : ∀ c ∈ quotePlus item.1, decide (c ≠ '=') = true := by
    intro c listed
    have separate := (quoteBytes_separators (utf8 item.1)).2
    simp only [ne_eq, decide_eq_true_eq]
    rintro rfl
    exact separate listed
  have taken : (quoteItem item).takeWhile (· ≠ '=') = quotePlus item.1 := by
    rw [quoteItem, List.takeWhile_append_of_pos name]
    simp
  have dropped : (quoteItem item).dropWhile (· ≠ '=') = '=' :: quotePlus item.2 := by
    rw [quoteItem, List.dropWhile_append_of_pos name]
    simp
  simp only [readItem, taken, dropped, List.tail_cons, unquotePlus_quotePlus, Option.bind_eq_bind,
    Option.bind_some]
  rfl

theorem quoteItem_separator (item : String × String) : '&' ∉ quoteItem item := by
  have name := (quoteBytes_separators (utf8 item.1)).1
  have value := (quoteBytes_separators (utf8 item.2)).1
  rw [quoteItem, List.mem_append, List.mem_cons]
  rintro (inside | same | inside)
  · exact name inside
  · exact absurd same (by decide)
  · exact value inside

theorem mapM_quoteItem (items : List (String × String)) : (items.map quoteItem).mapM readItem = some items := by
  induction items with
  | nil => rfl
  | cons item items ih =>
      rw [List.map_cons, List.mapM_cons, readItem_quoteItem, ih]
      rfl

/-- A query is read back as the pairs it was made of. -/
theorem readQuery_urlencode (items : List (String × String)) : readQuery (urlencode items) = some items := by
  cases items with
  | nil => rfl
  | cons item items =>
      have separate : ∀ text ∈ (item :: items).map quoteItem, '&' ∉ text := by
        intro text listed
        obtain ⟨one, -, rfl⟩ := List.mem_map.mp listed
        exact quoteItem_separator one
      have parts : (urlencode (item :: items)).splitOn '&' = (item :: items).map quoteItem :=
        List.splitOn_intercalate '&' separate (by simp)
      have present : urlencode (item :: items) ≠ [] := by
        intro nothing
        rw [nothing, List.splitOn_nil, List.map_cons, List.cons.injEq] at parts
        have named : '=' ∈ quoteItem item := by simp [quoteItem]
        rw [← parts.1] at named
        cases named
      rw [readQuery, if_neg present, parts, mapM_quoteItem]

end Queries

end PercentEncoding
