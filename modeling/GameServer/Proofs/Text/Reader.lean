import GameServer.Text.Json
import Mathlib.Data.Rat.Defs

/-! JSON as a client reads it: any value, blanks between the tokens, and every way there is to write a
text or a number, and nothing else. Each reader takes what it reads off the front and leaves the
rest. -/

namespace GameServer.Text

/-- What is read. -/
inductive Datum
  | null
  | bool (b : Bool)
  | number (q : ℚ)
  | text (s : String)
  | array (items : List Datum)
  | object (members : List (String × Datum))

namespace Reader

def isBlank (c : Char) : Bool := c == ' ' || c == '\t' || c == '\n' || c == '\r'

/-- One token, perhaps after blanks. -/
def token (c : Char) (s : List Char) : Option (List Char) :=
  match s.dropWhile isBlank with
  | [] => none
  | d :: rest => if d = c then some rest else none

def hexValue? (c : Char) : Option Nat :=
  if c.isDigit then some (c.toNat - 48)
  else if 'a' ≤ c ∧ c ≤ 'f' then some (c.toNat - 87)
  else if 'A' ≤ c ∧ c ≤ 'F' then some (c.toNat - 55)
  else none

def codeUnit : List Char → Option (Nat × List Char)
  | a :: b :: c :: d :: rest => do
    let a ← hexValue? a
    let b ← hexValue? b
    let c ← hexValue? c
    let d ← hexValue? d
    some (((a * 16 + b) * 16 + c) * 16 + d, rest)
  | _ => none

/-- The character that is written as one code unit, or as two that make up a surrogate pair. -/
def codePoint (s : List Char) : Option (Char × List Char) := do
  let (high, rest) ← codeUnit s
  if 0xd800 ≤ high ∧ high < 0xdc00 then
    match rest with
    | '\\' :: 'u' :: rest => do
      let (low, rest) ← codeUnit rest
      if 0xdc00 ≤ low ∧ low < 0xe000 then
        some (Char.ofNat (0x10000 + (high - 0xd800) * 0x400 + (low - 0xdc00)), rest)
      else none
    | _ => none
  else if 0xdc00 ≤ high ∧ high < 0xe000 then none
  else some (Char.ofNat high, rest)

def shortEscapes : List (Char × Char) :=
  [('"', '"'), ('\\', '\\'), ('/', '/'), ('b', '\x08'), ('f', '\x0c'), ('n', '\n'), ('r', '\r'),
    ('t', '\t')]

def escaped : List Char → Option (Char × List Char)
  | [] => none
  | c :: rest => if c = 'u' then codePoint rest else (shortEscapes.lookup c).map (·, rest)

/-- One character of a text. Control characters do not stand for themselves. -/
def character : List Char → Option (Char × List Char)
  | [] => none
  | c :: rest =>
    if c = '\\' then escaped rest
    else if c = '"' ∨ c.toNat < 0x20 then none
    else some (c, rest)

/-- A text from behind its opening quote up to its closing one. -/
def text : (bound : Nat) → List Char → Option (List Char × List Char)
  | 0, _ => none
  | bound + 1, s =>
    if s.head? = some '"' then some ([], s.tail)
    else do
      let (c, rest) ← character s
      let (cs, rest) ← text bound rest
      some (c :: cs, rest)

/-- At least one digit. -/
def digits (s : List Char) : Option (List Char × List Char) :=
  let ds := s.takeWhile Char.isDigit
  if ds = [] then none else some (ds, s.dropWhile Char.isDigit)

/-- There is no zero in front of other digits. -/
def whole (s : List Char) : Option (List Char × List Char) := do
  let (ds, rest) ← digits s
  if ds.head? = some '0' ∧ ds ≠ ['0'] then none else some (ds, rest)

def fraction (s : List Char) : Option (List Char × List Char) :=
  if s.head? = some '.' then digits s.tail else some ([], s)

def exponent (s : List Char) : Option (Int × List Char) :=
  if s.head? = some 'e' ∨ s.head? = some 'E' then do
    let signed := s.tail.head? = some '+' ∨ s.tail.head? = some '-'
    let (ds, rest) ← digits (if signed then s.tail.tail else s.tail)
    let size : Int := Nat.ofDigitChars 10 ds 0
    some (if s.tail.head? = some '-' then -size else size, rest)
  else some (0, s)

def number (s : List Char) : Option (ℚ × List Char) := do
  let negative := s.head? = some '-'
  let (ds, rest) ← whole (if negative then s.tail else s)
  let (fs, rest) ← fraction rest
  let (power, rest) ← exponent rest
  let size : ℚ := Nat.ofDigitChars 10 (ds ++ fs) 0 * 10 ^ (power - fs.length)
  some (if negative then -size else size, rest)

def words : List (List Char × Datum) :=
  [(['n', 'u', 'l', 'l'], .null), (['t', 'r', 'u', 'e'], .bool true),
    (['f', 'a', 'l', 's', 'e'], .bool false)]

def word (s : List Char) : Option (Datum × List Char) :=
  words.findSome? fun (letters, datum) =>
    if letters.isPrefixOf s then some (datum, s.drop letters.length) else none

mutual

/-- Any value, perhaps after blanks. -/
def value : (bound : Nat) → List Char → Option (Datum × List Char)
  | 0, _ => none
  | bound + 1, s =>
    (do
      let s ← token '"' s
      let (cs, s) ← text bound s
      some (.text (String.ofList cs), s)) <|>
    (do
      let s ← token '{' s
      let s ← token '}' s
      some (.object [], s)) <|>
    (do
      let s ← token '{' s
      let (ms, s) ← members bound s
      some (.object ms, s)) <|>
    (do
      let s ← token '[' s
      let s ← token ']' s
      some (.array [], s)) <|>
    (do
      let s ← token '[' s
      let (ds, s) ← items bound s
      some (.array ds, s)) <|>
    (word (s.dropWhile isBlank)) <|>
    (do
      let (q, s) ← number (s.dropWhile isBlank)
      some (.number q, s))

/-- What stands in an object, up to its end. -/
def members : (bound : Nat) → List Char → Option (List (String × Datum) × List Char)
  | 0, _ => none
  | bound + 1, s => do
    let s ← token '"' s
    let (key, s) ← text bound s
    let s ← token ':' s
    let (datum, s) ← value bound s
    (do
      let s ← token '}' s
      some ([(String.ofList key, datum)], s)) <|>
    (do
      let s ← token ',' s
      let (rest, s) ← members bound s
      some ((String.ofList key, datum) :: rest, s))

/-- What stands in an array, up to its end. -/
def items : (bound : Nat) → List Char → Option (List Datum × List Char)
  | 0, _ => none
  | bound + 1, s => do
    let (datum, s) ← value bound s
    (do
      let s ← token ']' s
      some ([datum], s)) <|>
    (do
      let s ← token ',' s
      let (rest, s) ← items bound s
      some (datum :: rest, s))

end

end Reader

/-- Reads a whole text. No reader goes deeper than there are characters. -/
def Datum.read (s : String) : Option Datum := do
  let (datum, rest) ← Reader.value (s.toList.length + 1) s.toList
  if rest.all Reader.isBlank then some datum else none

namespace Json

mutual

/-- What a value is read as. -/
def datum : Json → Datum
  | .number n => .number n
  | .text s => .text s
  | .object members => .object (data members)

def data : List (String × Json) → List (String × Datum)
  | [] => []
  | (key, value) :: rest => (key, value.datum) :: data rest

end

end Json

end GameServer.Text
