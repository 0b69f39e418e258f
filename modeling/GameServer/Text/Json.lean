/-! JSON values as the server sends them: counts, texts, and objects whose members stay in the
order given. A text is written between quotes; inside it only the quote, the backslash and the
control characters below U+0020 are escaped, the rest stands for itself. -/

namespace GameServer.Text

inductive Json
  | number (n : Nat)
  | text (s : String)
  | object (members : List (String × Json))

namespace Json

def hexDigit (n : Nat) : Char := Char.ofNat (if n < 10 then 48 + n else 87 + n)

def escape (c : Char) : List Char :=
  if c = '"' then ['\\', '"']
  else if c = '\\' then ['\\', '\\']
  else if c = '\x08' then ['\\', 'b']
  else if c = '\t' then ['\\', 't']
  else if c = '\n' then ['\\', 'n']
  else if c = '\x0c' then ['\\', 'f']
  else if c = '\r' then ['\\', 'r']
  else if c.toNat < 0x20 then
    ['\\', 'u', '0', '0', hexDigit (c.toNat / 16), hexDigit (c.toNat % 16)]
  else [c]

def quote (text : List Char) : List Char := '"' :: (text.flatMap escape ++ ['"'])

mutual

def chars : Json → List Char
  | .number n => (toString n).toList
  | .text s => quote s.toList
  | .object members => '{' :: memberChars members

def memberChars : List (String × Json) → List Char
  | [] => ['}']
  | [(key, value)] => quote key.toList ++ ':' :: (value.chars ++ ['}'])
  | (key, value) :: rest => quote key.toList ++ ':' :: (value.chars ++ ',' :: memberChars rest)

end

def render (value : Json) : String := String.ofList value.chars

end Json

end GameServer.Text
