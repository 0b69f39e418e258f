/-! Texts on a terminal. A terminal takes some characters as commands instead of showing them;
`plain` keeps what it shows, so that a text from outside can do no more than be read. -/

namespace GameServer.Text

inductive Command
  | escape
  /-- A command of few characters, before its last. -/
  | designation
  /-- A command with parameters, before the letter that ends it. -/
  | control
  /-- The head of a string for a device, and then its parameters and what follows them. -/
  | device
  | deviceParameters
  | deviceSelection
  /-- A string that lasts until a terminator. -/
  | string
  /-- A string for the operating system, which lasts until a bell. -/
  | system
  deriving DecidableEq

def escapeChar : Char := '\x1b'

def isCancel (c : Char) : Bool := c == '\x18' || c == '\x1a'

/-- The terminator is looked for among the bytes of a text in UTF-8. -/
def isTerminator (c : Char) : Bool := (String.utf8EncodeChar c).contains 0x9C

def isLayout (c : Char) : Bool := c == '\t' || c == '\n' || c == '\x0c' || c == '\r'

def isShown (c : Char) : Bool := isLayout c || (' ' ≤ c && c != '\x7f')

namespace Command

/-- The command after one more character, unless that ends it. Whatever has no meaning in a
command is passed over. -/
def next? (command : Command) (c : Char) : Option Command :=
  if c = escapeChar then some .escape
  else if isCancel c then none
  else
    match command with
    | .escape =>
      if c = '[' then some .control
      else if c = ']' then some .system
      else if c = 'P' then some .device
      else if c = 'X' ∨ c = '^' ∨ c = '_' then some .string
      else if ' ' ≤ c ∧ c ≤ '/' then some .designation
      else if '0' ≤ c ∧ c ≤ '~' then none
      else some .escape
    | .designation => if '0' ≤ c ∧ c ≤ '~' then none else some .designation
    | .control => if '@' ≤ c ∧ c ≤ '~' then none else some .control
    | .device =>
      if ' ' ≤ c ∧ c ≤ '/' then some .deviceSelection
      else if '0' ≤ c ∧ c ≤ '?' then some .deviceParameters
      else if '@' ≤ c ∧ c ≤ '~' then some .string
      else some .device
    | .deviceParameters =>
      if ' ' ≤ c ∧ c ≤ '/' then some .deviceSelection
      else if '<' ≤ c ∧ c ≤ '~' then some .string
      else some .deviceParameters
    | .deviceSelection => if '0' ≤ c ∧ c ≤ '~' then some .string else some .deviceSelection
    | .string => if isTerminator c then none else some .string
    | .system => if c = '\x07' then none else some .system

def yields : Command → Bool
  | .escape | .designation | .control => true
  | .device | .deviceParameters | .deviceSelection | .string | .system => false

end Command

inductive Reading
  | text
  | inside (command : Command)
  /-- Text in the middle of a command, behind white space that the command has yielded to. The
  command goes on with the next character that is not shown. -/
  | aside (command : Command)
  deriving DecidableEq

namespace Reading

def shows : Reading → Char → Bool
  | .text, c | .aside _, c => isShown c
  | .inside command, c => command.yields && isLayout c

def next (reading : Reading) (c : Char) : Reading :=
  if reading.shows c then
    match reading with
    | .text => .text
    | .inside command => .aside command
    -- A character beyond ASCII makes the terminal forget the command.
    | .aside command => if c.toNat < 0x80 then .aside command else .text
  else
    match reading with
    | .text => if c = escapeChar then .inside .escape else .text
    | .inside command | .aside command =>
      match command.next? c with
      | some command => .inside command
      | none => .text

end Reading

def plainChars : Reading → List Char → List Char
  | _, [] => []
  | reading, c :: rest =>
    if reading.shows c then c :: plainChars (reading.next c) rest
    else plainChars (reading.next c) rest

def plain (text : String) : String := String.ofList (plainChars .text text.toList)

end GameServer.Text
