import GameServer.Launch.Options
import GameServer.Text.Terminal

/-! Reading the arguments, from the left. A value may follow its option as the next argument, or
stand in the same one. A value that follows is looked at only when the next option comes, or at
the end, so that an argument nobody knows is found first. -/

namespace GameServer.Launch

inductive Misuse
  | unexpected (argument : String)
  | missingValue (field : Field)
  | repeated (field : Field)
  | badValue (field : Field) (value : String) (fault : ValueFault)
  | surplusValue (inquiry : Inquiry) (value : String)
  deriving DecidableEq

/-- What a message quotes is quoted as a terminal would show it. -/
def Misuse.message : Misuse → String
  | .unexpected argument => s!"unexpected argument '{Text.plain argument}' found"
  | .missingValue field =>
    s!"a value is required for '{field.label.name}' but none was supplied"
  | .repeated field => s!"the argument '{field.label.name}' cannot be used multiple times"
  | .badValue field value fault =>
    s!"invalid value '{Text.plain value}' for '{field.label.name}': {fault.message}"
  | .surplusValue inquiry value =>
    s!"unexpected value '{Text.plain value}' for '{inquiry.label.name}' found; " ++
      "no more were expected"

inductive Halt
  | inquiry (inquiry : Inquiry)
  | misuse (misuse : Misuse)
  deriving DecidableEq

structure Progress where
  options : Options
  given : List Field
  /-- The last option if its value has not been looked at, and the value if it has come. -/
  waiting : Option (Field × Option String)

namespace Progress

def start : Progress := { options := .default, given := [], waiting := none }

def assign (progress : Progress) (field : Field) (value : String) : Except Halt Progress :=
  if progress.given.contains field then .error (.misuse (.repeated field))
  else
    match progress.options.assign field value with
    | .ok options => .ok { options, given := field :: progress.given, waiting := none }
    | .error fault => .error (.misuse (.badValue field value fault))

def resolve (progress : Progress) : Except Halt Progress :=
  match progress.waiting with
  | none => .ok progress
  | some (field, none) => .error (.misuse (.missingValue field))
  | some (field, some value) => progress.assign field value

def meet (progress : Progress) (field : Field) (value : Option String) : Except Halt Progress := do
  let progress ← progress.resolve
  match value with
  | some value => progress.assign field value
  | none => return { progress with waiting := some (field, none) }

def inquire (progress : Progress) (inquiry : Inquiry) : Except Halt Progress := do
  let _ ← progress.resolve
  throw (.inquiry inquiry)

def unexpected (argument : String) : Except Halt Progress :=
  .error (.misuse (.unexpected argument))

def long (progress : Progress) (argument : List Char) : Except Halt Progress :=
  let name := String.ofList (argument.takeWhile (· != '='))
  let value := match argument.dropWhile (· != '=') with
    | [] => none
    | _ :: value => some (String.ofList value)
  match Field.all.find? (·.label.long == name), Inquiry.all.find? (·.label.long == name) with
  | some field, _ => progress.meet field value
  | none, some inquiry =>
    match value with
    | none => progress.inquire inquiry
    | some value => .error (.misuse (.surplusValue inquiry value))
  | none, none => unexpected ("--" ++ name)

/-- An argument after one dash. The rest behind the letter of an option is its value, less an
equals sign before it. -/
def short (progress : Progress) (letter : Char) (rest : List Char) : Except Halt Progress :=
  let value := match rest with
    | [] => none
    | '=' :: value => some (String.ofList value)
    | value => some (String.ofList value)
  match Field.all.find? (·.label.short == some letter),
    Inquiry.all.find? (·.label.short == some letter) with
  | some field, _ => progress.meet field value
  | none, some inquiry => progress.inquire inquiry
  | none, none => unexpected ("-" ++ letter.toString)

/-- An argument that is no option: the value of the option before it, if that still lacks one. -/
def plain (progress : Progress) (argument : String) : Except Halt Progress :=
  match progress.waiting with
  | some (field, none) => .ok { progress with waiting := some (field, some argument) }
  | _ => unexpected argument

/-- Reads the arguments. Two dashes alone end the options, and nothing may come after them. -/
def readAll (progress : Progress) : List String → Except Halt Progress
  | [] => progress.resolve
  | argument :: rest =>
    match argument.toList with
    | ['-', '-'] =>
      match rest with
      | [] => progress.resolve
      | next :: _ => unexpected next
    | '-' :: '-' :: text => do (← progress.long text).readAll rest
    | '-' :: letter :: text => do (← progress.short letter text).readAll rest
    | _ => do (← progress.plain argument).readAll rest

end Progress

def parseArguments (arguments : List String) : Except Halt Options :=
  (·.options) <$> Progress.start.readAll arguments

end GameServer.Launch
