import Conduit.Data.Table

/-!
# Reading arguments

A level of a command has options, perhaps one operand, and perhaps commands below it. Arguments are
read from left to right. An option that takes a value is stored when the next argument of its level
is recognised or the level ends, so an argument that nobody knows is reported before a bad value
right in front of it. The level below is read before the one above is completed. What is not given
may come from the environment. After a double dash everything is an operand.
-/
namespace Conduit

/-- Why arguments are refused, or what is asked for instead of a command. -/
inductive UsageFault where
  | help
  /-- Nothing is given where a command is needed. -/
  | bare
  | missingCommand
  | unknownCommand (name : String)
  | unknownArgument (argument : String)
  | missingArguments
  | repeated (option : String)
  | missingValue (option : String)
  | invalidValue (option value cause : String)
  | unexpectedValue (option value : String)
deriving DecidableEq, Repr

def UsageFault.message : UsageFault → String
  | help => "help is not available"
  | bare => "a command is required"
  | missingCommand => "a command is required"
  | unknownCommand name => s!"unknown command: {name}"
  | unknownArgument argument => s!"unexpected argument: {argument}"
  | missingArguments => "required arguments are missing"
  | repeated option => s!"{option} is given more than once"
  | missingValue option => s!"{option} needs a value"
  | invalidValue option value cause => s!"{value} is no value for {option}: {cause}"
  | unexpectedValue option value => s!"{option} takes no value, but got {value}"

/-- The names of the commands at a place, with those below them. -/
inductive Outline where
  | node (name : String) (inner : List Outline)

namespace Outline

def name : Outline → String
  | node name _ => name

def inner : Outline → List Outline
  | node _ inner => inner

/-- The command that shows help, found wherever there are commands. -/
def helpName : String := "help"

/-- The commands below the one of this name. -/
def under (commands : List Outline) (name : String) : Option (List Outline) :=
  match commands.find? fun command => command.name = name with
  | some command => some command.inner
  | none => if name = helpName ∧ !commands.isEmpty then some [] else none

/-- What asking for help on a command comes to. -/
def help : List Outline → List String → UsageFault
  | _, [] => .help
  | commands, name :: rest =>
    match under commands name with
    | some inner => help inner rest
    | none => .unknownCommand name

end Outline

/-- An option; one without a placeholder is a flag. -/
structure Choice (δ : Type) where
  name : String
  placeholder : Option String
  repeats : Bool
  required : Bool
  /-- The environment variable that stands in for the option. -/
  fallback : Option String
  store : String → δ → Except String δ

def Choice.display {δ : Type} (choice : Choice δ) : String :=
  match choice.placeholder with
  | some placeholder => s!"--{choice.name} <{placeholder}>"
  | none => s!"--{choice.name}"

structure Level (δ : Type) where
  options : List (Choice δ)
  /-- What is done with the operand, which is required if there is one. -/
  operand : Option (String → δ → δ)
  commands : List Outline

/-- A level part way through its arguments. -/
structure Intake (δ : Type) where
  draft : δ
  given : List String
  /-- An option that is not yet stored, with its value if that has been seen. -/
  pending : Option (Choice δ × Option String)
  operandGiven : Bool
  trailing : Bool

/-- Where the reading of a level stops. -/
inductive Stop (δ : Type) where
  | finished (intake : Intake δ)
  | entered (command : String) (rest : List String) (intake : Intake δ)

/-- What an argument looks like. -/
inductive ArgumentShape where
  | escape
  | long (name : String) (value : Option String)
  | short (letter : Char)
  | plain

def shapeOf (argument : String) : ArgumentShape :=
  match argument.toList with
  | ['-', '-'] => .escape
  | '-' :: '-' :: rest =>
    let name := String.ofList (rest.takeWhile (· ≠ '='))
    match rest.dropWhile (· ≠ '=') with
    | [] => .long name none
    | _ :: value => .long name (some (String.ofList value))
  | '-' :: letter :: _ => .short letter
  | _ => .plain

namespace Intake

variable {δ : Type}

def fresh (draft : δ) : Intake δ := ⟨draft, [], none, false, false⟩

/-- Whether an option waits for its value. -/
def awaiting (intake : Intake δ) : Bool :=
  match intake.pending with
  | some (_, none) => true
  | _ => false

def store (intake : Intake δ) (choice : Choice δ) (value : String) : Except UsageFault (Intake δ) :=
  if !choice.repeats && intake.given.contains choice.name then .error (.repeated choice.display)
  else match choice.store value intake.draft with
    | .ok draft => .ok { intake with draft, given := choice.name :: intake.given, pending := none }
    | .error cause => .error (.invalidValue choice.display value cause)

/-- Stores the option that is pending. -/
def settle (intake : Intake δ) : Except UsageFault (Intake δ) :=
  match intake.pending with
  | none => .ok intake
  | some (choice, none) => .error (.missingValue choice.display)
  | some (choice, some value) => ({ intake with pending := none } : Intake δ).store choice value

end Intake

namespace Level

variable {δ : Type} (level : Level δ)

/-- An argument that is no operand here. -/
def stray (trailing : Bool) (argument : String) : UsageFault :=
  if trailing ∧ (Outline.under level.commands argument).isSome then .unknownArgument argument
  else if level.commands.isEmpty then .unknownArgument argument
  else .unknownCommand argument

def takeOperand (intake : Intake δ) (argument : String) : Except UsageFault (Intake δ) :=
  match level.operand with
  | none => .error (level.stray intake.trailing argument)
  | some place =>
    if intake.operandGiven then .error (level.stray intake.trailing argument)
    else intake.settle.map fun settled =>
      { settled with draft := place argument settled.draft, operandGiven := true }

def takeLong (intake : Intake δ) (name : String) (value : Option String) :
    Except UsageFault (Intake δ) :=
  if name = Outline.helpName then
    match value with
    | some value => .error (.unexpectedValue s!"--{name}" value)
    | none => intake.settle.bind fun _ => .error .help
  else match level.options.find? fun choice => choice.name = name with
    | none => .error (.unknownArgument s!"--{name}")
    | some choice =>
      match choice.placeholder, value with
      | none, some value => .error (.unexpectedValue choice.display value)
      | none, none => intake.settle.bind fun settled => settled.store choice ""
      | some _, some value => intake.settle.bind fun settled => settled.store choice value
      | some _, none =>
        intake.settle.map fun settled => { settled with pending := some (choice, none) }

def takePlain (intake : Intake δ) (argument : String) : Except UsageFault (Intake δ) :=
  match intake.pending with
  | some (choice, none) => .ok { intake with pending := some (choice, some argument) }
  | _ => level.takeOperand intake argument

def takeShort (intake : Intake δ) (letter : Char) : Except UsageFault (Intake δ) :=
  if letter = 'h' then intake.settle.bind fun _ => .error .help
  else .error (.unknownArgument (String.ofList ['-', letter]))

/-- Takes an argument that is no command. -/
def take (intake : Intake δ) (argument : String) : Except UsageFault (Intake δ) :=
  if intake.trailing then level.takeOperand intake argument
  else match shapeOf argument with
    | .escape => .ok { intake with trailing := true }
    | .long name value => level.takeLong intake name value
    | .short letter => takeShort intake letter
    | .plain => level.takePlain intake argument

/-- Reads up to the end or to a command below. -/
def scan : Intake δ → List String → Except UsageFault (Stop δ)
  | intake, [] => .ok (.finished intake)
  | intake, argument :: rest =>
    if !intake.trailing && !intake.awaiting && (Outline.under level.commands argument).isSome then
      if level.commands.any fun command => command.name = argument then
        .ok (.entered argument rest intake)
      else .error (Outline.help level.commands rest)
    else (level.take intake argument).bind fun next => scan next rest

/-- Takes an option from the environment if it is not given. -/
def fill (environment : Settings) (intake : Intake δ) (choice : Choice δ) :
    Except UsageFault (Intake δ) :=
  match choice.fallback.bind environment.find? with
  | some value =>
    if intake.given.contains choice.name then .ok intake else intake.store choice value
  | none => .ok intake

/-- Whether everything is given that is required. -/
def complete (intake : Intake δ) : Bool :=
  (level.operand.isNone || intake.operandGiven) &&
    level.options.all fun choice => !choice.required || intake.given.contains choice.name

/-- Completes a level; `entered` tells whether a command below was read. -/
def close (environment : Settings) (entered : Bool) (intake : Intake δ) : Except UsageFault δ := do
  let settled ← intake.settle
  let filled ← level.options.foldlM (fill environment) settled
  if !entered && !level.commands.isEmpty then
    throw (if filled.given.isEmpty then .bare else .missingCommand)
  if !level.complete filled then
    throw .missingArguments
  return filled.draft

/-- Reads a level without commands below it. -/
def read (environment : Settings) (draft : δ) (arguments : List String) : Except UsageFault δ := do
  match ← level.scan (.fresh draft) arguments with
  | .finished intake => level.close environment false intake
  | .entered command _ _ => throw (.unknownCommand command)

/-- Reads a level and the command below it. -/
def enter {β : Type} (environment : Settings) (draft : δ) (arguments : List String)
    (inner : String → List String → Except UsageFault β) : Except UsageFault (δ × β) := do
  match ← level.scan (.fresh draft) arguments with
  | .finished intake =>
    let _ ← level.close environment false intake
    throw .missingCommand
  | .entered command rest intake =>
    let below ← inner command rest
    let own ← level.close environment true intake
    return (own, below)

end Level

end Conduit
