/-! # Options

The words of a command line are read from the left. An option is written with two
hyphens, its value as the next word or behind an equals sign.
-/

namespace Testbed.CommandLine

inductive UsageError where
  | unexpected (word : String)
  | missingValue (option : String)
  | surplusValue (option value : String)
  | repeated (option : String)
  | invalidValue (option value : String)
  | missingCommand
  | unknownCommand (word : String)
  deriving DecidableEq, Repr

def UsageError.message : UsageError → String
  | unexpected word => s!"error: unexpected argument '{word}' found"
  | missingValue option => s!"error: a value is required for '--{option}' but none was supplied"
  | surplusValue option value => s!"error: unexpected value '{value}' for '--{option}' found"
  | repeated option => s!"error: the argument '--{option}' cannot be used multiple times"
  | invalidValue option value => s!"error: invalid value '{value}' for '--{option}'"
  | missingCommand => "error: a command is required but none was given"
  | unknownCommand word => s!"error: unrecognized subcommand '{word}'"

/-- Why reading ends before a command is complete. -/
inductive Stop where
  | help
  | version
  | usage (error : UsageError)
  deriving DecidableEq, Repr

/-- How often an option may come, and whether it has a value. -/
inductive Arity where
  | flag
  | once
  | many
  deriving DecidableEq, Repr

structure Spec where
  name : String
  arity : Arity
  /-- Which values are taken. -/
  accepts : String → Bool := fun _ => true

/-- The options that were given, in order, flags with an empty value. -/
abbrev Given : Type :=
  List (String × String)

namespace Given

def has (given : Given) (name : String) : Bool :=
  given.any (·.1 = name)

def values (given : Given) (name : String) : List String :=
  (given.filter (·.1 = name)).map (·.2)

def value? (given : Given) (name : String) : Option String :=
  given.lookup name

end Given

/-- A word that cannot be the value of an option. A lone hyphen can. -/
def looksLikeOption (word : String) : Bool :=
  match word.toList with
  | ['-'] => false
  | '-' :: _ => true
  | _ => false

/-- Whether a word is a single hyphen with a letter right behind it. -/
def isShort (letter : Char) (word : String) : Bool :=
  match word.toList with
  | '-' :: c :: _ => c = letter
  | _ => false

def asksForHelp (word : String) : Bool :=
  word = "--help" || isShort 'h' word

/-- The name of a long option, and the value behind its equals sign. -/
def splitOption? (word : String) : Option (String × Option String) :=
  match word.toList with
  | '-' :: '-' :: cs =>
    let name := String.ofList (cs.takeWhile (· ≠ '='))
    match cs.dropWhile (· ≠ '=') with
    | [] => some (name, none)
    | _ :: value => some (name, some (String.ofList value))
  | _ => none

/-- Takes up an option with its value. -/
def Spec.take (spec : Spec) (given : Given) (value : String) : Except Stop Given :=
  if spec.arity ≠ .many && given.has spec.name then .error (.usage (.repeated spec.name))
  else if spec.accepts value then .ok (given ++ [(spec.name, value)])
  else .error (.usage (.invalidValue spec.name value))

/-- Reads options up to the end of the words. Nothing may follow a double hyphen, and no option
takes a word of its own. -/
def readOptions (specs : List Spec) (given : Given) : List String → Except Stop Given
  | [] => .ok given
  | "--" :: rest =>
    match rest with
    | [] => .ok given
    | word :: _ => .error (.usage (.unexpected word))
  | word :: rest =>
    if asksForHelp word then .error .help
    else
      match splitOption? word with
      | none => .error (.usage (.unexpected word))
      | some (name, behind) =>
        match specs.find? (·.name = name), behind with
        | none, _ => .error (.usage (.unexpected word))
        | some spec, some value =>
          if spec.arity = .flag then .error (.usage (.surplusValue name value))
          else
            match spec.take given value with
            | .error stop => .error stop
            | .ok given => readOptions specs given rest
        | some spec, none =>
          if spec.arity = .flag then
            match spec.take given "" with
            | .error stop => .error stop
            | .ok given => readOptions specs given rest
          else
            match rest with
            | [] => .error (.usage (.missingValue name))
            | value :: rest =>
              if looksLikeOption value then .error (.usage (.missingValue name))
              else
                match spec.take given value with
                | .error stop => .error stop
                | .ok given => readOptions specs given rest

end Testbed.CommandLine
