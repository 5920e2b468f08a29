import Testbed.CommandLine.Choice
import Testbed.CommandLine.Numeral
import Testbed.CommandLine.Options
import Testbed.Selection

/-! # Commands

What the program is asked to do: list cases, compare them with the machine, or run them.
-/

namespace Testbed.CommandLine

structure RunOptions where
  os : Option Os := none
  retries : UInt32 := 0
  times : UInt32 := 1
  ignoreFailure : Bool := false
  delay : Nat := 0
  runName : Option String := none
  json : Bool := true
  reportPath : Option String := none
  deriving Repr

inductive Command where
  | list (selection : Selection) (json : Bool)
  | check (selection : Selection) (os : Option Os)
  | run (selection : Selection) (options : RunOptions)

structure Request where
  verbose : Bool
  command : Command

def readBool (text : String) : Option Bool :=
  if text = "true" then some true else if text = "false" then some false else none

def readOs (text : String) : Option Os :=
  (Choice.os.pick text false).toOption

def flag (name : String) : Spec where
  name := name
  arity := .flag

def text (name : String) : Spec where
  name := name
  arity := .once

def many (name : String) : Spec where
  name := name
  arity := .many

/-- An option whose value is read by the given function, and refused if that fails. -/
def reading {α : Type} (name : String) (read : String → Option α) : Spec where
  name := name
  arity := .once
  accepts := fun value => (read value).isSome

def selectionSpecs : List Spec := [
  text "filter", flag "exact", many "area", many "category", many "tag", reading "priority" word?]

def listSpecs : List Spec :=
  flag "verbose" :: selectionSpecs ++ [flag "json"]

def checkSpecs : List Spec :=
  flag "verbose" :: selectionSpecs ++ [reading "os" readOs]

def runSpecs : List Spec :=
  flag "verbose" :: selectionSpecs ++ [
    reading "os" readOs, reading "retry" word?, reading "times" word?, flag "ignore-failure",
    reading "retry-delay-ms" longWord?, text "run-name", reading "json" readBool,
    { text "report-out" with accepts := fun path => !path.isEmpty }]

def selectionOf (given : Given) : Selection where
  filter := given.value? "filter"
  exact := given.has "exact"
  areas := given.values "area"
  categories := given.values "category"
  tags := given.values "tag"
  maxPriority := (given.value? "priority").bind word?

def runOptionsOf (given : Given) : RunOptions where
  os := (given.value? "os").bind readOs
  retries := ((given.value? "retry").bind word?).getD 0
  times := ((given.value? "times").bind word?).getD 1
  ignoreFailure := given.has "ignore-failure"
  delay := ((given.value? "retry-delay-ms").bind longWord?).getD 0
  runName := given.value? "run-name"
  json := ((given.value? "json").bind readBool).getD true
  reportPath := given.value? "report-out"

def listOf (given : Given) : Command :=
  .list (selectionOf given) (given.has "json")

def checkOf (given : Given) : Command :=
  .check (selectionOf given) ((given.value? "os").bind readOs)

def runOf (given : Given) : Command :=
  .run (selectionOf given) (runOptionsOf given)

/-- A command by its name, with its options. -/
structure Form where
  name : String
  specs : List Spec
  build : Given → Command

def forms : List Form := [
  ⟨"list", listSpecs, listOf⟩, ⟨"check", checkSpecs, checkOf⟩, ⟨"run", runSpecs, runOf⟩]

/-- Help can be asked for about one command. -/
def readHelp : List String → Stop
  | [] => .help
  | [word] =>
    if word = "help" || forms.any (·.name = word) then .help else .usage (.unknownCommand word)
  | _ :: word :: _ => .usage (.unknownCommand word)

/-- Reads a whole command line; `verbose` says whether that option has been read already. -/
def read (verbose : Bool) : List String → Except Stop Request
  | [] => .error (.usage .missingCommand)
  | word :: rest =>
    if word = "--verbose" then
      if verbose then .error (.usage (.repeated "verbose")) else read true rest
    else if word = "--version" || isShort 'V' word then .error .version
    else if asksForHelp word then .error .help
    else if word = "help" then .error (readHelp rest)
    else if looksLikeOption word then .error (.usage (.unexpected word))
    else
      match forms.find? (·.name = word) with
      | none => .error (.usage (.unknownCommand word))
      | some form => do
        let given ← readOptions form.specs [] rest
        pure ⟨verbose || given.has "verbose", form.build given⟩

end Testbed.CommandLine
