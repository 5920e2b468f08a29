import Testbed.Suite.Basic

/-! # Registries

Suites and cases are registered in any order. A case is attached to the suite
that it names as soon as both are there. When nothing is left without a suite
the registry is closed and becomes a catalogue, which only answers questions.
-/

namespace Testbed

variable {σ : Type}

/-- The indexes give the positions of suites by their names, and of cases by their full names. -/
structure Registry (σ : Type) where
  suites : List (Suite σ) := []
  suiteIndex : List (String × Nat) := []
  cases : List (Case σ) := []
  caseIndex : List (String × Nat) := []

namespace Registry

inductive Error where
  | emptySuiteName
  | duplicateSuite (name : String)
  | duplicateCase (fullName : String)
  /-- No suite was registered that the case could be attached to. -/
  | orphanCase (fullName : String)
  deriving DecidableEq, Repr

def Error.message : Error → String
  | emptySuiteName => "test suite name is empty"
  | duplicateSuite name => s!"duplicate test suite name: {name}"
  | duplicateCase fullName => s!"duplicate test case name: {fullName}"
  | orphanCase fullName => s!"test case {fullName} has no registered test suite"

def logTarget : String :=
  "lisa_suite::registry"

/-- What can be registered. -/
inductive Item (σ : Type) where
  | suite (suite : Suite σ)
  | testCase (testCase : Case σ)

/-- The position of the suite with the given name. -/
def suiteIndex? (r : Registry σ) (name : String) : Option Nat :=
  r.suiteIndex.lookup name

/-- The position of the case with the given full name. -/
def caseIndex? (r : Registry σ) (fullName : String) : Option Nat :=
  r.caseIndex.lookup fullName

def suite? (r : Registry σ) (name : String) : Option (Suite σ) :=
  (r.suiteIndex? name).bind (r.suites[·]?)

def case? (r : Registry σ) (fullName : String) : Option (Case σ) :=
  (r.caseIndex? fullName).bind (r.cases[·]?)

/-- Cases that were waiting for the suite are attached to it. -/
def addSuite (r : Registry σ) (suite : Suite σ) : Except Error (Registry σ) :=
  if suite.name = "" then .error .emptySuiteName
  else if (r.suiteIndex? suite.name).isSome then .error (.duplicateSuite suite.name)
  else .ok { r with
    suites := r.suites ++ [suite]
    suiteIndex := (suite.name, r.suites.length) :: r.suiteIndex
    cases := r.cases.map fun c => if c.suiteName = suite.name then c.attach suite else c }

/-- The case as it stands in the registry: attached to the suite that it names if that is there. -/
def placed (r : Registry σ) (c : Case σ) : Case σ :=
  match r.suite? c.suiteName with
  | some suite => c.attach suite
  | none => c

def addCase (r : Registry σ) (c : Case σ) : Except Error (Registry σ) :=
  if (r.caseIndex? c.fullName).isSome then .error (.duplicateCase c.fullName)
  else .ok { r with
    cases := r.cases ++ [r.placed c]
    caseIndex := (c.fullName, r.cases.length) :: r.caseIndex }

def add (r : Registry σ) : Item σ → Except Error (Registry σ)
  | .suite suite => r.addSuite suite
  | .testCase c => r.addCase c

/-- What is logged about an item that is registered; the cases named are those that have been
waiting for the suite. -/
def remarks (r : Registry σ) : Item σ → List Log.Line
  | .suite suite =>
    let waiting := r.cases.filter fun c => c.suite.isNone && c.suiteName = suite.name
    let names := ", ".intercalate (waiting.map (·.name))
    [⟨.info, logTarget, s!"registered test suite '{suite.name}' cases: [{names}]"⟩]
  | .testCase c =>
    if (r.suiteIndex? c.suiteName).isSome then
      [⟨.debug, logTarget, s!"attached test case '{c.fullName}'"⟩]
    else []

/-- What came of registering several items: the registry, what was logged, and why it ended early
if it did. -/
structure Outcome (σ : Type) where
  registry : Registry σ
  log : List Log.Line
  error : Option Error

/-- Registers items in order, up to the first one that cannot be. What was registered before it
stays. -/
def addAll (r : Registry σ) : List (Item σ) → Outcome σ
  | [] => ⟨r, [], none⟩
  | item :: rest =>
    match r.add item with
    | .error e => ⟨r, [], some e⟩
    | .ok next =>
      let outcome := next.addAll rest
      { outcome with log := r.remarks item ++ outcome.log }

end Registry

/-- A registry that is closed. -/
structure Catalogue (σ : Type) where
  registry : Registry σ

namespace Catalogue

def suites (c : Catalogue σ) : List (Suite σ) :=
  c.registry.suites

def cases (c : Catalogue σ) : List (Case σ) :=
  c.registry.cases

def suite? (c : Catalogue σ) (name : String) : Option (Suite σ) :=
  c.registry.suite? name

def case? (c : Catalogue σ) (fullName : String) : Option (Case σ) :=
  c.registry.case? fullName

/-- The cases that name the suite, in the order in which they were registered. -/
def casesOf (c : Catalogue σ) (suiteName : String) : List (Case σ) :=
  c.cases.filter fun c => c.suiteName = suiteName

end Catalogue

/-- Fails with the first case that is not attached. -/
def Registry.freeze (r : Registry σ) : Except Registry.Error (Catalogue σ) :=
  match r.cases.find? fun c => c.suite.isNone with
  | some orphan => .error (.orphanCase orphan.fullName)
  | none => .ok ⟨r⟩

end Testbed
