import Testbed.Environment.Basic
import Testbed.Os.Release
import Testbed.Text.Utf8

/-! # The local environment

The machine at hand is an environment of one connected node. How it runs
programs, and what else it is asked for, is a parameter.
-/

namespace Testbed

/-- What is left of a program that has ended. -/
structure Remains where
  /-- None if a signal has ended the program. -/
  exitCode : Option Int
  stdout : List UInt8
  stderr : List UInt8

/-- What is asked of the machine at hand. -/
structure Host (σ : Type) where
  /-- Runs a program to its end, or tells why it cannot be started. -/
  spawn : String → List String → σ → Except String Remains × σ
  /-- The names of the network interfaces, if they can be listed. -/
  interfaces : Option (List String) := none
  /-- The text of the release file, if it can be read. -/
  release : Option String := none
  /-- The kind of system that the program is made for. -/
  target : Os := .linux

namespace Host

variable {σ : Type} (host : Host σ)

def logTarget : String :=
  "lisa::local"

/-- Loopback does not count, and there is one interface at least. -/
def nics : UInt32 :=
  max (.ofNat ((host.interfaces.getD []).filter (· ≠ "lo")).length) 1

def os : Os :=
  (host.release.bind Os.Release.detect?).getD host.target

/-- Runs a program as a command of a node. What it has written is read as text. -/
def execute (command : String) (arguments : List String) (s : σ) : Execution σ :=
  let (ended, s) := host.spawn command arguments s
  { result := match ended with
      | .error fault => .error ⟨[s!"spawn {command}", fault]⟩
      | .ok remains => .ok {
        exitCode := remains.exitCode.getD (-1)
        stdout := Text.Utf8.decodeString remains.stdout
        stderr := Text.Utf8.decodeString remains.stderr }
    log := [⟨.debug, logTarget,
      s!"execute on localhost: {command} " ++ " ".intercalate arguments⟩]
    state := s }

/-- The environment, in which the node can be taken for another kind of system. -/
def environment (os : Option Os) : Environment σ where
  name := "local"
  stage := .connected
  nodes := [{
    name := "localhost"
    os := some (os.getD host.os)
    offer := { name := "localhost", nics := host.nics }
    execute := host.execute }]
  platform := "local"
  ownFacts := some <| .ofList
    [("environment", "local"), ("platform", "local"), ("os", (os.getD host.os).name)]

/-- What is logged when the environment is made. -/
def remark (os : Option Os) : Log.Line :=
  ⟨.debug, logTarget, s!"local node os={(os.getD host.os).name} nics={host.nics}"⟩

end Host

end Testbed
