import Testbed.CommandLine.LogFilter
import Testbed.CommandLine.Session
import Testbed.Machine.Local

/-! # Sessions on a machine in memory -/

namespace Testbed.Machine

/-- What a change to the file tree comes to; a fault leaves the tree as it was. -/
def changing (change : FileTree → Except Fault FileTree) :
    ExceptT String (StateM FileTree) Unit :=
  fun files =>
    match change files with
    | .error fault => (.error fault.message, files)
    | .ok files => (.ok (), files)

def disk : Session.Disk (StateM FileTree) where
  makeAll path := changing (·.makeAll path)
  write path text := changing (·.write path text)

def session (m : Machine) (arguments : List String) (logFilter : Option String) : Session.Plan :=
  Session.plan {
    arguments
    host := m.host
    readFilter := fun text => (LogFilter.read? text).map LogFilter.permits
    logFilter }

/-- Carries out a plan on a file tree. The notes come line by line, and begin with what is left of
the lines of the log behind their first line feeds. -/
def carryOut (files : FileTree) (plan : Session.Plan) : Session.Outcome × FileTree :=
  let (o, files) := (plan.ending.carryOut disk).run files
  let own := o.notes.flatMap fun note => (Text.lines note.toList).map String.ofList
  ({ o with notes := plan.log.flatMap (·.printed.drop 1) ++ own }, files)

end Testbed.Machine
