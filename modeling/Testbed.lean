import Testbed.Main
import Testbed.Record.Inspection
import Testbed.Proofs.Retry
import Testbed.Proofs.Task.Twin
import Testbed.Proofs.Suite.Tries
import Testbed.Proofs.Suite.Block
import Testbed.Proofs.Suite.Rounds
import Testbed.Proofs.Suite.Protocol
import Testbed.Proofs.Suite.Verdict
import Testbed.Proofs.Suite.Frame
import Testbed.Proofs.Suite.Twin
import Testbed.Proofs.Registry.Index
import Testbed.Proofs.Registry.Attachment
import Testbed.Proofs.Registry.Invariant
import Testbed.Proofs.Registry.LoadOrder
import Testbed.Proofs.Run.Order
import Testbed.Proofs.Run.Group
import Testbed.Proofs.Run.Separation
import Testbed.Proofs.Run.Isolation
import Testbed.Proofs.Requirement.Acceptance
import Testbed.Proofs.Requirement.Match
import Testbed.Proofs.Requirement.Connection
import Testbed.Proofs.Requirement.Explanation
import Testbed.Proofs.Suite.Stop
import Testbed.Proofs.Run.Gate
import Testbed.Proofs.Notifier
import Testbed.Proofs.Run.Course
import Testbed.Proofs.Run.Tour
import Testbed.Proofs.Run.Announcement
import Testbed.Proofs.Run.Agreement
import Testbed.Proofs.Run.Pending
import Testbed.Proofs.Requirement.Demands
import Testbed.Proofs.Suite.Relabel
import Testbed.Proofs.Record.Facts
import Testbed.Proofs.Record.History
import Testbed.Proofs.Requirement.Inclusion
import Testbed.Proofs.Requirement.Count
import Testbed.Proofs.Requirement.Composition
import Testbed.Proofs.Requirement.Meaning
import Testbed.Proofs.Retry.Calls
import Testbed.Proofs.Record.Checks
import Testbed.Proofs.Requirement.Clash
import Testbed.Proofs.Selection
import Testbed.Proofs.Run.RecordId
import Testbed.Proofs.Os.Release
