import Testbed.Digest.Hex
import Testbed.Digest.Sha256

/-! # Identifiers of records

The record of a case in one iteration of a run is known by the first sixteen hexadecimal
digits of a digest of the three.
-/

namespace Testbed

namespace RecordId

/-- The text that is digested: the names and the number, one to a line. -/
def preimage (run fullName : String) (iteration : Nat) : String :=
  s!"{run}\n{fullName}\n{iteration}"

/-- The identifier under any digest of 32 bytes. -/
def ofDigest (digest : List UInt8 → Vector UInt8 32) (run fullName : String) (iteration : Nat) :
    String :=
  let bytes := (preimage run fullName iteration).toUTF8.toList
  String.ofList ((Digest.hex (digest bytes).toList).take 16)

end RecordId

def recordId (run fullName : String) (iteration : Nat) : String :=
  RecordId.ofDigest Digest.sha256 run fullName iteration

end Testbed
