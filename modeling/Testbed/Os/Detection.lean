import Testbed.Os.Basic

/-! # Recognising an operating system

A single word, such as the `ID` of a release file, is looked up in a table of
known names, the most specific kinds first.
-/

namespace Testbed.Os

def knownNames : List (Os × List String) := [
  (ubuntu, ["Ubuntu", "ubuntu"]),
  (debian, ["debian", "Debian", "Forcepoint", "Kali"]),
  (centOs, ["CentOS", "Centos", "centos", "clear-linux-os"]),
  (coreOs, ["coreos", "Flatcar", "flatcar"]),
  (oracle, ["Oracle", "ol"]),
  (redhat, ["rhel", "Red", "Scientific", "acronis", "Actifio"]),
  (fedora, ["Fedora", "fedora"]),
  (suse, ["SLES", "SUSE", "sles", "sle-hpc", "sle_hpc", "opensuse-leap"]),
  (nixOs, ["NixOS", "nixos"]),
  (freeBsd, ["FreeBSD"]),
  (openBsd, ["OpenBSD"]),
  (otherLinux, ["Sapphire", "Buildroot", "OpenWrt", "BloombaseOS", "FMOS", "idms", "RecoveryOS",
    "sinefa"])]

/-- The kind that a word names, blanks around it aside. -/
def detect? (text : String) : Option Os :=
  let word := Text.trim text
  (knownNames.find? fun (_, names) => names.contains word).map (·.1)

end Testbed.Os
