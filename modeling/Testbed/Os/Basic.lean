import Testbed.Text.Blank
import Testbed.Text.Quoted

/-! # Kinds of operating systems

A tree of kinds: a requirement for a kind is met by every kind below it, so a
kind is always matched together with its whole chain of ancestors.
-/

namespace Testbed

/-- The declaration order is the order in which kinds are listed and sorted. -/
inductive Os where
  | operatingSystem
  | windows
  | posix
  | bsd
  | freeBsd
  | openBsd
  | linux
  | debian
  | ubuntu
  | fedora
  | redhat
  | centOs
  | oracle
  | coreOs
  | suse
  | nixOs
  | otherLinux
  deriving DecidableEq, Repr, Inhabited

namespace Os

def all : List Os := [
  operatingSystem, windows, posix, bsd, freeBsd, openBsd, linux, debian, ubuntu, fedora, redhat,
  centOs, oracle, coreOs, suse, nixOs, otherLinux]

theorem mem_all (os : Os) : os ∈ all := by
  cases os <;> decide

instance : Ord Os where
  compare := compareOn Os.ctorIdx

instance : Std.TransOrd Os :=
  inferInstanceAs (Std.TransCmp (compareOn Os.ctorIdx))

instance : Std.LawfulEqOrd Os where
  eq_of_compare {a b} h := by
    have h : a.ctorIdx = b.ctorIdx := Std.LawfulEqOrd.eq_of_compare h
    revert h
    cases a <;> cases b <;> decide

/-- The name used on the command line and in explanations. -/
def name : Os → String
  | operatingSystem => "operating-system"
  | windows => "windows"
  | posix => "posix"
  | bsd => "bsd"
  | freeBsd => "freebsd"
  | openBsd => "openbsd"
  | linux => "linux"
  | debian => "debian"
  | ubuntu => "ubuntu"
  | fedora => "fedora"
  | redhat => "redhat"
  | centOs => "centos"
  | oracle => "oracle"
  | coreOs => "coreos"
  | suse => "suse"
  | nixOs => "nixos"
  | otherLinux => "other-linux"

/-- The name used in JSON texts, which parts every word by a hyphen. -/
def slug : Os → String
  | freeBsd => "free-bsd"
  | openBsd => "open-bsd"
  | centOs => "cent-os"
  | coreOs => "core-os"
  | nixOs => "nix-os"
  | os => os.name

instance : ToString Os := ⟨name⟩

def ofName? (name : String) : Option Os :=
  all.find? fun os => os.name = name

/-- Reads a name with blanks around it, in exactly the spelling of `name`. -/
def parse? (text : String) : Option Os :=
  ofName? (Text.trim text)

structure ParseError where
  text : String

def ParseError.message (e : ParseError) : String :=
  s!"invalid os type {Text.quoted e.text}"

/-- Reads a name in any mixture of ASCII upper and lower case. -/
def read (text : String) : Except ParseError Os :=
  match parse? text.toLower with
  | some os => .ok os
  | none => .error ⟨text⟩

/-- The kind right above; only the root has none. -/
def parent? : Os → Option Os
  | operatingSystem => none
  | windows | posix => some operatingSystem
  | bsd | linux => some posix
  | freeBsd | openBsd => some bsd
  | debian | fedora | suse | nixOs | otherLinux => some linux
  | ubuntu => some debian
  | redhat => some fedora
  | centOs | oracle | coreOs => some redhat

/-- The first `n` steps up from a kind, the kind itself in front. -/
def climb : Nat → Os → List Os
  | 0, os => [os]
  | n + 1, os =>
    match os.parent? with
    | none => [os]
    | some above => os :: climb n above

/-- The kind itself and everything above it, up to the root. A kind is declared after its
parent, so its position bounds the climb. -/
def ancestors (os : Os) : List Os :=
  climb os.ctorIdx os

theorem ancestors_of_parent {os above : Os} (h : os.parent? = some above) :
    os.ancestors = os :: above.ancestors := by
  revert h
  cases os <;> cases above <;> decide

def isA (os base : Os) : Bool :=
  os.ancestors.contains base

theorem isA_trans {a b c : Os} (hab : a.isA b = true) (hbc : b.isA c = true) :
    a.isA c = true := by
  revert hab hbc
  cases a <;> cases b <;> first | (intro h; exact absurd h (by decide)) | (cases c <;> decide)

def isPosix (os : Os) : Bool :=
  os.isA posix

def isWindows (os : Os) : Bool :=
  os.isA windows

end Os

end Testbed
