import Testbed.Os.Detection
import Testbed.Text.Lines

/-! # Release files

An `os-release` file is a list of `KEY=value` lines. Only the last `ID` and the
last `NAME` decide which operating system it describes.
-/

namespace Testbed.Os.Release

open Text

/-- Splits a line at its first equals sign. -/
def splitField : List Char → Option (List Char × List Char)
  | [] => none
  | '=' :: rest => some ([], rest)
  | c :: rest => (splitField rest).map fun (key, value) => (c :: key, value)

/-- The key of a line without blanks around it, and its value without blanks and then without
double quotes around it; a line without an equals sign has no field. -/
def field? (line : List Char) : Option (List Char × List Char) :=
  (splitField line).map fun (key, value) =>
    (strip isBlank key, strip (· = '\"') (strip isBlank value))

def fields (text : List Char) : List (List Char × List Char) :=
  (lines text).filterMap field?

/-- The value of the last line with the given key. -/
def value? (key : List Char) (text : List Char) : Option (List Char) :=
  ((fields text).filter fun (k, _) => k = key).getLast?.map (·.2)

/-- The operating system with the given identifier and name: the identifier decides if it is
known, then the first word of the name; an unknown identifier still says that it is a Linux. -/
def classify (ident name : List Char) : Option Os :=
  (detect? (String.ofList ident)).or <|
    (detect? (String.ofList (firstWord name))).or <|
      if ident.isEmpty then none else some linux

def detect? (text : String) : Option Os :=
  classify ((value? "ID".toList text.toList).getD [])
    ((value? "NAME".toList text.toList).getD [])

end Testbed.Os.Release
