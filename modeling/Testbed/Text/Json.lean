/-! # JSON texts

The values written to reports and result messages, and their compact text:
no blanks, fields in the order given, everything outside ASCII as it is.
-/

namespace Testbed

inductive Json where
  | null
  | bool (b : Bool)
  | int (n : Int)
  /-- A decimal number given in thousandths, written with its point. -/
  | thousandths (n : Nat)
  | str (s : String)
  | arr (items : List Json)
  | obj (fields : List (String × Json))
  deriving Inhabited

namespace Json

/-- The text of one character inside a string: quotes, backslashes and control characters
below the blank are escaped, with a short form where there is one. -/
def escape (c : Char) : List Char :=
  match c with
  | '\"' => ['\\', '\"']
  | '\\' => ['\\', '\\']
  | '\n' => ['\\', 'n']
  | '\r' => ['\\', 'r']
  | '\t' => ['\\', 't']
  | '\x08' => ['\\', 'b']
  | '\x0c' => ['\\', 'f']
  | c =>
    if c.toNat < 32 then
      ['\\', 'u', '0', '0', Nat.digitChar (c.toNat / 16), Nat.digitChar (c.toNat % 16)]
    else [c]

def quote (s : String) : String :=
  String.ofList ('\"' :: (s.toList.flatMap escape ++ ['\"']))

/-- A number of thousandths with a point and as few decimals as show it, but at least one. -/
def decimal (n : Nat) : String :=
  let whole := toString (n / 1000)
  let part := n % 1000
  if part % 100 = 0 then s!"{whole}.{part / 100}"
  else if part % 10 = 0 then s!"{whole}.{part / 100}{part / 10 % 10}"
  else s!"{whole}.{part / 100}{part / 10 % 10}{part % 10}"

mutual

def render : Json → String
  | null => "null"
  | bool b => if b then "true" else "false"
  | int n => toString n
  | thousandths n => decimal n
  | str s => quote s
  | arr items => "[" ++ ",".intercalate (renderAll items) ++ "]"
  | obj fields => "\x7b" ++ ",".intercalate (renderFields fields) ++ "\x7d"

def renderAll : List Json → List String
  | [] => []
  | v :: rest => v.render :: renderAll rest

def renderFields : List (String × Json) → List String
  | [] => []
  | (key, v) :: rest => (quote key ++ ":" ++ v.render) :: renderFields rest

end

def strs (items : List String) : Json :=
  .arr (items.map .str)

/-- An object without the fields of the given names. -/
def without (names : List String) : Json → Json
  | .obj fields => .obj (fields.filter fun (key, _) => !names.contains key)
  | v => v

/-- A field that is left out when it has no value. -/
def field? (key : String) (v : Option Json) : List (String × Json) :=
  v.toList.map fun v => (key, v)

end Json

end Testbed
