import Testbed.Machine.Shell.Arithmetic
import Testbed.Machine.Shell.Pattern
import Testbed.Machine.Shell.State

/-! # Expansion

Words become texts: parameters, outputs and results take their places, what is not
quoted is parted at separators, and patterns become the paths that they match.
-/

namespace Testbed.Machine.Shell

/-- A piece of a word that has been expanded. -/
inductive Glyph where
  /-- With `parts` a separator ends the word. -/
  | char (c : Char) (quoted parts : Bool)
  /-- Makes a word even if nothing else does. -/
  | keep
  /-- Ends a word. -/
  | cut
  deriving DecidableEq, Repr

namespace Glyph

/-- The value of a parameter; quoted it is a word even if it is empty. -/
def ofText (quoted : Bool) (cs : List Char) : List Glyph :=
  if quoted && cs.isEmpty then [keep] else cs.map (char · quoted (!quoted))

/-- The signs of a word that is not parted; where it would be cut there is a blank. -/
def signs (gs : List Glyph) : List Sign :=
  gs.filterMap fun
    | char c quoted _ => some (c, quoted)
    | cut => some (' ', true)
    | keep => none

def text (gs : List Glyph) : String :=
  Pattern.text (signs gs)

/-- Where the parting of a word is: within a field, behind a blank, or behind another separator. -/
inductive Place where
  | inside (field : List Sign)
  | behindBlank
  | outside

/-- Parts a word at separators. Blanks among them count as one together with what they surround. -/
def fields (separators : List Char) : Place → List Glyph → List (List Sign)
  | .inside field, [] => [field]
  | .behindBlank, [] | .outside, [] => []
  | place, char c quoted parts :: rest =>
    if parts && separators.contains c then
      if c = ' ' || c = '\t' || c = '\n' then
        match place with
        | .inside field => field :: fields separators .behindBlank rest
        | place => fields separators place rest
      else
        match place with
        | .inside field => field :: fields separators .outside rest
        | .behindBlank => fields separators .outside rest
        | .outside => [] :: fields separators .outside rest
    else
      match place with
      | .inside field => fields separators (.inside (field ++ [(c, quoted)])) rest
      | _ => fields separators (.inside [(c, quoted)]) rest
  | .inside field, keep :: rest => fields separators (.inside field) rest
  | _, keep :: rest => fields separators (.inside []) rest
  | .inside field, cut :: rest => field :: fields separators .outside rest
  | _, cut :: rest => fields separators .outside rest

end Glyph

/-- Drops the line feeds at the end. -/
def dropFeeds (cs : List Char) : List Char :=
  (cs.reverse.dropWhile (· = '\n')).reverse

/-- All parameters in one text or in several. -/
def State.all (s : State) (name : String) (quoted : Bool) : List Glyph :=
  if quoted && name = "*" then
    let separator := String.ofList (s.separators.take 1)
    Glyph.ofText true (separator.intercalate s.parameters).toList
  else
    ((s.parameters.map fun p => Glyph.ofText quoted p.toList).intersperse [.cut]).flatten

/-- How a parameter is used whose value is missing. -/
def missingText (name : String) (nonempty : Bool) : String :=
  if nonempty then s!"{name}: parameter not set or null" else s!"{name}: parameter not set"

mutual

/-- Expands the parts of a word one after the other. The command that is passed in is run for its
output; the number bounds the depth. -/
def expandParts (run : Command → State → State) : Nat → Word → State → List Glyph × State
  | 0, _, s => ([], s)
  | _ + 1, [], s => ([], s)
  | n + 1, part :: rest, s =>
    let (gs, s) := expandPart run n part s
    if s.flow = .next then
      let (more, s) := expandParts run n rest s
      (gs ++ more, s)
    else (gs, s)

def expandPart (run : Command → State → State) : Nat → Part → State → List Glyph × State
  | 0, _, s => ([], s)
  | n + 1, part, s =>
    match part with
    | .char c quoted => ([.char c quoted false], s)
    | .nothing => ([.keep], s)
    | .output c quoted =>
      let (output, t) := s.capture (State.apart (run c ·))
      let text := dropFeeds (Text.Utf8.decode (output.filter (· ≠ 0)))
      (Glyph.ofText quoted text, { t with status := s.status, substituted := t.status })
    | .result word quoted =>
      let (gs, s) := expandParts run n word s
      let text := Glyph.text gs
      let outcome := do
        let e ← Arithmetic.read text.toList
        (e.eval (fun name (s : State) => (s.parameter? name).getD "")
          (fun name value s => s.assign name (toString value))).run s
      match outcome with
      | .ok (value, s) => (Glyph.ofText quoted (toString value).toList, s)
      | .error flaw => ([], s.fail (flaw.message text))
    | .parameter name use nonempty word quoted => expandParameter run n name use nonempty word quoted s

def expandParameter (run : Command → State → State) :
    Nat → String → Use → Bool → Word → Bool → State → List Glyph × State
  | 0, _, _, _, _, _, s => ([], s)
  | n + 1, name, use, nonempty, word, quoted, s =>
    let isAll := name = "@" || name = "*"
    let found := if isAll then
        (if s.parameters.isEmpty then none else some (" ".intercalate s.parameters))
      else s.parameter? name
    let value := if isAll then s.all name quoted
      else Glyph.ofText quoted ((found.getD "").toList)
    let isMissing := found.isNone || nonempty && found = some ""
    /- What is not quoted in the word is parted like a value. -/
    let inPlace (r : List Glyph × State) : List Glyph × State :=
      if quoted && r.1.isEmpty then ([.keep], r.2)
      else (r.1.map fun
        | .char c inner parts => .char c inner (parts || !quoted && !inner)
        | g => g, r.2)
    match use with
    | .malformed => ([], s.fail "Bad substitution")
    | .value =>
      if found.isNone && !isAll && s.options.contains 'u' then
        ([], s.fail (missingText name false))
      else (value, s)
    | .length =>
      if found.isNone && !isAll && s.options.contains 'u' then
        ([], s.fail (missingText name false))
      else
        let length := if isAll then s.parameters.length else (found.getD "").utf8ByteSize
        (Glyph.ofText quoted (toString length).toList, s)
    | .otherwise kept =>
      if !isMissing then (value, s)
      else if kept then
        let (gs, s) := expandParts run n word s
        if s.isReadOnly name then ([], s.fail s!"{name}: is read only")
        else if !isName name.toList then ([], s.fail s!"{name}: bad variable name")
        else (Glyph.ofText quoted (Glyph.text gs).toList, s.assign name (Glyph.text gs))
      else inPlace (expandParts run n word s)
    | .demanded =>
      if !isMissing then (value, s)
      else
        let (gs, s) := expandParts run n word s
        let text := Glyph.text gs
        ([], s.fail (if text.isEmpty then missingText name nonempty else s!"{name}: {text}"))
    | .instead => if isMissing then inPlace ([], s) else inPlace (expandParts run n word s)
    | .trimmed atEnd longest =>
      let (gs, s) := expandParts run n word s
      let pattern := Pattern.ofSigns (Glyph.signs gs)
      let cut := Pattern.trim pattern atEnd longest (found.getD "").toList
      (Glyph.ofText quoted cut, s)

end

/-- A home directory takes the place of a tilde that a word begins with. -/
def expandTilde (s : State) (w : Word) : Word :=
  match w with
  | .char '~' false :: rest =>
    match rest, s.value? "HOME" with
    | [], some home | .char '/' false :: _, some home =>
      home.toList.map (.char · true) ++ rest
    | _, _ => w
  | w => w

/-- Expands a word that stays in one piece. -/
def expandSigns (run : Command → State → State) (n : Nat) (w : Word) (s : State) :
    List Sign × State :=
  let (gs, s) := expandParts run n (expandTilde s w) s
  (Glyph.signs gs, s)

def expandText (run : Command → State → State) (n : Nat) (w : Word) (s : State) :
    String × State :=
  let (signs, s) := expandSigns run n w s
  (Pattern.text signs, s)

/-- Expands words into as many texts as they make. -/
def expandWords (run : Command → State → State) (n : Nat) : List Word → State → List String × State
  | [], s => ([], s)
  | w :: rest, s =>
    let (gs, s) := expandParts run n (expandTilde s w) s
    if s.flow = .next then
      let fields := Glyph.fields s.separators .outside gs
      let texts := fields.flatMap fun signs =>
        if s.options.contains 'f' then [Pattern.text signs] else Pattern.expand s.files signs
      let (more, s) := expandWords run n rest s
      (texts ++ more, s)
    else ([], s)

end Testbed.Machine.Shell
