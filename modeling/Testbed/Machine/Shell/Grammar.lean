import Testbed.Machine.Shell.Token

/-! # Commands

How tokens make up commands. Every reader takes a bound on its depth and steps; a
few times the length of the script suffices.
-/

namespace Testbed.Machine.Shell

open Reader

/-- Where a list of commands stands: on a line of its own, in a body that must not be empty, or
where it may be. -/
inductive ListPlace where
  | line
  | body
  | optional
  deriving DecidableEq, Repr

/-- The mark of a text, without its quotes, and whether there were any. -/
def documentMark (w : Word) : List Char × Bool :=
  (w.filterMap fun
    | .char c _ => some c
    | _ => none,
  w.any fun
    | .char _ quoted => quoted
    | .nothing => true
    | _ => false)

/-- A word that gives a value to a name. -/
def assignment? (w : Word) : Option (String × Word) :=
  let name := (w.takeWhile fun
    | .char c quoted => !quoted && isNameChar c
    | _ => false).filterMap fun
    | .char c _ => some c
    | _ => none
  match w.drop name.length with
  | .char '=' false :: value =>
    if isName name then some (String.ofList name, value) else none
  | _ => none

/-- All parameters, each a word of its own. -/
def allParameters : Word :=
  [.parameter "@" .value false [] true]

/-- The builtins whose names no function can have. -/
def specialBuiltins : List String :=
  [".", ":", "break", "continue", "eval", "exec", "exit", "export", "readonly", "return", "set",
    "shift", "times", "trap", "unset"]

/-- The parts of a simple command that have been read so far. -/
structure Simple where
  assignments : List (String × Word) := []
  words : List Word := []
  redirections : List Redirection := []

mutual

/-- Reads the commands inside of a word: up to a closing parenthesis, or all there is. -/
def readNested : Nat → Bool → Reader Command
  | 0, _ => fail .openBrace
  | n + 1, closed => do
    let s ← get
    set { s with pending := [] }
    let c ← readList n .optional
    if closed then
      match ← nextToken n false false with
      | .symbol .closing => pure ()
      | t => unexpected t (some (.symbol .closing))
    modify fun t => { t with pending := s.pending }
    pure c

/-- The next token; line ends may be passed over, and reserved words be made symbols. -/
def nextToken : Nat → Bool → Bool → Reader Token
  | 0, _, _ => pure .ending
  | n + 1, overLines, reserved => do
    match ← readToken (readNested n) with
    | .line =>
      if overLines then
        readDocuments (readNested n)
        nextToken n overLines reserved
      else pure .line
    | .word w =>
      let symbol := (Word.plain? w).bind fun cs => Symbol.ofWord? (String.ofList cs)
      match symbol with
      | some s => pure (if reserved then .symbol s else .word w)
      | none => pure (.word w)
    | t => pure t

/-- Reads what an arrow points to. -/
def readTarget : Nat → Nat → Arrow → Reader Redirection
  | 0, _, _ => fail .openBrace
  | n + 1, stream, arrow => do
    match ← nextToken n false false, arrow with
    | .word w, .file direction => pure (.file stream direction w)
    | .word w, .copy => pure (.copy stream w)
    | .word w, .document tabs =>
      let s ← get
      let number := s.documents.length + s.pending.length
      let (mark, verbatim) := documentMark w
      let next : Pending := { number, mark, tabs, verbatim }
      set { s with pending := s.pending ++ [next] }
      pure (.document stream number)
    | t, _ => unexpected t none

/-- Reads commands parted by semicolons, ampersands and line ends. -/
def readList : Nat → ListPlace → Reader Command
  | 0, _ => fail .openBrace
  | n + 1, place => do
    match ← readItems n place (place = .optional) none with
    | none => pure .nothing
    | some c => pure c

def readItems : Nat → ListPlace → Bool → Option Command → Reader (Option Command)
  | 0, _, _, _ => fail .openBrace
  | n + 1, place, mayEnd, sofar => do
    match ← nextToken n (place ≠ .line) true with
    | .line =>
      readDocuments (readNested n)
      pure (sofar.or (some .nothing))
    | .ending =>
      readDocuments (readNested n)
      putBack .ending
      pure sofar
    | t =>
      putBack t
      let ends := match t with
        | .symbol s => s.endsList
        | _ => false
      if mayEnd && ends then pure sofar
      else
        let c ← readChain n false
        let separator ← nextToken n false false
        let c := match separator with
          | .symbol .ampersand => .background c
          | _ => c
        let c := match sofar with
          | none => c
          | some before => .sequence before c
        match separator with
        | .line | .ending =>
          putBack separator
          readItems n place (place ≠ .line) (some c)
        | .symbol .ampersand | .symbol .semicolon =>
          readItems n place (place ≠ .line) (some c)
        | t =>
          if place = .line then unexpected t none
          else
            putBack t
            pure (some c)

/-- Reads pipelines that depend on how the one before went. -/
def readChain : Nat → Bool → Reader Command
  | 0, _ => fail .openBrace
  | n + 1, overLines => do
    readLinks n (← readPipeline n overLines)

def readLinks : Nat → Command → Reader Command
  | 0, c => pure c
  | n + 1, c => do
    match ← nextToken n false false with
    | .symbol .both => readLinks n (.bothOf c (← readPipeline n true))
    | .symbol .either => readLinks n (.eitherOf c (← readPipeline n true))
    | t =>
      putBack t
      pure c

def readPipeline : Nat → Bool → Reader Command
  | 0, _ => fail .openBrace
  | n + 1, overLines => do
    match ← nextToken n overLines true with
    | .symbol .not => pure (.negated (← readStages n (← readCommand n false)))
    | t =>
      putBack t
      readStages n (← readCommand n false)

def readStages : Nat → Command → Reader Command
  | 0, c => pure c
  | n + 1, first => do
    match ← readMore n with
    | [] => pure first
    | more => pure (.pipeline (first :: more))

def readMore : Nat → Reader (List Command)
  | 0 => pure []
  | n + 1 => do
    match ← nextToken n false false with
    | .symbol .pipe =>
      let c ← readCommand n true
      pure (c :: (← readMore n))
    | t =>
      putBack t
      pure []

/-- Reads a symbol that has to stand here. -/
def expect : Nat → Symbol → Bool → Reader Unit
  | 0, _, _ => fail .openBrace
  | n + 1, s, overLines => do
    let t ← nextToken n overLines true
    match t with
    | .symbol found => if found = s then pure () else unexpected t (some (.symbol s))
    | t => unexpected t (some (.symbol s))

def readCommand : Nat → Bool → Reader Command
  | 0, _ => fail .openBrace
  | n + 1, overLines => do
    let compound (read : Reader Command) : Reader Command := do
      let c ← read
      match ← readRedirections n with
      | [] => pure c
      | redirections => pure (.redirected c redirections)
    let t ← nextToken n overLines true
    match t with
    | .symbol .if_ => compound do
      let c ← readChoice n
      expect n .fi false
      pure c
    | .symbol .while_ => compound (readLoop n false)
    | .symbol .until_ => compound (readLoop n true)
    | .symbol .for_ => compound (readForEach n)
    | .symbol .case_ => compound do
      match ← nextToken n false false with
      | .word subject =>
        expect n .in_ true
        pure (.selection subject (← readBranches n))
      | t => unexpected t (some .word)
    | .symbol .opening => compound do
      let c ← readList n .body
      expect n .closing false
      pure (.subshell c)
    | .symbol .begin_ => compound do
      let c ← readList n .body
      expect n .end_ false
      pure c
    | .word _ | .redirection .. =>
      putBack t
      readSimple n (← get).line {}
    | t => unexpected t none

/-- Reads what follows the word that begins a choice, up to its end. -/
def readChoice : Nat → Reader Command
  | 0 => fail .openBrace
  | n + 1 => do
    let test ← readList n .body
    expect n .then_ false
    let yes ← readList n .body
    match ← nextToken n false true with
    | .symbol .elif => pure (.choice test yes (← readChoice n))
    | .symbol .else_ => pure (.choice test yes (← readList n .body))
    | t =>
      putBack t
      pure (.choice test yes .nothing)

def readLoop : Nat → Bool → Reader Command
  | 0, _ => fail .openBrace
  | n + 1, inverted => do
    let test ← readList n .body
    expect n .do_ false
    let body ← readList n .body
    expect n .done false
    pure (.loop inverted test body)

def readForEach : Nat → Reader Command
  | 0 => fail .openBrace
  | n + 1 => do
    match ← nextToken n false false with
    | .word w =>
      let name := (Word.plain? w).getD []
      if !isName name then fail .loopVariable
      let words ← match ← nextToken n true true with
        | .symbol .in_ => readWords n
        | t =>
          match t with
          | .symbol .semicolon => pure ()
          | t => putBack t
          pure [allParameters]
      expect n .do_ true
      let body ← readList n .body
      expect n .done false
      pure (.forEach (String.ofList name) words body)
    | _ => fail .loopVariable

/-- Reads words up to the end of the line. -/
def readWords : Nat → Reader (List Word)
  | 0 => pure []
  | n + 1 => do
    match ← nextToken n false false with
    | .word w => return w :: (← readWords n)
    | .line | .symbol .semicolon => pure []
    | t => unexpected t none

def readBranches : Nat → Reader (List (List Word × Command))
  | 0 => fail .openBrace
  | n + 1 => do
    match ← nextToken n true true with
    | .symbol .esac => pure []
    | t =>
      match t with
      | .symbol .opening => pure ()
      | .symbol s =>
        if Symbol.reserved.contains s then putBack (.word (chars false s.text.toList))
        else putBack t
      | t => putBack t
      let patterns ← readPatterns n
      let body ← readList n .optional
      match ← nextToken n true true with
      | .symbol .esac => pure [(patterns, body)]
      | .symbol .branchEnd => pure ((patterns, body) :: (← readBranches n))
      | t => unexpected t (some (.symbol .branchEnd))

def readPatterns : Nat → Reader (List Word)
  | 0 => pure []
  | n + 1 => do
    let pattern := match ← nextToken n false false with
      | .word w => w
      | _ => []
    match ← nextToken n false false with
    | .symbol .pipe => return pattern :: (← readPatterns n)
    | .symbol .closing => pure [pattern]
    | t => unexpected t (some (.symbol .closing))

/-- Reads the redirections behind a command. -/
def readRedirections : Nat → Reader (List Redirection)
  | 0 => pure []
  | n + 1 => do
    match ← nextToken n false true with
    | .redirection stream arrow =>
      let r ← readTarget n stream arrow
      pure (r :: (← readRedirections n))
    | t =>
      putBack t
      pure []

/-- Reads words and redirections; a word before a pair of parentheses names a function. -/
def readSimple : Nat → Nat → Simple → Reader Command
  | 0, _, _ => fail .openBrace
  | n + 1, line, c => do
    match ← nextToken n false false with
    | .word w =>
      match (if c.words.isEmpty then assignment? w else none) with
      | some a => readSimple n line { c with assignments := c.assignments ++ [a] }
      | none => readSimple n line { c with words := c.words ++ [w] }
    | .redirection stream arrow =>
      let r ← readTarget n stream arrow
      readSimple n line { c with redirections := c.redirections ++ [r] }
    | t =>
      match t, c with
      | .symbol .opening, ⟨[], [w], []⟩ =>
        expect n .closing false
        let name := (Word.plain? w).getD []
        if !isName name || specialBuiltins.contains (String.ofList name) then fail .functionName
        pure (.definition (String.ofList name) (← readCommand n true))
      | t, c =>
        putBack t
        pure (.simple line c.assignments c.words c.redirections)

end

/-- A bound on the steps of reading what is left. -/
def Source.bound (s : Source) : Nat :=
  16 * s.rest.length + 64

/-- Reads the commands of the next line, or of all lines that they take; nothing at the end. -/
def readLine : Reader (Option Command) := do
  readItems (← get).bound .line false none

end Testbed.Machine.Shell
