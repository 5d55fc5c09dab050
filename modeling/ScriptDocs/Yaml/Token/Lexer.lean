import ScriptDocs.Yaml.Token.Property
import ScriptDocs.Yaml.Token.Scalar

namespace ScriptDocs.Yaml

/-!
From a YAML text to its tokens. The mark of a key that is written without one is known only when its
colon is read; until then the key is pending and remembers its place among the tokens, where the mark
is put in.
-/

/-- A key that waits for its colon. `number` is its place among the tokens. A required key stands where
only a key may stand. -/
structure PendingKey where
  number : Nat
  required : Bool
  index : Nat
  line : Nat
  column : Nat
  deriving DecidableEq, Repr

/-- The state of a lexer. `indent` is the column of the innermost block collection, or less than zero;
`flowLevel` is the number of open brackets. -/
structure Lexer where
  cursor : Cursor
  flowLevel : Int
  indent : Int
  outerIndents : List Int
  keyAllowed : Bool
  keys : List (Int × PendingKey)
  tokens : Array Token

abbrev Lexing (α : Type) := StateT Lexer (Except Fault) α

namespace Lexer

def start (text : Text) : Lexer :=
  { cursor := .start text, flowLevel := 0, indent := -1, outerIndents := [], keyAllowed := true,
    keys := [], tokens := #[] }

/-- Whether a bracket is open. -/
def inFlow (lexer : Lexer) : Bool :=
  lexer.flowLevel != 0

/-- Whether a pending key can no longer find its colon: it must be on the same line and near. -/
def isStale (cursor : Cursor) (key : PendingKey) : Bool :=
  key.line != cursor.line || key.index + 1024 < cursor.index

/-- The number of tokens that are certain: those before the first pending key. -/
def certainCount (lexer : Lexer) : Nat :=
  let waiting := lexer.keys.filter (fun key => !isStale lexer.cursor key.2)
  waiting.foldl (fun least key => min least key.2.number) lexer.tokens.size

end Lexer

namespace Lexing

def refuse {α : Type} : Lexing α :=
  throw .malformed

def scan {α : Type} (read : Scan α) : Lexing α := do
  let lexer ← get
  let (result, cursor) ← read lexer.cursor
  set { lexer with cursor }
  return result

def emit (token : Token) : Lexing Unit :=
  modify (fun lexer => { lexer with tokens := lexer.tokens.push token })

/-- Puts a token before tokens that were added already. -/
def emitAt (number : Nat) (token : Token) : Lexing Unit :=
  modify (fun lexer => { lexer with tokens := lexer.tokens.insertIdxIfInBounds number token })

/-- Sets whether a key may stand next. -/
def allowKey (allowed : Bool) : Lexing Unit :=
  modify (fun lexer => { lexer with keyAllowed := allowed })

/-- Gives up the pending keys that are stale. -/
def dropStaleKeys : Lexing Unit := do
  let lexer ← get
  let (stale, waiting) := lexer.keys.partition (fun key => Lexer.isStale lexer.cursor key.2)
  if stale.any (fun key => key.2.required) then refuse
  set { lexer with keys := waiting }

/-- Gives up the pending key of the innermost bracket. -/
def dropKey : Lexing Unit := do
  let lexer ← get
  let (dropped, others) := lexer.keys.partition (fun key => key.1 == lexer.flowLevel)
  if dropped.any (fun key => key.2.required) then refuse
  set { lexer with keys := others }

/-- Remembers that the next token may be a key. -/
def saveKey : Lexing Unit := do
  let lexer ← get
  if lexer.keyAllowed then
    dropKey
    let cursor := lexer.cursor
    let key : PendingKey :=
      { number := lexer.tokens.size, required := !lexer.inFlow && lexer.indent == cursor.column,
        index := cursor.index, line := cursor.line, column := cursor.column }
    modify (fun lexer => { lexer with keys := (lexer.flowLevel, key) :: lexer.keys })

/-- Ends the block collections that are indented by more than a column. -/
def unwind (column : Int) : Lexing Unit :=
  modify (fun lexer =>
    if lexer.inFlow then lexer
    else
      let indents := lexer.indent :: lexer.outerIndents
      let ended := indents.takeWhile (column < ·)
      match indents.drop ended.length with
      | indent :: outerIndents =>
          { lexer with
            indent, outerIndents,
            tokens := lexer.tokens ++ (ended.map (fun _ => Token.blockEnd)).toArray }
      | [] => lexer)

/-- Starts a block collection at a column and tells whether it is new. -/
def indentTo (column : Nat) : Lexing Bool := do
  let lexer ← get
  if lexer.indent < column then
    set { lexer with indent := column, outerIndents := lexer.indent :: lexer.outerIndents }
    return true
  else return false

/-- Passes over spaces, comments and line breaks. After a line break outside brackets a key may
stand. -/
def skipGaps : Nat → Lexing Unit
  | 0 => return
  | fuel + 1 => do
      let broken ← scan do
        let _ ← Scan.takeWhile (· == ' ')
        if (← Scan.char) == '#' then
          let _ ← Scan.takeWhile (!isBreakOrEnd ·)
        return !(← Scan.lineBreak).isEmpty
      if broken then
        if !(← get).inFlow then allowKey true
        skipGaps fuel

/-- Adds a mark of one character. -/
def mark (token : Token) : Lexing Unit := do
  scan (Scan.skip 1)
  emit token

/-- Adds the mark that starts or ends a document, or a directive. -/
def documentLevel (read : Scan Token) : Lexing Unit := do
  unwind (-1)
  dropKey
  allowKey false
  emit (← scan read)

def openFlow (token : Token) : Lexing Unit := do
  saveKey
  modify (fun lexer => { lexer with flowLevel := lexer.flowLevel + 1 })
  allowKey true
  mark token

def closeFlow (token : Token) : Lexing Unit := do
  dropKey
  modify (fun lexer => { lexer with flowLevel := lexer.flowLevel - 1 })
  allowKey false
  mark token

/-- Starts a block collection at the cursor, where one may start. -/
def openBlock (token : Token) : Lexing Unit := do
  let lexer ← get
  if !lexer.inFlow then
    if !lexer.keyAllowed then refuse
    if ← indentTo lexer.cursor.column then emit token

/-- Adds the mark of an item. -/
def blockEntry : Lexing Unit := do
  openBlock .blockSequenceStart
  allowKey true
  dropKey
  mark .blockEntry

/-- Adds the mark of a key. -/
def key : Lexing Unit := do
  openBlock .blockMappingStart
  allowKey !(← get).inFlow
  dropKey
  mark .key

/-- Adds the mark of a value, and that of its key if the key waits for it. -/
def value : Lexing Unit := do
  let lexer ← get
  match lexer.keys.find? (fun key => key.1 == lexer.flowLevel) with
  | some (_, key) =>
      set { lexer with keys := lexer.keys.filter (fun key => key.1 != lexer.flowLevel) }
      emitAt key.number .key
      if !lexer.inFlow then
        if ← indentTo key.column then emitAt key.number .blockMappingStart
      allowKey false
  | none =>
      openBlock .blockMappingStart
      allowKey !lexer.inFlow
      dropKey
  mark .value

/-- Adds a token that may be a key. -/
def keyLike (read : Scan Token) : Lexing Unit := do
  saveKey
  allowKey false
  emit (← scan read)

/-- Adds a scalar in a block. -/
def block (fuel : Nat) : Lexing Unit := do
  allowKey true
  dropKey
  emit (← scan (Scan.block (← get).indent fuel))

/-- Adds a plain scalar. After a line break at its end a key may stand. -/
def plain (fuel : Nat) : Lexing Unit := do
  saveKey
  let lexer ← get
  let (token, broken) ← scan (Scan.plain lexer.inFlow lexer.indent fuel)
  allowKey broken
  emit token

/-- Whether a plain scalar may start with a character that is followed by another one. -/
def startsPlain (inFlow : Bool) (c next : Char) : Bool :=
  !(isGap c || "-?:,[]\x7b\x7d#&*!|>'\"%@`".toList.contains c) ||
    (!isGap next && (c == '-' || (!inFlow && (c == '?' || c == ':'))))

/-- Adds the tokens that start at the cursor, which is not at the end and has fewer than `fuel`
characters after it. -/
def token (fuel : Nat) : Lexing Unit := do
  let lexer ← get
  let cursor := lexer.cursor
  let c := cursor.char
  let next := cursor.charAt 1
  if cursor.column == 0 && c == '%' then documentLevel Scan.directive
  else if cursor.column == 0 && cursor.atSeparator then
    documentLevel do
      Scan.skip 3
      return if c == '-' then .documentStart else .documentEnd
  else if c == '[' then openFlow .flowSequenceStart
  else if c == '\x7b' then openFlow .flowMappingStart
  else if c == ']' then closeFlow .flowSequenceEnd
  else if c == '\x7d' then closeFlow .flowMappingEnd
  else if c == ',' then
    allowKey true
    dropKey
    mark .flowEntry
  else if c == '-' && isGap next then blockEntry
  else if c == '?' && (lexer.inFlow || isGap next) then key
  else if c == ':' && (lexer.inFlow || isGap next) then value
  else if c == '*' then keyLike (return .alias (← Scan.anchorName))
  else if c == '&' then keyLike (return .anchor (← Scan.anchorName))
  else if c == '!' then keyLike Scan.tag
  else if (c == '|' || c == '>') && !lexer.inFlow then block fuel
  else if c == '\'' then keyLike (Scan.quoted false fuel)
  else if c == '"' then keyLike (Scan.quoted true fuel)
  else if startsPlain lexer.inFlow c next then plain fuel
  else refuse

/-- Adds the next tokens and tells whether the text is not at its end. -/
def step (fuel : Nat) : Lexing Bool := do
  let cursor := (← get).cursor
  if cursor.index == 0 && cursor.char == '\ufeff' then scan (Scan.skip 1)
  skipGaps fuel
  dropStaleKeys
  unwind (← get).cursor.column
  if (← get).cursor.char == endMark then
    unwind (-1)
    dropKey
    emit .streamEnd
    return false
  else
    token fuel
    return true

end Lexing

/-- The tokens of a text and, if it is faulty, the fault that comes after them. -/
structure Lexed where
  tokens : List Token
  fault : Option Fault

/-- The tokens that a lexer adds to those that it has. A fault hides the tokens that are not certain
yet. -/
def Lexer.run : Nat → Lexer → Lexed
  | 0, lexer => ⟨lexer.tokens.toList, none⟩
  | fuel + 1, lexer =>
      match Lexing.step (fuel + 1) lexer with
      | .error fault => ⟨lexer.tokens.toList.take lexer.certainCount, some fault⟩
      | .ok (true, next) => run fuel next
      | .ok (false, next) => ⟨next.tokens.toList, none⟩

/-- The tokens of a text, in which every character must be allowed. -/
def Token.scan (text : Text) : Lexed :=
  if text.all isAllowed then (Lexer.start text).run (text.length + 1)
  else ⟨[], some .malformed⟩

end ScriptDocs.Yaml
