import ScriptDocs.Yaml.Token.Cursor

namespace ScriptDocs.Yaml.Scan

/-!
Scalars in their three written forms: plain, quoted and in a block. A line break inside a plain or
quoted scalar is folded: alone it becomes a space, and of several the first is dropped. Every `fuel` is
more than the number of characters that are left, and every round of a loop reads one at least.
-/

/-- Line breaks as they are read inside a scalar: the first one, and all after it. -/
def fold (first others : Text) : Text :=
  if first != ['\n'] then first ++ others
  else if others.isEmpty then [' ']
  else others

/-- The character of an escape letter. -/
def escapeLetter? : Char → Option Char
  | '0' => some '\x00'
  | 'a' => some '\x07'
  | 'b' => some '\x08'
  | 't' => some '\t'
  | '\t' => some '\t'
  | 'n' => some '\n'
  | 'v' => some '\x0b'
  | 'f' => some '\x0c'
  | 'r' => some '\r'
  | 'e' => some '\x1b'
  | ' ' => some ' '
  | '"' => some '"'
  | '\\' => some '\\'
  | '/' => some '/'
  | 'N' => some '\x85'
  | '_' => some '\xa0'
  | 'L' => some '\u2028'
  | 'P' => some '\u2029'
  | _ => none

/-- The number of digits that follow a code letter. -/
def codeLength? : Char → Option Nat
  | 'x' => some 2
  | 'u' => some 4
  | 'U' => some 8
  | _ => none

/-- The character of a code. Half a surrogate pair has none and is replaced. -/
def charOfCode (code : Nat) : Scan Char :=
  if Nat.pow 2 31 ≤ code then throw .codeTooLarge
  else if 0x110000 ≤ code then throw .noSuchCharacter
  else return Json.charOfCode code

/-- Reads the line breaks that follow one inside a quoted scalar, with the blanks between them. -/
def quotedBreaks : Nat → Scan Text
  | 0 => return []
  | fuel + 1 => do
      if (← get).atSeparator then refuse
      let _ ← takeWhile (fun c => c == ' ' || c == '\t')
      if isBreak (← char) then
        let first ← lineBreak
        return first ++ (← quotedBreaks fuel)
      else return []

/-- Reads the blanks and line breaks between the words of a quoted scalar. -/
def quotedSpaces (fuel : Nat) : Scan Text := do
  let blanks ← takeWhile (fun c => c == ' ' || c == '\t')
  let next ← char
  if next == endMark then refuse
  else if isBreak next then
    let first ← lineBreak
    return fold first (← quotedBreaks fuel)
  else return blanks

/-- Reads an escape, after its backslash. -/
def escape (fuel : Nat) : Scan Text := do
  let letter ← char
  match escapeLetter? letter, codeLength? letter with
  | some c, _ => skip 1; return [c]
  | none, some count =>
      skip 1
      return [← charOfCode (← hexNumber count)]
  | none, none =>
      if isBreak letter then
        let _ ← lineBreak
        quotedBreaks fuel
      else refuse

/-- Whether a character stands for itself between any quotes. -/
def isUnquoted (c : Char) : Bool :=
  !(isGap c || c == '\'' || c == '"' || c == '\\')

def quotedWord (double : Bool) : Nat → Scan Text
  | 0 => return []
  | fuel + 1 => do
      let run ← takeWhile isUnquoted
      let next ← char
      if !double && next == '\'' && (← charAt 1) == '\'' then
        skip 2
        return run ++ '\'' :: (← quotedWord double fuel)
      else if (double && next == '\'') || (!double && (next == '"' || next == '\\')) then
        skip 1
        return run ++ next :: (← quotedWord double fuel)
      else if double && next == '\\' then
        skip 1
        let escaped ← escape fuel
        return run ++ escaped ++ (← quotedWord double fuel)
      else return run

/-- Reads the rest of a quoted scalar, up to its closing quote. -/
def quotedRest (double : Bool) : Nat → Scan Text
  | 0 => refuse
  | fuel + 1 => do
      let word ← quotedWord double (fuel + 1)
      if (← char) == (if double then '"' else '\'') then
        skip 1
        return word
      else
        let spaces ← quotedSpaces fuel
        return word ++ spaces ++ (← quotedRest double fuel)

def quoted (double : Bool) (fuel : Nat) : Scan Token := do
  skip 1
  return .scalar (← quotedRest double fuel) false

/-- How the line breaks at the end of a block are kept. -/
inductive Chomping where
  | strip
  | clip
  | keep
  deriving DecidableEq, Repr

/-- Reads how the end of a block is kept, if that is said. -/
def chomping? : Scan (Option Chomping) := do
  match ← char with
  | '+' => skip 1; return some .keep
  | '-' => skip 1; return some .strip
  | _ => return none

/-- Reads how far a block is indented, if that is said. -/
def increment? : Scan (Option Nat) := do
  match Text.digitValue? 10 (← char) with
  | some digit =>
      if digit == 0 then refuse
      skip 1
      return some digit
  | none => return none

/-- Reads the head of a block, after its mark. -/
def blockHead : Scan (Chomping × Option Nat) := do
  let first ← chomping?
  let increment ← increment?
  let chomping ← if first.isNone && increment.isSome then chomping? else pure first
  if !isSpaceOrEnd (← char) then refuse
  endOfLine
  return (chomping.getD .clip, increment)

/-- Reads blank lines before the first line of a block and gives them with the largest indentation
that was seen. -/
def blankLines : Nat → Nat → Scan (Text × Nat)
  | 0, widest => return ([], widest)
  | fuel + 1, widest => do
      let next ← char
      if next == ' ' then
        skip 1
        blankLines fuel (max widest (← get).column)
      else if isBreak next then
        let first ← lineBreak
        let (others, widest) ← blankLines fuel widest
        return (first ++ others, widest)
      else return ([], widest)

/-- Reads spaces up to a column. -/
def indentTo (column : Nat) : Scan Unit := do
  let cursor ← get
  skip ((cursor.rest.take (column - cursor.column)).takeWhile (· == ' ')).length

/-- Reads the blank lines inside a block and the indentation of its next line. -/
def blockBreaks (column : Nat) : Nat → Scan Text
  | 0 => return []
  | fuel + 1 => do
      indentTo column
      if isBreak (← char) then
        let first ← lineBreak
        return first ++ (← blockBreaks column fuel)
      else return []

/-- Whether a cursor is at a line of a block. -/
def atBlockLine (column : Nat) (cursor : Cursor) : Bool :=
  cursor.column == column && cursor.char != endMark

/-- Reads the lines of a block, after `breaks`, and gives them with the break of the last line and the
blank lines after it. -/
def blockLines (folded : Bool) (column : Nat) : Nat → Text → Scan (Text × Text × Text)
  | 0, breaks => return ([], [], breaks)
  | fuel + 1, breaks => do
      let leading ← char
      let line ← takeWhile (!isBreakOrEnd ·)
      let lineEnd ← lineBreak
      let following ← blockBreaks column fuel
      let cursor ← get
      if atBlockLine column cursor then
        let isInset := fun (c : Char) => c == ' ' || c == '\t'
        let joint : Text :=
          if folded && lineEnd == ['\n'] && !isInset leading && !isInset cursor.char then
            if following.isEmpty then [' '] else []
          else lineEnd
        let (lines, last) ← blockLines folded column fuel following
        return (breaks ++ line ++ joint ++ lines, last)
      else return (breaks ++ line, lineEnd, following)

/-- Reads a block, whose lines are indented by more than `indent`. -/
def block (indent : Int) (fuel : Nat) : Scan Token := do
  let folded := (← char) == '>'
  skip 1
  let (chomping, increment) ← blockHead
  let least := (max (indent + 1) 1).toNat
  let (breaks, column) ←
    match increment with
    | some increment => do
        let column := least + increment - 1
        pure (← blockBreaks column fuel, column)
    | none => do
        let (breaks, widest) ← blankLines fuel 0
        pure (breaks, max least widest)
  let (lines, lineEnd, trailing) ←
    if atBlockLine column (← get) then blockLines folded column fuel breaks
    else pure ([], [], breaks)
  match chomping with
  | .strip => return .scalar lines false
  | .clip => return .scalar (lines ++ lineEnd) false
  | .keep => return .scalar (lines ++ lineEnd ++ trailing) false

/-- Whether a plain scalar stops at a character that is followed by another one. -/
def stopsPlain (inFlow : Bool) (c next : Char) : Bool :=
  isGap c ||
    (c == ':' && (isGap next || (inFlow && ",[]\x7b\x7d".toList.contains next))) ||
    (inFlow && ",?[]\x7b\x7d".toList.contains c)

/-- The length of the word of a plain scalar at the start of a text. -/
def plainWordLength (inFlow : Bool) : Text → Nat
  | [] => 0
  | c :: rest => if stopsPlain inFlow c (rest.headD endMark) then 0 else plainWordLength inFlow rest + 1

/-- Reads the line breaks and spaces after a line break inside a plain scalar, up to a line that
separates documents. -/
def plainBreaks : Nat → Scan (Option Text)
  | 0 => return some []
  | fuel + 1 => do
      if (← get).atSeparator then return none
      let _ ← takeWhile (· == ' ')
      if isBreak (← char) then
        let first ← lineBreak
        return (← plainBreaks fuel).map (first ++ ·)
      else return some []

/-- Reads the spaces and line breaks after a word of a plain scalar, and tells whether there was a line
break. -/
def plainSpaces (fuel : Nat) : Scan (Text × Bool) := do
  let spaces ← takeWhile (· == ' ')
  if isBreak (← char) then
    let first ← lineBreak
    let others ← plainBreaks fuel
    return ((others.map (fold first)).getD [], true)
  else return (spaces, false)

/-- Reads the words of a plain scalar and tells whether it ended after a line break. -/
def plainWords (inFlow : Bool) (column : Int) : Nat → Text → Scan (Text × Bool)
  | 0, _ => return ([], false)
  | fuel + 1, spaces => do
      let cursor ← get
      let length := if cursor.char == '#' then 0 else plainWordLength inFlow cursor.rest
      if length == 0 then return ([], false)
      else
        skip length
        let word := spaces ++ cursor.rest.take length
        let (next, broken) ← plainSpaces fuel
        let cursor ← get
        if next.isEmpty || cursor.char == '#' || (!inFlow && cursor.column < column) then
          return (word, broken)
        else
          let (words, ended) ← plainWords inFlow column fuel next
          return (word ++ words, if words.isEmpty then broken else ended)

/-- Reads a plain scalar and tells whether it ended after a line break. -/
def plain (inFlow : Bool) (indent : Int) (fuel : Nat) : Scan (Token × Bool) := do
  let (text, broken) ← plainWords inFlow (indent + 1) fuel []
  return (.scalar text true, broken)

end ScriptDocs.Yaml.Scan
