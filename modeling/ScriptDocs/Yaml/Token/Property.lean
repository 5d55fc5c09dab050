import ScriptDocs.Text.Utf8
import ScriptDocs.Yaml.Token.Cursor

namespace ScriptDocs.Yaml.Scan

/-!
What may stand before a node: anchors, tags and, at the head of a document, directives; and aliases,
which stand for a node and look like anchors.
-/

/-- Reads the name of an anchor or an alias, after its mark. -/
def anchorName : Scan Text := do
  skip 1
  let name ← takeWhile isNameChar
  let next ← char
  if name.isEmpty || !(isGap next || "?:,]\x7d%@`".toList.contains next) then refuse
  return name

/-- Whether a character may stand in the written form of a tag. -/
def isUriChar (c : Char) : Bool :=
  isNameChar c || ";/?:@&=+$,.!~*'()[]".toList.contains c

/-- Reads a run of escaped bytes. -/
def escapedBytes : Nat → Scan (List UInt8)
  | 0 => return []
  | fuel + 1 => do
      if (← char) == '%' then
        skip 1
        let code ← hexNumber 2
        return UInt8.ofNat code :: (← escapedBytes fuel)
      else return []

/-- Reads the parts of a tag: characters that stand for themselves and runs of escaped bytes, which
are characters in UTF-8. -/
def uriParts : Nat → Scan Text
  | 0 => return []
  | fuel + 1 => do
      let plain ← takeWhile isUriChar
      if (← char) == '%' then
        match Utf8.decode (← escapedBytes (← get).rest.length) with
        | .ok escaped => return plain ++ escaped ++ (← uriParts fuel)
        | .error _ => refuse
      else return plain

/-- Reads the written form of a tag, which is not empty. -/
def uri : Scan Text := do
  let cursor ← get
  if !(isUriChar cursor.char || cursor.char == '%') then refuse
  uriParts (cursor.rest.length + 1)

/-- Reads a handle: a mark, or a name between two marks. -/
def tagHandle : Scan Text := do
  if (← char) != '!' then refuse
  skip 1
  if (← char) == ' ' then return ['!']
  let name ← takeWhile isNameChar
  if (← char) != '!' then refuse
  skip 1
  return '!' :: name ++ ['!']

def tag : Scan Token := do
  let cursor ← get
  let next := cursor.charAt 1
  let token ←
    if next == '<' then do
      skip 2
      let suffix ← uri
      if (← char) != '>' then refuse
      skip 1
      pure (Token.tag none suffix)
    else if isGap next then do
      skip 1
      pure (Token.tag none ['!'])
    else if ((cursor.rest.drop 1).takeWhile (!isSpaceOrEnd ·)).contains '!' then do
      let handle ← tagHandle
      pure (Token.tag (some handle) (← uri))
    else do
      skip 1
      pure (Token.tag (some ['!']) (← uri))
  if !isSpaceOrEnd (← char) then refuse
  return token

def versionNumber : Scan Nat := do
  let digits ← takeWhile Text.isDigit
  if digits.isEmpty then refuse
  if Json.digitLimit < digits.length then throw (.tooManyDigits digits.length)
  return Text.toNat digits

/-- Reads a version, of which the first number counts. -/
def version : Scan Directive := do
  let _ ← takeWhile (· == ' ')
  let major ← versionNumber
  if (← char) != '.' then refuse
  skip 1
  let _ ← versionNumber
  if !isSpaceOrEnd (← char) then refuse
  return .version major

/-- Reads what a handle is to stand for. -/
def handleExpansion : Scan Directive := do
  let _ ← takeWhile (· == ' ')
  let handle ← tagHandle
  if (← char) != ' ' then refuse
  let _ ← takeWhile (· == ' ')
  let expansion ← uri
  if !isSpaceOrEnd (← char) then refuse
  return .tagHandle handle expansion

/-- Reads a directive and the line that it stands on. -/
def directive : Scan Token := do
  skip 1
  let name ← takeWhile isNameChar
  if name.isEmpty || !isSpaceOrEnd (← char) then refuse
  let directive ←
    if name == "YAML".toList then version
    else if name == "TAG".toList then handleExpansion
    else do
      let _ ← takeWhile (!isBreakOrEnd ·)
      pure Directive.unknown
  endOfLine
  return .directive directive

end ScriptDocs.Yaml.Scan
