import ScriptDocs.Text.Digit
import ScriptDocs.Text.Quoted

namespace ScriptDocs.CommandLine

/-!
From the words of a command line to the options of a run. An option may be shortened as long as one
option only starts that way. What its words mean does not depend on the values that were given before,
so words are told apart first and then taken in from left to right.
-/

inductive Flag where
  | help
  | name
  | find
  | outputDirectory
  | settings
  | logLevel
  deriving DecidableEq, Repr

namespace Flag

def names : Flag → List Text
  | .help => ["-h".toList, "--help".toList]
  | .name => ["--name".toList]
  | .find => ["--find".toList]
  | .outputDirectory => ["--output-dir".toList]
  | .settings => ["--settings".toList]
  | .logLevel => ["--log-level".toList]

/-- An option as messages show it. -/
def title (flag : Flag) : Text :=
  Text.joinWith ['/'] flag.names

def named : List (Text × Flag) :=
  [Flag.help, .name, .find, .outputDirectory, .settings, .logLevel].flatMap
    (fun flag => flag.names.map (fun name => (name, flag)))

end Flag

structure Options where
  source : Text
  name : Option Text := none
  find : Option Text := none
  outputDirectory : Option Text := none
  settings : Option Text := none
  logLevel : Option Text := none
  deriving DecidableEq, Repr

/-- What a command line asks for. -/
inductive Invocation where
  | run (options : Options)
  | help
  | misuse (message : Text)
  deriving DecidableEq, Repr

/-- A value that is written in one word with its option: after a sign of equality, or directly. -/
inductive Attached where
  | nothing
  | equated (value : Text)
  | direct (value : Text)
  deriving DecidableEq, Repr

/-- A word of a command line. The separator is a word that only says that all words after it are
plain. -/
inductive Word where
  | plain (text : Text)
  | option (flag : Flag) (attached : Attached)
  | unknown (text : Text)
  | separator
  deriving DecidableEq, Repr

namespace Word

def separatorText : Text := "--".toList

/-- The part of a word before its first sign of equality, and what follows that sign. -/
def splitEquated (text : Text) : Text × Attached :=
  match text.dropWhile (· != '=') with
  | [] => (text, .nothing)
  | _ :: value => (text.takeWhile (· != '='), .equated value)

/-- Whether a word is a negative number, which may be a plain word. -/
def isNegativeNumber (text : Text) : Bool :=
  match Text.dropFinalNewline text with
  | '-' :: number =>
      let whole := number.takeWhile Text.isAnyDigit
      match number.drop whole.length with
      | [] => !whole.isEmpty
      | '.' :: fraction => !fraction.isEmpty && fraction.all Text.isAnyDigit
      | _ => false
  | _ => false

/-- The options that a word may be short for, by their full names. -/
def candidates (text : Text) : List (Text × Flag × Attached) :=
  if separatorText.isPrefixOf text then
    let (start, attached) := splitEquated text
    (Flag.named.filter (fun named => start.isPrefixOf named.1)).map
      (fun named => (named.1, named.2, attached))
  else
    (Flag.named.filter (fun named => named.1 == text.take 2)).map
      (fun named => (named.1, named.2, .direct (text.drop 2)))

def ambiguousMessage (text : Text) (names : List Text) : Text :=
  "ambiguous option: ".toList ++ text ++ " could match ".toList ++ Text.joinWith ", ".toList names

/-- A word that starts with a hyphen and is no option that can be told. -/
def unmatched (text : Text) : Word :=
  if isNegativeNumber text || text.contains ' ' then .plain text else .unknown text

/-- A word that does not stand after a separator and is none. -/
def classify (text : Text) : Except Text Word :=
  if text.headD ' ' != '-' then .ok (.plain text)
  else
    let (start, attached) := splitEquated text
    match Flag.named.lookup text, Flag.named.lookup start with
    | some flag, _ => .ok (.option flag .nothing)
    | none, some flag => .ok (.option flag attached)
    | none, none =>
        if text.length == 1 then .ok (.plain text)
        else
          match candidates text with
          | [] => .ok (unmatched text)
          | [(_, flag, attached)] => .ok (.option flag attached)
          | several => .error (ambiguousMessage text (several.map Prod.fst))

/-- The words of a command line, or what is wrong with the first that cannot be told. -/
def classifyAll : List Text → Except Text (List Word)
  | [] => .ok []
  | text :: rest =>
      if text == separatorText then .ok (.separator :: rest.map .plain)
      else
        match classify text with
        | .error message => .error message
        | .ok word => (classifyAll rest).map (word :: ·)

end Word

/-- What was taken in from a command line so far. -/
structure Draft where
  source : Option Text := none
  options : Options := { source := [] }
  extras : List Text := []
  deriving DecidableEq, Repr

namespace Draft

def set (draft : Draft) (flag : Flag) (value : Text) : Draft :=
  let options := draft.options
  match flag with
  | .help => draft
  | .name => { draft with options := { options with name := some value } }
  | .find => { draft with options := { options with find := some value } }
  | .outputDirectory => { draft with options := { options with outputDirectory := some value } }
  | .settings => { draft with options := { options with settings := some value } }
  | .logLevel => { draft with options := { options with logLevel := some value } }

/-- Puts a word aside that has no use. -/
def addExtra (draft : Draft) (text : Text) : Draft :=
  { draft with extras := draft.extras ++ [text] }

/-- What a command line asks for that was taken in to its end. -/
def finish (draft : Draft) : Invocation :=
  match draft.source with
  | none => .misuse "the following arguments are required: source".toList
  | some source =>
      if draft.extras.isEmpty then .run { draft.options with source }
      else .misuse ("unrecognized arguments: ".toList ++ Text.joinWith [' '] draft.extras)

end Draft

def Flag.complaint (flag : Flag) (message : Text) : Invocation :=
  .misuse ("argument ".toList ++ flag.title ++ ": ".toList ++ message)

/-- The message about a value for an option that takes none. -/
def Flag.ignored (flag : Flag) (value : Text) : Invocation :=
  flag.complaint ("ignored explicit argument ".toList ++ Text.quoted value)

/-- What the letters after the short option for help ask for: help again or letters without a meaning
change nothing, but a value is refused. -/
def helpLetters : Text → Invocation
  | [] => .help
  | 'h' :: '=' :: value => Flag.help.ignored value
  | 'h' :: rest => helpLetters rest
  | letter :: rest => if letter == '-' then Flag.help.ignored (letter :: rest) else .help

def helpWith : Attached → Invocation
  | .nothing => .help
  | .equated value => Flag.help.ignored value
  | .direct value => helpLetters value

/-- Takes in words from left to right. The first plain word is the source; with it goes a separator
right before or after it. -/
def takeIn (draft : Draft) : List Word → Invocation
  | [] => draft.finish
  | .unknown text :: rest => takeIn (draft.addExtra text) rest
  | .option .help attached :: _ => helpWith attached
  | .option flag (.equated value) :: rest => takeIn (draft.set flag value) rest
  | .option flag (.direct value) :: rest => takeIn (draft.set flag value) rest
  | .option flag .nothing :: .plain value :: rest => takeIn (draft.set flag value) rest
  | .option flag .nothing :: _ => flag.complaint "expected one argument".toList
  | .plain text :: .separator :: rest =>
      if draft.source.isNone then takeIn { draft with source := some text } rest
      else takeIn ((draft.addExtra text).addExtra Word.separatorText) rest
  | .plain text :: rest =>
      if draft.source.isNone then takeIn { draft with source := some text } rest
      else takeIn (draft.addExtra text) rest
  | .separator :: .plain text :: rest =>
      if draft.source.isNone then takeIn { draft with source := some text } rest
      else takeIn ((draft.addExtra Word.separatorText).addExtra text) rest
  | .separator :: rest => takeIn (draft.addExtra Word.separatorText) rest

def parse (words : List Text) : Invocation :=
  match Word.classifyAll words with
  | .error message => .misuse message
  | .ok words => takeIn {} words

end ScriptDocs.CommandLine
