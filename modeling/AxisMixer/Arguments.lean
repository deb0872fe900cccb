import AxisMixer.Log
import AxisMixer.Text.Digit

/-!
# Arguments — the command line

Every word of the command line is an operand, or a flag, or the separator: the two hyphens behind
which all words are operands.  A long flag may be cut short as long as it stays unique, and takes
its value behind an equals sign or from the next word.  A short flag takes its value from the rest
of its own word or from the next word; an equals sign behind the letter with which the word starts
is no part of the value.  Short flags that take no value can share a word with another flag behind
them.  A value that consists of the separator is empty.  A word that looks like a negative number
or holds a space is an operand.

The flags do their work from left to right, those of one word when the whole word has been read.
Asking for help or for the version ends the reading at once; operands and unknown flags are
complained of only at the end.

* `Arguments.parse`: the settings that a command line asks for, or why there are none.
-/

namespace AxisMixer

/-- What a command line says of a setting. -/
inductive Choice (α : Type) where
  | unset
  /-- It is set, but to nothing. -/
  | empty
  | value (v : α)
  deriving DecidableEq, Repr

/-- What the command line can ask for. -/
structure Settings where
  config : Choice String := .unset
  logLevel : Choice Level := .unset
  failFast : Bool := false
  deriving DecidableEq, Repr

namespace Arguments

/-- Why a command line ends the program. -/
inductive Stop where
  | help
  | version
  | misuse
  deriving DecidableEq, Repr

def programName : String := "pimp-my-axis"

def programVersion : String := "0.1.0"

/-- Misuse is an error, the other two are what the user asked for. -/
def Stop.status : Stop → Int
  | help | version => 0
  | misuse => 2

/-- What is printed about the version. -/
def versionText : String := programName ++ " " ++ programVersion ++ "\n"

/-- What is printed about the flags. -/
def usage : String :=
  "usage: " ++ programName ++
    " [-h] [-c CONFIG] [--log-level LEVEL] [--fail-fast] [--version]\n"

/-! ### Flags -/

inductive Flag where
  | help | config | logLevel | failFast | version
  deriving DecidableEq, Repr

namespace Flag

def all : List Flag := [help, config, logLevel, failFast, version]

def longName : Flag → String
  | help => "--help"
  | config => "--config"
  | logLevel => "--log-level"
  | failFast => "--fail-fast"
  | version => "--version"

/-- The letter of the short form. -/
def letter? : Flag → Option Char
  | help => some 'h'
  | config => some 'c'
  | _ => none

def takesValue : Flag → Bool
  | config | logLevel => true
  | _ => false

def ofLetter? (c : Char) : Option Flag := all.find? fun f => f.letter? == some c

/-- The flags whose long name starts like this. -/
def startingWith (start : List Char) : List Flag :=
  all.filter fun f => start.isPrefixOf f.longName.toList

end Flag

/-! ### Words -/

inductive Word where
  | operand (text : String)
  | separator
  /-- A long flag, with the value behind the equals sign. -/
  | long (flag : Flag) (value : Option String)
  /-- A short flag, with the rest of its word. -/
  | short (flag : Flag) (rest : List Char)
  | unknown
  deriving DecidableEq, Repr

/-- The word behind which all words are operands. -/
def separatorText : String := "--"

def isDecimal (cs : List Char) : Bool := !cs.isEmpty && cs.all fun c => (Text.digitValue? c).isSome

/-- Digits, or a point with digits behind it and perhaps in front of it; a line feed may follow. -/
def isUnsignedNumber (cs : List Char) : Bool :=
  let cs := if cs.getLast? = some '\n' then cs.dropLast else cs
  let whole := cs.takeWhile (· != '.')
  match cs.dropWhile (· != '.') with
  | [] => isDecimal whole
  | _ :: decimals => (whole.isEmpty || isDecimal whole) && isDecimal decimals

/-- The value behind the first equals sign. -/
def behindEquals (cs : List Char) : Option String :=
  match cs.dropWhile (· != '=') with
  | [] => none
  | _ :: value => some (String.ofList value)

/-- A word that is no flag: an operand if it can be one. -/
def otherWord (text : String) (behindHyphen : List Char) : Word :=
  if isUnsignedNumber behindHyphen || text.contains ' ' then .operand text else .unknown

/-- What a word means; a long flag cut too short to be unique is misuse. -/
def classify (text : String) : Except Stop Word :=
  match text.toList with
  | ['-'] => .ok (.operand text)
  | '-' :: '-' :: name =>
    match Flag.startingWith ('-' :: '-' :: name.takeWhile (· != '=')) with
    | [flag] => .ok (.long flag (behindEquals name))
    | [] => .ok (otherWord text ('-' :: name))
    | _ => .error .misuse
  | '-' :: letter :: rest =>
    match Flag.ofLetter? letter with
    | some flag => .ok (.short flag rest)
    | none => .ok (otherWord text (letter :: rest))
  | _ => .ok (.operand text)

/-- The meaning of all words. -/
def classifyAll : List String → Except Stop (List Word)
  | [] => .ok []
  | text :: rest =>
    if text = separatorText then .ok (.separator :: rest.map .operand)
    else do return (← classify text) :: (← classifyAll rest)

/-! ### What a word asks for -/

/-- The flags of one word: those that are complete, each with its value or the empty text, and the
flag at the end that takes the next word as its value. -/
structure Request where
  complete : List (Flag × String) := []
  open? : Option Flag := none

namespace Request

/-- A flag with nothing attached to it. -/
def bare (flag : Flag) : Request :=
  if flag.takesValue then { open? := some flag } else { complete := [(flag, "")] }

/-- A flag and what is attached to it as its value. -/
def withValue (flag : Flag) (value : String) : Except Stop Request :=
  if flag.takesValue then .ok { complete := [(flag, value)] } else .error .misuse

/-- A short flag and the characters behind it: its value, or else the letter of another flag and
what is behind that. -/
def ofLetters (flag : Flag) : List Char → Except Stop Request
  | [] => .ok (bare flag)
  | c :: rest =>
    if flag.takesValue then withValue flag (String.ofList (c :: rest))
    else match Flag.ofLetter? c with
      | none => .error .misuse
      | some next => do
        let request ← ofLetters next rest
        return { request with complete := (flag, "") :: request.complete }

/-- A short flag at the front of a word and the rest of the word.  Behind an equals sign stands the
value if the flag takes one, and else what could follow the flag without the sign. -/
def ofShort (flag : Flag) : List Char → Except Stop Request
  | ['='] => withValue flag ""
  | '=' :: rest => ofLetters flag rest
  | rest => ofLetters flag rest

def ofLong (flag : Flag) : Option String → Except Stop Request
  | none => .ok (bare flag)
  | some value => withValue flag value

/-- What a word asks for; nothing unless it is a flag. -/
def ofWord : Word → Except Stop (Option Request)
  | .long flag value => some <$> ofLong flag value
  | .short flag rest => some <$> ofShort flag rest
  | .operand _ | .separator | .unknown => .ok none

end Request

/-! ### Reading -/

/-- What has been read so far. -/
structure Reading where
  settings : Settings := {}
  /-- Some word was of no use. -/
  sawUseless : Bool := false

namespace Reading

/-- The choice that a value stands for, if it is one that can be chosen. -/
def choose {α : Type} (of? : String → Option α) (value : String) : Except Stop (Choice α) :=
  if value = separatorText then .ok .empty
  else match of? value with
    | some v => .ok (.value v)
    | none => .error .misuse

/-- Does what a flag asks for. -/
def perform (r : Reading) (flag : Flag) (value : String) : Except Stop Reading :=
  match flag with
  | .help => .error .help
  | .version => .error .version
  | .failFast => .ok { r with settings.failFast := true }
  | .config => do return { r with settings.config := ← choose some value }
  | .logLevel => do return { r with settings.logLevel := ← choose Level.ofText? value }

def performAll (r : Reading) (flags : List (Flag × String)) : Except Stop Reading :=
  flags.foldlM (fun r f => r.perform f.1 f.2) r

/-- Reads the words from the front on. -/
def readAll (r : Reading) : List Word → Except Stop Reading
  | [] => .ok r
  | word :: words => do
    match ← Request.ofWord word, words with
    | none, words => readAll { r with sawUseless := true } words
    | some ⟨flags, none⟩, words => readAll (← r.performAll flags) words
    | some ⟨flags, some flag⟩, .operand value :: words =>
      readAll (← r.performAll (flags ++ [(flag, value)])) words
    | some _, _ => .error .misuse

end Reading

/-- The settings that the words of a command line ask for. -/
def parse (words : List String) : Except Stop Settings := do
  let reading ← Reading.readAll {} (← classifyAll words)
  if reading.sawUseless then .error .misuse else .ok reading.settings

end Arguments

end AxisMixer
