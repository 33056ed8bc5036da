import DeclaredDebt.Command
import DeclaredDebt.Text.Number
import DeclaredDebt.Text.Similarity

/-!
# The command line

Reads the arguments of a run. Arguments are read from left to right at a level: first for the whole
program, and behind the name of a command for that command. Options that every level has can stand
at either, and the command's own value counts more.

A value is checked when the next argument that the level knows is read, or at the end. So an
argument that the level does not know is reported before a bad value in front of it, and a fault of
a command before a bad last value in front of its name.

## Main definitions

* `Level`, `Parameter`: what can be said where.
* `Misuse`: what can be wrong with a command line, with its wording.
* `CommandLine.parse`: reads the arguments of a run.
-/

namespace DeclaredDebt

/-- Where arguments stand: before the name of a command, or behind it. -/
inductive Level where
  | top
  | init
  | analyze
  | rules
  deriving DecidableEq

/-- Something that can be said on the command line. -/
inductive Parameter where
  | path
  | logLevel
  | workers
  | format
  | output
  | failOn
  | minDays
  | help
  | version
  deriving DecidableEq

namespace Parameter

/-- The name behind two dashes. The path has none and stands for itself. -/
def longName : Parameter → String
  | .path => "path"
  | .logLevel => "log-level"
  | .workers => "workers"
  | .format => "format"
  | .output => "output"
  | .failOn => "fail-on"
  | .minDays => "min-days"
  | .help => "help"
  | .version => "version"

/-- The letter behind one dash. -/
def letter? : Parameter → Option Char
  | .format => some 'f'
  | .output => some 'o'
  | .help => some 'h'
  | .version => some 'V'
  | _ => none

/-- What stands for the value, if there is one. -/
def valueName? : Parameter → Option String
  | .path => some "PATH"
  | .logLevel => some "LOG_LEVEL"
  | .workers => some "WORKERS"
  | .format => some "FORMAT"
  | .output => some "OUTPUT"
  | .failOn => some "FAIL_ON"
  | .minDays => some "MIN_DAYS"
  | .help => none
  | .version => none

/-- How messages call a parameter. -/
def label (p : Parameter) : String :=
  match p, p.valueName? with
  | .path, _ => "[PATH]"
  | p, some value => "--" ++ p.longName ++ " <" ++ value ++ ">"
  | p, none => "--" ++ p.longName

end Parameter

namespace Level

/-- The levels that have a name: the commands. -/
def commands : List Level := [.init, .analyze, .rules]

/-- The name of a command. -/
def name : Level → String
  | .top => ""
  | .init => "init"
  | .analyze => "analyze"
  | .rules => "rules"

/-- The name of the command that explains the others. -/
def helpName : String := "help"

/-- The command with a name. -/
def ofName? (text : String) : Option Level := commands.find? (·.name == text)

/-- The options of a level, in the order in which they are listed. -/
def options : Level → List Parameter
  | .top => [.logLevel, .workers, .help, .version]
  | .init => [.logLevel, .workers, .help]
  | .analyze => [.format, .logLevel, .output, .workers, .failOn, .minDays, .help]
  | .rules => [.format, .logLevel, .workers, .help]

/-- The option with a name. -/
def option? (level : Level) (name : String) : Option Parameter :=
  level.options.find? (·.longName == name)

/-- The option with a letter. -/
def letterOption? (level : Level) (c : Char) : Option Parameter :=
  level.options.find? (·.letter? == some c)

/-- The formats that can be asked for. -/
def formats : Level → List Format
  | .rules => [.text, .json]
  | _ => [.text, .json, .sarif]

end Level

/-! ## Faults -/

/-- What is wrong with a value. -/
inductive ValueFault where
  | noDigits
  | badDigit
  | tooLarge
  | tooSmall
  /-- A number outside the range of a parameter. -/
  | outside (value : Int) (last : Nat)
  | notNumber (text : String)
  | noWorkers
  | tooManyWorkers
  deriving DecidableEq

/-- The wording of a fault. -/
def ValueFault.message : ValueFault → String
  | .noDigits => "cannot parse integer from empty string"
  | .badDigit => "invalid digit found in string"
  | .tooLarge => "number too large to fit in target type"
  | .tooSmall => "number too small to fit in target type"
  | .outside value last => toString value ++ " is not in 0..=" ++ toString last
  | .notNumber text => "'" ++ text ++ "' is not a valid number"
  | .noWorkers => "workers must be at least 1"
  | .tooManyWorkers => "workers cannot exceed 64"

/-- What can be wrong with a command line. -/
inductive Misuse where
  | missingValue (p : Parameter)
  /-- A value that is not one of the possible ones. -/
  | unknownValue (p : Parameter) (value : String)
  | invalidValue (p : Parameter) (value : String) (fault : ValueFault)
  /-- A value for an option that takes none. -/
  | needlessValue (p : Parameter) (value : String)
  | repeated (p : Parameter)
  | unknownArgument (text : String)
  | unknownCommand (name : String)
  deriving DecidableEq

/-- The wording of a misuse. -/
def Misuse.message : Misuse → String
  | .missingValue p => "a value is required for '" ++ p.label ++ "' but none was supplied"
  | .unknownValue p value => "invalid value '" ++ value ++ "' for '" ++ p.label ++ "'"
  | .invalidValue p value fault =>
    "invalid value '" ++ value ++ "' for '" ++ p.label ++ "': " ++ fault.message
  | .needlessValue p value =>
    "unexpected value '" ++ value ++ "' for '" ++ p.label ++ "' found; no more were expected"
  | .repeated p => "the argument '" ++ p.label ++ "' cannot be used multiple times"
  | .unknownArgument text => "unexpected argument '" ++ text ++ "' found"
  | .unknownCommand name => "unrecognized subcommand '" ++ name ++ "'"

/-- What help can be about. -/
inductive HelpTopic where
  | level (level : Level)
  /-- The command that explains the others. -/
  | help
  deriving DecidableEq

/-- Why the arguments of a run do not lead to a command. -/
inductive Stop where
  | misuse (e : Misuse)
  /-- Help is asked for, at length or as a summary. -/
  | help (topic : HelpTopic) (long : Bool)
  | version
  deriving DecidableEq

namespace CommandLine

/-! ## Values -/

/-- What has been said at a level. -/
structure Given where
  path? : Option String := none
  logLevel? : Option LogLevel := none
  workers? : Option Nat := none
  format? : Option Format := none
  output? : Option String := none
  failOn? : Option Nat := none
  minDays? : Option Nat := none

/-- A path; no path is empty. -/
def readPath (p : Parameter) (value : String) : Except Misuse String :=
  if value = "" then .error (.missingValue p) else .ok value

/-- One of the possible values; the empty text counts as no value. -/
def readChoice (p : Parameter) (name : α → String) (choices : List α) (value : String) :
    Except Misuse α :=
  match choices.find? (name · == value) with
  | some choice => .ok choice
  | none => .error (if value = "" then .missingValue p else .unknownValue p value)

/-- The number of workers. -/
def readWorkers (value : String) : Except Misuse Nat :=
  match Text.readNat (Nat.pow 2 64) 10 value.toList with
  | .value 0 => .error (.invalidValue .workers value .noWorkers)
  | .value n =>
    if n ≤ 64 then .ok n else .error (.invalidValue .workers value .tooManyWorkers)
  | _ => .error (.invalidValue .workers value (.notNumber value))

/-- A number of days below the limit of a report's total. -/
def readTotal (p : Parameter) (value : String) : Except Misuse Nat :=
  match Text.readNat (Nat.pow 2 64) 10 value.toList with
  | .value n => .ok n
  | .empty => .error (.invalidValue p value .noDigits)
  | .badDigit => .error (.invalidValue p value .badDigit)
  | .tooLarge => .error (.invalidValue p value .tooLarge)

/-- A number with a sign that fits 64 bits. -/
def readInteger (text : List Char) : Except ValueFault Int :=
  match text with
  | ['-'] => .error .badDigit
  | '-' :: rest =>
    match Text.readDigits (Nat.pow 2 63 + 1) 10 0 rest with
    | .value n => .ok (-n)
    | .tooLarge => .error .tooSmall
    | _ => .error .badDigit
  | text =>
    match Text.readNat (Nat.pow 2 63) 10 text with
    | .value n => .ok n
    | .empty => .error .noDigits
    | .badDigit => .error .badDigit
    | .tooLarge => .error .tooLarge

/-- The largest cost that can be asked for. -/
def lastCost : Nat := Nat.pow 2 32 - 1

/-- The cost of a diagnostic. -/
def readCost (p : Parameter) (value : String) : Except Misuse Nat :=
  match readInteger value.toList with
  | .error fault => .error (.invalidValue p value fault)
  | .ok n =>
    if 0 ≤ n ∧ n ≤ lastCost then .ok n.toNat
    else .error (.invalidValue p value (.outside n lastCost))

/-- Sets a value that may be given once. -/
def setOnce (p : Parameter) (old : Option α) (read : Except Misuse α) :
    Except Misuse (Option α) :=
  match old with
  | some _ => .error (.repeated p)
  | none => read.map some

/-- Takes the value of a parameter down. -/
def Given.set (g : Given) (level : Level) (p : Parameter) (value : String) :
    Except Misuse Given :=
  match p with
  | .path => return { g with path? := ← setOnce p g.path? (readPath p value) }
  | .logLevel =>
    return { g with
      logLevel? := ← setOnce p g.logLevel? (readChoice p LogLevel.name LogLevel.all value) }
  | .workers => return { g with workers? := ← setOnce p g.workers? (readWorkers value) }
  | .format =>
    return { g with
      format? := ← setOnce p g.format? (readChoice p Format.name level.formats value) }
  | .output => return { g with output? := ← setOnce p g.output? (readPath p value) }
  | .failOn => return { g with failOn? := ← setOnce p g.failOn? (readTotal p value) }
  | .minDays => return { g with minDays? := ← setOnce p g.minDays? (readCost p value) }
  | .help => return g
  | .version => return g

/-! ## Arguments -/

/-- A value that has not been taken down yet. -/
inductive Pending where
  | none
  /-- The next argument is the value. -/
  | awaited (p : Parameter)
  /-- The value has been read, but not checked. -/
  | read (p : Parameter) (value : String)

/-- How far the arguments of a level have been read. -/
structure Progress where
  given : Given := {}
  pending : Pending := .none
  /-- Whether the path has been given. -/
  hasPath : Bool := false

/-- Takes down a value that was read. -/
def Progress.settle (s : Progress) (level : Level) : Except Misuse Progress :=
  match s.pending with
  | .none => .ok s
  | .awaited p => .error (.missingValue p)
  | .read p value => do
    return { s with given := ← s.given.set level p value, pending := .none }

/-- Reads an option with or without a value attached to it. -/
def Progress.readOption (s : Progress) (level : Level) (p : Parameter) (isShort : Bool)
    (value? : Option String) : Except Stop Progress :=
  let settled := (s.settle level).mapError .misuse
  match p, value? with
  | .help, none => do
    let _ ← settled
    .error (.help (.level level) (!isShort))
  | .version, none => do
    let _ ← settled
    .error .version
  | p, none => do
    let s ← settled
    return { s with pending := .awaited p }
  | p, some value =>
    if p.valueName?.isNone then .error (.misuse (.needlessValue p value))
    else do
      let s ← settled
      let given ← (s.given.set level p value).mapError .misuse
      return { s with given }

/-- Reads letters behind one dash. A letter whose option has a value takes the rest as its value;
an equals sign between them does not count. -/
def Progress.readLetters (s : Progress) (level : Level) : List Char → Except Stop Progress
  | [] => .ok s
  | c :: rest =>
    match level.letterOption? c with
    | none => .error (.misuse (.unknownArgument (String.ofList ['-', c])))
    | some p =>
      if p.valueName?.isNone then do
        let s ← s.readOption level p true none
        s.readLetters level rest
      else
        match rest with
        | [] => s.readOption level p true none
        | '=' :: value => s.readOption level p true (some (String.ofList value))
        | value => s.readOption level p true (some (String.ofList value))

/-- How an argument looks. -/
inductive Shape where
  /-- Two dashes: what follows are no options. -/
  | divider
  | long (name : String) (value? : Option String)
  | letters (letters : List Char)
  | plain

/-- A name and a value behind the first equals sign. -/
def splitValue (text : List Char) : List Char × Option (List Char) :=
  match text.span (· != '=') with
  | (name, '=' :: value) => (name, some value)
  | (name, _) => (name, none)

/-- How an argument looks. A single dash is plain. -/
def Shape.of (text : String) : Shape :=
  match text.toList with
  | ['-', '-'] => .divider
  | '-' :: '-' :: rest =>
    let (name, value?) := splitValue rest
    .long (String.ofList name) (value?.map String.ofList)
  | ['-'] => .plain
  | '-' :: rest => .letters rest
  | _ => .plain

/-- What help is about, from the arguments behind its name. -/
def helpTopic (arguments : List String) : Except Misuse HelpTopic :=
  match arguments with
  | [] => .ok (.level .top)
  | name :: rest =>
    let topic? :=
      if name = Level.helpName then some .help else (Level.ofName? name).map .level
    match topic?, rest with
    | none, _ => .error (.unknownCommand name)
    | some topic, [] => .ok topic
    | some _, next :: _ => .error (.unknownCommand next)

/-- The fault of a second plain argument. One that looks like the name of a command counts as that,
unless it is a name exactly and stands behind the divider. -/
def surplus (level : Level) (divided : Bool) (text : String) : Misuse :=
  let names := Level.commands.map Level.name ++ [Level.helpName]
  if level ≠ .top ∨ (divided ∧ text ∈ names) then .unknownArgument text
  else if names.any fun name => Text.isSimilar text.toList name.toList then .unknownCommand text
  else .unknownArgument text

/-- Reads a plain argument where a path can stand. -/
def Progress.readPlain (s : Progress) (level : Level) (divided : Bool) (text : String) :
    Except Stop Progress :=
  if s.hasPath then .error (.misuse (surplus level divided text))
  else do
    let s ← (s.settle level).mapError .misuse
    return { s with pending := .read .path text, hasPath := true }

/-- What was read at a level, and the command that follows with its arguments. -/
structure LevelResult where
  progress : Progress
  command? : Option (Level × List String) := none

/-- Reads arguments behind the divider. -/
def readDivided (level : Level) (s : Progress) : List String → Except Stop LevelResult
  | [] => .ok { progress := s }
  | text :: rest => do
    let s ← s.readPlain level true text
    readDivided level s rest

/-- Reads the arguments of a level. -/
def readLevel (level : Level) (s : Progress) : List String → Except Stop LevelResult
  | [] => .ok { progress := s }
  | text :: rest =>
    let next (s : Except Stop Progress) : Except Stop LevelResult := do
      readLevel level (← s) rest
    match s.pending, Shape.of text with
    | .awaited p, .plain => readLevel level { s with pending := .read p text } rest
    | _, .divider => readDivided level s rest
    | _, .long name value? =>
      match level.option? name with
      | some p => next (s.readOption level p false value?)
      | none => .error (.misuse (.unknownArgument ("--" ++ name)))
    | _, .letters letters => next (s.readLetters level letters)
    | _, .plain =>
      if level = .top ∧ text = Level.helpName then
        match helpTopic rest with
        | .ok topic => .error (.help topic true)
        | .error e => .error (.misuse e)
      else
        match (if level = .top then Level.ofName? text else none) with
        | some command => .ok { progress := s, command? := some (command, rest) }
        | none => next (s.readPlain level false text)

/-- The values of a level once all its arguments are read. -/
def LevelResult.finish (r : LevelResult) (level : Level) : Except Stop Given :=
  ((r.progress.settle level).map (·.given)).mapError .misuse

/-- The command of a level. -/
def commandOf? (level : Level) (g : Given) : Option Command :=
  match level with
  | .top => none
  | .init => some .init
  | .analyze =>
    some (.analyze {
      format? := g.format?
      output? := g.output?.map Path.mk
      failOn? := g.failOn?
      minDays? := g.minDays? })
  | .rules => some (.rules (g.format?.getD .text))

/-- A whole command line from what was said at two levels; the second counts more. -/
def invocation (top : Given) (level : Level) (g : Given) : Invocation where
  path := ⟨(g.path?.or top.path?).getD "."⟩
  logLevel := (g.logLevel?.or top.logLevel?).getD .warn
  workers? := g.workers?.or top.workers?
  command? := commandOf? level g

/-- Reads the arguments of a run. -/
def parse (arguments : List String) : Except Stop Invocation := do
  let top ← readLevel .top {} arguments
  match top.command? with
  | none => return invocation {} .top (← top.finish .top)
  | some (level, rest) =>
    let inner ← readLevel level {} rest
    let g ← inner.finish level
    return invocation (← top.finish .top) level g

end CommandLine

end DeclaredDebt
