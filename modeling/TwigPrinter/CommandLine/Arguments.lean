/-!
The arguments of the command. Options may stand anywhere before `--`, with their value attached or
as the next argument; short options may be combined; nothing may be given twice.
-/
namespace TwigPrinter.CommandLine

structure Arguments where
  paths : List String := []
  format : Option String := none
  input : Option String := none
  config : Option String := none
  listFormats : Bool := false
  verbose : Bool := false
  deriving DecidableEq, Repr

inductive UsageError where
  | nothingGiven
  | noPaths
  | unknownOption (text : String)
  | missingValue (option : String)
  | unexpectedValue (option : String)
  | givenTwice (option : String)
  deriving DecidableEq, Repr

/-- The wording is this library's own. -/
def UsageError.message : UsageError → String
  | .nothingGiven => "no arguments were given"
  | .noPaths => "no paths were given"
  | .unknownOption text => "unexpected argument '" ++ text ++ "'"
  | .missingValue option => "a value is required for '--" ++ option ++ "'"
  | .unexpectedValue option => "'--" ++ option ++ "' takes no value"
  | .givenTwice option => "'--" ++ option ++ "' cannot be used multiple times"

inductive Request where
  | convert (args : Arguments)
  | version
  | help
  | misuse (error : UsageError)
  deriving DecidableEq, Repr

inductive ValueOption where
  | format
  | input
  | config
  deriving DecidableEq, Repr

inductive Flag where
  | listFormats
  | verbose
  | version
  | help
  deriving DecidableEq, Repr

inductive Choice where
  | value (option : ValueOption)
  | flag (flag : Flag)
  deriving DecidableEq, Repr

def ValueOption.name : ValueOption → String
  | .format => "format"
  | .input => "input"
  | .config => "config"

def Flag.name : Flag → String
  | .listFormats => "list-formats"
  | .verbose => "verbose"
  | .version => "version"
  | .help => "help"

def ofLong? : String → Option Choice
  | "format" => some (.value .format)
  | "input" => some (.value .input)
  | "config" => some (.value .config)
  | "list-formats" => some (.flag .listFormats)
  | "verbose" => some (.flag .verbose)
  | "version" => some (.flag .version)
  | "help" => some (.flag .help)
  | _ => none

def ofShort? : Char → Option Choice
  | 'f' => some (.value .format)
  | 'i' => some (.value .input)
  | 'c' => some (.value .config)
  | 'v' => some (.flag .verbose)
  | 'V' => some (.flag .version)
  | 'h' => some (.flag .help)
  | _ => none

namespace Arguments

def setValue (a : Arguments) (option : ValueOption) (value : String) : Except Request Arguments :=
  let twice := Except.error (Request.misuse (.givenTwice option.name))
  match option with
  | .format => if a.format.isSome then twice else .ok { a with format := some value }
  | .input => if a.input.isSome then twice else .ok { a with input := some value }
  | .config => if a.config.isSome then twice else .ok { a with config := some value }

/-- A flag that asks for something else than a run ends the reading of arguments. -/
def setFlag (a : Arguments) (flag : Flag) : Except Request Arguments :=
  let twice := Except.error (Request.misuse (.givenTwice flag.name))
  match flag with
  | .listFormats => if a.listFormats then twice else .ok { a with listFormats := true }
  | .verbose => if a.verbose then twice else .ok { a with verbose := true }
  | .version => .error .version
  | .help => .error .help

def addPath (a : Arguments) (path : String) : Arguments := { a with paths := a.paths ++ [path] }

end Arguments

/-- Where the reading of one argument leaves off: a value may still have to follow. -/
structure Reading where
  args : Arguments
  awaiting : Option ValueOption := none

def shortOptions (a : Arguments) : List Char → Except Request Reading
  | [] => .ok { args := a }
  | c :: rest =>
    match ofShort? c with
    | none => .error (.misuse (.unknownOption (String.ofList ['-', c])))
    | some (.flag flag) => do
      let a ← a.setFlag flag
      shortOptions a rest
    | some (.value option) =>
      match rest with
      | [] => .ok { args := a, awaiting := some option }
      | '=' :: value => do
        let a ← a.setValue option (String.ofList value)
        pure { args := a }
      | value => do
        let a ← a.setValue option (String.ofList value)
        pure { args := a }

def longOption (a : Arguments) (text : List Char) : Except Request Reading :=
  let name := String.ofList (text.takeWhile (· != '='))
  let value? := match text.dropWhile (· != '=') with
    | _ :: value => some (String.ofList value)
    | [] => none
  match ofLong? name, value? with
  | none, _ => .error (.misuse (.unknownOption ("--" ++ name)))
  | some (.flag flag), none => do
    let a ← a.setFlag flag
    pure { args := a }
  | some (.flag flag), some _ => .error (.misuse (.unexpectedValue flag.name))
  | some (.value option), none => .ok { args := a, awaiting := some option }
  | some (.value option), some value => do
    let a ← a.setValue option value
    pure { args := a }

/-- Whether an argument is a value and not an option: a dash alone is a value. -/
def isValue (arg : String) : Bool :=
  match arg.toList with
  | '-' :: _ :: _ => false
  | _ => true

def readAll (r : Reading) : List String → Except Request Arguments
  | [] =>
    match r.awaiting with
    | some option => .error (.misuse (.missingValue option.name))
    | none => .ok r.args
  | arg :: rest =>
    match r.awaiting with
    | some option =>
      if isValue arg then do
        let a ← r.args.setValue option arg
        readAll { args := a } rest
      else .error (.misuse (.missingValue option.name))
    | none =>
      match arg.toList with
      | ['-', '-'] => .ok (rest.foldl Arguments.addPath r.args)
      | '-' :: '-' :: text => do
        let r ← longOption r.args text
        readAll r rest
      | '-' :: c :: text => do
        let r ← shortOptions r.args (c :: text)
        readAll r rest
      | _ => readAll { args := r.args.addPath arg } rest

def Request.ofArguments (args : List String) : Request :=
  match readAll { args := {} } args with
  | .error request => request
  | .ok a =>
    if a = {} then .misuse .nothingGiven
    else if a.paths.isEmpty && !a.listFormats then .misuse .noPaths
    else .convert a

end TwigPrinter.CommandLine
