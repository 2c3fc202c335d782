import TwigPrinter.CommandLine.Arguments
import TwigPrinter.Conversion
import TwigPrinter.Settings.Layers
/-!
A run of the command: what it writes and the code it ends with, from its arguments and from what it
finds around it. Messages and the log both go to the error stream, in the order in which they come.
-/
namespace TwigPrinter.CommandLine

/-- What is written to the error stream. How a record of the log looks there is left open: it is
written with the time. -/
inductive Notice where
  | message (text : String)
  | log (record : LogRecord)
  deriving DecidableEq, Repr

structure Outcome where
  stdout : String := ""
  stderr : List Notice := []
  code : Nat := 0
  deriving DecidableEq, Repr

def logged (filter : LogFilter) (records : List LogRecord) : List Notice :=
  (records.filter filter).map .log

namespace Outcome

def failure (message : String) : Outcome := { stderr := [.message (message ++ "\n")], code := 1 }

/-- One part of a run after another; the run fails if a part does. -/
def andThen (a b : Outcome) : Outcome where
  stdout := a.stdout ++ b.stdout
  stderr := a.stderr ++ b.stderr
  code := if a.code = 0 then b.code else a.code

end Outcome

def localSettings : String := "kusari.toml"

def versionLine : String := "kusari 0.1.0\n"

def usageLine : String := "Usage: kusari [OPTIONS] [paths]...\n"

def helpText : String :=
  "Rewrite parsed Nunjucks templates as Twig\n\n" ++ usageLine ++ "\n" ++
  "Arguments:\n" ++
  "  [paths]...  Serialized template trees (.json, .yaml)\n\n" ++
  "Options:\n" ++
  "  -f, --format <format>  Output format, overriding `output.format` from config\n" ++
  "  -i, --input <input>    Input document format: auto, json or yaml [default: auto]\n" ++
  "  -c, --config <config>  Configuration file layered over the built-in defaults\n" ++
  "      --list-formats     List available output formats\n" ++
  "  -v, --verbose          Log rewrite decisions to stderr\n" ++
  "  -h, --help             Print help\n" ++
  "  -V, --version          Print version\n"

def asLines (text : String) : String :=
  if text.toList.getLast? == some '\n' then text else text ++ "\n"

def transforming (c : Conversion) (path : String) : LogRecord where
  level := .debug
  target := "kusari"
  message := "transforming"
  details := [("path", .text path), ("format", .text c.format)]

def transformFailed (path : String) (e : ConversionError) : LogRecord where
  level := .warn
  target := "kusari"
  message := "transform failed"
  details := [("path", .text path), ("error", .text e.message)]

/-- One file: its output, or a message about why there is none, and the log of the way there. -/
def runPath (filter : LogFilter) (c : Conversion) (r : Registry) (d : Disk) (path : String) :
    Outcome :=
  let x := c.ofFile r d path
  let log := logged filter (transforming c path :: x.log)
  match x.result with
  | .ok text => { stdout := asLines text, stderr := log }
  | .error e =>
    let warning := logged filter [transformFailed path e]
    { stderr := log ++ warning ++ [.message (path ++ ": " ++ e.message ++ "\n")], code := 1 }

/-- All files. Nothing is written for any of them when one is missing. -/
def runPaths (filter : LogFilter) (c : Conversion) (r : Registry) (d : Disk)
    (paths : List String) : Outcome :=
  match Conversion.checkPaths d paths with
  | .error e => .failure e.message
  | .ok () => (paths.map (runPath filter c r d)).foldr Outcome.andThen {}

def formatList (r : Registry) : String :=
  "Available output formats:\n\n" ++
    String.join (r.formatters.map fun f => "  " ++ f.name ++ "\n    " ++ f.description ++ "\n\n")

structure Surroundings where
  disk : Disk
  readers : Readers := .own
  settings : Settings.Backend := .layered .asSet
  /-- What the environment asks to be logged, if it does. -/
  filter : Option LogFilter := none

def loadSettings (b : Settings.Backend) (a : Arguments) (d : Disk) : Except b.Error Settings := do
  let l := (Settings.Loader.new b).withFile localSettings false
  let l := match a.config with
    | some path => l.withFile path true
    | none => l
  let l ← match a.format with
    | some format => l.set "output.format" (b.string format)
    | none => .ok l
  l.build d

def inputFormat (a : Arguments) : Except LoadError (Option SourceFormat) :=
  match a.input with
  | none | some "auto" => .ok none
  | some name => (SourceFormat.ofName name).map some

def convertAll (a : Arguments) (s : Surroundings) : Outcome :=
  match loadSettings s.settings a s.disk with
  | .error e => .failure ("Configuration error: " ++ s.settings.message e)
  | .ok settings =>
    let r := Registry.withOptions settings.options
    if a.listFormats then { stdout := formatList r }
    else match inputFormat a with
      | .error e => .failure e.message
      | .ok input =>
        let c : Conversion := { format := settings.format, input := input, readers := s.readers }
        runPaths (s.filter.getD (.usual a.verbose)) c r s.disk a.paths

def Request.run (request : Request) (s : Surroundings) : Outcome :=
  match request with
  | .version => { stdout := versionLine }
  | .help => { stdout := helpText }
  | .misuse error =>
    { stderr := [.message ("error: " ++ error.message ++ "\n\n" ++ usageLine)], code := 2 }
  | .convert a => convertAll a s

def run (args : List String) (s : Surroundings) : Outcome := (Request.ofArguments args).run s

def pathsOf : Request → List String
  | .convert a =>
    let files := localSettings :: a.config.toList
    files ++ files.filterMap (Path.addExtension? · "toml") ++ a.paths
  | _ => []

end TwigPrinter.CommandLine
