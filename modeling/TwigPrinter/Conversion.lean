import TwigPrinter.Disk.Basic
import TwigPrinter.Format.Registry
import TwigPrinter.Template.Source
/-!
From the document of a template to its output in some format.
-/
namespace TwigPrinter

inductive ConversionError where
  | fileNotFound (path : String)
  | unreadable (error : ReadError)
  | load (error : LoadError)
  | format (error : FormatError)
  deriving DecidableEq, Repr

def ConversionError.message : ConversionError → String
  | .fileNotFound path => "'" ++ path ++ "' does not exist"
  | .unreadable error => "IO error: " ++ error.message
  | .load error => error.message
  | .format error => error.message

/-- What is asked for: the format of the output, and that of the input unless the names of the files
decide about it. -/
structure Conversion where
  format : String := "twig"
  input : Option SourceFormat := none
  readers : Readers := .own

namespace Conversion

def ofText (c : Conversion) (r : Registry) (input : SourceFormat) (text : String) :
    Logged ConversionError String :=
  match Node.load c.readers input text with
  | .error e => .fail (.load e)
  | .ok root => (r.serialize root c.format).mapError .format

/-- The format of a file: the one asked for, else the one its name suggests, else JSON. -/
def inputOf (c : Conversion) (path : String) : SourceFormat :=
  (c.input.orElse fun _ => SourceFormat.ofPath? path).getD .json

def reading (c : Conversion) (path : String) : LogRecord where
  level := .debug
  target := "kusari::processor"
  message := "processing"
  details := [("path", .text path), ("input", .text (c.inputOf path).label),
    ("format", .text c.format)]

def ofFile (c : Conversion) (r : Registry) (d : Disk) (path : String) :
    Logged ConversionError String :=
  if !d.holds path then .fail (.fileNotFound path)
  else match d.readText path with
    | .error e => .fail (.unreadable e)
    | .ok text => .after (c.reading path) (c.ofText r (c.inputOf path) text)

def checkPaths (d : Disk) : List String → Except ConversionError Unit
  | [] => .ok ()
  | path :: rest => if d.holds path then checkPaths d rest else .error (.fileNotFound path)

end Conversion
end TwigPrinter
