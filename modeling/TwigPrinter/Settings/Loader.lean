import TwigPrinter.Disk.Basic
import TwigPrinter.Twig.Options
/-!
The settings of a run, in layers: what is built in, then files in their order, then single values
that were set. A loader only says what the layers are. They are kept, read and put over each other
by a backend, about which nothing is settled here.
-/
namespace TwigPrinter

structure Settings where
  options : Options := {}
  format : String := "twig"
  deriving DecidableEq, Repr

namespace Settings

def defaultLines : List String := [
  "# Built-in defaults for kusari. User configuration files are layered on top.",
  "",
  "[transform]",
  "# Strip this marker from the start of string include targets.",
  "include_prefix = \"./\"",
  "# Rewrite `\x7b\x7b x if x \x7d\x7d` to `\x7b\x7b x \x7d\x7d`.",
  "collapse_self_conditional = false",
  "",
  "# Nunjucks filters whose Twig counterpart has another name.",
  "[transform.filter_renames]",
  "safe = \"raw\"",
  "",
  "[output]",
  "# Formatter used when none is given on the command line.",
  "format = \"twig\""]

def defaults : String := String.join (defaultLines.map (· ++ "\n"))

/-- A layer of settings: a document, or a file that may have to be there. -/
inductive Source where
  | text (toml : String)
  | file (path : String) (required : Bool)
  deriving DecidableEq, Repr

structure Backend where
  Builder : Type
  /-- The values that can be set. -/
  Value : Type
  /-- All layers put together. -/
  Config : Type
  Error : Type
  start : Builder
  addSource : Builder → Source → Builder
  setOverride : Builder → String → Value → Except Error Builder
  build : Builder → Disk → Except Error Config
  deserialize : Config → Except Error Settings
  string : String → Value
  message : Error → String

structure Loader (b : Backend) where
  builder : b.Builder

inductive Step (b : Backend) where
  | file (path : String)
  | optionalFile (path : String)
  | set (key : String) (value : b.Value)

namespace Loader

variable {b : Backend}

def new (b : Backend) : Loader b := ⟨b.addSource b.start (.text defaults)⟩

def withFile (l : Loader b) (path : String) (required : Bool) : Loader b :=
  ⟨b.addSource l.builder (.file path required)⟩

def set (l : Loader b) (key : String) (v : b.Value) : Except b.Error (Loader b) :=
  (b.setOverride l.builder key v).map .mk

def apply (l : Loader b) : Step b → Except b.Error (Loader b)
  | .file path => .ok (l.withFile path true)
  | .optionalFile path => .ok (l.withFile path false)
  | .set key v => l.set key v

/-- The loader after a step; one that fails changes nothing. -/
def advance (l : Loader b) (s : Step b) : Loader b :=
  match l.apply s with
  | .ok l => l
  | .error _ => l

def build (l : Loader b) (d : Disk) : Except b.Error Settings :=
  (b.build l.builder d).bind b.deserialize

end Loader
end Settings
end TwigPrinter
