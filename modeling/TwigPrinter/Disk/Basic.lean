import TwigPrinter.Disk.Path
/-!
The files that a run can see. Only what a path leads to counts: nothing, or something that is a file
or is not, with its bytes or the reason why they cannot be read.
-/
namespace TwigPrinter

inductive ReadError where
  | notFound
  | isDirectory
  | notText
  /-- Any other reason, in the words of the system. -/
  | refused (reason : String)
  deriving DecidableEq, Repr

def ReadError.message : ReadError → String
  | .notFound => "No such file or directory (os error 2)"
  | .isDirectory => "Is a directory (os error 21)"
  | .notText => "stream did not contain valid UTF-8"
  | .refused reason => reason

inductive Entry where
  | missing
  | there (isFile : Bool) (bytes : Except ReadError ByteArray)

@[match_pattern] def Entry.directory : Entry := .there false (.error .isDirectory)

@[match_pattern] def Entry.file (bytes : ByteArray) : Entry := .there true (.ok bytes)

structure Disk where
  entry : String → Entry

namespace Disk

def holds (d : Disk) (path : String) : Bool :=
  match d.entry path with
  | .missing => false
  | .there _ _ => true

def hasFile (d : Disk) (path : String) : Bool :=
  match d.entry path with
  | .missing => false
  | .there isFile _ => isFile

def readText (d : Disk) (path : String) : Except ReadError String :=
  match d.entry path with
  | .missing => .error .notFound
  | .there _ (.error e) => .error e
  | .there _ (.ok bytes) =>
    match String.fromUTF8? bytes with
    | some text => .ok text
    | none => .error .notText

def ofList (entries : List (String × Entry)) : Disk where
  entry path := (entries.lookup path).getD .missing

end Disk

/-- A directory with all that is below it: files with their bytes, and directories that may be
empty, each under the names that lead to it. -/
structure Folder where
  files : List (List String × ByteArray) := []
  directories : List (List String) := []

namespace Folder

def names (path : String) : List String := (Path.parts path).filter (!Path.isHere ·)

def addFile (f : Folder) (path : String) (bytes : ByteArray) : Folder :=
  { f with files := f.files ++ [(names path, bytes)] }

def addDirectory (f : Folder) (path : String) : Folder :=
  { f with directories := f.directories ++ [names path] }

/-- What the names lead to. A directory is there as soon as something is in it. -/
def lookup (f : Folder) (place : List String) : Entry :=
  match f.files.lookup place with
  | some bytes => .file bytes
  | none =>
    if place.isEmpty || f.files.any (fun (p, _) => place.isPrefixOf p)
        || f.directories.any (place.isPrefixOf ·) then .directory
    else .missing

/-- Where a walk over the disk stands: inside the folder, or in a directory around it about which
nothing is known. -/
inductive Place where
  | inside (names : List String)
  | outside
  deriving DecidableEq, Repr

def step (f : Folder) (place : Place) (part : String) : Option Place :=
  match place with
  | .outside => if Path.isHere part || part = ".." then some .outside else none
  | .inside names =>
    match f.lookup names with
    | .directory =>
      if Path.isHere part then some place
      else if part = ".." then
        some (if names.isEmpty then .outside else .inside names.dropLast)
      else some (.inside (names ++ [part]))
    | _ => none

def pathLimit : Nat := 4095

def toDisk (f : Folder) : Disk where
  entry path :=
    if path.isEmpty || pathLimit < path.utf8ByteSize then .missing
    else
      let start := if path.toList.head? == some '/' then Place.outside else .inside []
      match (Path.parts path).foldlM f.step start with
      | none => .missing
      | some .outside => .directory
      | some (.inside names) => f.lookup names

end Folder
end TwigPrinter
