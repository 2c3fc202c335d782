/-!
File paths with slashes between their parts.
-/
namespace TwigPrinter.Path

def parts (path : String) : List String := (path.splitToList (· == '/'))

def isHere (part : String) : Bool := part == "" || part == "."

/-- The name of the file or directory at the end of the path; none if it ends by going up. -/
def fileName? (path : String) : Option String :=
  match (parts path).reverse.dropWhile isHere with
  | [] => none
  | name :: _ => if name = ".." then none else some name

/-- What follows the last dot of a name. A dot at the start does not count. -/
def extensionOf? (name : String) : Option String :=
  let tail := name.toList.reverse.takeWhile (· != '.')
  let head := name.toList.reverse.drop (tail.length + 1)
  if head.isEmpty then none else some (String.ofList tail.reverse)

def extension? (path : String) : Option String := (fileName? path).bind extensionOf?

def addExtension? (path extension : String) : Option String :=
  (fileName? path).map fun _ =>
    "/".intercalate ((parts path).reverse.dropWhile isHere).reverse ++ "." ++ extension

end TwigPrinter.Path
