/-!
Double-quoted strings of a template. A backslash stands before each double quote and each backslash
of the content, and nothing else is changed. `readString` is the reader of such strings.
-/
namespace TwigPrinter.Text

def escapeChars : List Char → List Char
  | [] => []
  | c :: rest => if c = '"' ∨ c = '\\' then '\\' :: c :: escapeChars rest else c :: escapeChars rest

def escape (s : String) : String := String.ofList (escapeChars s.toList)

def unescapeChars : List Char → List Char
  | [] | ['\\'] => []
  | '\\' :: c :: rest => c :: unescapeChars rest
  | c :: rest => c :: unescapeChars rest

def unescape (s : String) : String := String.ofList (unescapeChars s.toList)

/-- The content of a string after its opening quote and the text behind its closing one; nothing if
the string is not closed. -/
def scanString : List Char → Option (List Char × List Char)
  | [] => none
  | '"' :: rest => some ([], rest)
  | '\\' :: c :: rest => (scanString rest).map fun (content, after) => (c :: content, after)
  | c :: rest => (scanString rest).map fun (content, after) => (c :: content, after)

def readString (s : String) : Option (String × String) :=
  match s.toList with
  | '"' :: rest =>
    (scanString rest).map fun (content, after) => (String.ofList content, String.ofList after)
  | _ => none

end TwigPrinter.Text
