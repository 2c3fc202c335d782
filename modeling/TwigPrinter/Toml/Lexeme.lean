import TwigPrinter.Text.Digits
import TwigPrinter.Toml.Table
/-!
Keys, strings, numbers and dates of a TOML text. Each reader gives what it read and the rest.
-/
namespace TwigPrinter.Toml

def stop {α : Type} : List Char → Except Fault α
  | [] => .error .endOfInput
  | c :: _ => .error (.unexpected c)

def isBlank (c : Char) : Bool := c == ' ' || c == '\t'

def skipBlank (cs : List Char) : List Char := cs.dropWhile isBlank

def lineBreak? : List Char → Option (List Char)
  | '\n' :: rest => some rest
  | '\r' :: '\n' :: rest => some rest
  | _ => none

def isText (c : Char) : Bool := c == '\t' || (0x20 ≤ c.toNat && c.toNat != 0x7f)

def skipComment : List Char → List Char
  | '#' :: rest => rest.dropWhile isText
  | cs => cs

def endLine (cs : List Char) : Except Fault (List Char) :=
  match skipComment (skipBlank cs) with
  | [] => .ok []
  | cs =>
    match lineBreak? cs with
    | some rest => .ok rest
    | none => stop cs

def escaped? : Char → Option Char
  | 'b' => some '\x08'
  | 't' => some '\t'
  | 'n' => some '\n'
  | 'f' => some '\x0c'
  | 'r' => some '\r'
  | '"' => some '"'
  | '\\' => some '\\'
  | _ => none

def escape? : List Char → Option (Char × Nat)
  | [] => none
  | c :: rest =>
    match escaped? c with
    | some x => some (x, 1)
    | none =>
      if c == 'u' then (Text.codePoint? 4 rest).map (·, 5)
      else if c == 'U' then (Text.codePoint? 8 rest).map (·, 9)
      else none

def basicRest : (fuel : Nat) → List Char → List Char → Except Fault (String × List Char)
  | 0, _, cs => stop cs
  | _ + 1, _, [] => .error .endOfInput
  | fuel + 1, done, c :: rest =>
    if c == '"' then .ok (String.ofList done.reverse, rest)
    else if c == '\\' then
      match escape? rest with
      | some (x, n) => basicRest fuel (x :: done) (rest.drop n)
      | none => .error .badEscape
    else if isText c then basicRest fuel (c :: done) rest
    else .error .controlCharacter

def literalRest (cs : List Char) : Except Fault (String × List Char) :=
  let text := cs.takeWhile fun c => c != '\'' && isText c
  match cs.drop text.length with
  | '\'' :: rest => .ok (String.ofList text, rest)
  | rest => stop rest

def dropFirstBreak (cs : List Char) : List Char := (lineBreak? cs).getD cs

def isBlankOrBreak (c : Char) : Bool := isBlank c || c == '\n'

def skipSpace : List Char → List Char
  | '\r' :: '\n' :: rest => skipSpace rest
  | c :: rest => if isBlankOrBreak c then skipSpace rest else c :: rest
  | [] => []

/-- What follows a backslash at the end of a line and all space after it, if the line ends there. -/
def lineContinuation? (cs : List Char) : Option (List Char) :=
  (lineBreak? (skipBlank cs)).map skipSpace

/-- The quotes at the end of a string of several lines: two of them may belong to the string. -/
def closingQuotes (quote : Char) (cs : List Char) : Nat := min 5 (cs.takeWhile (· == quote)).length

def multilineBasicRest : (fuel : Nat) → List Char → List Char → Except Fault (String × List Char)
  | 0, _, cs => stop cs
  | _ + 1, _, [] => .error .endOfInput
  | fuel + 1, done, c :: rest =>
    if c == '"' then
      let n := closingQuotes '"' (c :: rest)
      let inner := List.replicate (if n < 3 then n else n - 3) '"'
      if n < 3 then multilineBasicRest fuel (inner ++ done) ((c :: rest).drop n)
      else .ok (String.ofList (inner ++ done).reverse, (c :: rest).drop n)
    else if c == '\\' then
      match lineContinuation? rest with
      | some rest => multilineBasicRest fuel done rest
      | none =>
        match escape? rest with
        | some (x, n) => multilineBasicRest fuel (x :: done) (rest.drop n)
        | none => .error .badEscape
    else match lineBreak? (c :: rest) with
      | some rest => multilineBasicRest fuel ('\n' :: done) rest
      | none =>
        if isText c then multilineBasicRest fuel (c :: done) rest else .error .controlCharacter

def multilineLiteralRest : (fuel : Nat) → List Char → List Char → Except Fault (String × List Char)
  | 0, _, cs => stop cs
  | _ + 1, _, [] => .error .endOfInput
  | fuel + 1, done, c :: rest =>
    if c == '\'' then
      let n := closingQuotes '\'' (c :: rest)
      let inner := List.replicate (if n < 3 then n else n - 3) '\''
      if n < 3 then multilineLiteralRest fuel (inner ++ done) ((c :: rest).drop n)
      else .ok (String.ofList (inner ++ done).reverse, (c :: rest).drop n)
    else match lineBreak? (c :: rest) with
      | some rest => multilineLiteralRest fuel ('\n' :: done) rest
      | none =>
        if isText c then multilineLiteralRest fuel (c :: done) rest else .error .controlCharacter

def shortString (cs : List Char) : Except Fault (String × List Char) :=
  match cs with
  | '"' :: rest => basicRest cs.length [] rest
  | '\'' :: rest => literalRest rest
  | cs => stop cs

def string (cs : List Char) : Except Fault (String × List Char) :=
  match cs with
  | '"' :: '"' :: '"' :: rest => multilineBasicRest cs.length [] (dropFirstBreak rest)
  | '\'' :: '\'' :: '\'' :: rest => multilineLiteralRest cs.length [] (dropFirstBreak rest)
  | cs => shortString cs

def isBareKeyChar (c : Char) : Bool := c.isAlphanum || c == '_' || c == '-'

def simpleKey (cs : List Char) : Except Fault (String × List Char) :=
  match cs with
  | '"' :: _ | '\'' :: _ => shortString cs
  | cs =>
    let name := cs.takeWhile isBareKeyChar
    if name.isEmpty then stop cs else .ok (String.ofList name, cs.drop name.length)

def keyParts : (fuel : Nat) → List String → List Char → Except Fault (List String × List Char)
  | 0, _, cs => stop cs
  | fuel + 1, done, cs => do
    let (part, rest) ← simpleKey (skipBlank cs)
    match skipBlank rest with
    | '.' :: rest => keyParts fuel (part :: done) rest
    | rest => pure ((part :: done).reverse, rest)

/-- How deep values may be nested, and how many parts a key may have. -/
def depthLimit : Nat := 79

def key (cs : List Char) : Except Fault ((List String × String) × List Char) := do
  let (parts, rest) ← keyParts (cs.length + 1) [] cs
  if depthLimit < parts.length then throw .tooDeep
  match parts.getLast? with
  | some last => pure ((parts.dropLast, last), rest)
  | none => stop rest

def digitRun (isDigit : Char → Bool) : List Char → List Char → Except Fault (List Char × List Char)
  | done, [] => .ok (done.reverse, [])
  | done, c :: rest =>
    if isDigit c then digitRun isDigit (c :: done) rest
    else if c == '_' && !done.isEmpty then
      match rest with
      | d :: rest => if isDigit d then digitRun isDigit (d :: done) rest else .error .badNumber
      | [] => .error .badNumber
    else .ok (done.reverse, c :: rest)

def digits (isDigit : Char → Bool) (cs : List Char) : Except Fault (List Char × List Char) := do
  let (ds, rest) ← digitRun isDigit [] cs
  if ds.isEmpty then throw .badNumber
  pure (ds, rest)

def wholePart (cs : List Char) : Except Fault (List Char × List Char) :=
  match cs with
  | '0' :: rest => .ok (['0'], rest)
  | cs => digits Char.isDigit cs

def integerValue (n : Int) (rest : List Char) : Except Fault (Value × List Char) :=
  if -Int.pow 2 63 ≤ n ∧ n < Int.pow 2 63 then .ok (.integer n, rest) else .error .badNumber

def markedInteger (base : Nat) (cs : List Char) : Except Fault (Value × List Char) := do
  let (ds, rest) ← digits (fun c => (Text.digit? base c).isSome) cs
  integerValue ((Text.natural? base ds).getD 0) rest

def fractionPart : List Char → Except Fault (Option (List Char) × List Char)
  | '.' :: rest => do
    let (ds, rest) ← digits Char.isDigit rest
    pure (some ds, rest)
  | cs => .ok (none, cs)

def exponentDigits (negative : Bool) (cs : List Char) : Except Fault (Option Int × List Char) := do
  let (ds, rest) ← digits Char.isDigit cs
  let n : Int := Text.decimal ds
  pure (some (if negative then -n else n), rest)

def exponentPart (cs : List Char) : Except Fault (Option Int × List Char) :=
  match cs with
  | c :: rest =>
    if c == 'e' || c == 'E' then
      match rest with
      | '+' :: rest => exponentDigits false rest
      | '-' :: rest => exponentDigits true rest
      | rest => exponentDigits false rest
    else .ok (none, cs)
  | [] => .ok (none, cs)

/-- A number after its sign. A negative real that is too large is infinite, a positive one is an
error. -/
def unsignedNumber (negative : Bool) (cs : List Char) : Except Fault (Value × List Char) := do
  let (whole, rest) ← wholePart cs
  let (fraction, rest) ← fractionPart rest
  let (exponent, rest) ← exponentPart rest
  match fraction, exponent with
  | none, none =>
    let n : Int := Text.decimal whole
    integerValue (if negative then -n else n) rest
  | fraction, exponent =>
    let fraction := fraction.getD []
    match Binary64.ofDecimal negative (Text.decimal (whole ++ fraction))
        (exponent.getD 0 - fraction.length) with
    | some x => pure (.real (.finite x), rest)
    | none => if negative then pure (.real (.infinite true), rest) else throw .badNumber

def special? (negative : Bool) (cs : List Char) : Option (Value × List Char) :=
  if cs.take 3 == ['i', 'n', 'f'] then some (.real (.infinite negative), cs.drop 3)
  else if cs.take 3 == ['n', 'a', 'n'] then some (.real .nan, cs.drop 3)
  else none

def signedNumber (negative : Bool) (cs : List Char) : Except Fault (Value × List Char) :=
  match special? negative cs with
  | some r => .ok r
  | none => unsignedNumber negative cs

def number (cs : List Char) : Except Fault (Value × List Char) :=
  match cs with
  | '0' :: 'x' :: rest => markedInteger 16 rest
  | '0' :: 'o' :: rest => markedInteger 8 rest
  | '0' :: 'b' :: rest => markedInteger 2 rest
  | '+' :: rest => signedNumber false rest
  | '-' :: rest => signedNumber true rest
  | cs => signedNumber false cs

def fixed (n low high : Nat) (cs : List Char) : Except Fault (Nat × List Char) :=
  let ds := cs.take n
  let value := Text.decimal ds
  if ds.length == n && ds.all Char.isDigit && low ≤ value && value ≤ high then
    .ok (value, cs.drop n)
  else .error .badDate

def mark (c : Char) : List Char → Except Fault (List Char)
  | d :: rest => if d == c then .ok rest else .error .badDate
  | [] => .error .badDate

def padded (n value : Nat) : List Char :=
  let ds := Nat.toDigits 10 value
  List.replicate (n - ds.length) '0' ++ ds

def isLeapYear (year : Nat) : Bool := year % 4 == 0 && (year % 100 != 0 || year % 400 == 0)

def daysInMonth (year month : Nat) : Nat :=
  if month == 2 then (if isLeapYear year then 29 else 28)
  else if [4, 6, 9, 11].contains month then 30
  else 31

def date (cs : List Char) : Except Fault (List Char × List Char) := do
  let (year, rest) ← fixed 4 0 9999 cs
  let rest ← mark '-' rest
  let (month, rest) ← fixed 2 1 12 rest
  let rest ← mark '-' rest
  let (day, rest) ← fixed 2 1 31 rest
  if daysInMonth year month < day then throw .badDate
  pure (padded 4 year ++ '-' :: padded 2 month ++ '-' :: padded 2 day, rest)

/-- A fraction of a second: nine digits count, and zeros at the end are not written. -/
def secondFraction (cs : List Char) : Except Fault (List Char × List Char) :=
  match cs with
  | '.' :: rest =>
    let ds := rest.takeWhile Char.isDigit
    let kept := ((ds.take 9).reverse.dropWhile (· == '0')).reverse
    if ds.isEmpty then .ok ([], cs)
    else .ok (if kept.isEmpty then [] else '.' :: kept, rest.drop ds.length)
  | cs => .ok ([], cs)

def time (cs : List Char) : Except Fault (List Char × List Char) := do
  let (hour, rest) ← fixed 2 0 23 cs
  let rest ← mark ':' rest
  let (minute, rest) ← fixed 2 0 59 rest
  let rest ← mark ':' rest
  let (second, rest) ← fixed 2 0 60 rest
  let (fraction, rest) ← secondFraction rest
  pure (padded 2 hour ++ ':' :: padded 2 minute ++ ':' :: padded 2 second ++ fraction, rest)

/-- An offset from universal time, if there is one. No offset is written with a plus sign. -/
def offset (cs : List Char) : Except Fault (List Char × List Char) :=
  match cs with
  | c :: rest =>
    if c == 'Z' || c == 'z' then .ok (['Z'], rest)
    else if c == '+' || c == '-' then do
      let (hour, rest) ← fixed 2 0 23 rest
      let rest ← mark ':' rest
      let (minute, rest) ← fixed 2 0 59 rest
      let sign := if hour == 0 && minute == 0 then '+' else c
      pure (sign :: padded 2 hour ++ ':' :: padded 2 minute, rest)
    else .ok ([], cs)
  | [] => .ok ([], cs)

def startsDate (cs : List Char) : Bool :=
  (cs.take 4).length == 4 && (cs.take 4).all Char.isDigit && cs[4]? == some '-'

def startsTime (cs : List Char) : Bool :=
  (cs.take 2).length == 2 && (cs.take 2).all Char.isDigit && cs[2]? == some ':'

def isDateJoint (c : Char) : Bool := c == 'T' || c == 't' || c == ' '

def dateTime (cs : List Char) : Except Fault (Value × List Char) := do
  if startsTime cs then do
    let (t, rest) ← time cs
    pure (.date (String.ofList t), rest)
  else do
    let (d, rest) ← date cs
    match rest with
    | c :: more =>
      if isDateJoint c && startsTime more then do
        let (t, rest) ← time more
        let (o, rest) ← offset rest
        pure (.date (String.ofList (d ++ 'T' :: t ++ o)), rest)
      else pure (.date (String.ofList d), rest)
    | [] => pure (.date (String.ofList d), [])

end TwigPrinter.Toml
