import TwigPrinter.Document.Value
import TwigPrinter.Text.Digits
/-!
JSON texts. The grammar is the strict one: four blank characters, no comments, no comma before a
closing bracket, no control characters in strings, paired surrogates, and nothing after the value.

Integers of 64 bits are read exactly, any other number as the nearest binary one, which has to be
finite. Minus zero is such a number.
-/
namespace TwigPrinter.Json

inductive Fault where
  | endOfInput
  | unexpected (c : Char)
  | badEscape
  | loneSurrogate
  | controlCharacter
  | badNumber
  | numberTooLarge
  | tooDeep
  deriving DecidableEq, Repr

/-- The wording is this library's own: other readers of JSON say it in other words. -/
def Fault.message : Fault → String
  | .endOfInput => "unexpected end of input"
  | .unexpected c => "unexpected character " ++ Char.quote c
  | .badEscape => "invalid escape"
  | .loneSurrogate => "lone surrogate in a string"
  | .controlCharacter => "control character in a string"
  | .badNumber => "invalid number"
  | .numberTooLarge => "number out of range"
  | .tooDeep => "nesting too deep"

def isBlank (c : Char) : Bool := c == ' ' || c == '\t' || c == '\n' || c == '\r'

def skipBlank (cs : List Char) : List Char := cs.dropWhile isBlank

def stop {α : Type} : List Char → Except Fault α
  | [] => .error .endOfInput
  | c :: _ => .error (.unexpected c)

def codeUnit? (a b c d : Char) : Option Nat := Text.natural? 16 [a, b, c, d]

def escaped? : Char → Option Char
  | '"' => some '"'
  | '\\' => some '\\'
  | '/' => some '/'
  | 'b' => some '\x08'
  | 'f' => some '\x0c'
  | 'n' => some '\n'
  | 'r' => some '\r'
  | 't' => some '\t'
  | _ => none

def isHighSurrogate (n : Nat) : Bool := 0xd800 ≤ n && n < 0xdc00

def isLowSurrogate (n : Nat) : Bool := 0xdc00 ≤ n && n < 0xe000

/-- The rest of a string after its opening quote, with what was read so far in reverse. -/
def stringRest (done : List Char) : List Char → Except Fault (String × List Char)
  | [] => .error .endOfInput
  | '"' :: rest => .ok (String.ofList done.reverse, rest)
  | '\\' :: rest =>
    match rest with
    | 'u' :: a :: b :: c :: d :: rest =>
      match codeUnit? a b c d with
      | none => .error .badEscape
      | some high =>
        if isHighSurrogate high then
          match rest with
          | '\\' :: 'u' :: a :: b :: c :: d :: rest =>
            match codeUnit? a b c d with
            | none => .error .badEscape
            | some low =>
              if isLowSurrogate low then
                stringRest
                  (Char.ofNat (0x10000 + (high - 0xd800) * 0x400 + (low - 0xdc00)) :: done) rest
              else .error .loneSurrogate
          | _ => .error .loneSurrogate
        else if isLowSurrogate high then .error .loneSurrogate
        else stringRest (Char.ofNat high :: done) rest
    | c :: rest =>
      match escaped? c with
      | some c => stringRest (c :: done) rest
      | none => .error .badEscape
    | [] => .error .endOfInput
  | c :: rest =>
    if c.toNat < 0x20 then .error .controlCharacter else stringRest (c :: done) rest

structure Numeral where
  negative : Bool
  whole : List Char
  fraction : Option (List Char)
  exponent : Option Int

def fractionPart : List Char → Except Fault (Option (List Char) × List Char)
  | '.' :: rest =>
    let digits := rest.takeWhile Char.isDigit
    if digits.isEmpty then .error .badNumber
    else .ok (some digits, rest.dropWhile Char.isDigit)
  | cs => .ok (none, cs)

def exponentDigits (negative : Bool) (cs : List Char) : Except Fault (Option Int × List Char) :=
  let digits := cs.takeWhile Char.isDigit
  if digits.isEmpty then .error .badNumber
  else
    let n : Int := Text.decimal digits
    .ok (some (if negative then -n else n), cs.dropWhile Char.isDigit)

def exponentPart : List Char → Except Fault (Option Int × List Char)
  | c :: rest =>
    if c == 'e' || c == 'E' then
      match rest with
      | '+' :: rest => exponentDigits false rest
      | '-' :: rest => exponentDigits true rest
      | rest => exponentDigits false rest
    else .ok (none, c :: rest)
  | [] => .ok (none, [])

def numeral (negative : Bool) (cs : List Char) : Except Fault (Numeral × List Char) := do
  let whole := cs.takeWhile Char.isDigit
  if whole.isEmpty || (whole.head? == some '0' && 1 < whole.length) then throw .badNumber
  let (fraction, rest) ← fractionPart (cs.dropWhile Char.isDigit)
  let (exponent, rest) ← exponentPart rest
  pure (⟨negative, whole, fraction, exponent⟩, rest)

def isExact (negative : Bool) (n : Nat) : Bool :=
  if negative then n != 0 && n ≤ Nat.pow 2 63 else n < Nat.pow 2 64

def Numeral.value (x : Numeral) : Except Fault Number :=
  let n := Text.decimal x.whole
  if x.fraction.isNone && x.exponent.isNone && isExact x.negative n then
    .ok (.integer (if x.negative then -n else n))
  else
    let fraction := x.fraction.getD []
    let digits := Text.decimal (x.whole ++ fraction)
    match Binary64.ofDecimal x.negative digits (x.exponent.getD 0 - fraction.length) with
    | some r => .ok (.real r)
    | none => .error .numberTooLarge

def word (name : String) (v : Value) (cs : List Char) : Except Fault (Value × List Char) :=
  let n := name.length
  if cs.take n == name.toList then .ok (v, cs.drop n) else stop cs

mutual

/-- One value after blanks. `depth` is how many arrays and objects may still be opened; every call
takes one from `fuel`. -/
def value : (fuel depth : Nat) → List Char → Except Fault (Value × List Char)
  | 0, _, cs => stop cs
  | fuel + 1, depth, cs =>
    match skipBlank cs with
    | [] => .error .endOfInput
    | c :: rest =>
      if c == '"' then do
        let (s, rest) ← stringRest [] rest
        pure (.string s, rest)
      else if c == '[' then
        match depth with
        | 0 => .error .tooDeep
        | depth + 1 =>
          match skipBlank rest with
          | ']' :: rest => .ok (.array [], rest)
          | rest => items fuel depth [] rest
      else if c == '\x7b' then
        match depth with
        | 0 => .error .tooDeep
        | depth + 1 =>
          match skipBlank rest with
          | '\x7d' :: rest => .ok (.object [], rest)
          | rest => members fuel depth [] rest
      else if c == '-' then do
        let (x, rest) ← numeral true rest
        let x ← x.value
        pure (.number x, rest)
      else if c.isDigit then do
        let (x, rest) ← numeral false (c :: rest)
        let x ← x.value
        pure (.number x, rest)
      else if c == 't' then word "true" (.bool true) (c :: rest)
      else if c == 'f' then word "false" (.bool false) (c :: rest)
      else if c == 'n' then word "null" .null (c :: rest)
      else .error (.unexpected c)

def items : (fuel depth : Nat) → List Value → List Char → Except Fault (Value × List Char)
  | 0, _, _, cs => stop cs
  | fuel + 1, depth, done, cs => do
    let (v, rest) ← value fuel depth cs
    match skipBlank rest with
    | ',' :: rest => items fuel depth (v :: done) rest
    | ']' :: rest => pure (.array (v :: done).reverse, rest)
    | rest => stop rest

def members : (fuel depth : Nat) → List (String × Value) → List Char →
    Except Fault (Value × List Char)
  | 0, _, _, cs => stop cs
  | fuel + 1, depth, done, cs =>
    match skipBlank cs with
    | '"' :: rest => do
      let (name, rest) ← stringRest [] rest
      match skipBlank rest with
      | ':' :: rest => do
        let (v, rest) ← value fuel depth rest
        match skipBlank rest with
        | ',' :: rest => members fuel depth ((name, v) :: done) rest
        | '\x7d' :: rest => pure (.object ((name, v) :: done).reverse, rest)
        | rest => stop rest
      | rest => stop rest
    | rest => stop rest

end

def depthLimit : Nat := 127

/-- A text with the members of objects as they are written, repeated names included. -/
def parseWritten (depth : Nat) (text : String) : Except Fault Value := do
  let cs := text.toList
  let (v, rest) ← value (2 * cs.length + 2) depth cs
  match skipBlank rest with
  | [] => pure v
  | rest => stop rest

/-- The value of a document: of members with one name the last counts. -/
def parse (text : String) : Except Fault Value := do
  let v ← parseWritten depthLimit text
  pure v.lastWins

end TwigPrinter.Json
