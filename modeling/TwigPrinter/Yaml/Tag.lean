import TwigPrinter.Text.Digits
/-!
Tags of YAML nodes. A tag is a sequence of bytes and not a text: percent escapes in it stand for
bytes that have the shape of encoded characters, but need not encode any. A zero byte ends it.
-/
namespace TwigPrinter.Yaml

structure Tag where
  bytes : List UInt8
  deriving DecidableEq, Repr

namespace Tag

def ofString (s : String) : Tag := ⟨s.toUTF8.data.toList⟩

def ofBytes (bytes : List UInt8) : Tag := ⟨bytes.takeWhile (· != 0)⟩

def isEmpty (t : Tag) : Bool := t.bytes.isEmpty

def append (s t : Tag) : Tag := ⟨s.bytes ++ t.bytes⟩

def mark : Tag := ofString "!"

def standardStart : Tag := ofString "tag:yaml.org,2002:"

def standard (name : String) : Tag := standardStart.append (ofString name)

/-- Tags of applications start with an exclamation mark. -/
def isLocal (t : Tag) : Bool := t.bytes.head? == some 0x21

def isText (t : Tag) : Bool := (String.fromUTF8? ⟨t.bytes.toArray⟩).isSome

def isApplication (t : Tag) : Bool := t.isLocal && t.isText

end Tag

def percentByte? : List Char → Option (UInt8 × List Char)
  | '%' :: a :: b :: rest => (Text.natural? 16 [a, b]).map fun n => (n.toUInt8, rest)
  | _ => none

def laterBytes? (b : UInt8) : Option Nat :=
  let n := b.toNat
  if n < 0x80 then some 0
  else if 0xc0 ≤ n && n < 0xe0 then some 1
  else if 0xe0 ≤ n && n < 0xf0 then some 2
  else if 0xf0 ≤ n && n < 0xf8 then some 3
  else none

def percentLater? : Nat → List Char → Option (List UInt8)
  | 0, _ => some []
  | n + 1, cs => do
    let (b, rest) ← percentByte? cs
    let bs ← percentLater? n rest
    if 0x80 ≤ b.toNat && b.toNat < 0xc0 then some (b :: bs) else none

def percentBytes? (cs : List Char) : Option (List UInt8) := do
  let (b, rest) ← percentByte? cs
  let n ← laterBytes? b
  let bs ← percentLater? n rest
  pure (b :: bs)

end TwigPrinter.Yaml
