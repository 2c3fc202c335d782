import TwigPrinter.Decimal.Number
/-!
The value of a structured document, whatever notation it was written in. An object is the list of
its members as written; where a name is repeated, `Value.lastWins` keeps the last member of that
name.
-/
namespace TwigPrinter

inductive Value where
  | null
  | bool (value : Bool)
  | number (value : Number)
  | string (value : String)
  | array (items : List Value)
  | object (members : List (String × Value))

namespace Value

def member? (v : Value) (name : String) : Option Value :=
  match v with
  | .object members => members.lookup name
  | _ => none

/-- Sets one member: a repeated name keeps its first place and takes the new value. -/
def putMember (name : String) (v : Value) : List (String × Value) → List (String × Value)
  | [] => [(name, v)]
  | (key, old) :: rest =>
    if key = name then (name, v) :: rest else (key, old) :: putMember name v rest

mutual

/-- Resolves repeated member names in favour of the last one, at every depth. -/
def lastWins : Value → Value
  | .array items => .array (lastWinsItems items)
  | .object members => .object (lastWinsMembers [] members)
  | v => v

def lastWinsItems : List Value → List Value
  | [] => []
  | v :: rest => v.lastWins :: lastWinsItems rest

def lastWinsMembers (done : List (String × Value)) : List (String × Value) → List (String × Value)
  | [] => done
  | (key, v) :: rest => lastWinsMembers (putMember key v.lastWins done) rest

end

end Value
end TwigPrinter
