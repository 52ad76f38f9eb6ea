/-!
# JSON values

A number is kept as the text it was written with: nothing here computes with numbers.
-/
namespace SqlSchema

inductive Json
  | null
  | bool (value : Bool)
  | number (text : String)
  | string (value : String)
  | array (items : List Json)
  | object (fields : List (String × Json))
deriving Inhabited, Repr

namespace Json

/-- The value of the last field of that name. -/
def field? (name : String) : Json → Option Json
  | object fields => (fields.reverse.find? (fun f => f.1 == name)).map (·.2)
  | _ => none

def string? : Json → Option String
  | string s => some s
  | _ => none

def bool? : Json → Option Bool
  | bool b => some b
  | _ => none

def array? : Json → Option (List Json)
  | array items => some items
  | _ => none

end Json

end SqlSchema
