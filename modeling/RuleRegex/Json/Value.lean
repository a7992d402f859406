import RuleRegex.Text.CodePoint

/-!
# JSON values

A value keeps what a document says: members in the order written, numbers with their text if they are
not integers.

## Main definitions

* `Json` — a value.
* `Json.member?` — the member of an object; of members with one name the last counts.
* `Json.kind` — the word for a value's kind.
-/

namespace RuleRegex

inductive Json where
  | null
  | bool (b : Bool)
  | int (i : Int)
  /-- A number with a fraction or an exponent, or one of the words for what is no number. -/
  | real (text : List CodePoint)
  | str (text : List CodePoint)
  | arr (items : List Json)
  | obj (members : List (List CodePoint × Json))
  deriving Inhabited

namespace Json

def ofString (s : String) : Json := .str (CodePoint.ofString s)

def ofMembers (members : List (String × Json)) : Json :=
  .obj (members.map fun (name, v) => (CodePoint.ofString name, v))

def lastMember? (name : List CodePoint) : List (List CodePoint × Json) → Option Json
  | [] => none
  | (n, v) :: rest => (lastMember? name rest).or (if n = name then some v else none)

def member? (v : Json) (name : String) : Option Json :=
  match v with
  | .obj members => lastMember? (CodePoint.ofString name) members
  | _ => none

def kind : Json → String
  | .null => "NoneType"
  | .bool _ => "bool"
  | .int _ => "int"
  | .real _ => "float"
  | .str _ => "str"
  | .arr _ => "list"
  | .obj _ => "dict"

end Json

end RuleRegex
