import RuleRegex.Base64
import RuleRegex.Json.Reader
import RuleRegex.Json.Writer
import RuleRegex.Source.Basic

/-!
# Sources as documents

A source is stored as a JSON object with the pattern in Base64 and the case flag.

## Main definitions

* `Document.ofSource`, `Document.toSource` — the document of a source, and the source of a document.
* `Document.write`, `Document.read` — the same with the text of the document.
-/

namespace RuleRegex

namespace Document

def patternField : String := "reString"

def flagField : String := "reCaseSensitive"

inductive Fault where
  | notObject (kind : String)
  | missing (field : String)
  | patternNotString
  | flagNotBoolean
  | base64 (fault : Base64.Fault)
  deriving DecidableEq, Repr

def Fault.message : Fault → String
  | notObject kind => "Expected an object, got " ++ kind
  | missing field => "Missing field '" ++ field ++ "'"
  | patternNotString => patternField ++ " must be a string"
  | flagNotBoolean => flagField ++ " must be a boolean"
  | base64 fault => "Invalid base64 in " ++ patternField ++ ": " ++ fault.message

def ofSource (s : Source) : Json :=
  .ofMembers [(patternField, .str ((Base64.encode s.pattern).map CodePoint.ofChar)),
    (flagField, .bool s.caseSensitive)]

/-- The source of a document. Members beside the two do not matter. -/
def toSource (v : Json) : Except Fault Source :=
  match v with
  | .obj _ =>
    match v.member? patternField, v.member? flagField with
    | none, _ => .error (.missing patternField)
    | some _, none => .error (.missing flagField)
    | some (.str text), some (.bool flag) =>
      match Base64.decode text with
      | .ok pattern => .ok ⟨pattern, flag⟩
      | .error f => .error (.base64 f)
    | some (.str _), some _ => .error .flagNotBoolean
    | some _, some _ => .error .patternNotString
  | _ => .error (.notObject v.kind)

def write (s : Source) : List Char := (ofSource s).write

inductive Failure where
  | fault (f : Fault)
  | unread (f : Json.Failure)
  deriving DecidableEq, Repr

def Failure.message : Failure → String
  | fault f => f.message
  | unread (.malformed f line column position) =>
    "Malformed JSON: " ++ f.message ++ ": line " ++ toString line ++ " column " ++ toString column ++
      " (char " ++ toString position ++ ")"
  | unread (.tooManyDigits count) =>
    "Exceeds the limit (" ++ toString Text.digitLimit ++
      " digits) for integer string conversion: value has " ++ toString count ++
      " digits; use sys.set_int_max_str_digits() to increase the limit"
  | unread .tooDeep => ""

def read (text : List CodePoint) (room : Json.Room := .usual) : Except Failure Source :=
  match Json.read text room with
  | .error f => .error (.unread f)
  | .ok v => (toSource v).mapError .fault

end Document

end RuleRegex
