import CloudTemplate.Json.Outline
import CloudTemplate.Text.Quoted

/-!
# Why a document is refused

A document is refused for a fault of its text or for a value of the wrong kind.  `Cause` lists the
reasons and `Cause.message` words them.  A `Failure` is a cause with the number of bytes taken when
it was noticed; a cause that concerns a whole record is noticed first and placed when the record is
left, so its offset may still be open.

A value that is in memory has no places, and `ReadError` therefore carries a line and a column only
for documents read from text.
-/

namespace CloudTemplate

/-- What stands in a document where something else is expected. -/
inductive Found where
  | null
  | bool (value : Bool)
  | integer (value : Int)
  | real (value : Double)
  | text (value : String)
  | list
  | map
deriving DecidableEq

/-- The wording of what was found. -/
def Found.description : Found → String
  | .null => "null"
  | .bool value => if value then "boolean `true`" else "boolean `false`"
  | .integer value => "integer `" ++ toString value ++ "`"
  | .real value => "floating point `" ++ String.ofList (Layout.json.write value) ++ "`"
  | .text value => "string " ++ quoted value
  | .list => "sequence"
  | .map => "map"

/-- The reasons for refusing a document. -/
inductive Cause where
  /-- The text is no JSON. -/
  | malformed (error : SyntaxError)
  /-- A value of another kind was expected. -/
  | wrongType (found : Found) (expected : String)
  /-- The kind is right and the value is not. -/
  | wrongValue (found : Found) (expected : String)
  /-- A record lacks a field. -/
  | missingField (name : String)
  /-- A record has a field twice. -/
  | duplicateField (name : String)
  /-- A record written as a list has too few or too many items. -/
  | wrongLength (count : Nat) (expected : String)
  /-- Neither one name nor a list of names. -/
  | neitherOneNorMany
deriving DecidableEq

/-- The wording of a cause. -/
def Cause.message : Cause → String
  | .malformed error => error.message
  | .wrongType found expected =>
    "invalid type: " ++ found.description ++ ", expected " ++ expected
  | .wrongValue found expected =>
    "invalid value: " ++ found.description ++ ", expected " ++ expected
  | .missingField name => "missing field `" ++ name ++ "`"
  | .duplicateField name => "duplicate field `" ++ name ++ "`"
  | .wrongLength count expected => "invalid length " ++ toString count ++ ", expected " ++ expected
  | .neitherOneNorMany => "data did not match any variant of untagged enum OneOrMany"

/-- A cause and the number of bytes taken when it was noticed, if that is settled. -/
structure Failure where
  cause : Cause
  offset : Option Nat
deriving DecidableEq

namespace Failure

/-- A problem of the text is a failure at its offset. -/
def ofProblem (problem : Problem) : Failure := ⟨.malformed problem.error, some problem.offset⟩

/-- Places a failure that has no place yet. -/
def placedAt (failure : Failure) (offset : Nat) : Failure :=
  ⟨failure.cause, failure.offset.or (some offset)⟩

end Failure

/-- The refusal of a document. -/
structure ReadError where
  /-- Why the document is refused. -/
  cause : Cause
  /-- The line and the column, for a document read from text. -/
  place : Option (Nat × Nat)
deriving DecidableEq

/-- The report of a refusal. -/
def ReadError.message (e : ReadError) : String :=
  match e.place with
  | none => e.cause.message
  | some (line, column) =>
    e.cause.message ++ " at line " ++ toString line ++ " column " ++ toString column

end CloudTemplate
