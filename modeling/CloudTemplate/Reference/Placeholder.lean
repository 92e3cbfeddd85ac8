import CloudTemplate.Reference.Basic

/-!
# Placeholders

The text of an `Fn::Sub` names things between `${` and the next `}`.  A body that is blank names
nothing, and one that begins with an exclamation mark is text meant literally.  A name that begins
with `AWS::` is taken whole; any other ends at its first dot, behind which an attribute stands.  A
placeholder that is not closed ends the reading.
-/

namespace CloudTemplate

/-- The bodies of the placeholders of a text.  Inside a placeholder, the first argument holds the
characters of its body so far, last first. -/
def placeholderBodies : Option (List Char) → List Char → List (List Char)
  | _, [] => []
  | some body, c :: rest =>
    if c = '\x7d' then body.reverse :: placeholderBodies none rest
    else placeholderBodies (some (c :: body)) rest
  | none, '$' :: '\x7b' :: rest => placeholderBodies (some []) rest
  | none, _ :: rest => placeholderBodies none rest

/-- The name in the body of a placeholder. -/
def placeholderName? (body : List Char) : Option String :=
  match trimBlanks body with
  | [] => none
  | '!' :: _ => none
  | name =>
    if "AWS::".toList.isPrefixOf name then some (String.ofList name)
    else some (String.ofList (name.takeWhile (· != '.')))

/-- The names that the placeholders of a text use, in order. -/
def subVariables (text : String) : List String :=
  (placeholderBodies none text.toList).filterMap placeholderName?

end CloudTemplate
