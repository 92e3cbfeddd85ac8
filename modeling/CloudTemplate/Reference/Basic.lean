import CloudTemplate.Text.Ascii
import CloudTemplate.Text.Blank

/-!
# References

A value names other resources in three ways: by reference, by attribute, and by a placeholder in the
text of an `Fn::Sub`.  This module has the three kinds and what each may name;
`Reference/Placeholder` reads placeholders, and `Reference/Scan` collects all references of a value.
-/

namespace CloudTemplate

/-- A name used inside a value. -/
inductive Reference where
  /-- The resource or parameter itself. -/
  | ref (target : String)
  /-- An attribute of a resource. -/
  | getAtt (target attributeName : String)
  /-- A placeholder of an `Fn::Sub`. -/
  | sub (target : String)
deriving DecidableEq

namespace Reference

/-- The name that is used. -/
def target : Reference → String
  | .ref target | .getAtt target _ | .sub target => target

/-- Whether the name may be that of a parameter.  Attributes belong to resources alone. -/
def mayNameParameter : Reference → Bool
  | .getAtt _ _ => false
  | _ => true

/-- The reference as a message shows it. -/
def description : Reference → String
  | .ref target => "Ref " ++ target
  | .getAtt target attributeName => "GetAtt " ++ target ++ "." ++ attributeName
  | .sub target => "Fn::Sub $\x7b" ++ target ++ "\x7d"

end Reference

/-- The names that the deployment itself supplies. -/
def pseudoParameters : List String :=
  ["AWS::AccountId", "AWS::Region", "AWS::StackId", "AWS::StackName", "AWS::Partition",
    "AWS::URLSuffix", "AWS::NoValue", "AWS::NotificationARNs"]

/-- Whether a name is supplied by the deployment. -/
def isPseudoParameter (name : String) : Bool := pseudoParameters.contains name

end CloudTemplate
