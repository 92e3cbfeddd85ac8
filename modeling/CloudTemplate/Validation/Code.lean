/-!
# Codes of findings

Every finding has a stable code.  Its first letter tells an error, which makes a template invalid,
from a warning, which does not.
-/

namespace CloudTemplate

/-- The kinds of findings. -/
inductive Code where
  | unreadable
  | formatVersion
  | noResources
  | invalidLogicalId
  | longLogicalId
  | longDescription
  | missingProperty
  | invalidProperty
  | unknownType
  | unknownProperty
  | danglingDependency
  | danglingReference
  | circularDependency
  | danglingOutput
  | referenceDepth
  | dependencyDepth
  | unencryptedBucket
  | unencryptedDatabase
  | singleZoneDatabase
  | longTimeout
  | openIngress
deriving DecidableEq

namespace Code

/-- The text of a code. -/
def text : Code → String
  | .unreadable => "E0001"
  | .formatVersion => "E1001"
  | .noResources => "E1002"
  | .invalidLogicalId => "E1003"
  | .longLogicalId => "E1004"
  | .longDescription => "E1005"
  | .missingProperty => "E2001"
  | .invalidProperty => "E2002"
  | .unknownType => "W2001"
  | .unknownProperty => "W2002"
  | .danglingDependency => "E3001"
  | .danglingReference => "E3002"
  | .circularDependency => "E3003"
  | .danglingOutput => "E3004"
  | .referenceDepth => "W3001"
  | .dependencyDepth => "W3002"
  | .unencryptedBucket => "W4001"
  | .unencryptedDatabase => "W4002"
  | .singleZoneDatabase => "W4003"
  | .longTimeout => "W4004"
  | .openIngress => "W4005"

/-- Whether a finding of the kind makes a template invalid. -/
def isError : Code → Bool
  | .unreadable | .formatVersion | .noResources | .invalidLogicalId | .longLogicalId
  | .longDescription | .missingProperty | .invalidProperty | .danglingDependency
  | .danglingReference | .circularDependency | .danglingOutput => true
  | .unknownType | .unknownProperty | .referenceDepth | .dependencyDepth | .unencryptedBucket
  | .unencryptedDatabase | .singleZoneDatabase | .longTimeout | .openIngress => false

end Code

end CloudTemplate
