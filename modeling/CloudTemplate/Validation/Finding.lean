import CloudTemplate.Catalog.Rule
import CloudTemplate.Document.Failure
import CloudTemplate.Reference.Basic
import CloudTemplate.Template.Basic
import CloudTemplate.Validation.Code

/-!
# Findings

A finding is one thing that validation has to say about a template.  `Finding` lists them with their
particulars; the code, the resource and the property that a finding is about, and its wording, are
read off it.
-/

namespace CloudTemplate

/-- The largest description of a template, in bytes. -/
def descriptionLimit : Nat := 1024

/-- The longest logical id, in bytes. -/
def logicalIdLimit : Nat := 255

/-- How far an ingress rule opens a group to the whole internet. -/
inductive Exposure where
  | allPorts (source : String)
  | onePort (source : String) (port : Int)
  | ports (source : String) (first last : Int)
deriving DecidableEq

/-- The wording of an exposure. -/
def Exposure.message : Exposure → String
  | .allPorts source =>
    "Ingress rule allows " ++ source ++ " on all ports; restrict the port range or source"
  | .onePort source port =>
    "Ingress rule allows " ++ source ++ " on port " ++ toString port ++
      "; restrict the source CIDR"
  | .ports source first last =>
    "Ingress rule allows " ++ source ++ " on ports " ++ toString first ++ "-" ++ toString last ++
      "; restrict the source CIDR"

/-- What validation may find. -/
inductive Finding where
  /-- The text of the template cannot be read. -/
  | unreadable (error : ReadError)
  /-- The format version is another. -/
  | formatVersion (found : String)
  /-- The description is too long. -/
  | longDescription (bytes : Nat)
  /-- There are no resources. -/
  | noResources
  /-- The id of a resource has other characters than letters and digits. -/
  | invalidLogicalId (id : String)
  /-- The id of a resource is too long. -/
  | longLogicalId (id : String)
  /-- The type of a resource is not in the catalog. -/
  | unknownType (id typeName : String)
  /-- A resource lacks a property. -/
  | missingProperty (id property : String)
  /-- A resource has a property that the catalog does not know. -/
  | unknownProperty (id property typeName : String)
  /-- The value of a property breaks its rule. -/
  | invalidProperty (id property : String) (violation : Violation)
  /-- A resource must come after one that is not there. -/
  | danglingDependency (id target : String)
  /-- A property names something that is not there. -/
  | danglingReference (id property : String) (reference : Reference)
  /-- A resource has properties too deep to be scanned. -/
  | referenceDepth (id : String) (limit : Nat)
  /-- An output names something that is not there. -/
  | danglingOutput (output : String) (reference : Reference)
  /-- Resources depend on each other in a circle; the path ends where it begins. -/
  | circularDependency (first : String) (more : List String)
  /-- A chain of dependencies is too long to be searched. -/
  | dependencyDepth (limit : Nat)
  /-- A bucket is not encrypted. -/
  | unencryptedBucket (id : String)
  /-- A database is not encrypted. -/
  | unencryptedDatabase (id : String)
  /-- A database is in one zone. -/
  | singleZoneDatabase (id : String)
  /-- A function may take long. -/
  | longTimeout (id : String) (seconds : Binary64)
  /-- A rule opens a group to the whole internet. -/
  | openIngress (id property : String) (exposure : Exposure)
deriving DecidableEq

namespace Finding

/-- The code of a finding. -/
def code : Finding → Code
  | .unreadable _ => .unreadable
  | .formatVersion _ => .formatVersion
  | .longDescription _ => .longDescription
  | .noResources => .noResources
  | .invalidLogicalId _ => .invalidLogicalId
  | .longLogicalId _ => .longLogicalId
  | .unknownType _ _ => .unknownType
  | .missingProperty _ _ => .missingProperty
  | .unknownProperty _ _ _ => .unknownProperty
  | .invalidProperty _ _ _ => .invalidProperty
  | .danglingDependency _ _ => .danglingDependency
  | .danglingReference _ _ _ => .danglingReference
  | .referenceDepth _ _ => .referenceDepth
  | .danglingOutput _ _ => .danglingOutput
  | .circularDependency _ _ => .circularDependency
  | .dependencyDepth _ => .dependencyDepth
  | .unencryptedBucket _ => .unencryptedBucket
  | .unencryptedDatabase _ => .unencryptedDatabase
  | .singleZoneDatabase _ => .singleZoneDatabase
  | .longTimeout _ _ => .longTimeout
  | .openIngress _ _ _ => .openIngress

/-- Whether a finding makes a template invalid. -/
def isError (f : Finding) : Bool := f.code.isError

/-- The resource that a finding is about. -/
def resource? : Finding → Option String
  | .unreadable _ | .formatVersion _ | .longDescription _ | .noResources | .danglingOutput _ _
  | .dependencyDepth _ => none
  | .invalidLogicalId id | .longLogicalId id | .unknownType id _ | .missingProperty id _
  | .unknownProperty id _ _ | .invalidProperty id _ _ | .danglingDependency id _
  | .danglingReference id _ _ | .referenceDepth id _ | .circularDependency id _
  | .unencryptedBucket id | .unencryptedDatabase id | .singleZoneDatabase id | .longTimeout id _
  | .openIngress id _ _ => some id

/-- The property, or the output, that a finding is about. -/
def property? : Finding → Option String
  | .missingProperty _ property | .unknownProperty _ property _ | .invalidProperty _ property _
  | .danglingReference _ property _ | .openIngress _ property _ => some property
  | .danglingOutput output _ => some output
  | .danglingDependency _ _ => some "DependsOn"
  | .unencryptedBucket _ => some "BucketEncryption"
  | .unencryptedDatabase _ => some "StorageEncrypted"
  | .singleZoneDatabase _ => some "MultiAZ"
  | .longTimeout _ _ => some "Timeout"
  | _ => none

/-- The wording of a finding. -/
def message : Finding → String
  | .unreadable error => "Template could not be parsed: " ++ error.message
  | .formatVersion found =>
    "AWSTemplateFormatVersion must be '" ++ CloudTemplate.formatVersion ++ "', got '" ++ found ++
      "'"
  | .longDescription bytes =>
    "Description is " ++ toString bytes ++ " bytes; the limit is " ++ toString descriptionLimit
  | .noResources => "Template must declare at least one resource"
  | .invalidLogicalId id =>
    "Logical id '" ++ id ++ "' must start with a letter and contain only letters and digits"
  | .longLogicalId id =>
    "Logical id is " ++ toString id.utf8ByteSize ++ " characters; the limit is " ++
      toString logicalIdLimit
  | .unknownType _ typeName =>
    "Resource type '" ++ typeName ++ "' is not in the catalog; properties were not checked"
  | .missingProperty _ property => "Required property '" ++ property ++ "' is missing"
  | .unknownProperty _ property typeName =>
    "Property '" ++ property ++ "' is not recognized for " ++ typeName
  | .invalidProperty _ _ violation => violation.message
  | .danglingDependency _ target => "DependsOn names undefined resource '" ++ target ++ "'"
  | .danglingReference _ _ reference =>
    reference.description ++ " points at undefined resource '" ++ reference.target ++ "'"
  | .referenceDepth _ limit =>
    "Properties nest deeper than " ++ toString limit ++
      " levels; references below were not checked"
  | .danglingOutput output reference =>
    "Output '" ++ output ++ "' " ++ reference.description ++ " points at undefined resource '" ++
      reference.target ++ "'"
  | .circularDependency first more =>
    "Circular dependency detected: " ++ " -> ".intercalate (first :: more)
  | .dependencyDepth limit =>
    "Dependency chain is deeper than " ++ toString limit ++ "; cycle detection was cut short"
  | .unencryptedBucket _ => "S3 bucket has no default encryption configured"
  | .unencryptedDatabase _ => "RDS instance storage is not encrypted"
  | .singleZoneDatabase _ => "RDS instance is not Multi-AZ; consider MultiAZ for production"
  | .longTimeout _ seconds =>
    "Lambda timeout of " ++ seconds.display ++
      "s is long; consider Step Functions for long-running work"
  | .openIngress _ _ exposure => exposure.message

/-- A finding on one line: its code, what it is about, and its wording. -/
def line (f : Finding) : String :=
  let place := match f.resource?, f.property? with
    | some id, some property => " " ++ id ++ "." ++ property
    | some id, none => " " ++ id
    | none, some property => " " ++ property
    | none, none => ""
  "[" ++ f.code.text ++ "]" ++ place ++ ": " ++ f.message

/-- A finding as JSON; what it is about is left out where it is about nothing in particular. -/
def toJson (f : Finding) : Json :=
  let part (name : String) (value : Option String) : List (String × Json) :=
    match value with
    | some value => [(name, .string value)]
    | none => []
  .object ([("code", .string f.code.text),
      ("severity", .string (if f.isError then "error" else "warning")),
      ("message", .string f.message)] ++
    part "resourceId" f.resource? ++ part "property" f.property?)

end Finding

end CloudTemplate
