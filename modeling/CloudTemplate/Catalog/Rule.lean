import CloudTemplate.Catalog.Bounds
import CloudTemplate.Catalog.Ingress
import CloudTemplate.Catalog.Pattern

/-!
# Rules for properties

A `Rule` says what the value of a property must be, and `Rule.violation?` tests a value against it.
What it answers is a `Violation`, the reason with its particulars; `Violation.message` words it.

The rules are first-order data, so that the catalog is a table that can be inspected and searched.
-/

namespace CloudTemplate

/-- What the value of a property must be. -/
inductive Rule where
  /-- An address block. -/
  | cidrBlock
  /-- One of some texts. -/
  | oneOf (label : String) (allowed : List String)
  /-- A truth value. -/
  | boolean
  /-- A text that is neither empty nor longer than 255 characters. -/
  | groupDescription
  /-- A list of ingress rules. -/
  | ingressRules
  /-- The name of a bucket. -/
  | bucketName
  /-- A map whose `Status` turns versions on or off. -/
  | versioning
  /-- A whole number within bounds. -/
  | bounded (label : String) (bounds : Bounds)
  /-- A text that is not empty and has no blanks. -/
  | handler
  /-- A map that says where the code of a function is. -/
  | code
  /-- A map with statements. -/
  | policyDocument
  /-- A text that begins with another. -/
  | beginning (label lead : String)
  /-- A list of one or two keys. -/
  | keySchema
  /-- A list of definitions of key attributes. -/
  | attributeDefinitions
  /-- A type of machine. -/
  | machineType
  /-- A text that is not blank. -/
  | apiName
  /-- The name of a topic. -/
  | topicName
deriving DecidableEq

/-- Why a value breaks a rule. -/
inductive Violation where
  | notAText (label : String)
  | notAList (label : String)
  | notListed (label value : String) (allowed : List String)
  | notABoolean
  | emptyText (label : String)
  | noAddressBlock (value : String)
  | addressBlockOutOfRange (value : String)
  | descriptionTooLong
  | rulesNotAList
  | ruleNotAMap (index : Nat)
  | ruleWithoutProtocol (index : Nat)
  | rulePort (index : Nat) (port : String) (fault : NumberFault)
  | bucketNameLength (bytes : Nat)
  | bucketNameCharacters
  | bucketNameAdjacentDots
  | bucketNameAddress
  | bucketNameReserved
  | noVersioningStatus
  | number (label : String) (fault : NumberFault)
  | handlerBlank (value : String)
  | codeNotAMap
  | codeIncomplete
  | noStatement
  | wrongBeginning (label lead value : String)
  | keyCount (count : Nat)
  | elementLacks (label name : String)
  | noMachineType (value : String)
  | blankName
  | noTopicName (value : String)
deriving DecidableEq

/-- The wording of a violation. -/
def Violation.message : Violation → String
  | .notAText label => label ++ " must be a string"
  | .notAList label => label ++ " must be a list"
  | .notListed label value allowed =>
    label ++ " '" ++ value ++ "' is not one of: " ++ ", ".intercalate allowed
  | .notABoolean => "Value must be a boolean"
  | .emptyText label => label ++ " must not be empty"
  | .noAddressBlock value => "Invalid CIDR block format: " ++ value
  | .addressBlockOutOfRange value => "CIDR block out of range: " ++ value
  | .descriptionTooLong => "GroupDescription must be 255 characters or fewer"
  | .rulesNotAList => "SecurityGroupIngress must be a list of rules"
  | .ruleNotAMap index => "Ingress rule " ++ toString index ++ " must be an object"
  | .ruleWithoutProtocol index => "Ingress rule " ++ toString index ++ " is missing IpProtocol"
  | .rulePort index port fault =>
    "Ingress rule " ++ toString index ++ ": " ++ fault.message port
  | .bucketNameLength bytes => "Bucket name must be 3-63 characters, got " ++ toString bytes
  | .bucketNameCharacters =>
    "Bucket name may only contain lowercase letters, digits, dots and hyphens, " ++
      "and must begin and end with a letter or digit"
  | .bucketNameAdjacentDots => "Bucket name must not contain adjacent periods"
  | .bucketNameAddress => "Bucket name must not be formatted as an IP address"
  | .bucketNameReserved => "Bucket name uses a reserved prefix or suffix"
  | .noVersioningStatus => "VersioningConfiguration requires Status"
  | .number label fault => fault.message label
  | .handlerBlank value => "Handler must not contain whitespace: '" ++ value ++ "'"
  | .codeNotAMap => "Code must be an object"
  | .codeIncomplete => "Code must specify S3Bucket and S3Key, ZipFile, or ImageUri"
  | .noStatement => "Policy document requires a Statement"
  | .wrongBeginning label lead value =>
    label ++ " must start with '" ++ lead ++ "', got '" ++ value ++ "'"
  | .keyCount count => "KeySchema must have 1 or 2 elements, got " ++ toString count
  | .elementLacks label name => label ++ " element is missing " ++ name
  | .noMachineType value => "Invalid instance type: '" ++ value ++ "'"
  | .blankName => "Name must be a non-empty string"
  | .noTopicName value =>
    "TopicName may contain 1-256 letters, digits, hyphens and underscores: '" ++ value ++ "'"

namespace Rule

/-- A test of a value that must be a text. -/
def onText (label : String) (test : String → Option Violation) (value : PropertyValue) :
    Option Violation :=
  match value.asText? with
  | some text => test text
  | none => some (.notAText label)

/-- A value that must be one of some texts. -/
def listed? (label : String) (allowed : List String) : PropertyValue → Option Violation :=
  onText label fun text =>
    if allowed.contains text then none else some (.notListed label text allowed)

/-- A value that must be an address block. -/
def cidrBlock? : PropertyValue → Option Violation :=
  onText "CidrBlock" fun text =>
    match addressBlock? text.toList with
    | none => some (.noAddressBlock text)
    | some (address, mask) =>
      if (splitAll '.' address).all (isNumberUpTo 255) && isNumberUpTo 32 mask then none
      else some (.addressBlockOutOfRange text)

/-- A value that must be the description of a group. -/
def groupDescription? : PropertyValue → Option Violation :=
  onText "GroupDescription" fun text =>
    if text = "" then some (.emptyText "GroupDescription")
    else if 255 < text.length then some .descriptionTooLong
    else none

/-- A port of an ingress rule, which may be absent, and all ports of a protocol that has none. -/
def rulePort? (index : Nat) (protocol port : String) (rule : PropertyValue) : Option Violation :=
  match rule.get? port with
  | none => none
  | some value =>
    if hasWildcardPorts protocol && value.asInt64? == some (-1) then none
    else (Bounds.networkPort.fault? value).map (.rulePort index port)

/-- The ingress rule with an index.  A rule that is known only at deployment is passed over. -/
def ingressRule? (index : Nat) (rule : PropertyValue) : Option Violation :=
  if rule.isIntrinsic then none
  else if rule.asMap?.isNone then some (.ruleNotAMap index)
  else match ingressProtocol? rule with
    | none => some (.ruleWithoutProtocol index)
    | some protocol =>
      (rulePort? index protocol "FromPort" rule).or (rulePort? index protocol "ToPort" rule)

/-- A value that must be a list of ingress rules; the first rule at fault counts. -/
def ingressRules? (value : PropertyValue) : Option Violation :=
  match value.asList? with
  | none => some .rulesNotAList
  | some rules => rules.zipIdx.findSome? fun (rule, index) => ingressRule? index rule

/-- A value that must be the name of a bucket. -/
def bucketName? : PropertyValue → Option Violation :=
  onText "BucketName" fun text =>
    let bytes := text.utf8ByteSize
    if bytes < 3 || 63 < bytes then some (.bucketNameLength bytes)
    else if !isBucketShape text.toList then some .bucketNameCharacters
    else if hasAdjacentDots text.toList then some .bucketNameAdjacentDots
    else if isDottedQuad text.toList then some .bucketNameAddress
    else if beginsWith text "xn--" || endsWith text "-s3alias" then some .bucketNameReserved
    else none

/-- A value whose `Status` must turn versions on or off. -/
def versioning? (value : PropertyValue) : Option Violation :=
  match value.get? "Status" with
  | some status => listed? "VersioningConfiguration.Status" ["Enabled", "Suspended"] status
  | none => some .noVersioningStatus

/-- A value that must name the handler of a function. -/
def handler? : PropertyValue → Option Violation :=
  onText "Handler" fun text =>
    if text = "" then some (.emptyText "Handler")
    else if text.toList.any isBlank then some (.handlerBlank text)
    else none

/-- A value that must say where the code of a function is. -/
def code? (value : PropertyValue) : Option Violation :=
  match value.asMap? with
  | none => some .codeNotAMap
  | some entries =>
    let has (key : String) : Bool := (Entries.find? entries key).isSome
    if (has "S3Bucket" && has "S3Key") || has "ZipFile" || has "ImageUri" then none
    else some .codeIncomplete

/-- A value that must have statements. -/
def policyDocument? (value : PropertyValue) : Option Violation :=
  match value.get? "Statement" with
  | some (.list _) | some (.map _) => none
  | _ => some .noStatement

/-- The elements of a list that must have a name, and under another name one of some texts. -/
def namedElement? (label typeKey : String) (allowed : List String) (element : PropertyValue) :
    Option Violation :=
  match (element.get? "AttributeName").bind PropertyValue.asText? with
  | none => some (.elementLacks label "AttributeName")
  | some _ =>
    match element.get? typeKey with
    | none => some (.elementLacks label typeKey)
    | some type => listed? typeKey allowed type

/-- A value that must be a list of keys. -/
def keySchema? (value : PropertyValue) : Option Violation :=
  match value.asList? with
  | none => some (.notAList "KeySchema")
  | some keys =>
    if keys.isEmpty || 2 < keys.length then some (.keyCount keys.length)
    else keys.findSome? (namedElement? "KeySchema" "KeyType" ["HASH", "RANGE"])

/-- A value that must be a list of definitions. -/
def attributeDefinitions? (value : PropertyValue) : Option Violation :=
  match value.asList? with
  | none => some (.notAList "AttributeDefinitions")
  | some definitions =>
    definitions.findSome? (namedElement? "AttributeDefinitions" "AttributeType" ["S", "N", "B"])

/-- A value that must be a text which is not blank. -/
def apiName? (value : PropertyValue) : Option Violation :=
  match value.asText? with
  | some text => if (trimBlanks text.toList).isEmpty then some .blankName else none
  | none => some .blankName

/-- Why a value breaks a rule, if it does. -/
def violation? : Rule → PropertyValue → Option Violation
  | .cidrBlock => cidrBlock?
  | .oneOf label allowed => listed? label allowed
  | .boolean => fun value => if value.asBool?.isSome then none else some .notABoolean
  | .groupDescription => groupDescription?
  | .ingressRules => ingressRules?
  | .bucketName => bucketName?
  | .versioning => versioning?
  | .bounded label bounds => fun value => (bounds.fault? value).map (.number label)
  | .handler => handler?
  | .code => code?
  | .policyDocument => policyDocument?
  | .beginning label lead => onText label fun text =>
    if beginsWith text lead then none else some (.wrongBeginning label lead text)
  | .keySchema => keySchema?
  | .attributeDefinitions => attributeDefinitions?
  | .machineType => onText "InstanceType" fun text =>
    if isMachineTypeShape text.toList then none else some (.noMachineType text)
  | .apiName => apiName?
  | .topicName => onText "TopicName" fun text =>
    if isTopicShape text.toList then none else some (.noTopicName text)

end Rule

end CloudTemplate
