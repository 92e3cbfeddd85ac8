import CloudTemplate.Catalog.Bounds
import CloudTemplate.Catalog.Defaults
import CloudTemplate.Catalog.ResourceType
import CloudTemplate.Generation.Surroundings
import CloudTemplate.Template.Basic

/-!
# What each kind of node becomes

A node becomes one resource under its own id, and for most kinds an output that shows how to reach
the resource.  Every attribute that is absent has its default, numbers are moved into the bounds of
the catalog, and nothing is checked: that is the task of validation.

`Node.resource?` is the resource of a node, `Node.output?` its output, and `executionRole` the role
that is generated for a function that names none.
-/

namespace CloudTemplate

namespace Node

/-! ## Attributes with defaults -/

/-- An attribute as a text, or the default. -/
def textOr (n : Node) (key default : String) : PropertyValue := .string ((n.text? key).getD default)

/-- An attribute as a whole number within bounds, or the default. -/
def bounded (n : Node) (key : String) (bounds : Bounds) (default : Int) : Int :=
  bounds.clamp ((n.number? key).getD default)

end Node

/-- A resource of a type in the catalog, without properties. -/
def Resource.of (type : ResourceType) : Resource := .ofType type.name

namespace Resource

/-- Sets a property if a condition holds. -/
def setIf (r : Resource) (condition : Bool) (name : String) (value : PropertyValue) : Resource :=
  if condition then r.set name value else r

/-- The resource placed in another, which a property names, if there is one. -/
def placedIn (r : Resource) (property : String) (id : Option String) : Resource :=
  match id with
  | some id => (r.set property (.ref id)).dependOn id
  | none => r

/-- The resource placed in security groups, which a property names one by one, if there are any. -/
def inGroups (r : Resource) (property : String) (named : String → PropertyValue)
    (groups : List String) : Resource :=
  if groups.isEmpty then r else (r.set property (.list (groups.map named))).dependOnAll groups

/-- The resource with a role that is given by its name, or else the one with an id. -/
def underRole (r : Resource) (roleId : String) (arn : Option String) : Resource :=
  match arn with
  | some arn => r.set "Role" (.string arn)
  | none => (r.set "Role" (.getAtt roleId "Arn")).dependOn roleId

end Resource

/-! ## Networks and machines -/

/-- A network. -/
def vpcResource (n : Node) : Resource :=
  ((((Resource.of .vpc).set "CidrBlock" (n.textOr "cidrBlock" Defaults.vpcBlock)).set
    "EnableDnsHostnames" (.bool true)).set
    "EnableDnsSupport" (.bool true)).set?
    "InstanceTenancy" (n.attribute? "instanceTenancy")

/-- A subnet of a network. -/
def subnetResource (s : Surroundings) (n : Node) : Resource :=
  ((((Resource.of .subnet).placedIn "VpcId" (s.vpcOf? n)).set
    "CidrBlock" (n.textOr "cidrBlock" Defaults.subnetBlock)).set
    "MapPublicIpOnLaunch" (.bool (n.flag "isPublic"))).set?
    "AvailabilityZone" (n.attribute? "availabilityZone")

/-- A rule that admits traffic from a source to one port. -/
def portRule (source : PropertyValue) (port : Int) : PropertyValue :=
  .map [("IpProtocol", .string "tcp"), ("FromPort", .ofInt port), ("ToPort", .ofInt port),
    ("CidrIp", source)]

/-- The ports on which a security group admits traffic. -/
def ingressPorts (n : Node) : List Int :=
  match (n.attribute? "ingressPorts").bind PropertyValue.asList? with
  | some ports => ports.filterMap PropertyValue.asInt64?
  | none => Defaults.ingressPorts

/-- A security group. -/
def securityGroupResource (s : Surroundings) (n : Node) : Resource :=
  let source := n.textOr "ingressCidr" Defaults.ingressSource
  (((Resource.of .securityGroup).set "GroupDescription" (n.textOr "description" "")).placedIn
    "VpcId" (s.vpcOf? n)).set
    "SecurityGroupIngress" (.list ((ingressPorts n).map (portRule source)))

/-- A machine. -/
def machineResource (n : Node) : Resource :=
  (((((Resource.of .machine).set "ImageId" (n.textOr "imageId" Defaults.imageId)).set
    "InstanceType" (n.textOr "instanceType" Defaults.machineType)).set?
    "KeyName" (n.attribute? "keyName")).placedIn
    "SubnetId" (n.text? "subnetId")).inGroups
    "SecurityGroupIds" .ref (n.ids "securityGroupIds")

/-! ## Storage -/

/-- A bucket, encrypted and closed to the public. -/
def bucketResource (n : Node) : Resource :=
  let encryption : PropertyValue := .map [("ServerSideEncryptionConfiguration", .list [
    .map [("ServerSideEncryptionByDefault", .map [("SSEAlgorithm", .string "AES256")])]])]
  let access : PropertyValue := .map [("BlockPublicAcls", .bool true),
    ("BlockPublicPolicy", .bool true), ("IgnorePublicAcls", .bool true),
    ("RestrictPublicBuckets", .bool true)]
  ((((Resource.of .bucket).set? "BucketName" (n.attribute? "bucketName")).set
    "BucketEncryption" encryption).set
    "PublicAccessBlockConfiguration" access).setIf (n.flag "versioning")
    "VersioningConfiguration" (.map [("Status", .string "Enabled")])

/-- A database.  Its storage is written as a text. -/
def databaseResource (n : Node) : Resource :=
  let storage := n.bounded "allocatedStorage" .databaseStorage Defaults.databaseStorage
  let encrypted := match n.attribute? "storageEncrypted" with
    | some value => value.isTruthy
    | none => true
  let retention := n.bounded "backupRetentionPeriod" .backupRetention Defaults.backupRetention
  (((((((((((Resource.of .database).set
    "DBInstanceClass" (n.textOr "instanceClass" Defaults.databaseClass)).set
    "Engine" (n.textOr "engine" Defaults.databaseEngine)).set
    "AllocatedStorage" (.string (toString storage))).set
    "StorageEncrypted" (.bool encrypted)).set
    "BackupRetentionPeriod" (.ofInt retention)).set
    "MasterUsername" (n.textOr "masterUsername" Defaults.databaseUser)).set
    "ManageMasterUserPassword" (.bool true)).set?
    "EngineVersion" (n.attribute? "engineVersion")).set?
    "DBName" (n.attribute? "dbName")).set?
    "MultiAZ" ((n.attribute? "multiAz").map fun value => .bool value.isTruthy)).inGroups
    "VPCSecurityGroups" (.getAtt · "GroupId") (n.ids "securityGroupIds")

/-- A key of a table. -/
def tableKey (name : PropertyValue) (keyType : String) : PropertyValue :=
  .map [("AttributeName", name), ("KeyType", .string keyType)]

/-- The definition of a key attribute of a table. -/
def keyDefinition (name : PropertyValue) : PropertyValue :=
  .map [("AttributeName", name), ("AttributeType", .string "S")]

/-- A table. -/
def tableResource (n : Node) : Resource :=
  let partition := n.textOr "partitionKey" Defaults.partitionKey
  let sort : List PropertyValue := (n.text? "sortKey").toList.map .string
  let mode := (n.text? "billingMode").getD Defaults.billingMode
  let capacity (key : String) : PropertyValue :=
    .ofInt (n.bounded key .tableCapacity Defaults.tableCapacity)
  (((((Resource.of .table).set? "TableName" (n.attribute? "tableName")).set
    "KeySchema" (.list (tableKey partition "HASH" :: sort.map (tableKey · "RANGE")))).set
    "AttributeDefinitions" (.list ((partition :: sort).map keyDefinition))).setIf
    (mode == "PROVISIONED") "ProvisionedThroughput" (.map [
      ("ReadCapacityUnits", capacity "readCapacity"),
      ("WriteCapacityUnits", capacity "writeCapacity")])).set
    "BillingMode" (.string mode)

/-! ## Functions and roles -/

/-- A policy that lets a service assume a role. -/
def assumePolicy (service : PropertyValue) : PropertyValue :=
  .map [("Version", .string "2012-10-17"), ("Statement", .list [
    .map [("Effect", .string "Allow"), ("Principal", .map [("Service", service)]),
      ("Action", .string "sts:AssumeRole")]])]

/-- The role that is generated for a function. -/
def executionRole : Resource :=
  ((Resource.of .role).set "AssumeRolePolicyDocument"
    (assumePolicy (.string Defaults.functionService))).set
    "ManagedPolicyArns" (.list [.string Defaults.functionPolicy])

/-- Where the code of a function is: in a bucket if both places are given, else inline. -/
def functionCode (n : Node) : PropertyValue :=
  match n.text? "s3Bucket", n.text? "s3Key" with
  | some bucket, some key => .map [("S3Bucket", .string bucket), ("S3Key", .string key)]
  | _, _ => .map [("ZipFile", .string Defaults.functionCode)]

/-- The variables of the environment of a function. -/
def functionEnvironment? (n : Node) : Option PropertyValue :=
  match n.attribute? "environment" with
  | some (.map entries) => some (.map [("Variables", .map entries)])
  | _ => none

/-- A function.  Without a role of its own it takes the generated role with the given id. -/
def functionResource (roleId : String) (n : Node) : Resource :=
  (((((((Resource.of .function).set
    "Runtime" (n.textOr "runtime" Defaults.functionRuntime)).set
    "Handler" (n.textOr "handler" Defaults.functionHandler)).set
    "MemorySize" (.ofInt (n.bounded "memorySize" .functionMemory Defaults.functionMemory))).set
    "Timeout" (.ofInt (n.bounded "timeout" .functionTimeout Defaults.functionTimeout))).set
    "Code" (functionCode n)).set?
    "Environment" (functionEnvironment? n)).underRole roleId (n.text? "roleArn")

/-- A drawn role. -/
def roleResource (n : Node) : Resource :=
  (((Resource.of .role).set "AssumeRolePolicyDocument"
    (assumePolicy (n.textOr "service" Defaults.roleService))).set?
    "ManagedPolicyArns" (n.attribute? "managedPolicyArns")).set?
    "RoleName" (n.attribute? "roleName")

/-! ## Interfaces and messages -/

/-- An API. -/
def restApiResource (n : Node) : Resource :=
  (((Resource.of .restApi).set "Name" (n.textOr "name" n.id)).set?
    "Description" (n.attribute? "description")).set
    "EndpointConfiguration"
      (.map [("Types", .list [n.textOr "endpointType" Defaults.endpointType])])

/-- A topic. -/
def topicResource (n : Node) : Resource :=
  (((Resource.of .topic).set? "TopicName" (n.attribute? "topicName")).set?
    "DisplayName" (n.attribute? "displayName")).set
    "KmsMasterKeyId" (.string Defaults.topicKey)

/-- A queue. -/
def queueResource (n : Node) : Resource :=
  (((((Resource.of .queue).set? "QueueName" (n.attribute? "queueName")).set
    "VisibilityTimeout"
      (.ofInt (n.bounded "visibilityTimeout" .visibilityTimeout Defaults.visibilityTimeout))).set
    "MessageRetentionPeriod"
      (.ofInt (n.bounded "messageRetentionPeriod" .messageRetention Defaults.messageRetention))).set
    "SqsManagedSseEnabled" (.bool true)).setIf (n.flag "fifo") "FifoQueue" (.bool true)

namespace Node

/-! ## The parts of a node -/

/-- The resource of a node; an unsupported kind has none.  The given id is that of the role
generated for a function. -/
def resource? (s : Surroundings) (roleId : String) (n : Node) : Option Resource :=
  match n.kind with
  | .vpc => some (vpcResource n)
  | .subnet => some (subnetResource s n)
  | .securityGroup => some (securityGroupResource s n)
  | .ec2 => some (machineResource n)
  | .s3 => some (bucketResource n)
  | .lambda => some (functionResource roleId n)
  | .rds => some (databaseResource n)
  | .dynamodb => some (tableResource n)
  | .apiGateway => some (restApiResource n)
  | .sns => some (topicResource n)
  | .sqs => some (queueResource n)
  | .iamRole => some (roleResource n)
  | .unsupported => none

/-- The output of a node, with its name. -/
def output? (n : Node) : Option (String × Output) :=
  let shown (ending what : String) (value : PropertyValue) : Option (String × Output) :=
    some (n.id ++ ending, ⟨value, some (what ++ " of " ++ n.id)⟩)
  match n.kind with
  | .vpc => shown "Id" "VPC id" (.ref n.id)
  | .s3 => shown "Name" "Bucket name" (.ref n.id)
  | .lambda => shown "Arn" "Function ARN" (.getAtt n.id "Arn")
  | .dynamodb => shown "Name" "Table name" (.ref n.id)
  | .apiGateway => shown "Id" "REST API id" (.ref n.id)
  | .sns => shown "Arn" "Topic ARN" (.ref n.id)
  | .sqs => shown "Url" "Queue URL" (.ref n.id)
  | _ => none

/-- Whether a role is generated for a node: it is a function that names none. -/
def needsRole (n : Node) : Bool := n.kind == .lambda && (n.text? "roleArn").isNone

end Node

end CloudTemplate
