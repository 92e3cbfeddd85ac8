import CloudTemplate.Catalog.ResourceType
import CloudTemplate.Catalog.Rule

/-!
# The catalog

For each type of resource the catalog lists the properties that a resource must have, the others
that it may have, and the rules for some of them.  A value that is known only at deployment
satisfies every rule (`Spec.violation?`).
-/

namespace CloudTemplate

/-- The runtimes of functions. -/
def functionRuntimes : List String :=
  ["nodejs18.x", "nodejs20.x", "nodejs22.x", "python3.9", "python3.10", "python3.11",
    "python3.12", "python3.13", "java11", "java17", "java21", "dotnet8", "ruby3.2", "ruby3.3",
    "provided.al2", "provided.al2023"]

/-- The engines of databases. -/
def databaseEngines : List String :=
  ["mysql", "mariadb", "postgres", "aurora-mysql", "aurora-postgresql", "oracle-ee", "oracle-se2",
    "sqlserver-ee", "sqlserver-se", "sqlserver-ex", "sqlserver-web"]

/-- What the catalog says of a type of resource. -/
structure Spec where
  /-- The properties that a resource must have. -/
  required : List String
  /-- The other properties that a resource may have. -/
  allowed : List String
  /-- The rules for properties. -/
  rules : List (String × Rule)

namespace Spec

/-- Whether a resource may have a property. -/
def knows (s : Spec) (property : String) : Bool :=
  s.required.contains property || s.allowed.contains property

/-- The rule for a property. -/
def rule? (s : Spec) (property : String) : Option Rule := Entries.find? s.rules property

/-- Why the value of a property is refused, if it is. -/
def violation? (s : Spec) (property : String) (value : PropertyValue) : Option Violation :=
  if value.isIntrinsic then none else (s.rule? property).bind (·.violation? value)

end Spec

/-- What the catalog says of each type. -/
def ResourceType.spec : ResourceType → Spec
  | .vpc =>
    { required := []
      allowed :=
        ["CidrBlock", "EnableDnsHostnames", "EnableDnsSupport", "InstanceTenancy", "Ipv4IpamPoolId",
          "Ipv4NetmaskLength", "Tags"]
      rules := [
        ("CidrBlock", .cidrBlock),
        ("InstanceTenancy", .oneOf "InstanceTenancy" ["default", "dedicated", "host"]),
        ("EnableDnsHostnames", .boolean),
        ("EnableDnsSupport", .boolean)] }
  | .subnet =>
    { required := ["VpcId"]
      allowed :=
        ["CidrBlock", "AvailabilityZone", "AvailabilityZoneId", "Ipv6CidrBlock",
          "MapPublicIpOnLaunch", "Tags"]
      rules := [
        ("CidrBlock", .cidrBlock),
        ("MapPublicIpOnLaunch", .boolean)] }
  | .securityGroup =>
    { required := ["GroupDescription"]
      allowed := ["GroupName", "VpcId", "SecurityGroupIngress", "SecurityGroupEgress", "Tags"]
      rules := [
        ("GroupDescription", .groupDescription),
        ("SecurityGroupIngress", .ingressRules)] }
  | .machine =>
    { required := ["ImageId"]
      allowed :=
        ["InstanceType", "KeyName", "SubnetId", "SecurityGroupIds", "IamInstanceProfile",
          "UserData", "Monitoring", "EbsOptimized", "BlockDeviceMappings", "Tags"]
      rules := [
        ("ImageId", .beginning "ImageId" "ami-"),
        ("InstanceType", .machineType),
        ("Monitoring", .boolean)] }
  | .bucket =>
    { required := []
      allowed :=
        ["BucketName", "BucketEncryption", "PublicAccessBlockConfiguration",
          "VersioningConfiguration", "LifecycleConfiguration", "LoggingConfiguration",
          "CorsConfiguration", "WebsiteConfiguration", "NotificationConfiguration",
          "ObjectLockEnabled", "Tags"]
      rules := [
        ("BucketName", .bucketName),
        ("VersioningConfiguration", .versioning)] }
  | .function =>
    { required := ["Code", "Role"]
      allowed :=
        ["Runtime", "Handler", "MemorySize", "Timeout", "FunctionName", "Description",
          "Environment", "Architectures", "Layers", "VpcConfig", "TracingConfig",
          "ReservedConcurrentExecutions", "EphemeralStorage", "PackageType", "Tags"]
      rules := [
        ("Code", .code),
        ("Runtime", .oneOf "Runtime" functionRuntimes),
        ("MemorySize", .bounded "MemorySize" .functionMemory),
        ("Timeout", .bounded "Timeout" .functionTimeout),
        ("Handler", .handler)] }
  | .role =>
    { required := ["AssumeRolePolicyDocument"]
      allowed :=
        ["RoleName", "Description", "ManagedPolicyArns", "Policies", "Path", "MaxSessionDuration",
          "PermissionsBoundary", "Tags"]
      rules := [
        ("AssumeRolePolicyDocument", .policyDocument),
        ("MaxSessionDuration", .bounded "MaxSessionDuration" .sessionDuration)] }
  | .database =>
    { required := ["DBInstanceClass"]
      allowed :=
        ["Engine", "EngineVersion", "AllocatedStorage", "StorageType", "StorageEncrypted",
          "KmsKeyId", "MasterUsername", "MasterUserPassword", "ManageMasterUserPassword", "DBName",
          "DBInstanceIdentifier", "DBSubnetGroupName", "VPCSecurityGroups", "BackupRetentionPeriod",
          "MultiAZ", "PubliclyAccessible", "DeletionProtection", "Port", "Tags"]
      rules := [
        ("DBInstanceClass", .beginning "DBInstanceClass" "db."),
        ("Engine", .oneOf "Engine" databaseEngines),
        ("AllocatedStorage", .bounded "AllocatedStorage" .databaseStorage),
        ("BackupRetentionPeriod", .bounded "BackupRetentionPeriod" .backupRetention),
        ("StorageEncrypted", .boolean),
        ("MultiAZ", .boolean),
        ("Port", .bounded "Port" .networkPort)] }
  | .table =>
    { required := ["KeySchema", "AttributeDefinitions"]
      allowed :=
        ["TableName", "BillingMode", "ProvisionedThroughput", "GlobalSecondaryIndexes",
          "LocalSecondaryIndexes", "StreamSpecification", "SSESpecification",
          "PointInTimeRecoverySpecification", "TimeToLiveSpecification",
          "DeletionProtectionEnabled", "Tags"]
      rules := [
        ("KeySchema", .keySchema),
        ("AttributeDefinitions", .attributeDefinitions),
        ("BillingMode", .oneOf "BillingMode" ["PROVISIONED", "PAY_PER_REQUEST"])] }
  | .restApi =>
    { required := []
      allowed :=
        ["Name", "Description", "EndpointConfiguration", "Body", "BodyS3Location",
          "ApiKeySourceType", "BinaryMediaTypes", "DisableExecuteApiEndpoint", "Policy", "Tags"]
      rules := [
        ("Name", .apiName)] }
  | .topic =>
    { required := []
      allowed :=
        ["TopicName", "DisplayName", "Subscription", "KmsMasterKeyId", "FifoTopic",
          "ContentBasedDeduplication", "Tags"]
      rules := [
        ("TopicName", .topicName),
        ("FifoTopic", .boolean)] }
  | .queue =>
    { required := []
      allowed :=
        ["QueueName", "VisibilityTimeout", "MessageRetentionPeriod", "DelaySeconds",
          "MaximumMessageSize", "ReceiveMessageWaitTimeSeconds", "FifoQueue",
          "ContentBasedDeduplication", "RedrivePolicy", "SqsManagedSseEnabled", "KmsMasterKeyId",
          "Tags"]
      rules := [
        ("VisibilityTimeout", .bounded "VisibilityTimeout" .visibilityTimeout),
        ("MessageRetentionPeriod", .bounded "MessageRetentionPeriod" .messageRetention),
        ("DelaySeconds", .bounded "DelaySeconds" .messageDelay),
        ("MaximumMessageSize", .bounded "MaximumMessageSize" .messageSize),
        ("ReceiveMessageWaitTimeSeconds", .bounded "ReceiveMessageWaitTimeSeconds" .receiveWait),
        ("FifoQueue", .boolean),
        ("SqsManagedSseEnabled", .boolean)] }

/-- What the catalog says of the type with a name, if it has that type. -/
def specOf? (typeName : String) : Option Spec := (ResourceType.ofName? typeName).map (·.spec)

end CloudTemplate
