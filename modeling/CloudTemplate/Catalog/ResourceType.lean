/-!
# Resource types

The types of resources that the catalog describes, with the names by which templates call them.  A
template may name other types as well; nothing is known of those.
-/

namespace CloudTemplate

/-- A type of resource in the catalog. -/
inductive ResourceType where
  | vpc
  | subnet
  | securityGroup
  | machine
  | bucket
  | function
  | role
  | database
  | table
  | restApi
  | topic
  | queue
deriving DecidableEq, Inhabited

namespace ResourceType

/-- All types, in the order of the catalog. -/
def all : List ResourceType :=
  [.vpc, .subnet, .securityGroup, .machine, .bucket, .function, .role, .database, .table, .restApi,
    .topic, .queue]

/-- The name of a type in templates. -/
def name : ResourceType → String
  | .vpc => "AWS::EC2::VPC"
  | .subnet => "AWS::EC2::Subnet"
  | .securityGroup => "AWS::EC2::SecurityGroup"
  | .machine => "AWS::EC2::Instance"
  | .bucket => "AWS::S3::Bucket"
  | .function => "AWS::Lambda::Function"
  | .role => "AWS::IAM::Role"
  | .database => "AWS::RDS::DBInstance"
  | .table => "AWS::DynamoDB::Table"
  | .restApi => "AWS::ApiGateway::RestApi"
  | .topic => "AWS::SNS::Topic"
  | .queue => "AWS::SQS::Queue"

/-- The type with a name. -/
def ofName? (name : String) : Option ResourceType := all.find? fun type => type.name == name

end ResourceType

end CloudTemplate
