/-!
# Defaults

What a generated resource gets where the drawing says nothing.
-/

namespace CloudTemplate.Defaults

/-- The addresses of a network. -/
def vpcBlock : String := "10.0.0.0/16"

/-- The addresses of a subnet. -/
def subnetBlock : String := "10.0.1.0/24"

/-- The source from which a security group admits traffic. -/
def ingressSource : String := "0.0.0.0/0"

/-- The ports on which a security group admits traffic. -/
def ingressPorts : List Int := [80, 443]

/-- The type of a machine. -/
def machineType : String := "t3.micro"

/-- The image of a machine. -/
def imageId : String := "ami-0c02fb55956c7d316"

/-- The runtime of a function. -/
def functionRuntime : String := "nodejs20.x"

/-- The handler of a function. -/
def functionHandler : String := "index.handler"

/-- The memory of a function. -/
def functionMemory : Int := 128

/-- The time that a function may take. -/
def functionTimeout : Int := 3

/-- The code of a function. -/
def functionCode : String :=
  "exports.handler = async () => (\x7b statusCode: 200, body: 'ok' \x7d);"

/-- The service that assumes the role of a function. -/
def functionService : String := "lambda.amazonaws.com"

/-- The policy of the role of a function. -/
def functionPolicy : String :=
  "arn:aws:iam::aws:policy/service-role/AWSLambdaBasicExecutionRole"

/-- The class of a database. -/
def databaseClass : String := "db.t3.micro"

/-- The engine of a database. -/
def databaseEngine : String := "mysql"

/-- The main user of a database. -/
def databaseUser : String := "admin"

/-- The storage of a database. -/
def databaseStorage : Int := 20

/-- How long backups of a database are kept. -/
def backupRetention : Int := 7

/-- The partition key of a table. -/
def partitionKey : String := "id"

/-- How a table is billed. -/
def billingMode : String := "PAY_PER_REQUEST"

/-- The provisioned capacity of a table. -/
def tableCapacity : Int := 5

/-- The kind of the endpoint of an API. -/
def endpointType : String := "REGIONAL"

/-- The key with which a topic is encrypted. -/
def topicKey : String := "alias/aws/sns"

/-- How long a message is hidden after it was received. -/
def visibilityTimeout : Int := 30

/-- How long a queue keeps a message. -/
def messageRetention : Int := 345600

/-- The service that assumes a drawn role. -/
def roleService : String := "ec2.amazonaws.com"

end CloudTemplate.Defaults
