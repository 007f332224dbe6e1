/-
  CallTracing/Mapping/Category.lean
  =================================
  **Classifying a call by its service.**

  Hosts spell the name of a service in many ways (`Amazon S3`, `s3`, `AWSLambda`).  A name is
  normalised to its lower-case letters and digits, without the vendor's name in front; the
  categories are listed with their normalised names in `categoryNames`.  The agent-building service
  is one service with three kinds of resources, and which one a call is about is read from the
  type name of the payload.
-/
import CallTracing.Model.Body
import CallTracing.Text.Casing

namespace CallTracing

/-- The resources of the agent-building service. -/
inductive AgentResource where
  | agent
  | dataSource
  | knowledgeBase
deriving DecidableEq, Repr

/-- What a call is about. -/
inductive Category where
  | s3
  | sqs
  | kinesis
  | dynamoDb
  | sns
  | secretsManager
  | stepFunctions
  | lambda
  | bedrock
  | bedrockAgent (resource : AgentResource)
  | bedrockAgentRuntime
  | bedrockRuntime
deriving DecidableEq, Repr

/-- The name of a resource. -/
def AgentResource.name : AgentResource → String
  | .agent => "Agent"
  | .dataSource => "DataSource"
  | .knowledgeBase => "KnowledgeBase"

/-- The name of a category. -/
def Category.name : Category → String
  | .s3 => "S3"
  | .sqs => "Sqs"
  | .kinesis => "Kinesis"
  | .dynamoDb => "DynamoDb"
  | .sns => "Sns"
  | .secretsManager => "SecretsManager"
  | .stepFunctions => "StepFunctions"
  | .lambda => "Lambda"
  | .bedrock => "Bedrock"
  | .bedrockAgent resource => "BedrockAgent." ++ resource.name
  | .bedrockAgentRuntime => "BedrockAgentRuntime"
  | .bedrockRuntime => "BedrockRuntime"

/-! ### Names of services -/

/-- Whether a character counts in the name of a service. -/
def isNameChar (c : Char) : Bool := c.isDigit || c.isLower

/-- The name of a service in lower case, reduced to letters and digits. -/
def compactName (service : String) : List Char :=
  (Text.lowerFrom [] service.toList).filter isNameChar

/-- The name without the vendor in front; one vendor's name is dropped, not two. -/
def withoutVendor (name : List Char) : List Char :=
  match dropPrefix? "amazon".toList name with
  | some rest => rest
  | none => (dropPrefix? "aws".toList name).getD name

/-- The name of a service, however it is spelled. -/
def normalizedName (service : String) : String :=
  String.ofList (withoutVendor (compactName service))

/-- The categories that the name of the service alone decides, with their normalised names. -/
def categoryNames : List (Category × List String) :=
  [(.s3, ["s3"]),
    (.sqs, ["sqs"]),
    (.kinesis, ["kinesis"]),
    (.dynamoDb, ["dynamodb", "dynamodbv2"]),
    (.sns, ["sns"]),
    (.secretsManager, ["secretsmanager"]),
    (.stepFunctions, ["stepfunctions", "sfn"]),
    (.lambda, ["lambda"]),
    (.bedrock, ["bedrock"]),
    (.bedrockAgentRuntime, ["bedrockagentruntime"]),
    (.bedrockRuntime, ["bedrockruntime"])]

/-- The normalised name of the agent-building service. -/
def agentServiceName : String := "bedrockagent"

/-- The normalised name of the service that invokes models. -/
def modelServiceName : String := "bedrockruntime"

/-! ### Types of the agent-building service -/

/-- The types of payloads that are about one resource, by direction. -/
def AgentResource.typeNames : Direction → AgentResource → List String
  | .request, .agent =>
    ["CreateAgentActionGroupRequest", "CreateAgentAliasRequest", "DeleteAgentActionGroupRequest",
      "DeleteAgentAliasRequest", "DeleteAgentRequest", "DeleteAgentVersionRequest",
      "GetAgentActionGroupRequest", "GetAgentAliasRequest", "GetAgentRequest",
      "GetAgentVersionRequest", "ListAgentActionGroupsRequest", "ListAgentAliasesRequest",
      "ListAgentKnowledgeBasesRequest", "ListAgentVersionsRequest", "PrepareAgentRequest",
      "UpdateAgentActionGroupRequest", "UpdateAgentAliasRequest", "UpdateAgentRequest"]
  | .request, .dataSource =>
    ["DeleteDataSourceRequest", "GetDataSourceRequest", "UpdateDataSourceRequest"]
  | .request, .knowledgeBase =>
    ["AssociateAgentKnowledgeBaseRequest", "CreateDataSourceRequest", "DeleteKnowledgeBaseRequest",
      "DisassociateAgentKnowledgeBaseRequest", "GetAgentKnowledgeBaseRequest",
      "GetKnowledgeBaseRequest", "ListDataSourcesRequest", "UpdateAgentKnowledgeBaseRequest"]
  | .response, .agent =>
    ["DeleteAgentAliasResult", "DeleteAgentResult", "DeleteAgentVersionResult",
      "PrepareAgentResult"]
  | .response, .dataSource => ["DeleteDataSourceResult"]
  | .response, .knowledgeBase => ["DeleteKnowledgeBaseResult"]

/-- The resource that payloads of a type are about. -/
def AgentResource.ofTypeName? (direction : Direction) (typeName : String) :
    Option AgentResource :=
  [AgentResource.agent, .dataSource, .knowledgeBase].find? fun resource =>
    (resource.typeNames direction).contains typeName

/-! ### Classification -/

/-- The category of a call, from the name of its service and the type of the payload that is
looked at. -/
def classify (service : String) (typeName : Option String) (direction : Direction) :
    Option Category :=
  let name := normalizedName service
  if name = agentServiceName then
    (typeName.bind (AgentResource.ofTypeName? direction)).map .bedrockAgent
  else (categoryNames.find? fun row => row.2.contains name).map (·.1)

end CallTracing
