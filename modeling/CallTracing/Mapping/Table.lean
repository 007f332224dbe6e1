/-
  CallTracing/Mapping/Table.lean
  ==============================
  **Which fields become which attributes.**

  A `FieldMapping` says that in one direction the value at the end of a path of fields becomes an
  attribute.  Mappings are grouped in profiles: one for each category, and one for a type of
  requests whose body is a model invocation.  The profiles that apply to a call are those of its
  request's type, then that of its category (`profilesFor`); the mappings of a profile are applied
  in order, so that a later one replaces what an earlier one of the same attribute wrote.
-/
import CallTracing.Mapping.Category

namespace CallTracing

/-- An attribute taken from a field. -/
structure FieldMapping where
  direction : Direction
  target : String
  path : List String
deriving DecidableEq, Repr

/-- Whether the attribute is read out of a body. -/
def FieldMapping.isStructured (mapping : FieldMapping) : Bool :=
  Names.GenAi.isStructured mapping.target

/-- The kinds of bodies that are decoded. -/
inductive BodyKind where
  | modelInvocation
deriving DecidableEq, Repr

/-- The name of a kind of bodies. -/
def BodyKind.name : BodyKind → String
  | .modelInvocation => "ModelInvocation"

/-- Mappings that apply together. -/
structure MappingProfile where
  matchKey : String
  mappings : List FieldMapping
  body : Option BodyKind := none
deriving DecidableEq, Repr

namespace MappingProfile

/-- The mappings of one direction, in order. -/
def mappingsFor (profile : MappingProfile) (direction : Direction) : List FieldMapping :=
  profile.mappings.filter (·.direction == direction)

end MappingProfile

/-- A field of the request. -/
def onRequest (target field : String) : FieldMapping := ⟨.request, target, [field]⟩

/-- A field of the response. -/
def onResponse (target field : String) : FieldMapping := ⟨.response, target, [field]⟩

/-- A field of both the request and the response. -/
def onBoth (target field : String) : List FieldMapping :=
  [onRequest target field, onResponse target field]

open Names in
/-- The mappings of the calls of a category.  A topic replaces a target where both are set. -/
def Category.mappings : Category → List FieldMapping
  | .s3 => [onRequest bucketName "bucketName"]
  | .sqs => [onRequest queueUrl "queueUrl", onRequest queueName "queueName"]
  | .kinesis =>
    [onRequest streamName "streamName", onRequest streamArn "streamArn",
      onRequest streamConsumerName "streamConsumerName"]
  | .dynamoDb => [onRequest tableName "tableName"]
  | .sns => [onRequest messagingDestination "targetArn", onRequest messagingDestination "topicArn"]
  | .secretsManager => [onResponse secretArn "secretArn"]
  | .stepFunctions =>
    [onRequest stateMachineArn "stateMachineArn", onRequest activityArn "activityArn"]
  | .lambda =>
    [onRequest lambdaFunctionName "functionName",
      onRequest lambdaResourceMappingId "resourceMappingId"]
  | .bedrock => onBoth guardrailId "guardrailId"
  | .bedrockAgent .agent => onBoth bedrockAgentId "agentId"
  | .bedrockAgent .dataSource => onBoth dataSourceId "dataSourceId"
  | .bedrockAgent .knowledgeBase => onBoth knowledgeBaseId "knowledgeBaseId"
  | .bedrockAgentRuntime => onBoth bedrockAgentId "agentId" ++ onBoth knowledgeBaseId "knowledgeBaseId"
  | .bedrockRuntime => []

/-- The profile of a category.  The service that invokes models has none: what is known about its
calls depends on the type of the request. -/
def Category.profile? : Category → Option MappingProfile
  | .bedrockRuntime => none
  | category => some { matchKey := category.name, mappings := category.mappings }

open Names.GenAi in
/-- The profile of requests to invoke a model. -/
def invokeModelProfile : MappingProfile where
  matchKey := "InvokeModelRequest"
  mappings :=
    [onRequest requestModel "modelId",
      onRequest requestTemperature "body",
      onRequest requestTopP "body",
      onRequest requestMaxTokens "body",
      onResponse responseFinishReason "body",
      onResponse usagePromptTokens "body",
      onResponse usageCompletionTokens "body"]
  body := some .modelInvocation

/-- The profile of the requests of a type. -/
def typeProfile? (requestType : String) : Option MappingProfile :=
  [invokeModelProfile].find? (·.matchKey == requestType)

/-- What is known about a call in one direction. -/
structure Classification where
  category : Option Category
  profiles : List MappingProfile

namespace Classification

/-- Classify a call in one direction: by the type of its request throughout, and by the type of the
payload of that direction. -/
def resolve (service requestType : String) (responseType : Option String)
    (direction : Direction) : Classification :=
  let payloadType :=
    match direction with
    | .request => some requestType
    | .response => responseType
  let category := classify service payloadType direction
  { category := category
    profiles := (typeProfile? requestType).toList ++ (category.bind Category.profile?).toList }

/-- Whether no mapping applies. -/
def isEmpty (classification : Classification) : Bool := classification.profiles.isEmpty

/-- The kind of body that is decoded, if one is. -/
def body? (classification : Classification) : Option BodyKind :=
  classification.profiles.findSome? (·.body)

end Classification

theorem typeProfile?_invokeModel : typeProfile? "InvokeModelRequest" = some invokeModelProfile := by
  decide

end CallTracing
