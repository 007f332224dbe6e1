/-
  CallTracing/Attribute/Names.lean
  ================================
  **The names of the attributes, and the fixed values of some of them.**  They are agreed with
  whatever backend reads the spans.

  The attributes about a model invocation share the `gen_ai.` stem.  Those of them that are read
  out of a body or out of token-count headers are called structured (`GenAi.isStructured`); the
  name of the model and the name of the system are not.
-/

namespace CallTracing.Names

/-! ### Calls in general -/

def rpcSystem : String := "rpc.system"
def rpcService : String := "rpc.service"
def rpcMethod : String := "rpc.method"
def codeFunction : String := "code.function"
def codeNamespace : String := "code.namespace"
def serverAddress : String := "server.address"
def urlPath : String := "url.path"
def urlScheme : String := "url.scheme"
def clientAddress : String := "client.address"
def httpRequestMethod : String := "http.request.method"
def httpResponseStatusCode : String := "http.response.status_code"
def userAgentHeader : String := "user_agent.original"
def networkPeerAddress : String := "network.peer.address"
def errorType : String := "error.type"
def exceptionMessage : String := "exception.message"

/-- The value of `rpcSystem` on every span. -/
def rpcSystemValue : String := "aws-api"

/-! ### Services -/

def agent : String := "aws.agent"
def endpoint : String := "aws.endpoint"
def requestId : String := "aws.requestId"
def bucketName : String := "aws.bucket.name"
def queueUrl : String := "aws.queue.url"
def queueName : String := "aws.queue.name"
def streamName : String := "aws.stream.name"
def streamArn : String := "aws.stream.arn"
def streamConsumerName : String := "aws.stream.consumer_name"
def tableName : String := "aws.table.name"
def secretArn : String := "aws.secretsmanager.secret.arn"
def stateMachineArn : String := "aws.stepfunctions.state_machine.arn"
def activityArn : String := "aws.stepfunctions.activity.arn"
def lambdaFunctionName : String := "aws.lambda.function.name"
def lambdaResourceMappingId : String := "aws.lambda.resource_mapping.id"
def guardrailId : String := "aws.bedrock.guardrail.id"
def bedrockAgentId : String := "aws.bedrock.agent.id"
def knowledgeBaseId : String := "aws.bedrock.knowledge_base.id"
def dataSourceId : String := "aws.bedrock.data_source.id"
def messagingDestination : String := "messaging.destination.name"

/-- The value of `agent` on every span. -/
def agentValue : String := "rust-aws-sdk"

/-- The response header with the number of tokens read by a model. -/
def inputTokenHeader : String := "X-Amzn-Bedrock-Input-Token-Count"

/-- The response header with the number of tokens written by a model. -/
def outputTokenHeader : String := "X-Amzn-Bedrock-Output-Token-Count"

/-! ### Model invocations -/

namespace GenAi

def system : String := "gen_ai.system"
def requestModel : String := "gen_ai.request.model"
def requestMaxTokens : String := "gen_ai.request.max_tokens"
def requestTemperature : String := "gen_ai.request.temperature"
def requestTopP : String := "gen_ai.request.top_p"
def responseFinishReason : String := "gen_ai.response.finish_reason"
def usagePromptTokens : String := "gen_ai.usage.prompt_tokens"
def usageCompletionTokens : String := "gen_ai.usage.completion_tokens"

/-- The value of `system` where a body was decoded. -/
def systemValue : String := "aws.bedrock"

/-- What the names of attributes about model invocations begin with. -/
def stem : String := "gen_ai."

/-- Whether an attribute is read out of a body or a token-count header. -/
def isStructured (name : String) : Bool :=
  stem.toList.isPrefixOf name.toList && name != requestModel && name != system

theorem isStructured_system : isStructured system = false := by decide

end GenAi

end CallTracing.Names
