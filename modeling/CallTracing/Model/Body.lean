/-
  CallTracing/Model/Body.lean
  ===========================
  **Bodies of model invocations.**

  The request and the response of a model invocation carry an opaque JSON body, whose members
  depend on the vendor of the model.  Four families of schemas are known; a `ModelFamily` says
  where each of six facts stands in a body.  An identifier of a model names its family by what
  stands before the first hyphen, a regional qualifier left out (`familyKey`); where it names none,
  the generic decoder takes each fact from the first family that finds it.

  A missing member, or one of the wrong shape, means that nothing is written for that fact.  Counts
  are written only if they are whole numbers that fit 64 bits signed (`JsonNumber.toInt64?`).
-/
import CallTracing.Attribute.Names
import CallTracing.Attribute.Set
import CallTracing.Json.Writer

namespace CallTracing

/-! ### Facts -/

/-- The whole number that a JSON number is, if it is one and fits 64 bits signed.  A literal that
does not fit is looked at as a double. -/
def JsonNumber.toInt64? (n : JsonNumber) : Option Int :=
  let whole? (x : Binary64) : Option Int :=
    match x.toInt? with
    | some value => if value.natAbs < Nat.pow 2 63 then some value else none
    | none => none
  match n with
  | .integer value =>
    if -(Int.pow 2 63) ≤ value ∧ value < Int.pow 2 63 then some value
    else whole? (Binary64.ofInt value)
  | .real x => whole? x

namespace AttributeSet

/-- Write a count, if the value is one. -/
def putCount (set : AttributeSet) (name : String) (value : Option Json) : AttributeSet :=
  match value with
  | some (.number n) =>
    match n.toInt64? with
    | some count => set.put name (.text (toString count))
    | none => set
  | _ => set

/-- Write a number as it is written in JSON, if the value is one. -/
def putNumber (set : AttributeSet) (name : String) (value : Option Json) : AttributeSet :=
  match value with
  | some (.number n) => set.put name (.text n.text)
  | _ => set

/-- Write a text, if the value is one and not empty. -/
def putString (set : AttributeSet) (name : String) (value : Option Json) : AttributeSet :=
  match value with
  | some (.string s) => set.putNonEmpty name s
  | _ => set

end AttributeSet

/-- The facts of a request, where the body has them. -/
structure RequestFacts where
  maxTokens : Option Json
  temperature : Option Json
  topP : Option Json

/-- The facts of a response, where the body has them. -/
structure ResponseFacts where
  finishReason : Option Json
  promptTokens : Option Json
  completionTokens : Option Json

/-- Write the facts of a request. -/
def RequestFacts.write (facts : RequestFacts) (set : AttributeSet) : AttributeSet :=
  ((set.putCount Names.GenAi.requestMaxTokens facts.maxTokens).putNumber
    Names.GenAi.requestTemperature facts.temperature).putNumber
      Names.GenAi.requestTopP facts.topP

/-- Write the facts of a response. -/
def ResponseFacts.write (facts : ResponseFacts) (set : AttributeSet) : AttributeSet :=
  ((set.putString Names.GenAi.responseFinishReason facts.finishReason).putCount
    Names.GenAi.usagePromptTokens facts.promptTokens).putCount
      Names.GenAi.usageCompletionTokens facts.completionTokens

/-! ### Families -/

/-- The vendors' families of models with a known schema. -/
inductive ModelFamily where
  | claude
  | titan
  | llama
  | nova
deriving DecidableEq, Repr

namespace ModelFamily

/-- All families, in the order in which the generic decoder asks them. -/
def all : List ModelFamily := [.claude, .titan, .llama, .nova]

/-- The name of a family. -/
def name : ModelFamily → String
  | .claude => "claude"
  | .titan => "titan"
  | .llama => "llama"
  | .nova => "nova"

/-- The family keys of the models of a family. -/
def keys : ModelFamily → List String
  | .claude => ["anthropic.claude"]
  | .titan => ["amazon.titan"]
  | .llama => ["meta.llama2", "meta.llama3"]
  | .nova => ["amazon.nova"]

/-- Whether a value is a number written as a whole one. -/
def isWholeLiteral : Json → Bool
  | .number (.integer _) => true
  | _ => false

/-- Where the facts of a request stand.  Claude has two members for the token limit, an older and a
newer one; the first that holds a whole number literal counts. -/
def requestFacts (body : Json) : ModelFamily → RequestFacts
  | .claude =>
    ⟨(["max_tokens_to_sample", "max_tokens"].filterMap body.member?).find? isWholeLiteral,
      body.member? "temperature", body.member? "top_p"⟩
  | .titan =>
    ⟨body.at? ["textGenerationConfig", "maxTokenCount"],
      body.at? ["textGenerationConfig", "temperature"], body.at? ["textGenerationConfig", "topP"]⟩
  | .llama => ⟨body.member? "max_gen_len", body.member? "temperature", body.member? "top_p"⟩
  | .nova =>
    ⟨body.at? ["inferenceConfig", "maxTokens"], body.at? ["inferenceConfig", "temperature"],
      body.at? ["inferenceConfig", "topP"]⟩

/-- Where the facts of a response stand. -/
def responseFacts (body : Json) : ModelFamily → ResponseFacts
  | .claude =>
    ⟨body.member? "stop_reason", body.at? ["usage", "input_tokens"],
      body.at? ["usage", "output_tokens"]⟩
  | .titan =>
    ⟨body.at? ["results", "0", "completionReason"], body.member? "inputTextTokenCount",
      body.at? ["results", "0", "tokenCount"]⟩
  | .llama =>
    ⟨body.member? "stop_reason", body.member? "prompt_token_count",
      body.member? "generation_token_count"⟩
  | .nova =>
    ⟨body.member? "stopReason", body.at? ["usage", "inputTokens"],
      body.at? ["usage", "outputTokens"]⟩

end ModelFamily

/-! ### Decoders -/

/-- Which half of a call is looked at. -/
inductive Direction where
  | request
  | response
deriving DecidableEq, Repr

/-- What reads a body: one family's schema, or all of them. -/
inductive BodyDecoder where
  | family (f : ModelFamily)
  | generic
deriving DecidableEq, Repr

namespace BodyDecoder

/-- The name of a decoder. -/
def name : BodyDecoder → String
  | .family f => f.name
  | .generic => "generic"

/-- The family keys for which a decoder is chosen. -/
def keys : BodyDecoder → List String
  | .family f => f.keys
  | .generic => []

/-- Write the facts that one family finds. -/
def writeFamily (direction : Direction) (body : Json) (set : AttributeSet) (f : ModelFamily) :
    AttributeSet :=
  match direction with
  | .request => (f.requestFacts body).write set
  | .response => (f.responseFacts body).write set

/-- Write those attributes of another set whose names are still free. -/
def fill (set other : AttributeSet) : AttributeSet :=
  other.entries.foldl
    (fun sum entry => if sum.contains entry.1 then sum else sum.put entry.1 entry.2) set

/-- Write the facts that a decoder finds in a body. -/
def write (decoder : BodyDecoder) (direction : Direction) (body : Json) (set : AttributeSet) :
    AttributeSet :=
  match decoder with
  | .family f => writeFamily direction body set f
  | .generic =>
    ModelFamily.all.foldl (fun sum f => fill sum (writeFamily direction body .empty f)) set

end BodyDecoder

/-! ### Choosing a decoder -/

/-- What may stand before the identifier of a model that is offered by region. -/
def regionQualifiers : List String :=
  ["us.", "eu.", "apac.", "us-gov.", "global.", "ca.", "jp.", "au."]

/-- What is left of a text after a beginning that it has. -/
def dropPrefix? : List Char → List Char → Option (List Char)
  | [], text => some text
  | _ :: _, [] => none
  | a :: front, b :: text => if a = b then dropPrefix? front text else none

/-- The part of a model identifier that names its family. -/
def familyKey (modelId : String) : String :=
  let chars := modelId.toList
  let unqualified :=
    (regionQualifiers.findSome? fun qualifier => dropPrefix? qualifier.toList chars).getD chars
  String.ofList (unqualified.takeWhile (· != '-'))

/-- The decoder for the bodies of a model. -/
def BodyDecoder.select (modelId : Option String) : BodyDecoder :=
  match modelId with
  | none => .generic
  | some id =>
    match ModelFamily.all.find? fun f => f.keys.contains (familyKey id) with
    | some f => .family f
    | none => .generic

theorem dropPrefix?_append (front text : List Char) :
    dropPrefix? front (front ++ text) = some text := by
  induction front with
  | nil => cases text <;> rfl
  | cons a front ih => simp [dropPrefix?, ih]

theorem dropPrefix?_eq_some_iff {front text rest : List Char} :
    dropPrefix? front text = some rest ↔ text = front ++ rest := by
  constructor
  · intro h
    induction front generalizing text with
    | nil => cases text <;> exact Option.some.inj h
    | cons a front ih =>
      cases text with
      | nil => cases h
      | cons b text =>
        rw [dropPrefix?] at h
        split at h
        · next heq => rw [heq, ih h, List.cons_append]
        · cases h
  · rintro rfl
    exact dropPrefix?_append front rest

end CallTracing
