/-
  CallTracing/Extract/FieldMapping.lean
  =====================================
  **Attributes out of payload fields**, by the mapping table.

  The mappings that apply to the call are walked in order.  A plain one writes the text of the value
  at the end of its path.  A structured one wants a fact out of a body: the body at the end of its
  path is read and decoded once for each path (`BodyFacts.decoded`), by the decoder of the model
  that the request names, and the attribute takes the decoder's value.  If any structured attribute
  was written, the name of the system is written too.
-/
import CallTracing.Extract.Extractor
import CallTracing.Mapping.Table
import CallTracing.Model.Invocation

namespace CallTracing.FieldMappings

open Names

/-- What the bodies of one phase hold. -/
structure BodyFacts where
  /-- The facts of each body that was asked for, by path. -/
  decoded : List (List String × AttributeSet) := []
  wroteAny : Bool := false

/-- The phase of a call that is looked at. -/
structure Phase where
  request : Request
  root : Payload
  classification : Classification
  direction : Direction

/-- The decoder for the bodies of a call, by the model that its request names. -/
def selectDecoder (phase : Phase) : Reading (Option BodyDecoder) :=
  match phase.classification.body? with
  | none => return none
  | some .modelInvocation => do
    let modelId ← Session.read phase.request.payload "modelId"
    return some (BodyDecoder.select (modelId.bind FieldValue.text?))

/-- The facts of the body at the end of a path; none where there is no such body. -/
def decodeAt (phase : Phase) (path : List String) : Reading AttributeSet := do
  match ← selectDecoder phase with
  | none => return .empty
  | some decoder =>
    match ← Session.resolve phase.root path with
    | none => return .empty
    | some raw =>
      match ← Session.parseBody raw with
      | none => return .empty
      | some body =>
        let facts := decoder.write phase.direction body .empty
        Session.report ⟨.debug, .fieldMappings, "model invocation body decoded",
          [("family", decoder.name), ("decoded", toString facts.size)]⟩
        return facts

/-- Apply a structured mapping. -/
def applyStructured (phase : Phase) (mapping : FieldMapping) (set : AttributeSet)
    (bodies : BodyFacts) : Reading (AttributeSet × BodyFacts) := do
  let (facts, bodies) ←
    match bodies.decoded.lookup mapping.path with
    | some facts => pure (facts, bodies)
    | none => do
      let facts ← decodeAt phase mapping.path
      pure (facts, { bodies with decoded := bodies.decoded ++ [(mapping.path, facts)] })
  match facts.get? mapping.target with
  | some value => return (set.put mapping.target value, { bodies with wroteAny := true })
  | none => return (set, bodies)

/-- Apply a plain mapping. -/
def applyPlain (phase : Phase) (mapping : FieldMapping) (set : AttributeSet) :
    Reading AttributeSet := do
  match ← Session.resolve phase.root mapping.path with
  | none => return set
  | some value =>
    match value.flat? with
    | some text => return set.putNonEmpty mapping.target text
    | none => return set

/-- Apply mappings in order. -/
def applyAll (genAi : Bool) (phase : Phase) :
    List FieldMapping → AttributeSet → BodyFacts → Reading (AttributeSet × BodyFacts)
  | [], set, bodies => return (set, bodies)
  | mapping :: rest, set, bodies =>
    if mapping.isStructured then
      if genAi then do
        let (set, bodies) ← applyStructured phase mapping set bodies
        applyAll genAi phase rest set bodies
      else applyAll genAi phase rest set bodies
    else do
      let set ← applyPlain phase mapping set
      applyAll genAi phase rest set bodies

/-- The mappings that apply in a phase, in order. -/
def Phase.mappings (phase : Phase) : List FieldMapping :=
  phase.classification.profiles.flatMap (·.mappingsFor phase.direction)

/-- The attributes of a phase. -/
def extract (genAi : Bool) (phase : Phase) : Reading AttributeSet := do
  let (set, bodies) ← applyAll genAi phase phase.mappings .empty {}
  return if bodies.wroteAny then set.put GenAi.system (.text GenAi.systemValue) else set

/-- What is written before the call. -/
def startAttributes (genAi : Bool) (request : Request) : Reading AttributeSet :=
  extract genAi
    { request := request
      root := request.payload
      classification :=
        Classification.resolve request.service request.payload.typeName none .request
      direction := .request }

/-- What is written after the call: nothing, unless its response has a payload. -/
def endAttributes (genAi : Bool) (request : Request) (outcome : Outcome) :
    Reading AttributeSet :=
  match outcome.response.bind (·.payload) with
  | none => return .empty
  | some root =>
    extract genAi
      { request := request
        root := root
        classification :=
          Classification.resolve request.service request.payload.typeName (some root.typeName)
            .response
        direction := .response }

/-- The extractor of mapped fields; without `genAi` it leaves bodies alone. -/
def extractor (genAi : Bool) : Extractor where
  name := "field_mappings"
  onStart := fun request => do return { attributes := ← startAttributes genAi request }
  onEnd := fun request outcome => do
    return { attributes := ← endAttributes genAi request outcome }

end CallTracing.FieldMappings
