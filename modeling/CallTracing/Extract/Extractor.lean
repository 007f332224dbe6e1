/-
  CallTracing/Extract/Extractor.lean
  ==================================
  **Extractors and chains of them.**

  An extractor looks at a call at two points: before it is made, and after it.  Each time it writes
  attributes and then is done, reports an error, or panics.  A chain runs its extractors one after
  the other and merges what they wrote, a later one over an earlier one.  An extractor that reports
  an error keeps what it wrote; one that panics loses it, and nobody else is affected.
-/
import CallTracing.Attribute.Set
import CallTracing.Envelope
import CallTracing.Payload.Accessor

namespace CallTracing

/-- How an extractor came to its end. -/
inductive Ending where
  | done
  | failed (error : TraceError)
  | panicked
deriving DecidableEq, Repr

/-- What an extractor wrote, and how it came to its end. -/
structure Extraction where
  attributes : AttributeSet
  ending : Ending := .done

/-- What is known about a call after it was made. -/
structure Outcome where
  response : Option Response := none
  failure : Option CallFailure := none

/-- A source of attributes. -/
structure Extractor where
  name : String
  onStart : Request → Reading Extraction
  onEnd : Request → Outcome → Reading Extraction

/-- Extractors in the order in which they run. -/
abbrev ExtractorChain := List Extractor

namespace ExtractorChain

/-- Merge what one extractor wrote into what was written before it. -/
def merge (name : String) (before : AttributeSet) (extraction : Extraction) :
    Reading AttributeSet :=
  match extraction.ending with
  | .done => return before.extend extraction.attributes
  | .failed error => do
    Session.report ⟨.debug, .extraction, "extractor failed",
      [("extractor", name), ("error", error.text)]⟩
    return before.extend extraction.attributes
  | .panicked => do
    Session.report ⟨.warn, .extraction, "extractor panicked, attributes dropped",
      [("extractor", name)]⟩
    return before

/-- Run extractors one after the other. -/
def run (phase : Extractor → Reading Extraction) (before : AttributeSet) :
    ExtractorChain → Reading AttributeSet
  | [] => return before
  | extractor :: rest => do
    let extraction ← phase extractor
    let after ← merge extractor.name before extraction
    run phase after rest

/-- The attributes of a call before it is made. -/
def onStart (chain : ExtractorChain) (request : Request) : Reading AttributeSet :=
  run (·.onStart request) .empty chain

/-- The attributes of a call after it was made. -/
def onEnd (chain : ExtractorChain) (request : Request) (outcome : Outcome) :
    Reading AttributeSet :=
  run (·.onEnd request outcome) .empty chain

/-- The chain as diagnostics show it. -/
def shown (chain : ExtractorChain) : String :=
  Text.shownList (chain.map fun extractor => Text.quoted extractor.name)

end ExtractorChain

end CallTracing
