/-
  CallTracing/Span/Suppression.lean
  =================================
  **Whether a call inside a traced call gets a span of its own.**  A span claims its own key and
  the extra keys of the policy, on top of what was claimed around it.  Under the strategy
  `spanKey` a call whose key is claimed gets no span; under `off` every call gets one.
-/
import CallTracing.Span.Key
import CallTracing.Text.Quoted

namespace CallTracing

/-- How it is decided whether a nested call gets a span. -/
inductive SuppressionStrategy where
  | off
  | spanKey
deriving DecidableEq, Repr

namespace SuppressionStrategy

/-- The name of a strategy in settings. -/
def name : SuppressionStrategy → String
  | .off => "none"
  | .spanKey => "span_key"

/-- The strategy as diagnostics show it. -/
def shown : SuppressionStrategy → String
  | .off => "None"
  | .spanKey => "SpanKey"

/-- The strategy of exactly this name. -/
def ofName? (text : String) : Option SuppressionStrategy :=
  [SuppressionStrategy.off, .spanKey].find? (·.name == text)

/-- The strategy that a text names, whatever its case and the blanks around it.  `span_key` may
also be written with a hyphen. -/
def parse (text : String) : Except String SuppressionStrategy :=
  let wanted := Text.lower (Text.trim text)
  match ofName? (if wanted = "span-key" then "span_key" else wanted) with
  | some strategy => .ok strategy
  | none => .error ("unknown suppression strategy '" ++ wanted ++ "'")

theorem ofName?_name (strategy : SuppressionStrategy) :
    ofName? strategy.name = some strategy := by cases strategy <;> decide

end SuppressionStrategy

/-- A strategy, and the keys that every span claims beside its own. -/
structure SuppressionPolicy where
  strategy : SuppressionStrategy := .spanKey
  claimedKeys : List SpanKey := [.httpClient]
deriving DecidableEq, Repr

namespace SuppressionPolicy

/-- Whether a call of this key gets a span where `claimed` keys are claimed. -/
def shouldStart (policy : SuppressionPolicy) (claimed : List SpanKey) (key : SpanKey) : Bool :=
  match policy.strategy with
  | .off => true
  | .spanKey => !claimed.contains key

/-- A key added at the end, unless it is there. -/
def claim (claimed : List SpanKey) (key : SpanKey) : List SpanKey :=
  if claimed.contains key then claimed else claimed ++ [key]

/-- The keys claimed inside a span of this key. -/
def claims (policy : SuppressionPolicy) (claimed : List SpanKey) (key : SpanKey) : List SpanKey :=
  (key :: policy.claimedKeys).foldl claim claimed

/-- The policy as diagnostics show it. -/
def shown (policy : SuppressionPolicy) : String :=
  Text.shownRecord "SuppressionPolicy"
    [("strategy", policy.strategy.shown),
      ("claimed_keys", Text.shownList (policy.claimedKeys.map SpanKey.shown))]

theorem mem_claim (claimed : List SpanKey) (key other : SpanKey) :
    other ∈ claim claimed key ↔ other ∈ claimed ∨ other = key := by
  unfold claim
  split
  · next h =>
    constructor
    · exact Or.inl
    · rintro (h' | rfl)
      · exact h'
      · simpa using h
  · simp

end SuppressionPolicy

end CallTracing
