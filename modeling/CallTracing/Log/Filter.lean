/-
  CallTracing/Log/Filter.lean
  ===========================
  **Which events are logged.**

  A filter is a list of directives; each says down to which level events are logged whose target
  starts with a text.  Of the directives for a target the longest counts, and of two for the same
  text the later.  An event for which there is no directive is not logged.

  Directives are separated by commas, and one that cannot be understood spoils the whole list
  (`parse?`).  Three noisy targets are always kept down (`withQuiet`).
-/
import CallTracing.Event
import CallTracing.Redaction
import CallTracing.Text.Blank
import CallTracing.Text.Casing

namespace CallTracing.Log

/-- Down to which level the events of a target are logged; none where it is `none`. -/
structure Directive where
  /-- What the target starts with. -/
  target : String := ""
  least : Option Level := some .trace
deriving DecidableEq, Repr

/-- Directives, no two of them for the same text. -/
abbrev Filter := List Directive

namespace Filter

/-- Add a directive, in place of one for the same text. -/
def add (filter : Filter) (directive : Directive) : Filter :=
  filter.filter (·.target != directive.target) ++ [directive]

/-- Whether a directive is for a target. -/
def isFor (target : String) (directive : Directive) : Bool :=
  directive.target.toList.isPrefixOf target.toList

/-- The longer of two directives. -/
def longer (a b : Directive) : Directive := if a.target.length < b.target.length then b else a

/-- The directive that counts for a target. -/
def directiveFor? (filter : Filter) (target : String) : Option Directive :=
  match filter.filter (isFor target) with
  | [] => none
  | first :: rest => some (rest.foldl longer first)

/-- Whether a level is as important as another one. -/
def reaches (level : Level) (least : Option Level) : Bool :=
  match least with
  | none => false
  | some least => decide (level.verbosity ≤ least.verbosity)

/-- Whether an event is logged. -/
def passes (filter : Filter) (target : String) (level : Level) : Bool :=
  match filter.directiveFor? target with
  | none => false
  | some directive => reaches level directive.least

/-! ### Reading directives -/

/-- The level down to which a text says events are logged: a name whatever its case, or a number
from zero, for none, to five. -/
def levelOf? (text : List Char) : Option (Option Level) :=
  let digits := if text.head? = some '+' then text.drop 1 else text
  if !digits.isEmpty && digits.all Char.isDigit then
    let number := digits.foldl (fun n c => n * 10 + (c.toNat - '0'.toNat)) 0
    if number = 0 then some none
    else (Level.all.find? (·.verbosity = number)).map some
  else if Text.sameIgnoringAsciiCase text "off".toList then some none
  else
    (Level.all.find? fun level => Text.sameIgnoringAsciiCase text level.name.toList).map some

/-- Whether a directive can start with a character. -/
def startsDirective (c : Char) : Bool :=
  c == '-' || c == ':' || c == '_' || Redaction.isWordChar c

/-- A directive: a target, a level, or both with an equals sign between them.  A target alone is
logged at every level. -/
def directive? (text : List Char) : Option Directive :=
  let trimmed := Text.trimmed text
  match trimmed.head? with
  | none => none
  | some first =>
    if !startsDirective first then none
    else if trimmed.contains '=' then
      let target := trimmed.takeWhile (· != '=')
      match text.drop (target.length + 1) with
      | [] => some { target := String.ofList (text.take target.length) }
      | level =>
        (levelOf? level).map fun least => ⟨String.ofList (text.take target.length), least⟩
    else
      match levelOf? text with
      | some least => some { least := least }
      | none => some { target := String.ofList text }

/-- The filter that a list of directives describes. -/
def parse? (text : String) : Option Filter :=
  (((text.toList.splitOn ',').filter (!·.isEmpty)).mapM directive?).map (·.foldl add [])

/-- The directives that keep noisy targets down. -/
def quiet : List Directive :=
  ["opentelemetry", "opentelemetry_sdk", "tokio"].map fun target => ⟨target, some .warn⟩

/-- A filter with the noisy targets kept down. -/
def withQuiet (filter : Filter) : Filter := quiet.foldl add filter

/-- The filter that a text describes, or the one down to `info` if it describes none. -/
def ofText (text : String) : Filter := withQuiet ((parse? text).getD [{ least := some .info }])

end Filter

end CallTracing.Log
