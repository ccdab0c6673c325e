import IsaUsage.Run.LogDirective

namespace IsaUsage

/-!
# Choosing what a log shows

A filter is a list of directives, of which the narrowest that concerns an event
decides whether it is shown. The directives are given as such, or they follow
from how often more detail was asked for.
-/

/-- The directives that decide what is shown. -/
structure LogFilter where
  directives : List LogDirective
  deriving DecidableEq

namespace LogFilter

/-- The filter that shows the events of all activities up to a level. -/
def upTo (level : LogLevel) : LogFilter :=
  ⟨[⟨some LogEvent.commonOrigin, none, false, some level⟩]⟩

/-- The directive that decides about an event, if one concerns it. -/
def decisive? (filter : LogFilter) (event : LogEvent) :
    Option LogDirective :=
  match filter.directives.filter fun directive => directive.concerns event with
  | [] => none
  | first :: others => some (others.foldl LogDirective.prefer first)

/-- Whether a filter shows an event. -/
def shows (filter : LogFilter) (event : LogEvent) : Bool :=
  (filter.decisive? event).any fun directive => directive.admits event

/-- The lines that a filter lets through, one for each event that it shows. -/
def shownLines (filter : LogFilter) (events : List LogEvent) : List String :=
  (events.filter filter.shows).map LogEvent.line

/-- What a log prints with a filter. -/
def lines (filter : LogFilter) (events : List LogEvent) : String :=
  String.join (filter.shownLines events)

/-- The filter up to a level has a say about every event. -/
theorem concerns_of_commonOrigin (level : LogLevel) (event : LogEvent) :
    LogDirective.concerns
      ⟨some LogEvent.commonOrigin, none, false, some level⟩ event = true := by
  simp [LogDirective.concerns, LogEvent.origin, String.toList_append]

/-- A filter up to a level shows exactly the events up to that level. -/
theorem shows_upTo (level : LogLevel) (event : LogEvent) :
    (upTo level).shows event = decide (event.level.rank ≤ level.rank) := by
  simp [shows, decisive?, upTo, concerns_of_commonOrigin, LogDirective.admits]

/-- The parts of a text between its commas, without the empty ones. -/
def directiveTexts (text : String) : List String :=
  let (last, others) := text.toList.foldr
    (fun c (part, parts) =>
      if c = ',' then ([], part :: parts) else (c :: part, parts))
    (([], []) : List Char × List (List Char))
  ((last :: others).filter (· ≠ [])).map String.ofList

/-- The filter that a text of directives describes, if all of them are valid. -/
def ofDirectives? (text : String) : Option LogFilter := do
  let directives ← (directiveTexts text).mapM LogDirective.read?
  return ⟨directives⟩

/-- The filter for directives, if there are any, and a wish for detail. -/
def choose (directives : Option String) (verbosity : Nat) : LogFilter :=
  match directives.bind ofDirectives? with
  | some filter => filter
  | none => upTo (LogLevel.ofVerbosity verbosity)

end LogFilter
end IsaUsage
