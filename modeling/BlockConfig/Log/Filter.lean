/-
BlockConfig.Log.Filter — which events become entries of the log.

A filter is a list of directives, written with commas between them. Of the
directives that speak of an event the narrowest decides; of two that are
as narrow, the later one. An event of which none speaks is not let
through. A filter without directives asks for errors only.
-/
import BlockConfig.Log.Directive
import BlockConfig.Verbosity

namespace BlockConfig

/-- Which events are let through. -/
structure LogFilter where
  directives : List Directive
deriving DecidableEq

namespace LogFilter

/-- Errors of every target. -/
def errorsOnly : LogFilter := ⟨[{ depth := Severity.error.depth }]⟩

/-- Read a filter. If one of its directives cannot be read, the filter
cannot. -/
def parse? (text : String) : Option LogFilter :=
  match ((text.splitOn ",").filter (· ≠ "")).mapM Directive.parse? with
  | none => none
  | some [] => some errorsOnly
  | some directives => some ⟨directives⟩

/-- The filter of a verbosity. -/
def ofVerbosity (v : Verbosity) : LogFilter := (parse? v.logDirective).getD errorsOnly

/-- The filter that was given, if it can be read, or else that of the
verbosity. -/
def choose (given : Option String) (v : Verbosity) : LogFilter :=
  (given.bind parse?).getD (ofVerbosity v)

/-- The narrower of two directives, or the later one. -/
def narrower (kept : Option Directive) (d : Directive) : Option Directive :=
  if kept.any (·.isNarrowerThan d) then kept else some d

/-- The directive that decides about an event. -/
def deciding? (f : LogFilter) (e : Event) : Option Directive :=
  (f.directives.filter (·.concerns e)).foldl narrower none

/-- Whether an event is let through. -/
def passes (f : LogFilter) (e : Event) : Bool :=
  (f.deciding? e).any fun d => e.severity.depth ≤ d.depth

/-- The log entries of events. -/
def entries (f : LogFilter) (events : List Event) : List String :=
  (events.filter f.passes).map Event.entry

end LogFilter

end BlockConfig
