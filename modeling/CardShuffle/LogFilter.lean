import CardShuffle.LogFilter.Directive

/-!
# Log filters

A log filter is a list of directives with commas between them. The values of fields
are known only while a span runs, so a filter that looks at them lets everything
through at first; any other filter lets through what its highest level does.
-/

namespace CardShuffle

/-- A log filter: its directives in order. -/
structure LogFilter where
  directives : List Directive
  deriving Repr, DecidableEq

namespace LogFilter

/-- The log filter a text gives. Directives with nothing in them are passed over,
and the first one at fault is reported. -/
def ofText (text : String) : Except (Stop FilterFault) LogFilter :=
  let parts := (text.toList.splitOn ',').filter (· ≠ [])
  (parts.mapM Directive.ofChars).map LogFilter.mk

/-- The highest level at which anything can be let through. -/
def maxLevel (filter : LogFilter) : LogLevel :=
  if filter.directives.any Directive.readsValue then
    .trace
  else
    filter.directives.foldl (fun level directive => level.higher directive.level) .off

end LogFilter

end CardShuffle
