import CallHistory.Report.Directive
import CallHistory.Text.Search

/-! # Filters of reports

A filter is a list of directives. Of those about an event the one with the longest target decides,
of several with one target one that asks for a field, and of equal ones the last. Where none is
about an event it is not shown.
-/

namespace CallHistory.Report

abbrev Filter := List Directive

namespace Filter

/-- Reads directives parted by commas. An empty text shows nothing. -/
def parse (s : List Char) : Except DirectiveError Filter :=
  ((Text.split ',' s).filter (!·.isEmpty)).mapM Directive.parse

def deciding? (filter : Filter) (e : Event) : Option Directive :=
  (filter.filter (·.selects e)).foldl (fun best d =>
    match best with
    | none => some d
    | some b => if d.yieldsTo b then some b else some d) none

def shows (filter : Filter) (e : Event) : Bool :=
  match (deciding? filter e).bind (·.level) with
  | some least => least.rank ≤ e.level.rank
  | none => false

/-- What is shown where no filter can be read. -/
def usual : Filter := [{ level := some .info }]

/-- The filter of the first text that can be read, or the usual one; none if reading crashes. -/
def choose? : List (List Char) → Option Filter
  | [] => some usual
  | s :: rest =>
    match parse s with
    | .ok filter => some filter
    | .error .malformed => choose? rest
    | .error .crashed => none

end Filter
end CallHistory.Report
