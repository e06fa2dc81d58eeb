import CssTrim.Json.Printer
import CssTrim.Stylesheet

/-!
# Reports

What a run counted, as fields of a JSON object.
-/

namespace CssTrim.Stylesheet

/-- A list of texts as a value. -/
def textsValue (ts : List Text) : Value := .list (ts.map .text)

/-- The counts as fields of a report. -/
def Stats.fields (s : Stats) : List (Text × Value) :=
  [("totalBlocksIn".toList, .int s.blocksIn), ("retained".toList, .int s.retained),
    ("removed".toList, .int s.removed), ("mergedMediaQueries".toList, .int s.merged),
    ("rejectedSelectors".toList, textsValue s.rejected),
    ("warnings".toList, textsValue s.warnings)]

/-- The fields of a report on a purge: the stylesheet and the documents by their paths, the number
of characters before and after, and the counts. -/
def Result.fields (r : Result) (stylesheet : Text) (content : List Text) (before : Text) :
    List (Text × Value) :=
  [("stylesheet".toList, .text stylesheet), ("content".toList, textsValue content),
    ("original_bytes".toList, .int before.length), ("pruned_bytes".toList, .int r.css.length)] ++
    r.stats.fields

/-- The fields of a report on a split: the critical selectors and the counts. -/
def Split.fields (s : Split) : List (Text × Value) :=
  ("selectors".toList, textsValue s.selectors) :: s.stats.fields

end CssTrim.Stylesheet
