import TwinRun.Comparison

/-!
What is reported, and collecting it as text.

A report is a sequence of calls: a separator opens a case, its comparison follows.
-/

namespace TwinRun

inductive ReportCall where
  | separator (caseName : String)
  | comparison (c : Comparison)
  deriving DecidableEq, Repr

def separatorLine (caseName : String) : String := "-----" ++ caseName ++ "-----"

/-- Collects the report as text and keeps the comparisons. -/
structure BufferSink where
  buffer : String := ""
  comparisons : List Comparison := []
  deriving DecidableEq, Repr

def BufferSink.receive (sink : BufferSink) : ReportCall → BufferSink
  | .separator name => { sink with buffer := sink.buffer ++ separatorLine name ++ "\n" }
  | .comparison c =>
      { buffer := sink.buffer ++ c.render, comparisons := sink.comparisons ++ [c] }

end TwinRun
