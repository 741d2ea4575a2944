import CallIndex.Extract.Outline

/-!
# Outlines of other sources

Sources of the C family without rules of their own: their calls are listed, and no declarations.
-/

namespace CallIndex.Extract.Generic

/-- Words that may stand before a parenthesis without being called. -/
def keywords : List String :=
  ["catch", "for", "foreach", "if", "return", "sizeof", "switch", "while"]

/-- What a source of another language holds. -/
def findings (content : List Char) : Findings where
  calls := Call.scanCalls keywords [] (Source.sourceLines {} content)
  problems := (Source.openRegions {} content).map Problem.openRegion

end CallIndex.Extract.Generic
