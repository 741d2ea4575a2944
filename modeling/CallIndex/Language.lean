import CallIndex.Extract.Generic
import CallIndex.Extract.JavaScript
import CallIndex.Extract.Php
import CallIndex.Extract.Python
import CallIndex.Path
import CallIndex.Text.Digest

/-!
# Languages

The language of a file is told by its extension, and decides how the file is scanned. A language tag without rules of
its own is kept as it is and scanned for calls only.
-/

namespace CallIndex

/-- The language tags of the known extensions. -/
def languageOfExtension : List (String × String) := [
  (".py", "python"), (".js", "javascript"), (".jsx", "javascript"), (".mjs", "javascript"), (".cjs", "javascript"),
  (".ts", "typescript"), (".tsx", "typescript"), (".php", "php"), (".java", "java"), (".cs", "csharp"),
  (".cpp", "cpp"), (".hpp", "cpp"), (".c", "c"), (".h", "c"), (".rb", "ruby"), (".go", "go"), (".rs", "rust"),
  (".swift", "swift"), (".kt", "kotlin")]

/-- The tag of a file whose extension is not known. -/
def unknownLanguage : String := "unknown"

/-- The language tag of a file, whatever the case of its extension. -/
def languageOf (path : String) : String :=
  (languageOfExtension.lookup (Text.lowerCase (Path.ofString path).suffix)).getD unknownLanguage

/-- What a source in the given language holds. -/
def findingsIn (language : String) (content : List Char) : Extract.Findings :=
  if language = "python" then Extract.Python.findings content
  else if language = "javascript" || language = "typescript" then Extract.JavaScript.findings content
  else if language = "php" then Extract.Php.findings content
  else Extract.Generic.findings content

/-- The digest of a source text. -/
def digestOf (content : String) : String :=
  Text.sha256Hex content.toUTF8

/-- The summary of a source text, and the wording of the problems met. -/
def summarize (language path content : String) : FileSummary × List String :=
  let findings := findingsIn language content.toList
  let label := if path = "" then "<memory>" else path
  (findings.summary path language (digestOf content), findings.problems.map fun p => label ++ ": " ++ p.message)

end CallIndex
