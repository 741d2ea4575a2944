import CallIndex.Json.Value

/-!
# The catalogue of tools

A tool is a query or an action of the index that can be called by name with JSON arguments. The catalogue says for
each tool what it does and which arguments it takes.
-/

namespace CallIndex

/-- The name of a tool, what it does, and the schema of its arguments. -/
structure Tool where
  name : String
  description : String
  schema : JsonValue

namespace Tool

/-- The schema of an argument. -/
def argument (type description : String) : JsonValue :=
  .object [("type", .string type), ("description", .string description)]

/-- The schema of a truth value that is false unless it is given. -/
def flag (description : String) : JsonValue :=
  .object [("type", .string "boolean"), ("description", .string description), ("default", .bool false)]

/-- The schema of an object of arguments, some of them required. -/
def arguments (properties : List (String × JsonValue)) (required : List String := []) : JsonValue :=
  .object ([("type", .string "object"), ("properties", .object properties)] ++
    if required.isEmpty then [] else [("required", .ofStrings required)])

/-- All tools. -/
def catalog : List Tool := [
  { name := "callmap_analyze"
    description :=
      "Analyze one source file (Python, JavaScript, TypeScript or PHP) into the " ++
      "index. Returns its classes, functions, methods, imports and exports."
    schema := arguments [("path", argument "string" "Path of the file to analyze")] ["path"] },
  { name := "callmap_index"
    description :=
      "Analyze every supported source file below a directory. " ++
      "Unchanged files are skipped unless force is set."
    schema := arguments [
      ("path", argument "string" "Directory to index"),
      ("exclude", .object [
        ("type", .string "array"),
        ("items", .object [("type", .string "string")]),
        ("description", .string "Additional glob patterns to exclude")]),
      ("force", flag "Re-analyze unchanged files")] ["path"] },
  { name := "callmap_find"
    description :=
      "Find classes, functions and methods. The query may be a bare name, " ++
      "Class::method, Class:: (class and its methods) or a full path:Class::method key."
    schema := arguments [
      ("query", argument "string" "Symbol query"),
      ("type", .object [
        ("type", .string "string"),
        ("enum", .ofStrings ["function", "class", "method"]),
        ("description", .string "Filter by symbol type (optional)")])] ["query"] },
  { name := "callmap_calls"
    description :=
      "List the calls made inside a method or function body, with self-calls " ++
      "resolved to the owning class and platform calls left out."
    schema := arguments [
      ("method", argument "string" "Method or function name"),
      ("class_name", argument "string" "Owning class (omit for free functions)")] ["method"] },
  { name := "callmap_trace"
    description :=
      "Trace the execution path from an entry symbol such as Class::method, " ++
      "following calls up to max_depth hops. Cycles are reported, not followed."
    schema := arguments [
      ("entry", argument "string" "Entry symbol"),
      ("max_depth", .object [
        ("type", .string "integer"),
        ("description", .string "Maximum depth to trace (default: 5)"),
        ("minimum", .int 0)]),
      ("include_parameters", flag "Include call arguments in the result")] ["entry"] },
  { name := "callmap_relationships"
    description :=
      "List the import, extends and implements edges of an analyzed file. " ++
      "Relative imports are resolved to absolute paths."
    schema := arguments [("path", argument "string" "Analyzed file")] ["path"] },
  { name := "callmap_dependents"
    description := "List the analyzed files that import a given file."
    schema := arguments [("path", argument "string" "Imported file")] ["path"] },
  { name := "callmap_signature"
    description :=
      "Check the calls a file makes to Class::method against the method's " ++
      "declared parameters. Reports calls passing too many arguments."
    schema := arguments [
      ("file", argument "string" "Calling file"),
      ("class_name", argument "string" "Class of the method"),
      ("method", argument "string" "Method name")] ["file", "class_name", "method"] },
  { name := "callmap_graph"
    description := "Dump the raw call sites of every analyzed file."
    schema := arguments [] },
  { name := "callmap_clear"
    description := "Forget one analyzed file, or the whole index when no path is given."
    schema := arguments [("path", argument "string" "File to forget (optional)")] },
  { name := "callmap_stats"
    description := "Get statistics about the index."
    schema := arguments [] }]

end Tool

end CallIndex
