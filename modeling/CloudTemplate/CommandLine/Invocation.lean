import CloudTemplate.Catalog.Spec
import CloudTemplate.Pipeline

/-!
# Commands and their replies

A command reads its files, writes to the standard output and ends with an exit code: zero if all is
well, one if a file cannot be used, two if validation fails.  Here the files have been read already,
so that a command is a function: `Invocation.reply` is what it writes and how it ends.

The policy is loaded before anything else.  Results are JSON on indented lines; reports and the
result of a compilation can also be had as text.
-/

namespace CloudTemplate

/-- A file as it was found. -/
inductive FileContent where
  /-- There is no such file. -/
  | missing
  /-- The file is not UTF-8. -/
  | notText
  /-- The file could not be read for another reason. -/
  | unreadable (reason : String)
  /-- The text in the file. -/
  | text (content : String)

namespace FileContent

/-- The bytes of a file as text. -/
def ofBytes (bytes : List UInt8) : FileContent :=
  match String.fromUTF8? bytes.toByteArray with
  | some content => .text content
  | none => .notText

/-- The text in a file, or why there is none. -/
def content : FileContent → Except String String
  | .text content => .ok content
  | .missing => .error "No such file or directory (os error 2)"
  | .notText => .error "stream did not contain valid UTF-8"
  | .unreadable reason => .error reason

end FileContent

/-- How reports are written. -/
inductive ReportFormat where
  | json
  | text
deriving DecidableEq

/-- What is to be done. -/
inductive Command where
  /-- Lists the catalog. -/
  | catalog
  /-- Writes the template of a graph. -/
  | generate (graph : FileContent)
  /-- Reports on a template. -/
  | validate (template : FileContent)
  /-- Compiles a graph. -/
  | compile (graph : FileContent)

/-- A command with its options. -/
structure Invocation where
  command : Command
  format : ReportFormat := .json
  /-- The file with the policy, if one is named. -/
  policy : Option FileContent := none

/-- How a command ends and what it writes. -/
structure Reply where
  exitCode : Nat
  output : String
deriving DecidableEq

namespace Reply

/-- A reply of one JSON value. -/
def ofJson (exitCode : Nat) (j : Json) : Reply := ⟨exitCode, j.pretty ++ "\n"⟩

/-- A reply of lines of text. -/
def ofLines (exitCode : Nat) (lines : List String) : Reply :=
  ⟨exitCode, String.join (lines.map (· ++ "\n"))⟩

/-- A reply that something failed, under the name of the flag that would tell success. -/
def failure (exitCode : Nat) (flag message : String) : Reply :=
  ofJson exitCode (.object [(flag, .bool false), ("error", .string message)])

end Reply

/-- The exit code of a report. -/
def Report.exitCode (r : Report) : Nat := if r.valid then 0 else 2

/-- The last line of a report as text. -/
def Report.summary (r : Report) : String :=
  (if r.valid then "valid" else "invalid") ++ " (" ++ toString r.errors.length ++ " errors, " ++
    toString r.warnings.length ++ " warnings)"

/-- The policy in a file; without a file, the usual one. -/
def loadPolicy : Option FileContent → Except String Policy
  | none => .ok {}
  | some file => do
    let content ← file.content
    (Policy.ofText content).mapError ReadError.message

/-- The graph in a file. -/
def loadGraph (file : FileContent) : Except String Graph := do
  let content ← file.content.mapError ("Failed to read graph: " ++ ·)
  (Graph.ofText content).mapError fun e => "Invalid graph document: " ++ e.message

/-- The catalog as JSON. -/
def catalogJson : Json :=
  .array (ResourceType.all.map fun type =>
    .object [("type", .string type.name), ("required", .strings type.spec.required),
      ("optional", .strings type.spec.allowed)])

namespace Command

/-- Writes a report. -/
def replyReport (format : ReportFormat) (r : Report) : Reply :=
  match format with
  | .json => .ofJson r.exitCode r.toJson
  | .text => .ofLines r.exitCode (r.lines ++ [r.summary])

/-- Writes the result of a compilation. -/
def replyCompiled (stamp : Stamp) (format : ReportFormat) : Except Rejection Compiled → Reply
  | .ok c =>
    match format with
    | .json => .ofJson 0 (.object [("success", .bool true), ("compiled", c.toJson stamp)])
    | .text =>
      .ofLines 0 ["compiled " ++ c.name ++ " (" ++ stamp.id ++ ") template " ++ c.templateHash]
  | .error r =>
    match format with
    | .json => .failure 2 "success" r.message
    | .text => .ofLines 2 ["failed: " ++ r.message]

/-- What a command writes under a policy. -/
def reply (stamp : Stamp) (format : ReportFormat) (p : Policy) : Command → Reply
  | .catalog => .ofJson 0 catalogJson
  | .generate file =>
    match loadGraph file with
    | .ok g => .ofJson 0 (draft p g).template.toJson
    | .error message => .failure 1 "success" message
  | .validate file =>
    match file.content with
    | .ok content => replyReport format (validateText p content)
    | .error message => .failure 1 "valid" ("Failed to read template: " ++ message)
  | .compile file =>
    match loadGraph file with
    | .ok g => replyCompiled stamp format (CloudTemplate.compile p g)
    | .error message => .failure 1 "success" message

end Command

/-- What an invocation writes and how it ends. -/
def Invocation.reply (stamp : Stamp) (i : Invocation) : Reply :=
  match loadPolicy i.policy with
  | .error message =>
    .ofJson 1 (.object [("error", .string ("Failed to load config: " ++ message))])
  | .ok p => i.command.reply stamp i.format p

end CloudTemplate
