import CloudTemplate.CommandLine.Invocation

/-!
# Arguments

The words of a command line name the command, the files it works on, and the options.  Options for
every command (`--config`, `--format`) come before the command, and those of the command itself
(`--graph`, `--template`) behind it.  An option is followed by its value, as a word of its own or
behind an equals sign.
-/

namespace CloudTemplate

/-- A command whose files are named and not read yet. -/
inductive Task where
  | catalog
  | generate (graph : String)
  | validate (template : String)
  | compile (graph : String)
deriving DecidableEq

/-- What the words of a command line ask for. -/
structure Arguments where
  task : Task
  format : ReportFormat := .json
  /-- The path of the file with the policy. -/
  policy : Option String := none
deriving DecidableEq

namespace Arguments

/-- How the command is called. -/
def usage : String :=
  "usage: [--config FILE] [--format json|text] catalog | generate --graph FILE | " ++
    "validate --template FILE | compile --graph FILE"

/-- Cuts `--name=value` into two words. -/
def cutWord (word : String) : List String :=
  if beginsWith word "--" then
    match splitAtFirst '=' word.toList with
    | some (name, value) => [String.ofList name, String.ofList value]
    | none => [word]
  else [word]

/-- The value of the one option of a command. -/
def optionValue? (long short : String) : List String → Option String
  | [name, value] => if name = long ∨ name = short then some value else none
  | _ => none

/-- The format with a name. -/
def format? : String → Option ReportFormat
  | "json" => some .json
  | "text" => some .text
  | _ => none

/-- Reads the words, with the options of every command that have been read. -/
def ofWords? (format : ReportFormat) (policy : Option String) : List String → Option Arguments
  | "--config" :: path :: rest | "-c" :: path :: rest => ofWords? format (some path) rest
  | "--format" :: name :: rest | "-f" :: name :: rest =>
    match format? name with
    | some format => ofWords? format policy rest
    | none => none
  | ["catalog"] => some ⟨.catalog, format, policy⟩
  | "generate" :: rest =>
    (optionValue? "--graph" "-g" rest).map fun path => ⟨.generate path, format, policy⟩
  | "validate" :: rest =>
    (optionValue? "--template" "-t" rest).map fun path => ⟨.validate path, format, policy⟩
  | "compile" :: rest =>
    (optionValue? "--graph" "-g" rest).map fun path => ⟨.compile path, format, policy⟩
  | _ => none

/-- Reads the words of a command line. -/
def parse? (words : List String) : Option Arguments :=
  ofWords? .json none (words.flatMap cutWord)

end Arguments

end CloudTemplate
