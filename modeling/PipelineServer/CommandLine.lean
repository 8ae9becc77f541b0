import PipelineServer.Path

/-!
The command line: an optional workspace root and an optional output directory.
-/

namespace PipelineServer.CommandLine

/-- What the command line asks for. -/
structure Request where
  root : Option Path := none
  outputDirectory : Option Path := none
deriving DecidableEq, Repr, Inhabited

/-- Names of the two options. -/
inductive Flag
  | root
  | outputDirectory
deriving DecidableEq, Repr

def flags : List (String × Flag) := [("--root", .root), ("--output-dir", .outputDirectory)]

/-- Whether an argument can be the value of an option: it is not empty and does not look like an
option itself. -/
def isValue (arg : String) : Bool :=
  match arg.toList with
  | [] => false
  | ['-'] => true
  | '-' :: _ => false
  | _ => true

/-- Sets an option; each may be given once, and not to nothing. -/
def set? (r : Request) (flag : Flag) (value : String) : Option Request :=
  if value.isEmpty then none
  else
    match flag with
    | .root => if r.root.isSome then none else some { r with root := some (Path.ofText value) }
    | .outputDirectory =>
        if r.outputDirectory.isSome then none
        else some { r with outputDirectory := some (Path.ofText value) }

/-- An argument that holds an option and its value with an equals sign between them. -/
def assignment? (arg : String) : Option (Flag × String) :=
  let text := arg.toList
  (flags.lookup (String.ofList (text.takeWhile (· != '=')))).bind fun flag =>
    match text.dropWhile (· != '=') with
    | _ :: value => some (flag, String.ofList value)
    | [] => none

/-- Reads arguments behind those in `r`; nothing if one is not understood. -/
def parseFrom? (r : Request) : List String → Option Request
  | [] => some r
  | ["--"] => some r
  | [arg] => (assignment? arg).bind fun (flag, value) => set? r flag value
  | arg :: value :: rest =>
      match flags.lookup arg with
      | some flag =>
          if isValue value then (set? r flag value).bind fun r => parseFrom? r rest else none
      | none =>
          (assignment? arg).bind fun (flag, given) =>
            (set? r flag given).bind fun r => parseFrom? r (value :: rest)

/-- How the program is called. -/
def usage : String := "Usage: nextflow-lsp [--root <PATH>] [--output-dir <PATH>]"

/-- Reads the command line. -/
def parse? (args : List String) : Option Request := parseFrom? {} args

end PipelineServer.CommandLine
