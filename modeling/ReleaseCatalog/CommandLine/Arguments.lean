/-
The arguments of the command line. They are read twice and independently: once for the version to
amend and how to amend it, and once for the settings file. The first reading passes over the
settings file, and the second over everything else.
-/

import ReleaseCatalog.Workflow.Amend

namespace ReleaseCatalog.CommandLine

/-- What the arguments ask for. -/
structure Arguments where
  identifiers : VersionIdentifiers
  updatePath : String
  options : AmendOptions
  deriving DecidableEq, Repr

/-- Why arguments cannot be used. -/
inductive ArgumentError where
  | unknownFlag (flag : String)
  /-- Nothing follows the flag for the tag. -/
  | missingTag
  /-- There are not exactly four arguments besides the flags. -/
  | wrongCount
  deriving DecidableEq, Repr

/-- How the command is used. -/
def usage : String :=
  "usage: catalog-amend <dataset_id> <edition> <version> <update.json> " ++
    "[--if-match <etag>] [--has-downloads] [--config <path>]"

/-- The message for people. -/
def ArgumentError.message : ArgumentError → String
  | unknownFlag flag => "unknown flag " ++ flag
  | missingTag => "--if-match needs a value"
  | wrongCount => usage

/-- The arguments besides the flags in their order, and the options that the flags set. The first
flag that cannot be used is the error. -/
def scan : AmendOptions → List String → Except ArgumentError (List String × AmendOptions)
  | options, [] => .ok ([], options)
  | options, "--if-match" :: rest =>
    match rest with
    | [] => .error .missingTag
    | tag :: rest => scan { options with ifMatch := tag } rest
  | options, "--has-downloads" :: rest => scan { options with hasDownloads := true } rest
  | options, "--config" :: rest =>
    match rest with
    | [] => .ok ([], options)
    | _ :: rest => scan options rest
  | options, argument :: rest =>
    if argument.startsWith "--config=" then scan options rest
    else if argument.startsWith "--" then .error (.unknownFlag argument)
    else (scan options rest).map fun (others, options) => (argument :: others, options)

/-- Reads the arguments. -/
def Arguments.read (arguments : List String) : Except ArgumentError Arguments := do
  match ← scan {} arguments with
  | ([datasetId, edition, version, updatePath], options) =>
    .ok ⟨⟨datasetId, edition, version⟩, updatePath, options⟩
  | _ => .error .wrongCount

/-- The settings file that the arguments name, wherever they name it first. -/
def configPath : List String → Option String
  | [] => none
  | argument :: rest =>
    if argument == "--config" then rest.head?
    else if argument.startsWith "--config=" then
      some (String.ofList (argument.toList.drop "--config=".length))
    else configPath rest

end ReleaseCatalog.CommandLine
