/-
The arguments of the command line.

Options may stand before, between and after the paths. The first argument that does not
fit is the error that is reported; that a path is missing is only found at the end.
-/

import TileAtlas.Path

namespace TileAtlas.CommandLine

def usage : String :=
  "Usage:\n" ++
  "  tilesmith [--verbose] validate [--deny-warnings] [--check-images] [--config FILE] <PATH>...\n" ++
  "  tilesmith [--verbose] inspect <FILE.tsx>\n" ++
  "  tilesmith [--verbose] export <FILE.tsx> [-o OUT]\n" ++
  "\n" ++
  "PATH may be a .tsx tileset, a .tmx map or a directory holding them."

def version : String := "tilesmith 0.1.0"

inductive ArgumentError where
  | missingCommand
  | unknownCommand (word : String)
  | unknownOption (word : String)
  | missingValue (option : String)
  | missingPath (command : String)
  | unexpectedArgument (word : String)
deriving DecidableEq, Repr

def ArgumentError.message : ArgumentError → String
  | .missingCommand => "no command given"
  | .unknownCommand w => s!"unknown command '{w}'"
  | .unknownOption w => s!"unknown option '{w}'"
  | .missingValue o => s!"option '{o}' needs a value"
  | .missingPath c => s!"{c} needs a file or directory argument"
  | .unexpectedArgument w => s!"unexpected argument '{w}'"

structure ValidateArguments where
  paths : List Path
  denyWarnings : Bool
  checkImages : Bool
  config : Option Path
deriving DecidableEq, Repr

inductive Command where
  | validate (arguments : ValidateArguments)
  | inspect (path : Path)
  | export (path : Path) (output : Option Path)
  | help
  | version
deriving DecidableEq, Repr

structure Invocation where
  verbose : Bool
  command : Command
deriving DecidableEq, Repr

def isOption (word : String) : Bool :=
  word.toList.head? == some '-'

def isVerbose (word : String) : Bool :=
  word == "-v" || word == "--verbose"

def readValidate (args : ValidateArguments) (verbose : Bool) :
    List String → Except ArgumentError Invocation
  | [] =>
    if args.paths.isEmpty then .error (.missingPath "validate")
    else .ok ⟨verbose, .validate args⟩
  | word :: words =>
    if word = "--deny-warnings" then readValidate { args with denyWarnings := true } verbose words
    else if word = "--check-images" then readValidate { args with checkImages := true } verbose words
    else if word = "--config" then
      match words with
      | [] => .error (.missingValue word)
      | value :: words =>
        if isOption value then .error (.missingValue word)
        else readValidate { args with config := some ⟨value⟩ } verbose words
    else if isVerbose word then readValidate args true words
    else if isOption word then .error (.unknownOption word)
    else readValidate { args with paths := args.paths ++ [⟨word⟩] } verbose words

def readInspect (path : Option Path) (verbose : Bool) :
    List String → Except ArgumentError Invocation
  | [] =>
    match path with
    | some p => .ok ⟨verbose, .inspect p⟩
    | none => .error (.missingPath "inspect")
  | word :: words =>
    if isVerbose word then readInspect path true words
    else if isOption word then .error (.unknownOption word)
    else if path.isSome then .error (.unexpectedArgument word)
    else readInspect (some ⟨word⟩) verbose words

def readExport (path output : Option Path) (verbose : Bool) :
    List String → Except ArgumentError Invocation
  | [] =>
    match path with
    | some p => .ok ⟨verbose, .export p output⟩
    | none => .error (.missingPath "export")
  | word :: words =>
    if word = "-o" ∨ word = "--output" then
      match words with
      | [] => .error (.missingValue word)
      | value :: words =>
        if isOption value then .error (.missingValue word)
        else readExport path (some ⟨value⟩) verbose words
    else if isVerbose word then readExport path output true words
    else if isOption word then .error (.unknownOption word)
    else if path.isSome then .error (.unexpectedArgument word)
    else readExport (some ⟨word⟩) output verbose words

def readCommand (verbose : Bool) : List String → Except ArgumentError Invocation
  | [] => .error .missingCommand
  | word :: words =>
    if isVerbose word then readCommand true words
    else if word = "-h" ∨ word = "--help" ∨ word = "help" then .ok ⟨verbose, .help⟩
    else if word = "-V" ∨ word = "--version" then .ok ⟨verbose, .version⟩
    else if word = "validate" then readValidate ⟨[], false, false, none⟩ verbose words
    else if word = "inspect" then readInspect none verbose words
    else if word = "export" then readExport none none verbose words
    else if isOption word then .error (.unknownOption word)
    else .error (.unknownCommand word)

def readArguments (words : List String) : Except ArgumentError Invocation :=
  readCommand false words

end TileAtlas.CommandLine
