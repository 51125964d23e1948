/-!
# Command line

Options may stand anywhere among the captures.  The last option of a kind counts.
-/

namespace PanelLink

structure Arguments where
  settings : Option String := none
  output : Option String := none
  captures : List String := []
deriving DecidableEq, Repr

inductive UsageError where
  | missingFile (option : String)
  | help
  | unknownOption (option : String)
  | noCaptures
deriving DecidableEq, Repr

namespace UsageError

def usage : String :=
  "usage: pixlink-host [--config FILE] [--output FILE.png] CAPTURE..."

def message : UsageError → String
  | .missingFile option => s!"{option} needs a file"
  | .help => usage
  | .unknownOption option => s!"unknown option {option}\n{usage}"
  | .noCaptures => s!"no capture files given\n{usage}"

end UsageError

namespace Arguments

def isSettingsOption (argument : String) : Bool :=
  argument = "--config" || argument = "-c"

def isOutputOption (argument : String) : Bool :=
  argument = "--output" || argument = "-o"

def isHelpOption (argument : String) : Bool :=
  argument = "--help" || argument = "-h"

def looksLikeOption (argument : String) : Bool :=
  match argument.toList with
  | '-' :: _ :: _ => true
  | _ => false

def take (taken : Arguments) : List String → Except UsageError Arguments
  | [] => .ok taken
  | [argument] =>
    if isSettingsOption argument || isOutputOption argument then
      .error (.missingFile argument)
    else if isHelpOption argument then
      .error .help
    else if looksLikeOption argument then
      .error (.unknownOption argument)
    else
      .ok { taken with captures := taken.captures ++ [argument] }
  | argument :: file :: rest =>
    if isSettingsOption argument then
      take { taken with settings := some file } rest
    else if isOutputOption argument then
      take { taken with output := some file } rest
    else if isHelpOption argument then
      .error .help
    else if looksLikeOption argument then
      .error (.unknownOption argument)
    else
      take { taken with captures := taken.captures ++ [argument] } (file :: rest)

def parse (arguments : List String) : Except UsageError Arguments := do
  let taken ← take {} arguments
  if taken.captures = [] then throw .noCaptures
  return taken

end Arguments

end PanelLink
