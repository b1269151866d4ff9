import PageSearch.External.Outline
import PageSearch.Service.CommandLine
import PageSearch.Service.Launch

/-!
# The command

Reads the command line, chooses the settings of the service, and prints them with the connection
that the service would open.
-/

open PageSearch

/-- How the command is used. -/
def usageText : String :=
  "usage: [-h] [-s HOST] [-p PORT] [-m MODE] [-ev ELASTIC_ENV_NAME]"

/-- The settings that a command line chooses. -/
def chosenSettings (args : List String) : Outcome Fields := do
  (← CommandLine.Options.read args).update Shipped.service

/-- Prints the settings of the service, or how the command is used. -/
def main (args : List String) : IO UInt32 := do
  match chosenSettings args with
  | .ok envs =>
    IO.println "App Envs:"
    IO.println (Value.obj envs).indented
    return 0
  | .error _ =>
    IO.eprintln usageText
    return 2
