import Quorate.CommandLine.Run

/-!
The command line program. It gathers what surrounds a run, runs, and writes the outcome.
-/

namespace Quorate.CommandLine

def readText? (path : String) : IO (Option String) := do
  try
    let text ← IO.FS.readFile path
    pure (some text)
  catch _ => pure none

/-- The contents of the files that may be meant by the settings path of a command line. -/
def readSettings (words : List String) : IO (String → Option String) := do
  match Arguments.parse words with
  | .ok { settingsPath := some path, .. } =>
      let contents ← [path, path ++ ".toml"].mapM fun path => do
        let content ← readText? path
        pure (path, content)
      pure fun path => (contents.lookup path).bind id
  | _ => pure fun _ => none

/-- Splits `name=value`. -/
def variableOf? (text : List Char) : Option (String × String) :=
  match splitValue text with
  | (name, some value) => some (name, value)
  | (_, none) => none

def readVariables : IO (List (String × String)) := do
  match ← readText? "/proc/self/environ" with
  | none => pure []
  | some text =>
      pure ((text.toList.splitBy fun _ next => next ≠ '\x00').filterMap fun entry =>
        variableOf? (entry.dropWhile (· = '\x00')))

def gather (words : List String) : IO Surroundings := do
  let file? ← readSettings words
  let environment ← readVariables
  let now ← IO.monoMsNow
  let seed ← IO.getRandomBytes 16
  pure
    { words := words
      environment := environment
      file? := file?
      now := UInt64.ofNat now
      scatter := Placement.rank (Text.hex seed.toList) }

end Quorate.CommandLine

def main (words : List String) : IO UInt32 := do
  let outcome := Quorate.CommandLine.run (← Quorate.CommandLine.gather words)
  IO.print outcome.output
  IO.eprint outcome.errors
  pure (UInt32.ofNat outcome.code)
