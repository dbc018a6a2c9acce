import Quorate.CommandLine.Options

/-!
The commands and their options. Every command also takes the path of a settings file, before its
name or after it; the one after it counts.
-/

namespace Quorate.CommandLine

structure PutOptions where
  location : String
  content : String
  value : String
  denying : Nat
  /-- How many peers deny only the first put. -/
  flaky : Nat
  silent : Nat
  retries : Option UInt32
  /-- The faults go to any peers and not to those responsible. -/
  scattered : Bool
deriving DecidableEq, Repr

structure RequestOptions where
  delay : String
  timeout : Option String
  routed : Bool
deriving DecidableEq, Repr

inductive Command where
  | put (options : PutOptions)
  | request (options : RequestOptions)
  | config
deriving DecidableEq, Repr

structure Arguments where
  settingsPath : Option String
  command : Command
deriving DecidableEq, Repr

def settingsOption : String × OptionKind := ("config", .path)

def optionsOf? : String → Option (List (String × OptionKind))
  | "put" =>
      some [settingsOption, ("location", .text), ("content", .text), ("value", .text),
        ("deny", .count), ("flaky", .count), ("silent", .count), ("retries", .retries),
        ("scatter", .flag)]
  | "request" =>
      some [settingsOption, ("delay", .text), ("timeout", .text), ("routed", .flag)]
  | "config" => some [settingsOption]
  | _ => none

def Given.text (given : Given) (name default : String) : String :=
  (given.lookup name).getD default

def Given.count (given : Given) (name : String) : Nat :=
  ((given.lookup name).bind readCount).getD 0

def Given.isSet (given : Given) (name : String) : Bool := (given.lookup name).isSome

def Command.of (name : String) (given : Given) : Command :=
  match name with
  | "put" =>
      .put
        { location := given.text "location" "user-a"
          content := given.text "content" "meta"
          value := given.text "value" "hello"
          denying := given.count "deny"
          flaky := given.count "flaky"
          silent := given.count "silent"
          retries := ((given.lookup "retries").bind readRetries).map UInt32.ofNat
          scattered := given.isSet "scatter" }
  | "request" =>
      .request
        { delay := given.text "delay" "10ms"
          timeout := given.lookup "timeout"
          routed := given.isSet "routed" }
  | _ => .config

/-- Whether the words after `help` are the name of something that there is help for. -/
def isHelpTopic : List String → Bool
  | [] => true
  | [topic] => topic = "help" || (optionsOf? topic).isSome
  | _ => false

/-- Reads a command line: options, the name of a command, and the options of that command. -/
def Arguments.parse (words : List String) : Except Refusal Arguments := do
  let (before, rest) ← scan [settingsOption] [] words
  match rest with
  | [] => .error .misuse
  | name :: rest =>
      match optionsOf? name with
      | none => .error (if name = "help" && isHelpTopic rest then .help else .misuse)
      | some known =>
          let (given, rest) ← scan known [] rest
          if rest.isEmpty then
            pure ⟨(given.lookup "config").or (before.lookup "config"), Command.of name given⟩
          else .error .misuse

end Quorate.CommandLine
