import Quorate.Settings.Conversion
import Quorate.Settings.Layers
import Quorate.Toml.Reader

/-!
Loads settings: defaults, over them a file, over that the environment. The result is always valid.
The reasons given for a file that cannot be read, and for a value that does not fit, are in no
settled words; that of settings which are not valid is the one of the validation.
-/

namespace Quorate.Settings

def ofLayers (file environment : Toml.Table) : Except Failure Settings :=
  match ofTable? (layer (layer [] file) environment) with
  | none => .error (.configuration "a value does not fit its setting")
  | some settings =>
      match settings.validate with
      | .error fault => .error (Failure.ofSettingsFault fault)
      | .ok _ => .ok settings

structure File where
  path : String
  /-- None if there is no such file. -/
  content? : Option String

/-- What follows the last point of a file's name, unless the name only begins with that point. -/
def File.suffix (file : File) : String :=
  let reversed := file.path.toList.reverse.takeWhile (· ≠ '/')
  match reversed.dropWhile (· ≠ '.') with
  | [] => ""
  | [_] => ""
  | _ => String.ofList (reversed.takeWhile (· ≠ '.')).reverse

/-- The layer of a file. The suffix tells its format, and only TOML is known. The file may begin
with a byte order mark, apart from the one that the format allows. -/
def File.layer (file : File) : Except Failure Toml.Table :=
  match file.content? with
  | none => .error (.configuration "configuration file not found")
  | some content =>
      if file.suffix = "toml" then
        match Toml.read (String.ofList (Toml.dropMark content.toList)) with
        | some table => .ok table
        | none => .error (.configuration "configuration file is not TOML")
      else .error (.configuration "configuration file has no known format")

def load (file : Option File) (environment : List (String × String)) : Except Failure Settings :=
  match file with
  | none => ofLayers [] (environmentLayer environment)
  | some file =>
      match file.layer with
      | .error failure => .error failure
      | .ok table => ofLayers table (environmentLayer environment)

end Quorate.Settings
