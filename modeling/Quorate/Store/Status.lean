import Quorate.Text.Numeral

/-!
The statuses that peers answer with, and their codes on the wire. A code beyond the named ones is
kept as it came.
-/

namespace Quorate.Store

inductive Status where
  | ok
  | failed
  | failedSecurity
  | failedNotAbsent
  | versionFork
  | notFound
  | deleted
  | unknown (code : UInt8)
deriving DecidableEq, Repr

namespace Status

def ofCode (code : UInt8) : Status :=
  match code.toNat with
  | 0 => .ok
  | 1 => .failed
  | 2 => .failedSecurity
  | 3 => .failedNotAbsent
  | 4 => .versionFork
  | 5 => .notFound
  | 6 => .deleted
  | _ => .unknown code

def code : Status → UInt8
  | .ok => 0
  | .failed => 1
  | .failedSecurity => 2
  | .failedNotAbsent => 3
  | .versionFork => 4
  | .notFound => 5
  | .deleted => 6
  | .unknown code => code

def text : Status → String
  | .ok => "OK"
  | .failed => "FAILED"
  | .failedSecurity => "FAILED_SECURITY"
  | .failedNotAbsent => "FAILED_NOT_ABSENT"
  | .versionFork => "VERSION_FORK"
  | .notFound => "NOT_FOUND"
  | .deleted => "DELETED"
  | .unknown code => "UNKNOWN(" ++ Text.decimalText code.toNat ++ ")"

def name : Status → String
  | .ok => "Ok"
  | .failed => "Failed"
  | .failedSecurity => "FailedSecurity"
  | .failedNotAbsent => "FailedNotAbsent"
  | .versionFork => "VersionFork"
  | .notFound => "NotFound"
  | .deleted => "Deleted"
  | .unknown _ => "Unknown"

/-- The name, followed by the code of a status that has no name of its own. -/
def detail : Status → String
  | .unknown code => "Unknown(" ++ Text.decimalText code.toNat ++ ")"
  | status => status.name

/-- The statuses whose name says everything. -/
def named : List Status :=
  [.ok, .failed, .failedSecurity, .failedNotAbsent, .versionFork, .notFound, .deleted]

def ofName? (name : String) : Option Status := named.find? fun status => status.name = name

def denies : Status → Bool
  | .failed => true
  | .failedSecurity => true
  | _ => false

end Status
end Quorate.Store
