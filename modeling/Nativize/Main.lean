import Nativize.CommandLine

/-!
# The program
-/

namespace Nativize

/-- The code that the operating system gave to an error, where it did. -/
def systemCode : IO.Error → Option Nat
  | .alreadyExists _ code _ | .otherError code _ | .resourceBusy code _ | .resourceVanished code _
  | .unsupportedOperation code _ | .hardwareFault code _ | .unsatisfiedConstraints code _
  | .illegalOperation code _ | .protocolError code _ | .timeExpired code _
  | .interrupted _ code _ | .noFileOrDirectory _ code _ | .invalidArgument _ code _
  | .permissionDenied _ code _ | .resourceExhausted _ code _ | .inappropriateType _ code _
  | .noSuchThing _ code _ => some code.toNat
  | _ => none

/-- The fault of an error. -/
def accessFault (e : IO.Error) : AccessFault :=
  match systemCode e with
  | some 2 => .missing
  | some 20 => .notDirectory
  | some 21 => .directory
  | some 36 => .nameTooLong
  | some code => .other code e.toString
  | none => .other 5 e.toString

/-- Access to the files of the system. -/
def systemFiles : Files IO where
  has path := do
    try
      let _ ← IO.FS.Handle.mk path .read
      return true
    catch e =>
      match accessFault e with
      | .missing | .notDirectory | .nameTooLong => return false
      | _ => return true
  read path := do
    try return .ok (← IO.FS.readBinFile path)
    catch e => return .error (accessFault e)
  write path bytes := do
    try
      IO.FS.writeBinFile path bytes
      return .ok ()
    catch e => return .error (accessFault e)

end Nativize

/-- Convert the file that the arguments name. -/
def main (arguments : List String) : IO UInt32 := do
  let directory ← IO.currentDir
  let outcome ← Nativize.CommandLine.run Nativize.systemFiles directory.toString arguments
  IO.print outcome.report
  unless outcome.complaint.isEmpty do IO.eprintln outcome.complaint
  return outcome.status.toUInt32
