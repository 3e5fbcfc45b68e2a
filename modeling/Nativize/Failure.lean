import Nativize.Json.Fault

/-!
# Failures of a conversion

Why a conversion stops, and the wording of each cause.
-/

namespace Nativize

/-- What a conversion guarantees of its result. A program that would break one of these is
refused. -/
inductive Guarantee where
  | assetBinding
  | tagPair
  | staticClass
  | hookBinding
deriving DecidableEq, Repr

namespace Guarantee

def all : List Guarantee := [assetBinding, tagPair, staticClass, hookBinding]

def code : Guarantee → String
  | assetBinding => "RX-ERR-ASSET-001"
  | tagPair => "RX-ERR-TAG-001"
  | staticClass => "RX-ERR-CLASS-001"
  | hookBinding => "RX-ERR-HOOK-001"

def text : Guarantee → String
  | assetBinding => "Asset imports are rewritten to a single default binding."
  | tagPair => "Opening and closing tag names are always renamed together."
  | staticClass => "Class lists are resolved to stylesheet members at conversion time."
  | hookBinding => "The router hook result is bound to a single well-known identifier."

/-- The guarantee of a code, if the code is known. -/
def ofCode? (c : String) : Option Guarantee := all.find? fun g => g.code = c

/-- The wording of the guarantee of a code. -/
def textOfCode (c : String) : String := ((ofCode? c).map text).getD "Unknown invariant."

/-- A breach of the guarantee, told by a message. -/
def breachText (g : Guarantee) (message : String) : String :=
  "[" ++ g.code ++ "] " ++ message ++ " (" ++ g.text ++ ")"

end Guarantee

/-- A node of a shape that a pass does not accept. -/
inductive Breach where
  | unboundAsset (specifier : String)
  | tagMismatch (opening closing : String)
  | dynamicClass (component : String)
  | destructuredHook (hook : String)
deriving DecidableEq, Repr

namespace Breach

def guarantee : Breach → Guarantee
  | unboundAsset _ => .assetBinding
  | tagMismatch _ _ => .tagPair
  | dynamicClass _ => .staticClass
  | destructuredHook _ => .hookBinding

def message : Breach → String
  | unboundAsset specifier => "import of '" ++ specifier ++ "' has no binding to keep"
  | tagMismatch opening closing => "<" ++ opening ++ "> is closed by </" ++ closing ++ ">"
  | dynamicClass component => "class list on <" ++ component ++ "> is not a static string"
  | destructuredHook hook =>
    "result of " ++ hook ++ "() is destructured instead of bound to a name"

end Breach

/-- What is wrong with a profile. -/
inductive ProfileFault where
  | document (fault : Json.Fault)
  /-- A template that is no program. Its first line is shown. -/
  | templateSyntax (firstLine : String)
  /-- A template that is not a single statement. -/
  | templateCount (text : String) (found : Nat)
  /-- A stylesheet template that does not bind the result of a call. -/
  | templateCall (text : String)
deriving DecidableEq

def ProfileFault.message : ProfileFault → String
  | .document fault => fault.message
  | .templateSyntax line => "boilerplate `" ++ line ++ "` does not parse"
  | .templateCount text found =>
    "boilerplate `" ++ text ++ "` must be a single statement, found " ++ Number.decimalText found
  | .templateCall text => "stylesheet template `" ++ text ++ "` is not a call binding"

/-- Why a file cannot be read or written. -/
inductive AccessFault where
  | missing
  | directory
  | notDirectory
  | nameTooLong
  | notText
  /-- Any other fault, by its code and wording. -/
  | other (code : Nat) (text : String)
deriving DecidableEq, Repr

def AccessFault.message : AccessFault → String
  | .missing => "No such file or directory (os error 2)"
  | .directory => "Is a directory (os error 21)"
  | .notDirectory => "Not a directory (os error 20)"
  | .nameTooLong => "File name too long (os error 36)"
  | .notText => "stream did not contain valid UTF-8"
  | .other code text => text ++ " (os error " ++ Number.decimalText code ++ ")"

/-- Why a conversion stops. -/
inductive Failure where
  | access (path : String) (fault : AccessFault)
  | unparsed (file : String)
  | structural (breach : Breach)
  | profile (fault : ProfileFault)
deriving DecidableEq

def Failure.message : Failure → String
  | .access path fault => "Failed to access " ++ path ++ ": " ++ fault.message
  | .unparsed file => "Failed to parse " ++ file
  | .structural breach => "Structural error: " ++ breach.guarantee.breachText breach.message
  | .profile fault => "Invalid configuration: " ++ fault.message

end Nativize
