import WsdlTypes.Config
import WsdlTypes.File.Tree
import WsdlTypes.Toml.Document
/-!
# Reading options from a file

A configuration file is a table with an entry for each option that does not keep its
default. Entries that mean nothing here are passed over; one of the wrong kind makes the
whole file invalid.
-/

namespace WsdlTypes

/-- What is wrong with what a configuration file says. -/
inductive ConfigFault where
  | unreadable (cause : Toml.Error)
  | wrongValue (option : String)
deriving DecidableEq, Repr

/-- The fault in words. -/
def ConfigFault.message : ConfigFault → String
  | unreadable cause => cause.message
  | wrongValue option => "the option '" ++ option ++ "' cannot have this value"

/-- Why options could not be read from a file. -/
inductive ConfigError where
  | noFile (path : String) (cause : File.Error)
  | invalid (path : String) (cause : ConfigFault)
deriving DecidableEq, Repr

namespace ConfigError

/-- The cause behind the error in words. -/
def cause : ConfigError → String
  | noFile _ cause => cause.message
  | invalid _ cause => cause.message

/-- The error in words. -/
def message : ConfigError → String
  | noFile path cause => "failed to read configuration file " ++ path ++ ": " ++ cause.message
  | invalid path cause => "invalid configuration file " ++ path ++ ": " ++ cause.message

end ConfigError

namespace Toml.Value

/-- The truth value that a value is. -/
def boolean? : Value → Option Bool
  | boolean value => some value
  | _ => none

/-- The text that a value is. -/
def string? : Value → Option String
  | string text => some text
  | _ => none

/-- Whether a value is an array or a table without anything in it. -/
def isVoid : Value → Bool
  | array items => items.isEmpty
  | table _ members => members.isEmpty
  | tables items => items.isEmpty
  | _ => false

/-- The version of SOAP that a value names: a text, or a table with its number as the only
key and nothing behind that. -/
def soapVersion? : Value → Option SoapVersion
  | string text => SoapVersion.ofLabel? text
  | table _ [(name, value)] => if value.isVoid then SoapVersion.ofLabel? name else none
  | _ => none

end Toml.Value

namespace Config

/-- The value of an option, or its default where a table has no entry for it. -/
def option {α : Type} (members : Toml.Members) (name : String) (read? : Toml.Value → Option α)
    (default : α) : Except ConfigFault α :=
  match members.lookup name with
  | none => .ok default
  | some value =>
    match read? value with
    | some a => .ok a
    | none => .error (.wrongValue name)

/-- The options that a table sets. -/
def ofMembers (members : Toml.Members) : Except ConfigFault Config := do
  let default : Config := {}
  let hierarchical ←
    option members "wsdl2java_style" Toml.Value.boolean? default.hierarchical
  let valueName ← option members "empty_parameter_name" Toml.Value.string? default.valueName
  let separator ← option members "namespace_separator" Toml.Value.string? default.separator
  let soapVersion ← option members "soap_version" Toml.Value.soapVersion? default.soapVersion
  let doctypes ← option members "allow_dtd" Toml.Value.boolean? default.doctypes
  return { hierarchical, valueName, separator, soapVersion, doctypes }

/-- The options that a text sets. -/
def ofText (text : String) : Except ConfigFault Config := do
  ofMembers (← (Toml.read text).mapError .unreadable)

/-- The options that a file sets. -/
def read (tree : File.Tree) (path : String) : Except ConfigError Config := do
  let text ← (tree.read path).mapError (.noFile path)
  (ofText text).mapError (.invalid path)

end Config

end WsdlTypes
