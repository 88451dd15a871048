import WsdlTypes.Naming
/-!
# Configuration

The options that shape a resolution, with their defaults.
-/

namespace WsdlTypes

/-- The version of SOAP that a service is bound to. -/
inductive SoapVersion where
  | v11
  | v12
deriving DecidableEq, Repr

namespace SoapVersion

/-- The version's number. -/
def label : SoapVersion → String
  | v11 => "1.1"
  | v12 => "1.2"

/-- The version of a number. -/
def ofLabel? (text : String) : Option SoapVersion :=
  [v11, v12].find? fun version => version.label = text

/-- The namespace of the elements that bind a service to the version. -/
def bindingUri : SoapVersion → String
  | v11 => "http://schemas.xmlsoap.org/wsdl/soap/"
  | v12 => "http://schemas.xmlsoap.org/wsdl/soap12/"

end SoapVersion

/-- The options of a resolution. -/
structure Config where
  /-- Group types by namespace. -/
  hierarchical : Bool := true
  /-- The name of the one property of a type with simple content. -/
  valueName : String := "_"
  separator : String := "\\"
  soapVersion : SoapVersion := .v11
  /-- Accept documents with a document type. -/
  doctypes : Bool := false
deriving DecidableEq, Repr, Inhabited

/-- How the options say types are named. -/
def Config.naming (config : Config) : Naming :=
  ⟨if config.hierarchical then .hierarchical else .flat, config.separator⟩

end WsdlTypes
