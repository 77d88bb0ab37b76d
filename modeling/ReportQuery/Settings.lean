import ReportQuery.Filter.Assembly
import ReportQuery.Settings.EnvFile

namespace ReportQuery

structure Settings where
  propertyId : String
  domain : String
  credentialsFile : String
  scopingDimension : String
  logLevel : String
  deriving DecidableEq

namespace Settings

def defaults : Settings where
  propertyId := ""
  domain := ""
  credentialsFile := ""
  scopingDimension := Scope.defaultDimension
  logLevel := "INFO"

def isConfigured (s : Settings) : Bool :=
  s.propertyId ≠ "" && s.domain ≠ "" && s.credentialsFile ≠ ""

def scope (s : Settings) : Scope := ⟨s.scopingDimension, s.domain⟩

def toJson (s : Settings) : Json :=
  .obj [("PROPERTY_ID", .str s.propertyId), ("DOMAIN", .str s.domain),
    ("CREDENTIALS_FILE", .str s.credentialsFile), ("SCOPING_DIMENSION", .str s.scopingDimension),
    ("LOG_LEVEL", .str s.logLevel)]

/-- A name in small letters. Only ASCII letters matter, as no setting has others. -/
def fold (name : String) : String := String.ofList (name.toList.map Char.toLower)

def folded {α : Type} (entries : Entries α) : Entries α :=
  Entries.ofList (entries.map fun (name, value) => (fold name, value))

def ofSources (environment : Entries String) (file : Option String) : Settings :=
  let fromEnvironment := folded environment
  let fromFile := folded ((file.map (EnvFile.values environment)).getD [])
  let get (name default : String) : String :=
    let key := fold ("GA4_" ++ name)
    ((Entries.get? key fromEnvironment).or (Entries.get? key fromFile).join).getD default
  { propertyId := get "PROPERTY_ID" defaults.propertyId
    domain := get "DOMAIN" defaults.domain
    credentialsFile := get "CREDENTIALS_FILE" defaults.credentialsFile
    scopingDimension := get "SCOPING_DIMENSION" defaults.scopingDimension
    logLevel := get "LOG_LEVEL" defaults.logLevel }

end Settings

end ReportQuery
