import AssetAudit.Files.Error
import AssetAudit.Json.Error
import AssetAudit.Text.Utf8
import AssetAudit.Yaml.Error

/-!
# What can be wrong with settings
-/
namespace AssetAudit.Settings

inductive Error where
  /-- Something that should be a mapping is none. -/
  | noMapping
  | notIterable
  /-- A mapping is made from pairs, and one of them is none. -/
  | notAPair (index length : Nat)
  /-- A key of a mapping has to be a scalar. -/
  | notAKey
  | notAPath
  | notANumber (t : Text)
  | missingFile (path : Text)
  | unsupportedFormat (suffix : Text)
  | noMappingInFile (path : Text)
  | json (document : Text) (e : Json.ReadError)
  | yaml (e : Yaml.Error)
  | undecodable (e : Text.DecodeError)
  | system (e : Files.Error)
  /-- A value of a kind that the format has no form for. -/
  | noForm
  deriving DecidableEq, Repr

def Error.message : Error → Text
  | .notAPair index length =>
    "dictionary update sequence element #".toList ++ Text.ofNat index ++ " has length ".toList ++
      Text.ofNat length ++ "; 2 is required".toList
  | .notANumber t => "could not convert string to float: ".toList ++ t.quoted
  | .missingFile p => "Configuration file not found: ".toList ++ p
  | .unsupportedFormat s => "Unsupported config file format: ".toList ++ s
  | .noMappingInFile p => "Configuration file must contain a mapping: ".toList ++ p
  | .json document e => e.message document
  | .yaml (.value (.number m)) | .yaml (.value (.date m)) => m
  | .yaml (.value .character) => "chr() arg not in range(0x110000)".toList
  | .undecodable e => e.message
  | .system e => e.message
  | .noMapping | .notIterable | .notAKey | .notAPath | .yaml _ | .noForm => []

/-- Does the error have a text that says what is wrong with a file or a value in it? -/
def Error.isExplained : Error → Bool
  | .notAPair _ _ | .notANumber _ | .missingFile _ | .unsupportedFormat _ | .noMappingInFile _
  | .json _ _ | .undecodable _ | .system _ => true
  | .yaml (.value (.number _)) | .yaml (.value (.date _)) | .yaml (.value .character) => true
  | .noMapping | .notIterable | .notAKey | .notAPath | .yaml _ | .noForm => false

end AssetAudit.Settings
