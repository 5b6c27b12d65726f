import AssetAudit.Text.Basic

/-!
# Faults of YAML documents
-/
namespace AssetAudit.Yaml

inductive Fault where
  | character
  | directive
  | anchor
  | tag
  | blockHeader
  | escape
  | unterminated
  | keyWithoutColon
  | entryNotAllowed
  | keyNotAllowed
  | valueNotAllowed
  | unexpectedToken
  | duplicateAnchor
  | undefinedAlias
  | severalDocuments
  | unknownTag
  | wrongKind
  | unhashableKey
  | binary
  deriving DecidableEq, Repr

inductive ValueFault where
  /-- Something that is said to be a number is none. -/
  | number (message : Text)
  /-- A date or a time of day that does not exist. -/
  | date (message : Text)
  | emptyNumber
  | truth
  | timestamp
  /-- An escape beyond the characters that there are. -/
  | character
  | largeNumber
  deriving DecidableEq, Repr

inductive Error where
  | malformed (fault : Fault)
  | value (fault : ValueFault)
  /-- A collection that holds itself. -/
  | cyclic
  deriving DecidableEq, Repr

abbrev Outcome := Except Error

def fault {α : Type} (f : Fault) : Outcome α :=
  .error (.malformed f)

end AssetAudit.Yaml
