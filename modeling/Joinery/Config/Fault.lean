import Joinery.Value.Show

/-
  This file names the reasons for which a job file is
  refused.

  Key definitions include:
    * `ConfigFault`
    * `ConfigFault.message`
-/

namespace Joinery

/- Why the content of a job file is refused. -/
inductive ConfigFault where
  | empty
      (path : Text)
  | notMapping
      (path : Text)
  | missingKey
      (key : String)
  | jointNotMapping
      (data : Value)
  | missingParameters
      (names : List Text)
  | unknownParameters
      (names : List Text)
  | notQuantity
      (name : Text)
      (raw : Value)
  | incompleteQuantity
      (name : Text)
      (raw : Value)
  | amountNotNumber
      (name : Text)
      (amount : Value)
  | malformedQuantity
      (name : Text)
      (raw : Value)
  | unknownUnit
      (name : Text)
      (raw : Value)
  | notPositive
      (name : Text)
      (value : Value)
  | unknownLevel
      (level : Text)
  | invalidValue
      (cause : Text)

namespace ConfigFault

/- The symbols of all units, as a list. -/
def unitList : String :=
  (Value.list (LengthUnit.all.map fun u => .text u.symbol)).shown

/- The name of a measure as the wording of a refusal begins with it. -/
def subject
    (name : Text) : Text :=
  "'" ++ name ++ "'"

/- The wording of a refusal. -/
def message : ConfigFault → Text
  | .empty path => "Empty configuration file: " ++ path
  | .notMapping path =>
      "Configuration root must be a mapping: " ++ path
  | .missingKey key =>
      s!"Missing required configuration key: {Text.quoted key}"
  | .jointNotMapping data =>
      s!"'joint' must be a mapping, got {data.shown}"
  | .missingParameters names =>
      "Missing joint parameter(s): " ++ Text.joined ", " names
  | .unknownParameters names =>
      "Unknown joint parameter(s): " ++ Text.joined ", " names
  | .notQuantity name raw =>
      subject name ++ s!" must be a quantity, got {raw.shown}"
  | .incompleteQuantity name raw =>
      subject name ++
        s!" mapping needs 'amount' and 'unit', got {raw.shown}"
  | .amountNotNumber name amount =>
      subject name ++ s!" amount must be a number, got {amount.shown}"
  | .malformedQuantity name raw =>
      subject name ++
        s!" must look like '<amount> <unit>', got {raw.shown}"
  | .unknownUnit name raw =>
      subject name ++
        s!" has unknown unit {raw.shown}; expected one of {unitList}"
  | .notPositive name value =>
      subject name ++ " must be positive, got " ++ value.plain
  | .unknownLevel level => "Unknown logging level '" ++ level ++ "'"
  | .invalidValue cause => "Invalid configuration value: " ++ cause

/- The values that the wording of a refusal shows. -/
def values : ConfigFault → List Value
  | .jointNotMapping v => [v]
  | .notQuantity _ v => [v]
  | .incompleteQuantity _ v => [v]
  | .amountNotNumber _ v => [v]
  | .malformedQuantity _ v => [v]
  | .unknownUnit _ v => [v]
  | .notPositive _ v => [v]
  | _ => []

end ConfigFault

end Joinery
