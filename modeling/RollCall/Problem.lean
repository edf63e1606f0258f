/-!
# Problems with offered values

A value offered for a field of an address, a record or the settings is refused for one `Problem`.
A `Reason` adds the place, and is what error messages list.
-/

namespace RollCall

/-- Why a value is refused for a field. -/
inductive Problem
  /-- Nothing was offered. -/
  | missing
  /-- Not a text. -/
  | notText
  /-- Bytes that are not UTF-8 where a text was wanted. -/
  | notUnicode
  /-- A text without characters. -/
  | emptyText
  /-- A text with nothing but blanks. -/
  | blank
  /-- A text with the separator of keys in it. -/
  | hasSlash
  /-- Not a number. -/
  | notNumber
  /-- A text that spells no number. -/
  | unreadableNumber
  /-- Not an integer. -/
  | notInteger
  /-- A text that spells no integer. -/
  | unreadableInteger
  /-- A number between two integers. -/
  | fractional
  /-- A number that is infinite or has no value. -/
  | notFinite
  /-- A number beyond the range of integers that are taken over. -/
  | tooLarge
  /-- Not a truth value. -/
  | notBool
  /-- A text or number that stands for no truth value. -/
  | unreadableBool
  /-- A number that is not above zero. -/
  | notPositive
  /-- An integer below one. -/
  | belowOne
  /-- An integer above the greatest TCP port. -/
  | aboveMaxPort
  /-- None of the credentials types. -/
  | notCredentialsType
  /-- Not a JSON document. -/
  | invalidJson
  /-- A JSON document that is not an object. -/
  | notObject
  /-- A finding of a check that looks at several fields. -/
  | inconsistent (finding : String)
  deriving DecidableEq, Repr

/-- The wording of a problem. -/
def Problem.message : Problem → String
  | .missing => "Field required"
  | .notText => "Input should be a valid string"
  | .notUnicode =>
    "Input should be a valid string, unable to parse raw data as a unicode string"
  | .emptyText => "String should have at least 1 character"
  | .blank => "Value error, must not be blank"
  | .hasSlash => "Value error, must not contain '/'"
  | .notNumber => "Input should be a valid number"
  | .unreadableNumber => "Input should be a valid number, unable to parse string as a number"
  | .notInteger => "Input should be a valid integer"
  | .unreadableInteger => "Input should be a valid integer, unable to parse string as an integer"
  | .fractional => "Input should be a valid integer, got a number with a fractional part"
  | .notFinite => "Input should be a finite number"
  | .tooLarge => "Unable to parse input string as an integer, exceeded maximum size"
  | .notBool => "Input should be a valid boolean"
  | .unreadableBool => "Input should be a valid boolean, unable to interpret input"
  | .notPositive => "Input should be greater than 0"
  | .belowOne => "Input should be greater than or equal to 1"
  | .aboveMaxPort => "Input should be less than or equal to 65535"
  | .notCredentialsType =>
    "Input should be 'default', 'environment_variables', 'user_credentials_file', " ++
      "'instance_profile_credentials', 'access_key' or 'temporary_session'"
  | .invalidJson => "Invalid JSON"
  | .notObject => "Input should be an object"
  | .inconsistent finding => "Value error, " ++ finding

/-- A problem and the place where it was found. -/
structure Reason where
  place : String
  problem : Problem
  deriving DecidableEq, Repr

/-- The wording of a reason. -/
def Reason.message (r : Reason) : String :=
  r.place ++ ": " ++ r.problem.message

end RollCall
