import CharDispatch.Decimal.Notation
import CharDispatch.Json.Numeral
import CharDispatch.Text.Quoted

/-!
# Reading faults

A text can fail to be JSON, or be JSON so far and not what the reader wants.
The second kind names what was found and what was wanted, and has a wording.
-/

namespace CharDispatch.Json

/-- How a value begins: a scalar as a whole, or the bracket that opens a container. -/
inductive Head where
  | null
  | bool (value : Bool)
  | number (value : Number)
  | string (value : String)
  | sequence
  | map
deriving DecidableEq, Repr

/-- What a reader wants. -/
inductive Wanted where
  | string | bool | size | character | sequence | map | unit
  /-- A record with a given title. -/
  | record (title : String)
deriving DecidableEq, Repr

/-- Why a value is not what the reader wants. -/
inductive Mismatch where
  /-- A value of another kind stands there. -/
  | wrongKind (found : Head) (wanted : Wanted)
  /-- A value of the right kind is out of range. -/
  | wrongValue (found : Head) (wanted : Wanted)
  /-- A record written as a sequence ends too early. -/
  | wrongLength (length : Nat) (title : String) (fields : Nat)
  | duplicateField (name : String)
  | missingField (name : String)
  | unknownVariant (name : String) (known : List String)
deriving DecidableEq, Repr

/-- Why reading stops. -/
inductive ReadFault where
  /-- The text is not well-formed where the reader has got to. -/
  | malformed
  /-- The text is well-formed so far, but not what is wanted. -/
  | mismatch (cause : Mismatch)
deriving DecidableEq, Repr

/-- A magnitude in a message: positional with up to sixteen digits in front of the
point and up to four zeros right behind it, otherwise with an exponent. -/
def magnitudePhrase (magnitude : Binary64) : String :=
  let decimal := Decimal.shortest magnitude
  if -4 ≤ decimal.wholeDigits ∧ decimal.wholeDigits ≤ 16 then decimal.positional
  else decimal.scientific

example : (Binary64.ofNat? 9999999999999998).map magnitudePhrase = some "9999999999999998.0" ∧
    (Binary64.ofNat? 10000000000000000).map magnitudePhrase = some "1e+16" := by
  decide +kernel

example : (Binary64.round? 1 100000).map magnitudePhrase = some "0.00001" ∧
    (Binary64.round? 1 0x2000000).map magnitudePhrase = some "2.9802322387695312e-8" := by
  decide +kernel

/-- A number in a message. -/
def Number.phrase : Number → String
  | .natural n => "integer `" ++ toString n ++ "`"
  | .negative n => "integer `-" ++ toString n ++ "`"
  | .float isNegative magnitude =>
    "floating point `" ++ (if isNegative then "-" else "") ++ magnitudePhrase magnitude ++ "`"

/-- The beginning of a value in a message. -/
def Head.phrase : Head → String
  | .null => "null"
  | .bool value => "boolean `" ++ (if value then "true" else "false") ++ "`"
  | .number value => value.phrase
  | .string value => "string " ++ Quoted.string value
  | .sequence => "sequence"
  | .map => "map"

/-- What is wanted, in a message. -/
def Wanted.phrase : Wanted → String
  | .string => "a string"
  | .bool => "a boolean"
  | .size => "usize"
  | .character => "a character"
  | .sequence => "a sequence"
  | .map => "a map"
  | .unit => "unit"
  | .record title => "struct " ++ title

/-- The wording of a mismatch. -/
def Mismatch.message : Mismatch → String
  | .wrongKind found wanted => "invalid type: " ++ found.phrase ++ ", expected " ++ wanted.phrase
  | .wrongValue found wanted =>
    "invalid value: " ++ found.phrase ++ ", expected " ++ wanted.phrase
  | .wrongLength length title fields =>
    "invalid length " ++ toString length ++ ", expected struct " ++ title ++ " with " ++
      toString fields ++ " elements"
  | .duplicateField name => "duplicate field `" ++ name ++ "`"
  | .missingField name => "missing field `" ++ name ++ "`"
  | .unknownVariant name known =>
    "unknown variant `" ++ name ++ "`, expected one of " ++
      String.intercalate ", " (known.map fun other => "`" ++ other ++ "`")

end CharDispatch.Json
