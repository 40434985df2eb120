/-
The validator catalog.

These are the decorators that a documentation comment can ask for by name.  Their order
is the order in which they end up on a field, whatever the order of the comment.
-/
namespace DtoForge.Catalog

/-- Validators that take no arguments. -/
def plain : List String := [
  "IsEmpty", "IsDate", "IsBoolean", "IsString", "IsInt", "IsPositive", "IsNegative",
  "IsBooleanString", "IsDateString", "IsAlpha", "IsAlphanumeric", "IsAscii", "IsBase32",
  "IsBase64", "IsIBAN", "IsBIC", "IsCreditCard", "IsEthereumAddress", "IsBtcAddress",
  "IsDataURI", "IsFullWidth", "IsHalfWidth", "IsVariableWidth", "IsHexColor", "IsHSL",
  "IsHexadecimal", "IsOctal", "IsPort", "IsEAN", "IsISIN", "IsJWT", "IsObject",
  "IsNotEmptyObject", "IsLowercase", "IsUppercase", "IsLatLong", "IsLatitude", "IsLongitude",
  "IsISO31661Alpha2", "IsISO31661Alpha3", "IsLocale", "IsMongoId", "IsMultibyte",
  "IsSurrogatePair", "IsMagnetURI", "IsFirebasePushId", "IsMilitaryTime", "IsMimeType",
  "IsSemVer", "IsISRC", "Allow"]

/-- Validators that take arguments, each with the arguments it has if none are given.  The
empty text says that there are none to put in. -/
def parameterized : List (String × String) := [
  ("IsDefined", "''"), ("Equals", "''"), ("NotEquals", "''"), ("IsIn", "[]"),
  ("IsNotIn", "[]"), ("IsNumber", "\x7b\x7d"), ("IsEnum", "\x7b\x7d"), ("IsDivisibleBy", "1"),
  ("Min", "0"), ("Max", "10"), ("MinDate", "new Date()"), ("MaxDate", "new Date()"),
  ("IsNumberString", "\x7b\x7d"), ("Contains", "''"), ("NotContains", "''"),
  ("IsDecimal", "\x7b\x7d"), ("IsByteLength", "1, 4"), ("IsCurrency", "\x7b\x7d"),
  ("IsEmail", "\x7b\x7d"), ("IsFQDN", "\x7b\x7d"), ("IsRgbColor", "\x7b\x7d"),
  ("IsIdentityCard", "''"), ("IsPassportNumber", "''"), ("IsPostalCode", "''"),
  ("IsMACAddress", "\x7b\x7d"), ("IsIP", "'4'"), ("IsISBN", "'10'"), ("IsISO8601", "\x7b\x7d"),
  ("IsMobilePhone", "''"), ("IsPhoneNumber", "''"), ("IsUrl", "\x7b\x7d"), ("IsUUID", "'4'"),
  ("Length", "0, 10"), ("MinLength", "0"), ("MaxLength", "10"), ("Matches", "'', ''"),
  ("IsHash", "'md4'"), ("IsISSN", "\x7b\x7d"), ("IsInstance", "")]

/-- Validators of a whole collection.  They are never asked of each element. -/
def collection : List String :=
  ["ArrayContains", "ArrayNotContains", "ArrayNotEmpty", "ArrayMinSize", "ArrayMaxSize",
    "ArrayUnique"]

/-- Every name of the catalog, in its order. -/
def names : List String :=
  plain ++ parameterized.map Prod.fst ++ collection

/-- The arguments of a validator if none are given. -/
def defaults? (name : String) : Option String :=
  (parameterized.lookup name).filter (· != "")

/-- Whether a validator is about a whole collection. -/
def isCollection (name : String) : Bool :=
  collection.contains name

/-- The validator that a scalar type has without being asked.  That of dates is not in the
catalog. -/
def ofScalar? : String → Option String
  | "String" => some "IsString"
  | "Boolean" => some "IsBoolean"
  | "Int" => some "IsInt"
  | "BigInt" => some "IsInt"
  | "Float" => some "IsNumber"
  | "Decimal" => some "IsNumber"
  | "DateTime" => some "IsRFC3339"
  | _ => none

end DtoForge.Catalog
