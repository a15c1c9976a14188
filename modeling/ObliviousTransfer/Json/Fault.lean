import ObliviousTransfer.Decimal.Shortest
import ObliviousTransfer.Text.Quoted

/-!
What can be wrong with a JSON text: its grammar, or a value that is not the one
a format asks for. A fault of a field's own text has a type that the format
chooses.
-/

namespace ObliviousTransfer.Json

/-- Faults of the grammar; those at the end of the input come first. -/
inductive GrammarFault where
  | endInList
  | endInObject
  | endInString
  | endInValue
  | colonExpected
  | listCommaExpected
  | objectCommaExpected
  | wordExpected
  | valueExpected
  | badEscape
  | badNumber
  | numberOutOfRange
  | controlCharacter
  | keyExpected
  | loneSurrogate
  | trailingComma
  | trailingCharacters
  | surrogateCutShort
  deriving DecidableEq

def GrammarFault.message : GrammarFault → String
  | .endInList => "EOF while parsing a list"
  | .endInObject => "EOF while parsing an object"
  | .endInString => "EOF while parsing a string"
  | .endInValue => "EOF while parsing a value"
  | .colonExpected => "expected `:`"
  | .listCommaExpected => "expected `,` or `]`"
  | .objectCommaExpected => "expected `,` or `\x7d`"
  | .wordExpected => "expected ident"
  | .valueExpected => "expected value"
  | .badEscape => "invalid escape"
  | .badNumber => "invalid number"
  | .numberOutOfRange => "number out of range"
  | .controlCharacter => "control character (\\u0000-\\u001F) found while parsing a string"
  | .keyExpected => "key must be a string"
  | .loneSurrogate => "lone leading surrogate in hex escape"
  | .trailingComma => "trailing comma"
  | .trailingCharacters => "trailing characters"
  | .surrogateCutShort => "unexpected end of hex escape"

/-- A value where another was wanted. A number with a fraction or out of the range of 64-bit
integers is a double, given by its bits. -/
inductive Found where
  | null
  | boolean (value : Bool)
  | integer (value : Int)
  | floating (bits : UInt64)
  | text (characters : List Char)
  | sequence
  | object
  deriving DecidableEq

/-- Doubles are positional from five zeros after the point up to sixteen digits before it. -/
def floatStyle : Decimal.Style := ⟨-5, 15⟩

def Found.message : Found → String
  | .null => "null"
  | .boolean true => "boolean `true`"
  | .boolean false => "boolean `false`"
  | .integer value => "integer `" ++ toString value ++ "`"
  | .floating bits => "floating point `" ++ Decimal.text floatStyle bits ++ "`"
  | .text characters => "string " ++ Text.quotedText characters
  | .sequence => "sequence"
  | .object => "map"

inductive Expected where
  | text
  | record (name : String)
  deriving DecidableEq

def Expected.message : Expected → String
  | .text => "a string"
  | .record name => "struct " ++ name

inductive Fault (FieldFault : Type) where
  | grammar (fault : GrammarFault)
  | wrongType (found : Found) (expected : Expected)
  | tooShort (count : Nat) (record : String) (fields : Nat)
  | missingField (name : String)
  | duplicateField (name : String)
  | field (fault : FieldFault)
  deriving DecidableEq

inductive Category where
  | grammar
  | endOfInput
  | data
  deriving DecidableEq

def GrammarFault.category : GrammarFault → Category
  | .endInList | .endInObject | .endInString | .endInValue => .endOfInput
  | _ => .grammar

variable {FieldFault : Type}

def Fault.category : Fault FieldFault → Category
  | .grammar fault => fault.category
  | _ => .data

def Fault.message (describe : FieldFault → String) : Fault FieldFault → String
  | .grammar fault => fault.message
  | .wrongType found expected =>
      "invalid type: " ++ found.message ++ ", expected " ++ expected.message
  | .tooShort count record fields =>
      "invalid length " ++ toString count ++ ", expected struct " ++ record ++ " with " ++
        toString fields ++ (if fields = 1 then " element" else " elements")
  | .missingField name => "missing field `" ++ name ++ "`"
  | .duplicateField name => "duplicate field `" ++ name ++ "`"
  | .field fault => describe fault

end ObliviousTransfer.Json
