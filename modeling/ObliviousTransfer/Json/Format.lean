import ObliviousTransfer.Json.Skip

/-!
Formats of values: how a value is written in a layout, and how it is read from
the front of a text. A record is written as an object with its fields in order
and read from an object in any order, or from a list in order; unknown keys are
passed over.
-/

namespace ObliviousTransfer.Json

inductive Layout where
  | compact
  | pretty
  deriving DecidableEq

def Layout.lineBreak : Layout → Nat → List Char
  | .compact, _ => []
  | .pretty, depth => '\n' :: List.replicate (2 * depth) ' '

def Layout.afterColon : Layout → List Char
  | .compact => []
  | .pretty => [' ']

structure Format (FieldFault Value : Type) where
  write : Layout → Nat → Value → List Char
  read : List Char → Except (Fault FieldFault) (Value × List Char)

/-- The fields of a record in the order of declaration. A record is the tuple of their values, and
its slots are the values that an object has given so far. -/
inductive Fields (FieldFault : Type) : Type → Type → Type 1 where
  | nil : Fields FieldFault Unit Unit
  | field {Value Rest RestSlots : Type} (name : String) (format : Format FieldFault Value)
      (rest : Fields FieldFault Rest RestSlots) :
      Fields FieldFault (Value × Rest) (Option Value × RestSlots)

variable {FieldFault Value Record Slots : Type}

def inGrammar {Result : Type} (outcome : Except GrammarFault Result) :
    Except (Fault FieldFault) Result :=
  outcome.mapError .grammar

/-- What stands at the front of the input, for the message that refuses it. -/
def readFound : List Char → Except GrammarFault Found
  | [] => .error .endInValue
  | 'n' :: rest => (readWord ['u', 'l', 'l'] rest).map fun _ => .null
  | 't' :: rest => (readWord ['r', 'u', 'e'] rest).map fun _ => .boolean true
  | 'f' :: rest => (readWord ['a', 'l', 's', 'e'] rest).map fun _ => .boolean false
  | '-' :: rest => (readNumber true rest).map Prod.fst
  | '\x22' :: rest => (readText rest).map fun (text, _) => .text text
  | '[' :: _ => .ok .sequence
  | '\x7b' :: _ => .ok .object
  | character :: rest =>
      if character.isDigit then (readNumber false (character :: rest)).map Prod.fst
      else .error .valueExpected

def refuse {Result : Type} (expected : Expected) (input : List Char) :
    Except (Fault FieldFault) Result :=
  match readFound input with
  | .ok found => .error (.wrongType found expected)
  | .error fault => .error (.grammar fault)

def readColon (input : List Char) : Except GrammarFault (List Char) :=
  match dropBlanks input with
  | [] => .error .endInObject
  | character :: rest => if character = ':' then .ok rest else .error .colonExpected

def quoted (text : List Char) : List Char := '\x22' :: (text ++ ['\x22'])

/-- Values that are written as a string. The text of a written value needs no escapes. -/
def Format.text (encode : Value → List Char) (decode : List Char → Except FieldFault Value) :
    Format FieldFault Value where
  write _ _ value := quoted (encode value)
  read input :=
    match dropBlanks input with
    | '\x22' :: rest => do
        let (text, rest) ← inGrammar (readText rest)
        match decode text with
        | .ok value => .ok (value, rest)
        | .error fault => .error (.field fault)
    | other => refuse .text other

namespace Fields

def count : {Record Slots : Type} → Fields FieldFault Record Slots → Nat
  | _, _, .nil => 0
  | _, _, .field _ _ rest => rest.count + 1

def members (layout : Layout) (depth : Nat) :
    {Record Slots : Type} → Fields FieldFault Record Slots → Record → List (List Char)
  | _, _, .nil, _ => []
  | _, _, .field name format rest, (value, values) =>
      (quoted name.toList ++ ':' :: (layout.afterColon ++ format.write layout depth value)) ::
        rest.members layout depth values

def empty : {Record Slots : Type} → Fields FieldFault Record Slots → Slots
  | _, _, .nil => ()
  | _, _, .field _ _ rest => (none, rest.empty)

def complete : {Record Slots : Type} → Fields FieldFault Record Slots → Slots →
    Except (Fault FieldFault) Record
  | _, _, .nil, _ => .ok ()
  | _, _, .field name _ _, (none, _) => .error (.missingField name)
  | _, _, .field _ _ rest, (some value, slots) => do
      let values ← rest.complete slots
      .ok (value, values)

/-- Reads the colon and the value after a key, or gives nothing if no field has that name. A field
that was met before is refused before its colon is looked for. -/
def readMember? (key input : List Char) : {Record Slots : Type} →
    Fields FieldFault Record Slots → Slots → Option (Except (Fault FieldFault) (Slots × List Char))
  | _, _, .nil, _ => none
  | _, _, .field name format rest, (slot, slots) =>
      if key = name.toList then
        match slot with
        | some _ => some (.error (.duplicateField name))
        | none => some do
            let input ← inGrammar (readColon input)
            let (value, input) ← format.read input
            .ok ((some value, slots), input)
      else
        (readMember? key input rest slots).map fun outcome =>
          outcome.map fun (slots, input) => ((slot, slots), input)

/-- The front of the next key of an object after its quote, or nothing at the end of the object,
with what comes after it. -/
def nextKey (first : Bool) (input : List Char) :
    Except GrammarFault (Option (List Char) × List Char) :=
  let key (missing : GrammarFault) :
      List Char → Except GrammarFault (Option (List Char) × List Char)
    | '\x22' :: rest => do
        let (name, rest) ← readText rest
        .ok (some name, rest)
    | [] => .error .endInValue
    | _ => .error missing
  match dropBlanks input with
  | [] => .error .endInObject
  | '\x7d' :: rest => .ok (none, rest)
  | character :: rest =>
      if first then key .keyExpected (character :: rest)
      else if character = ',' then
        match dropBlanks rest with
        | '\x7d' :: _ => .error .trailingComma
        | rest => key .keyExpected rest
      else .error .objectCommaExpected

/-- Reads the members of an object up to its end. Every member takes at least one character, so a
fuel of one more than the length of the input is enough. -/
def readMembers (fields : Fields FieldFault Record Slots) :
    Nat → Bool → Slots → List Char → Except (Fault FieldFault) (Record × List Char)
  | 0, _, _, _ => .error (.grammar .endInObject)
  | fuel + 1, first, slots, input => do
      match ← inGrammar (nextKey first input) with
      | (none, rest) =>
          let record ← fields.complete slots
          .ok (record, rest)
      | (some key, rest) =>
          match fields.readMember? key rest slots with
          | some outcome =>
              let (slots, rest) ← outcome
              fields.readMembers fuel false slots rest
          | none =>
              let rest ← inGrammar (readColon rest)
              let rest ← inGrammar (skipValue rest)
              fields.readMembers fuel false slots rest

def nextElement (first : Bool) (input : List Char) : Except GrammarFault (Option (List Char)) :=
  match dropBlanks input with
  | [] => .error .endInList
  | ']' :: _ => .ok none
  | character :: rest =>
      if first then .ok (some (character :: rest))
      else if character = ',' then
        match dropBlanks rest with
        | [] => .error .endInValue
        | ']' :: _ => .error .trailingComma
        | rest => .ok (some rest)
      else .error .listCommaExpected

def readElements (short : Nat → Fault FieldFault) : {Record Slots : Type} →
    Fields FieldFault Record Slots → Nat → List Char →
    Except (Fault FieldFault) (Record × List Char)
  | _, _, .nil, _, input => .ok ((), input)
  | _, _, .field _ format rest, index, input => do
      match ← inGrammar (nextElement (index == 0) input) with
      | none => .error (short index)
      | some input =>
          let (value, input) ← format.read input
          let (values, input) ← readElements short rest (index + 1) input
          .ok ((value, values), input)

end Fields

def readListEnd (input : List Char) : Except GrammarFault (List Char) :=
  match dropBlanks input with
  | [] => .error .endInList
  | ']' :: rest => .ok rest
  | ',' :: rest =>
      match dropBlanks rest with
      | ']' :: _ => .error .trailingComma
      | _ => .error .trailingCharacters
  | _ => .error .trailingCharacters

def Format.record (name : String) (fields : Fields FieldFault Record Slots) :
    Format FieldFault Record where
  write layout depth record :=
    let lines := (fields.members layout (depth + 1) record).map fun member =>
      layout.lineBreak (depth + 1) ++ member
    '\x7b' :: ([','].intercalate lines ++ layout.lineBreak depth ++ ['\x7d'])
  read input :=
    match dropBlanks input with
    | '\x7b' :: rest => fields.readMembers (rest.length + 1) true fields.empty rest
    | '[' :: rest => do
        let short (index : Nat) : Fault FieldFault := .tooShort index name fields.count
        let (record, rest) ← fields.readElements short 0 rest
        let rest ← inGrammar (readListEnd rest)
        .ok (record, rest)
    | other => refuse (.record name) other

def Format.transport {Other : Type} (format : Format FieldFault Value) (forth : Value → Other)
    (back : Other → Value) : Format FieldFault Other where
  write layout depth value := format.write layout depth (back value)
  read input := (format.read input).map fun (value, rest) => (forth value, rest)

def Format.encode (format : Format FieldFault Value) (layout : Layout) (value : Value) :
    List Char :=
  format.write layout 0 value

def Format.decode (format : Format FieldFault Value) (input : List Char) :
    Except (Fault FieldFault) Value := do
  let (value, rest) ← format.read input
  if dropBlanks rest = [] then .ok value else .error (.grammar .trailingCharacters)

end ObliviousTransfer.Json
