import ErpFinance.Driver.Repository
import ErpFinance.Library.Csv
import ErpFinance.Library.Float64
import ErpFinance.Registry.Build

/-!
# Import and export

Records are written as CSV, JSON or JSONL and are created from what was
written.  Of the formats, CSV is modelled on its text; a JSON text is the tree
that it denotes.  The values that a record holds besides strings, integers,
floats and booleans, how the standard library prints them and how the
repository reads what is imported are parameters.
-/

namespace ErpFinance.Ioport

open Def (FieldType)
open Library

/-! ## Values -/

/-- What a record holds under a field; `other` are decimals, instants, identifiers, lists and
trees. -/
inductive Value (F O : Type) where
  | nil
  | string (s : String)
  | int (n : Int)
  | float (f : F)
  | bool (b : Bool)
  | other (o : O)
deriving DecidableEq

/-- What a JSON text denotes; an array or an object is the value that it is decoded to. -/
inductive Encoded (F O : Type) where
  | null
  | string (s : String)
  | integer (n : Int)
  | float (f : F)
  | bool (b : Bool)
  | tree (o : O)
deriving DecidableEq

/-- The range of `int64`. -/
def IsInt64 (n : Int) : Prop := -2 ^ 63 ≤ n ∧ n < 2 ^ 63

instance (n : Int) : Decidable (IsInt64 n) := inferInstanceAs (Decidable (_ ∧ _))

/-- What the language and its library do with floats and with other values: floats are printed so
that they are read back, and an integer is decoded from JSON as the nearest float. -/
structure Language (F O : Type) where
  formatFloat : F → String
  parseFloat : String → Option F
  finite : F → Bool
  ofInt : Int → F
  toInt : F → Int
  overflow : Int
  sprintOther : O → String
  marshalOther : O → Option (Encoded F O)
  parseFloat_formatFloat : ∀ f, parseFloat (formatFloat f) = some f
  formatFloat_visible : ∀ f, formatFloat f ≠ "" ∧ ∀ c ∈ (formatFloat f).toList, isSpace c = false
  parseFloat_nil : parseFloat "<nil>" = none
  isInt64_overflow : IsInt64 overflow
  toInt_ofInt : ∀ n, IsInt64 n → toInt (ofInt n) =
    if IsInt64 (Float64.nearest n) then Float64.nearest n else overflow

/-! ## Schemas and repositories -/

structure FieldDef where
  name : String
  type : FieldType
  isSensitive : Bool := false

/-- A compiled entity: its fields have distinct names of the permitted form. -/
structure EntitySchema where
  fields : List FieldDef
  distinct : (fields.map FieldDef.name).Nodup
  named : ∀ f ∈ fields, Registry.fieldNameRe f.name = true

def EntitySchema.fieldsByName (schema : EntitySchema) : String → Option FieldDef :=
  index FieldDef.name schema.fields

/-- The types whose values are strings. -/
def isText : FieldType → Bool
  | .data | .smallText | .longText | .select | .namingSeries => true
  | _ => false

def Own {F O : Type} (type : FieldType) : Value F O → Prop
  | .nil => False
  | .string _ => isText type = true
  | .int n => type = .int ∧ IsInt64 n
  | .float _ => type = .float
  | .bool _ => type = .bool
  | .other _ => False

/-- What the repository makes of an imported value of a field, and of one that is missing, if it
does not refuse the record.  It judges field by field, and of a field's own values it makes no
others. -/
structure Repository (F O : Type) where
  accept : FieldDef → Value F O → Option (Value F O)
  absent : FieldDef → Option (Value F O)
  accept_own : ∀ f v w, Own f.type v → accept f v = some w → w = v

variable {F O : Type}

/-- The other types hold values of their own Go types. -/
def IsOther (type : FieldType) : Prop :=
  isText type = false ∧ type ≠ .int ∧ type ≠ .float ∧ type ≠ .bool

/-- A value of a field: it is nil, one of the field's own or, for the other types, any other
value, and the repository takes it for what it is. -/
def Conforms (repo : Repository F O) (f : FieldDef) (v : Value F O) : Prop :=
  (v = .nil ∨ Own f.type v ∨ (IsOther f.type ∧ ∃ o, v = .other o)) ∧ repo.accept f v = some v

structure EntityRecord (repo : Repository F O) (schema : EntitySchema) where
  get : String → Value F O
  conforms : ∀ f ∈ schema.fields, Conforms repo f (get f.name)

/-! ## Export -/

inductive Format where
  | csv
  | json
  | jsonl

/-- The options of an export; where fields are listed, they are fields of the entity, each listed
once. -/
structure ExportOptions (schema : EntitySchema) where
  format : Format
  fields : List String := []
  pageSize : Int := 0
  listed : fields.Nodup ∧ ∀ name ∈ fields, name ∈ schema.fields.map FieldDef.name

def ExportOptions.columns {schema : EntitySchema} (opts : ExportOptions schema) : List String :=
  if opts.fields = [] then (schema.fields.filter (!·.isSensitive)).map FieldDef.name
  else opts.fields

def ExportOptions.size {schema : EntitySchema} (opts : ExportOptions schema) : Int :=
  if opts.pageSize ≤ 0 then 500 else opts.pageSize

section Export

variable {α : Type}

def query (records : List α) (page : Nat) (pageSize : Int) : List α :=
  let size := (Driver.resolveOptions { page := page, pageSize := pageSize }).pageSize.toNat
  (records.drop ((page - 1) * size)).take size

/-- The loop over the pages, which ends at the first page that is not full. -/
def exportPages (records : List α) (pageSize : Int) : Nat → Nat → List α
  | 0, _ => []
  | fuel + 1, page =>
    let found := query records page pageSize
    if (found.length : Int) < pageSize then found
    else found ++ exportPages records pageSize fuel (page + 1)

end Export

section Language

variable (go : Language F O)

/-- `fmt.Sprint`. -/
def sprint : Value F O → String
  | .nil => "<nil>"
  | .string s => s
  | .int n => String.ofList (paddedInt 0 n)
  | .float f => go.formatFloat f
  | .bool b => if b then "true" else "false"
  | .other o => go.sprintOther o

/-- What a value is encoded as in JSON, where that does not fail. -/
def marshal : Value F O → Option (Encoded F O)
  | .nil => some .null
  | .string s => some (.string s)
  | .int n => some (.integer n)
  | .float f => if go.finite f then some (.float f) else none
  | .bool b => some (.bool b)
  | .other o => go.marshalOther o

/-- `json.Decode` into `any`. -/
def unmarshal : Encoded F O → Value F O
  | .null => .nil
  | .string s => .string s
  | .integer n => .float (go.ofInt n)
  | .float f => .float f
  | .bool b => .bool b
  | .tree o => .other o

/-- A row of a JSON document: an object of one member for each column. -/
abbrev Row (F O : Type) := List (String × Encoded F O)

/-- What an export writes: the text of a CSV file, or the rows of a JSON array or stream. -/
inductive Document (F O : Type) where
  | csv (text : List Char)
  | json (rows : List (Row F O))
  | jsonl (rows : List (Row F O))
deriving DecidableEq

def csvRow (columns : List String) (get : String → Value F O) : List Csv.Field :=
  columns.map fun col => (sprint go (get col)).toList

def jsonRow (columns : List String) (get : String → Value F O) : Option (Row F O) :=
  columns.mapM fun col => (marshal go (get col)).map (col, ·)

/-- `Export`; an error leaves no document behind, or a part of it. -/
def exportRecords {schema : EntitySchema} (opts : ExportOptions schema)
    (records : List (String → Value F O)) : Option (Document F O) :=
  let columns := opts.columns
  let exported := exportPages records opts.size (records.length + 1) 1
  match opts.format with
  | .csv => some (.csv (Csv.writeRecord (columns.map String.toList) ++
      exported.flatMap fun get => Csv.writeRecord (csvRow go columns get)))
  | .json => (exported.mapM (jsonRow go columns)).map .json
  | .jsonl => (exported.mapM (jsonRow go columns)).map .jsonl

/-! ## Import -/

/-- The members of a row by field. -/
abbrev Data (F O : Type) := String → Option (Value F O)

/-- `strconv.ParseInt` of base ten into 64 bits. -/
def parseInt (text : String) : Option Int :=
  let digits (chars : List Char) : Option Nat :=
    if chars ≠ [] ∧ chars.all Char.isDigit then some (Nat.ofDigitChars 10 chars 0) else none
  let value : Option Int := match text.toList with
    | '-' :: chars => (digits chars).map fun n => -(n : Int)
    | '+' :: chars => (digits chars).map fun n => (n : Int)
    | chars => (digits chars).map fun n => (n : Int)
  value.filter fun n => IsInt64 n

/-- `strconv.ParseBool`. -/
def parseBool (text : String) : Option Bool :=
  if text ∈ ["1", "t", "T", "TRUE", "true", "True"] then some true
  else if text ∈ ["0", "f", "F", "FALSE", "false", "False"] then some false
  else none

def coerceCSVValue (ft : FieldType) (s : String) : Except String (Value F O) :=
  match ft with
  | .int => match parseInt s with
    | some n => .ok (.int n)
    | none => .error ("expected integer, got " ++ quoted s)
  | .float => match go.parseFloat s with
    | some f => .ok (.float f)
    | none => .error ("expected float, got " ++ quoted s)
  | .bool => match parseBool s with
    | some b => .ok (.bool b)
    | none => .error ("expected bool, got " ++ quoted s)
  | _ => .ok (.string s)

variable (schema : EntitySchema)

/-- One cell of a row. -/
def csvCell (data : Data F O) (header value : String) : Except String (Data F O) :=
  let h := trimSpace header
  let v := trimSpace value
  if v = "" then .ok data
  else match schema.fieldsByName h with
    | none => .ok data
    | some fd => match coerceCSVValue go fd.type v with
      | .error err => .error ("field " ++ quoted h ++ ": " ++ err)
      | .ok coerced => .ok (Function.update data h (some coerced))

def csvRowToData (headers values : List String) : Except String (Data F O) :=
  (headers.zip values).foldlM (fun data cell => csvCell go schema data cell.1 cell.2)
    fun _ => none

def coerceJSONValue (ft : FieldType) (v : Value F O) : Value F O :=
  match ft, v with
  | .int, .float f => .int (go.toInt f)
  | _, v => v

def normalizeJSONRow (row : Row F O) : Data F O := fun name =>
  match schema.fieldsByName name, row.lookup name with
  | some fd, some encoded => some (coerceJSONValue go fd.type (unmarshal go encoded))
  | _, _ => none

variable (repo : Repository F O)

/-- A created record, field by field. -/
abbrev Made (F O : Type) := List (String × Value F O)

/-- What is kept of a row, unless the record is refused. -/
def create (data : Data F O) : Option (Made F O) :=
  schema.fields.mapM fun f =>
    (match data f.name with
      | some v => repo.accept f v
      | none => repo.absent f).map (f.name, ·)

/-- `BulkCreate` creates all of the records or none. -/
def bulkCreate (batch : List (Data F O)) : Option (List (Made F O)) :=
  batch.mapM (create schema repo)

structure ImportOptions where
  batchSize : Int := 0
  skipErrors : Bool := false

def ImportOptions.size (opts : ImportOptions) : Int :=
  if opts.batchSize ≤ 0 then 100 else opts.batchSize

/-- The result, with the records that were created and the error that ended the import. -/
structure Imported (F O : Type) where
  total : Nat := 0
  created : List (Made F O) := []
  errors : List (Nat × String) := []
  failure : Option String := none

/-- A row as the loop sees it: one that the decoder refuses, one with a value that cannot be
coerced, or the data. -/
inductive Parsed (F O : Type) where
  | unreadable (err : String)
  | bad (err : String)
  | data (d : Data F O)

variable (opts : ImportOptions)

/-- The loop of `importCSV` and of `importJSONL`, with a flush of the last batch. -/
def importLoop (label : String) : Nat → List (Data F O) → Imported F O → List (Parsed F O) →
    Imported F O
  | _, batch, out, [] =>
    match bulkCreate schema repo batch with
    | some made => { out with created := out.created ++ made }
    | none => { out with failure := some ("ioport: " ++ label ++ ": final flush") }
  | row, batch, out, .unreadable err :: rest =>
    if opts.skipErrors then
      importLoop label (row + 1) batch { out with errors := out.errors ++ [(row, err)] } rest
    else { out with failure := some err }
  | row, batch, out, .bad err :: rest =>
    let out := { out with total := out.total + 1 }
    if opts.skipErrors then
      importLoop label (row + 1) batch { out with errors := out.errors ++ [(row, err)] } rest
    else { out with failure := some err }
  | row, batch, out, .data d :: rest =>
    let out := { out with total := out.total + 1 }
    if ((batch ++ [d]).length : Int) ≥ opts.size then
      match bulkCreate schema repo (batch ++ [d]) with
      | some made =>
        importLoop label (row + 1) [] { out with created := out.created ++ made } rest
      | none =>
        if opts.skipErrors then
          importLoop label (row + 1) []
            { out with errors := out.errors ++ [(row, "refused")] } rest
        else { out with failure := some "refused" }
    else importLoop label (row + 1) (batch ++ [d]) out rest

/-- The loop of `importJSON`, which flushes at the last row. -/
def importJSONLoop : Nat → List (Data F O) → Imported F O → List (Data F O) → Imported F O
  | _, _, out, [] => out
  | row, batch, out, d :: rest =>
    if ((batch ++ [d]).length : Int) ≥ opts.size ∨ rest = [] then
      match bulkCreate schema repo (batch ++ [d]) with
      | some made => importJSONLoop (row + 1) [] { out with created := out.created ++ made } rest
      | none =>
        if opts.skipErrors then
          importJSONLoop (row + 1) [] { out with errors := out.errors ++ [(row, "refused")] }
            rest
        else { out with failure := some "refused" }
    else importJSONLoop (row + 1) (batch ++ [d]) out rest

def parsedRow (headers : List String) :
    Except Csv.ParseError (List Csv.Field) → Parsed F O
  | .error .bareQuote => .unreadable "bare \" in non-quoted field"
  | .error .quote => .unreadable "extraneous or missing \" in quoted-field"
  | .error .fieldCount => .unreadable "wrong number of fields"
  | .ok values =>
    match csvRowToData go schema headers (values.map String.ofList) with
    | .error err => .bad err
    | .ok data => .data data

def importCSV (text : List Char) : Imported F O :=
  match Csv.readRecord (Csv.readLines text) with
  | none => { failure := some "ioport: csv: read header: EOF" }
  | some (.error _, _) => { failure := some "ioport: csv: read header" }
  | some (.ok headers, rest) =>
    importLoop schema repo opts "csv" 2 [] {}
      ((Csv.readAll headers.length (rest.length + 1) rest).map
        (parsedRow go schema (headers.map String.ofList)))

def importJSON (rows : List (Row F O)) : Imported F O :=
  importJSONLoop schema repo opts 1 [] { total := rows.length }
    (rows.map (normalizeJSONRow go schema))

def importJSONL (rows : List (Row F O)) : Imported F O :=
  importLoop schema repo opts "jsonl" 1 [] {}
    (rows.map fun row => .data (normalizeJSONRow go schema row))

/-- `Import` in the format of the document. -/
def importRecords : Document F O → Imported F O
  | .csv text => importCSV go schema repo opts text
  | .json rows => importJSON go schema repo opts rows
  | .jsonl rows => importJSONL go schema repo opts rows

end Language

end ErpFinance.Ioport
