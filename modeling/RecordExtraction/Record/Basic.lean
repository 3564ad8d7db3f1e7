import RecordExtraction.Record.Value

/-!
# Records

A record holds the values of one type of value under the names of its properties, in the order of
their declaration.
-/

namespace RecordExtraction

/-- The extracted values of a document. -/
structure Record where
  typeName : String
  fields : List (String × FieldValue)
deriving DecidableEq

namespace Record

def names (record : Record) : List String := record.fields.map Prod.fst

def values (record : Record) : List FieldValue := record.fields.map Prod.snd

/-- The value of the first field with the given name. -/
def get? (record : Record) (name : String) : Option FieldValue :=
  (record.fields.find? (·.1 == name)).map Prod.snd

end Record
end RecordExtraction
