import EntityQuery.Json.Render

/-!
# Types of a PostgreSQL server

The types that parameters and columns are encoded by.  Types without an encoding of their own keep
their name and number, since an array of them is still an array.  So is an array of vectors, whose
members are arrays themselves.
-/

namespace EntityQuery.Postgres

/-- A type whose values are no arrays. -/
inductive ScalarType
  | bool
  | bytea
  | int2
  | int4
  | int8
  | oid
  | float4
  | float8
  | numeric
  | text
  | varchar
  | bpchar
  | name
  | unknown
  | json
  | jsonb
  | uuid
  | date
  | timestamp
  | timestamptz
  | other (typeName : String) (number : Nat)
  deriving DecidableEq

namespace ScalarType

/-- The name that the server gives the type. -/
def typeName : ScalarType → String
  | .bool => "bool"
  | .bytea => "bytea"
  | .int2 => "int2"
  | .int4 => "int4"
  | .int8 => "int8"
  | .oid => "oid"
  | .float4 => "float4"
  | .float8 => "float8"
  | .numeric => "numeric"
  | .text => "text"
  | .varchar => "varchar"
  | .bpchar => "bpchar"
  | .name => "name"
  | .unknown => "unknown"
  | .json => "json"
  | .jsonb => "jsonb"
  | .uuid => "uuid"
  | .date => "date"
  | .timestamp => "timestamp"
  | .timestamptz => "timestamptz"
  | .other typeName _ => typeName

def number : ScalarType → Nat
  | .bool => 16
  | .bytea => 17
  | .name => 19
  | .int8 => 20
  | .int2 => 21
  | .int4 => 23
  | .text => 25
  | .oid => 26
  | .json => 114
  | .float4 => 700
  | .float8 => 701
  | .unknown => 705
  | .bpchar => 1042
  | .varchar => 1043
  | .date => 1082
  | .timestamp => 1114
  | .timestamptz => 1184
  | .numeric => 1700
  | .uuid => 2950
  | .jsonb => 3802
  | .other _ number => number

/-- The built-in types that have no encoding of their own but can be members of arrays. -/
def plainTypes : List ScalarType :=
  [("char", 18), ("regproc", 24), ("tid", 27), ("xid", 28), ("cid", 29), ("xml", 142),
    ("point", 600), ("lseg", 601), ("path", 602), ("box", 603), ("polygon", 604), ("line", 628),
    ("cidr", 650), ("circle", 718), ("macaddr8", 774), ("money", 790), ("macaddr", 829),
    ("inet", 869), ("aclitem", 1033), ("time", 1083), ("interval", 1186), ("timetz", 1266),
    ("bit", 1560), ("varbit", 1562), ("refcursor", 1790), ("regprocedure", 2202),
    ("regoper", 2203), ("regoperator", 2204), ("regclass", 2205), ("regtype", 2206),
    ("record", 2249), ("cstring", 2275), ("txid_snapshot", 2970), ("pg_lsn", 3220),
    ("tsvector", 3614), ("tsquery", 3615), ("gtsvector", 3642), ("regconfig", 3734),
    ("regdictionary", 3769), ("int4range", 3904), ("numrange", 3906), ("tsrange", 3908),
    ("tstzrange", 3910), ("daterange", 3912), ("int8range", 3926), ("jsonpath", 4072),
    ("regnamespace", 4089), ("regrole", 4096), ("regcollation", 4191), ("int4multirange", 4451),
    ("nummultirange", 4532), ("tsmultirange", 4533), ("tstzmultirange", 4534),
    ("datemultirange", 4535), ("int8multirange", 4536), ("pg_snapshot", 5038), ("xid8", 5069)].map
    fun entry => .other entry.1 entry.2

/-- The types with a name of their own. -/
def all : List ScalarType :=
  [.bool, .bytea, .int2, .int4, .int8, .oid, .float4, .float8, .numeric, .text, .varchar,
    .bpchar, .name, .unknown, .json, .jsonb, .uuid, .date, .timestamp, .timestamptz] ++ plainTypes

def ofName (typeName : String) : ScalarType :=
  (all.find? fun type => type.typeName == typeName).getD (.other typeName 0)

end ScalarType

/-- A vector: an array type of its own that counts from zero. -/
inductive VectorType
  | int2
  | oid
  deriving DecidableEq

namespace VectorType

def member : VectorType → ScalarType
  | .int2 => .int2
  | .oid => .oid

/-- The name that the server gives the type. -/
def typeName (type : VectorType) : String := type.member.typeName ++ "vector"

def number : VectorType → Nat
  | .int2 => 22
  | .oid => 30

end VectorType

/-- A type that the members of an array can have. -/
inductive MemberType
  | scalar (type : ScalarType)
  | vector (type : VectorType)
  deriving DecidableEq

namespace MemberType

/-- The name that the server gives the type. -/
def typeName : MemberType → String
  | .scalar type => type.typeName
  | .vector type => type.typeName

def number : MemberType → Nat
  | .scalar type => type.number
  | .vector type => type.number

def ofName (typeName : String) : MemberType :=
  match [VectorType.int2, .oid].find? fun type => type.typeName == typeName with
  | some type => .vector type
  | none => .scalar (.ofName typeName)

end MemberType

/-- A type of a parameter or column. -/
inductive ServerType
  | plain (type : MemberType)
  | array (member : MemberType)
  deriving DecidableEq

namespace ServerType

/-- The name that the server gives the type. -/
def typeName : ServerType → String
  | .plain type => type.typeName
  | .array member => "_" ++ member.typeName

/-- The type with a name.  Many records are not an array but one more type without an encoding. -/
def ofName (typeName : String) : ServerType :=
  if typeName = "_record" then .plain (.scalar (.other typeName 2287))
  else match typeName.toList with
    | '_' :: rest => .array (.ofName (String.ofList rest))
    | _ => .plain (.ofName typeName)

end ServerType

/-- Why a value cannot be encoded. -/
inductive EncodeFault
  /-- The value has the wrong kind for the type. -/
  | mismatch (value : Json) (type : ServerType)
  /-- Numeric parameters have no encoding here. -/
  | numeric (value : Json)
  /-- A whole number beyond the range of the type. -/
  | outOfRange (type : ScalarType)
  /-- A text that does not read as the type. -/
  | malformed (type : ScalarType)

/-- The fault in words, where the words are this library's own. -/
def EncodeFault.message? : EncodeFault → Option String
  | .mismatch value type => some ("cannot encode " ++ value.render ++ " as " ++ type.typeName)
  | .numeric value =>
      some ("cannot encode " ++ value.render ++
        " as numeric: enable the `rust_decimal` feature")
  | _ => none

end EntityQuery.Postgres
