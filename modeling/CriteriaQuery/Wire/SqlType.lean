/-!
# Types of the database

A type of the database as an encoder sees it. The built-in types that some value
has a binary form for are listed one by one; of all other types only the name and
the number matter, and of an array its member and the index of its first item.
-/

namespace CriteriaQuery.Wire

/-- The built-in types that some value has a binary form for. -/
inductive ScalarType where
  | bool
  | int2
  | int4
  | int8
  | float4
  | float8
  | numeric
  | text
  | varchar
  | bpchar
  | name
  | unknown
  | uuid
  | timestamp
  | timestamptz
  | json
  | jsonb
deriving DecidableEq, Repr

namespace ScalarType

/-- Every built-in type that some value has a binary form for. -/
def all : List ScalarType :=
  [.bool, .int2, .int4, .int8, .float4, .float8, .numeric, .text, .varchar, .bpchar, .name,
    .unknown, .uuid, .timestamp, .timestamptz, .json, .jsonb]

/-- The name of a type in the catalog of the database. -/
def catalogName : ScalarType → String
  | .bool => "bool"
  | .int2 => "int2"
  | .int4 => "int4"
  | .int8 => "int8"
  | .float4 => "float4"
  | .float8 => "float8"
  | .numeric => "numeric"
  | .text => "text"
  | .varchar => "varchar"
  | .bpchar => "bpchar"
  | .name => "name"
  | .unknown => "unknown"
  | .uuid => "uuid"
  | .timestamp => "timestamp"
  | .timestamptz => "timestamptz"
  | .json => "json"
  | .jsonb => "jsonb"

/-- The number of a type in the catalog of the database. -/
def oid : ScalarType → Nat
  | .bool => 16
  | .int2 => 21
  | .int4 => 23
  | .int8 => 20
  | .float4 => 700
  | .float8 => 701
  | .numeric => 1700
  | .text => 25
  | .varchar => 1043
  | .bpchar => 1042
  | .name => 19
  | .unknown => 705
  | .uuid => 2950
  | .timestamp => 1114
  | .timestamptz => 1184
  | .json => 114
  | .jsonb => 3802

end ScalarType

/-- A type of the database. -/
inductive SqlType where
  | scalar (type : ScalarType)
  | named (name : String) (oid : Nat)
  | domain (name : String) (oid : Nat) (base : SqlType)
  | array (name : String) (oid : Nat) (firstIndex : Nat) (member : SqlType)
deriving DecidableEq, Repr

namespace SqlType

/-- The name a type is shown by. -/
def name : SqlType → String
  | .scalar type => type.catalogName
  | .named name _ => name
  | .domain name _ _ => name
  | .array name _ _ _ => name

/-- The number of a type in the catalog of the database. -/
def oid : SqlType → Nat
  | .scalar type => type.oid
  | .named _ oid => oid
  | .domain _ oid _ => oid
  | .array _ oid _ _ => oid

/-- Built-in types that no value has a binary form for. -/
def otherBuiltins : List (String × Nat) :=
  [("bytea", 17), ("char", 18), ("regproc", 24), ("oid", 26), ("tid", 27), ("xid", 28),
    ("cid", 29), ("xml", 142), ("point", 600), ("lseg", 601), ("path", 602), ("box", 603),
    ("polygon", 604), ("line", 628), ("cidr", 650), ("circle", 718), ("macaddr8", 774),
    ("money", 790), ("macaddr", 829), ("inet", 869), ("date", 1082), ("time", 1083),
    ("interval", 1186), ("timetz", 1266), ("bit", 1560), ("varbit", 1562),
    ("refcursor", 1790), ("regprocedure", 2202), ("regclass", 2205), ("regtype", 2206),
    ("record", 2249), ("cstring", 2275), ("void", 2278), ("tsvector", 3614),
    ("tsquery", 3615), ("int4range", 3904), ("numrange", 3906), ("tsrange", 3908),
    ("tstzrange", 3910), ("daterange", 3912), ("int8range", 3926), ("jsonpath", 4072)]

/-- A built-in type that is not an array. -/
def elementType? (name : String) : Option SqlType :=
  match ScalarType.all.find? fun type => type.catalogName == name with
  | some type => some (.scalar type)
  | none => (otherBuiltins.lookup name).map (.named name)

/-- The numbers of the built-in array types, by the names of their members. -/
def arrayOids : List (String × Nat) :=
  [("bool", 1000), ("bytea", 1001), ("char", 1002), ("name", 1003), ("int2", 1005),
    ("int2vector", 1006), ("int4", 1007), ("regproc", 1008), ("text", 1009), ("tid", 1010),
    ("xid", 1011), ("cid", 1012), ("oidvector", 1013), ("bpchar", 1014), ("varchar", 1015),
    ("int8", 1016), ("point", 1017), ("lseg", 1018), ("path", 1019), ("box", 1020),
    ("float4", 1021), ("float8", 1022), ("polygon", 1027), ("oid", 1028), ("line", 629),
    ("cidr", 651), ("circle", 719), ("macaddr8", 775), ("money", 791), ("macaddr", 1040),
    ("inet", 1041), ("timestamp", 1115), ("date", 1182), ("time", 1183),
    ("timestamptz", 1185), ("interval", 1187), ("numeric", 1231), ("timetz", 1270),
    ("bit", 1561), ("varbit", 1563), ("refcursor", 2201), ("uuid", 2951), ("xml", 143),
    ("json", 199), ("jsonb", 3807), ("tsvector", 3643), ("tsquery", 3645),
    ("int4range", 3905), ("numrange", 3907), ("tsrange", 3909), ("tstzrange", 3911),
    ("daterange", 3913), ("int8range", 3927), ("jsonpath", 4073)]

/-- The two built-in vectors, which are arrays whose items count from zero. -/
def vector? : String → Option SqlType
  | "int2vector" => some (.array "int2vector" 22 0 (.scalar .int2))
  | "oidvector" => some (.array "oidvector" 30 0 (.named "oid" 26))
  | _ => none

/-- A built-in type that can be the member of a built-in array. -/
def memberType? (name : String) : Option SqlType :=
  (vector? name).or (elementType? name)

/-- A built-in type by its name in the catalog; the name of an array is that of its
member after an underscore. -/
def builtin? (name : String) : Option SqlType :=
  match name.toList with
  | '_' :: rest => do
      let memberName := String.ofList rest
      let member ← memberType? memberName
      let oid ← arrayOids.lookup memberName
      return .array name oid 1 member
  | _ => memberType? name

end SqlType

end CriteriaQuery.Wire
