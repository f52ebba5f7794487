import SchemaDesk.Block.Scope
import SchemaDesk.Suggestion.Basic

/-!
# The catalog of suggestions

Everything that is suggested independently of the document: block templates,
field snippets, types, attributes, functions for default values, and the
properties of generators and datasources with their values. Declared models and
enums join the types, after all primitive ones.
-/

namespace SchemaDesk.Catalog

open Suggestion

/-- A template of several lines. -/
def template (lines : List String) : String :=
  String.intercalate "\n" lines

/-- Templates of whole blocks. -/
def blockTemplates : List Suggestion := [
    { label := "generator"
      template := template [
        "generator $\x7b1:client\x7d \x7b",
        "  provider = \"prisma-client-js\"",
        "  $0",
        "\x7d"]
      documentation := "Define a generator"
      sortKey := key .block 0 "generator"
      kind := .block },
    { label := "model"
      template := template [
        "model $\x7b1:User\x7d \x7b",
        "  id        String   @id @default(cuid())",
        "  email     String   @unique",
        "  name      String?",
        "  createdAt DateTime @default(now())",
        "  updatedAt DateTime @updatedAt",
        "  $0",
        "\x7d"]
      documentation := "Create a new data model"
      sortKey := key .block 1 "model"
      kind := .block },
    { label := "datasource"
      template := template [
        "datasource $\x7b1:db\x7d \x7b",
        "  provider = \"$\x7b2:postgresql\x7d\"",
        "  url      = env(\"$\x7b3:DATABASE_URL\x7d\")",
        "  $0",
        "\x7d"]
      documentation := "Define a datasource"
      sortKey := key .block 2 "datasource"
      kind := .module },
    { label := "enum"
      template := template [
        "enum $\x7b1:Status\x7d \x7b",
        "  $\x7b2:ACTIVE\x7d",
        "  $\x7b3:INACTIVE\x7d",
        "  $0",
        "\x7d"]
      documentation := "Create an enumeration"
      sortKey := key .block 3 "enum"
      kind := .enum }]

/-- Fields that models often have. -/
def fieldSnippets : List Suggestion :=
  table .field .snippet [
    ("id", "id $\x7b1:Int\x7d @id @default(autoincrement())",
      "Integer ID field with auto-increment"),
    ("id (String cuid)", "id $\x7b1:String\x7d @id @default(cuid())", "String ID field with CUID"),
    ("field", "$\x7b1:name\x7d $\x7b2:String\x7d", "Generic field declaration"),
    ("email", "email $\x7b1:String\x7d @unique", "Unique email field"),
    ("createdAt", "createdAt DateTime @default(now())", "Creation timestamp"),
    ("updatedAt", "updatedAt DateTime @updatedAt", "Last update timestamp"),
    ("timestamps", "createdAt DateTime @default(now())\n  updatedAt DateTime @updatedAt",
      "Standard timestamp fields"),
    ("relation",
      "$\x7b1:author\x7d   $\x7b2:User\x7d @relation" ++
        "(fields: [$\x7b3:authorId\x7d], references: [$\x7b4:id\x7d])\n" ++
        "  $\x7b3:authorId\x7d $\x7b5:String\x7d",
      "Relation field with foreign key")]

/-- The primitive types. -/
def primitiveTypes : List String :=
  ["String", "Boolean", "Int", "BigInt", "Float", "Decimal", "DateTime", "Json", "Bytes"]

/-- Every primitive type plain, optional and as a list. -/
def types : List Suggestion :=
  table .type .type
    (primitiveTypes.map (fun name => (name, name, name ++ " field type")) ++
      primitiveTypes.map (fun name =>
        (name ++ "?", name ++ "?", "Optional " ++ name ++ " field")) ++
      primitiveTypes.map fun name =>
        (name ++ "[]", name ++ "[]", "List of " ++ name ++ " values"))

/-- The types that a document declares, numbered after the primitive ones. -/
def declaredTypes (names : List String) : List Suggestion :=
  names.mapIdx fun index name =>
    { label := name, template := name, documentation := name ++ " declared in this schema"
      sortKey := key .type (types.length + index) name, kind := .block }

/-- Attributes of fields. -/
def fieldAttributes : List Suggestion :=
  table .attribute .property [
    ("@id", "@id", "Defines the primary key"),
    ("@unique", "@unique", "Defines a unique constraint"),
    ("@default(...)", "@default($\x7b1:value\x7d)", "Sets a default value"),
    ("@relation(...)", "@relation(fields: [$\x7b1:fieldName\x7d], references: [$\x7b2:id\x7d])",
      "Defines a relation between models"),
    ("@updatedAt", "@updatedAt",
      "Automatically sets the field to now() when the record is updated"),
    ("@map(...)", "@map(\"$\x7b1:column_name\x7d\")",
      "Maps the field to a specific database column"),
    ("@ignore", "@ignore", "Excludes the field from the generated client"),
    ("@db.*", "@db.$\x7b1:VarChar\x7d($\x7b2:255\x7d)", "Uses a database-specific native type")]

/-- Attributes of blocks. -/
def blockAttributes : List Suggestion :=
  table .attribute .property [
    ("@@id", "@@id([$\x7b1:field1\x7d, $\x7b2:field2\x7d])", "Defines a composite primary key"),
    ("@@unique", "@@unique([$\x7b1:field1\x7d, $\x7b2:field2\x7d])",
      "Defines a compound unique constraint"),
    ("@@index", "@@index([$\x7b1:field\x7d])", "Defines an index"),
    ("@@map", "@@map(\"$\x7b1:table_name\x7d\")", "Maps the model to a specific database table"),
    ("@@ignore", "@@ignore", "Excludes the model from the generated client")]

/-- Functions that give default values. -/
def defaultFunctions : List Suggestion :=
  table .function .function [
    ("autoincrement()", "autoincrement()",
      "Creates a sequence of integers in the underlying database"),
    ("cuid()", "cuid()", "Generates a globally unique identifier"),
    ("uuid()", "uuid()", "Generates a globally unique identifier"),
    ("now()", "now()", "Sets a timestamp of the time when a record is created"),
    ("dbgenerated()", "dbgenerated(\"$\x7b1:expression\x7d\")",
      "Uses a default value generated by the database"),
    ("env(\"...\")", "env(\"$\x7b1:VARIABLE\x7d\")",
      "Reads the value from an environment variable")]

/-- Properties of generators. -/
def generatorProperties : List Suggestion :=
  table .property .property [
    ("provider", "provider = ", "Generator to run"),
    ("output", "output = \"$\x7b1:./generated/client\x7d\"",
      "Output location of the generated client"),
    ("previewFeatures", "previewFeatures = [$\x7b1:\"feature\"\x7d]", "Enables preview features"),
    ("engineType", "engineType = \"$\x7b1:library\x7d\"", "Query engine type"),
    ("binaryTargets", "binaryTargets = [$\x7b1:\"native\"\x7d]",
      "Operating systems the client runs on"),
    ("moduleFormat", "moduleFormat = \"$\x7b1:cjs\x7d\"", "Module format of the generated client")]

/-- Properties of datasources. -/
def datasourceProperties : List Suggestion :=
  table .property .property [
    ("provider", "provider = ", "Database connector"),
    ("url", "url = env(\"$\x7b1:DATABASE_URL\x7d\")", "Connection URL"),
    ("directUrl", "directUrl = env(\"$\x7b1:DIRECT_URL\x7d\")",
      "Direct connection URL used by migrations"),
    ("shadowDatabaseUrl", "shadowDatabaseUrl = env(\"$\x7b1:SHADOW_DATABASE_URL\x7d\")",
      "Shadow database URL for migrations"),
    ("relationMode", "relationMode = \"$\x7b1:prisma\x7d\"",
      "How referential integrity is enforced")]

/-- The values of generator properties. -/
def generatorValues : List (String × List Suggestion) :=
  [
    ("provider", valueTable ["\"prisma-client-js\"", "\"prisma-client\""]),
    ("engineType", valueTable ["\"library\"", "\"binary\""]),
    ("moduleFormat", valueTable ["\"cjs\"", "\"esm\""])]

/-- The values of datasource properties. -/
def datasourceValues : List (String × List Suggestion) :=
  [
    ("provider",
      valueTable ["\"postgresql\"", "\"mysql\"", "\"sqlite\"",
        "\"sqlserver\"", "\"mongodb\"", "\"cockroachdb\""]),
    ("relationMode", valueTable ["\"prisma\"", "\"foreignKeys\""]),
    ("url", table .value .value [
      ("env(\"DATABASE_URL\")", "env(\"$\x7b1:DATABASE_URL\x7d\")",
        "Read the URL from the environment")])]

/-- The properties of a kind of block. -/
def properties : BlockKind → List Suggestion
  | .generator => generatorProperties
  | .datasource => datasourceProperties
  | .model | .enum => []

/-- The properties of a kind of block whose values the catalog knows. -/
def knownValues : BlockKind → List (String × List Suggestion)
  | .generator => generatorValues
  | .datasource => datasourceValues
  | .model | .enum => []

/-- The values of a property of a kind of block; none where the catalog knows none. -/
def values (kind : BlockKind) (property : String) : List Suggestion :=
  match (knownValues kind).find? fun (name, _) => name == property with
  | some (_, values) => values
  | none => []

end SchemaDesk.Catalog
