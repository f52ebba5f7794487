/-!
# Documentation of words

One line of Markdown for each keyword, attribute, type, function and property
that the schema language knows.
-/

namespace SchemaDesk.Hover

/-- Words with their documentation. -/
def docs : List (String × String) :=
  [
    ("model",
      "**Model** - Represents an entity in your application domain and maps to a table " ++
        "(relational databases) or collection (MongoDB)"),
    ("generator", "**Generator** - Determines which assets are created from your Prisma schema"),
    ("datasource", "**Datasource** - Tells Prisma what database you use and how to connect to it"),
    ("enum", "**Enum** - Defines a list of possible values for a field"),
    ("@id", "**@id** - Defines a single-field ID on the model"),
    ("@unique", "**@unique** - Defines a unique constraint for this field"),
    ("@default", "**@default** - Defines a default value for this field"),
    ("@relation", "**@relation** - Defines meta information about the relation"),
    ("@updatedAt",
      "**@updatedAt** - Automatically stores the time when a record was last updated"),
    ("@map",
      "**@map** - Maps a field name or enum value from the Prisma schema to a column " ++
        "or document field name in the database"),
    ("@ignore", "**@ignore** - Excludes a field from the generated client"),
    ("@@id", "**@@id** - Defines a multi-field ID (composite ID) on the model"),
    ("@@unique", "**@@unique** - Defines a compound unique constraint for the specified fields"),
    ("@@index", "**@@index** - Defines an index in the database"),
    ("@@map",
      "**@@map** - Maps the model name from the Prisma schema to a different table or " ++
        "collection name"),
    ("@@ignore", "**@@ignore** - Excludes a model from the generated client"),
    ("String", "**String** - Variable length text"),
    ("Boolean", "**Boolean** - True or false value"),
    ("Int", "**Int** - 32-bit signed integer"),
    ("BigInt", "**BigInt** - 64-bit signed integer"),
    ("Float", "**Float** - Floating point number"),
    ("Decimal", "**Decimal** - High precision floating point number"),
    ("DateTime", "**DateTime** - Timestamp"),
    ("Json", "**Json** - JSON object"),
    ("Bytes", "**Bytes** - Raw bytes (binary data)"),
    ("Unsupported",
      "**Unsupported** - A database type the Prisma schema cannot represent natively"),
    ("autoincrement",
      "**autoincrement()** - Creates a sequence of integers in the underlying database"),
    ("cuid", "**cuid()** - Generates a globally unique identifier based on the cuid spec"),
    ("uuid", "**uuid()** - Generates a globally unique identifier based on the UUID spec"),
    ("now", "**now()** - Sets a timestamp of the time when a record is created"),
    ("dbgenerated", "**dbgenerated()** - Represents a default value that the database generates"),
    ("env", "**env()** - Reads a value from an environment variable"),
    ("provider", "**provider** - Generator to run, or the database connector of a datasource"),
    ("url", "**url** - Connection URL of the datasource"),
    ("directUrl",
      "**directUrl** - Connection URL used by CLI commands that need a direct connection"),
    ("shadowDatabaseUrl",
      "**shadowDatabaseUrl** - Connection URL of the shadow database used by migrations"),
    ("relationMode",
      "**relationMode** - Sets whether referential integrity is enforced by the " ++
        "database or by Prisma"),
    ("output", "**output** - Location of the generated client"),
    ("previewFeatures", "**previewFeatures** - Enables preview features of the generator"),
    ("binaryTargets", "**binaryTargets** - Operating systems the generated client will run on"),
    ("engineType", "**engineType** - Query engine type to download and use")]

/-- The documentation of a word; letter case and at signs count. -/
def lookup? (word : String) : Option String :=
  (docs.find? fun (key, _) => key == word).map (·.2)

end SchemaDesk.Hover
