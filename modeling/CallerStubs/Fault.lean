/-
  Caller stubs — why a run fails.

  Every fault ends the run.  A fault is kept as its cause; the text shown to
  the user is made from it in one place.

  * `IoFault`, `SchemaFault`, `SettingsFault`: the causes that belong to the
    file system, to the interface schema and to the settings;
  * `Fault`: any cause, with `Fault.message`, its text;
  * `Fault.isSchemaFault`: does the fault lie in the schema itself?
-/
namespace CallerStubs

/-- A file system operation that was refused. -/
inductive IoFault where
  | notFound
  | alreadyExists
  | notDirectory
  | isDirectory
  | nameTooLong
  | notText
  | nameWithNul
  /-- Any other refusal, in the words of the file system. -/
  | other (text : String)
  deriving DecidableEq, Repr

def IoFault.message : IoFault → String
  | notFound => "No such file or directory (os error 2)"
  | alreadyExists => "File exists (os error 17)"
  | notDirectory => "Not a directory (os error 20)"
  | isDirectory => "Is a directory (os error 21)"
  | nameTooLong => "File name too long (os error 36)"
  | notText => "stream did not contain valid UTF-8"
  | nameWithNul => "file name contained an unexpected NUL byte"
  | other text => text

/-- A schema that says too little, or two things at once. -/
inductive SchemaFault where
  | unnamedInterface
  | unnamedFunction (interface : String)
  | unnamedParam (interface : String)
  | untypedParam (interface param : String)
  /-- A type reference of three or more segments. -/
  | longReference (reference : String)
  /-- A type reference with a segment of white space only. -/
  | blankSegment (reference : String)
  | unknownType (interface param type : String)
  | repeatedParam (interface request param : String)
  | repeatedRequest (interface request : String)
  | repeatedInterface (interface : String)
  deriving DecidableEq, Repr

def SchemaFault.message : SchemaFault → String
  | unnamedInterface => "interface has no 'name' attribute"
  | unnamedFunction i => s!"function in interface '{i}' has no 'name' attribute"
  | unnamedParam i => s!"param in interface '{i}' has no 'name' attribute"
  | untypedParam i p => s!"param '{i}.{p}' has no 'type' attribute"
  | longReference r => s!"type reference '{r}' has more than two segments"
  | blankSegment r => s!"type reference '{r}' has an empty segment"
  | unknownType i p t =>
    s!"param '{i}.{p}' has type '{t}' which is neither a primitive nor a declared enum or struct"
  | repeatedParam i r p => s!"param '{p}' of request '{i}.{r}' is declared more than once"
  | repeatedRequest i r => s!"request '{i}.{r}' is declared more than once"
  | repeatedInterface i => s!"interface '{i}' is declared more than once"

/-- Settings from which no usable file could be made. -/
inductive SettingsFault where
  | blankField (field : String)
  /-- A class name without a letter or digit. -/
  | emptyFileName (className : String)
  deriving DecidableEq, Repr

def SettingsFault.message : SettingsFault → String
  | blankField f => s!"'{f}' must not be empty"
  | emptyFileName c => s!"class name '{c}' yields an empty file name"

/-- Why a run fails. -/
inductive Fault where
  | io (cause : IoFault)
  /-- The schema is not well-formed markup. -/
  | markup
  /-- The settings file cannot be read as settings. -/
  | settingsText
  | schema (cause : SchemaFault)
  /-- A Qt release that is not one of the two supported. -/
  | unsupportedRelease (selector : String)
  | settings (cause : SettingsFault)
  deriving DecidableEq, Repr

/-- Does the fault lie in the interface schema itself? -/
def Fault.isSchemaFault : Fault → Bool
  | schema _ | markup => true
  | _ => false

/-- The text shown for a fault. -/
def Fault.message : Fault → String
  | io cause => "I/O error: " ++ cause.message
  | markup => "XML parsing error: the markup is not well-formed"
  | settingsText => "YAML parsing error: the text does not describe settings"
  | schema cause => "Schema error: " ++ cause.message
  | unsupportedRelease s => s!"Unsupported variant '{s}' (expected one of: 4.8.5, 5.1.0)"
  | settings cause => "Configuration error: " ++ cause.message

/-- The causes below the fault, outermost first: an I/O fault rests on the
    refusal of the file system, and a fault of a reader on what it found. -/
def Fault.causes : Fault → List String
  | io cause => [cause.message]
  | markup => ["the markup is not well-formed"]
  | settingsText => ["the text does not describe settings"]
  | _ => []

end CallerStubs
