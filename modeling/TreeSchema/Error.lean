import TreeSchema.Text.Escaped
import TreeSchema.Text.Quoted
/-!
# What can go wrong

Each failure is a value that names its cause. `Error.message` words it for a reader, and
`Error.report` is the line that the command prints before it gives up.
-/
namespace TreeSchema

/-- Why a file cannot be read or written. -/
inductive FileFault where
  | missing
  | denied
  | notDirectory
  | directory
  /-- A name or a path has too many bytes. -/
  | tooLong
  /-- A path has the character that ends every path. -/
  | zeroByte
  /-- The content is not UTF-8. -/
  | notText
deriving DecidableEq, Repr

namespace FileFault

/-- The number that the operating system gives to the fault. The last two are found without asking
it. -/
def code? : FileFault → Option Nat
  | .missing => some 2
  | .denied => some 13
  | .notDirectory => some 20
  | .directory => some 21
  | .tooLong => some 36
  | .zeroByte => none
  | .notText => none

def kind : FileFault → String
  | .missing => "NotFound"
  | .denied => "PermissionDenied"
  | .notDirectory => "NotADirectory"
  | .directory => "IsADirectory"
  | .tooLong => "InvalidFilename"
  | .zeroByte => "InvalidInput"
  | .notText => "InvalidData"

def description : FileFault → String
  | .missing => "No such file or directory"
  | .denied => "Permission denied"
  | .notDirectory => "Not a directory"
  | .directory => "Is a directory"
  | .tooLong => "File name too long"
  | .zeroByte => "file name contained an unexpected NUL byte"
  | .notText => "stream did not contain valid UTF-8"

def message (f : FileFault) : String :=
  match f.code? with
  | some code => s!"{f.description} (os error {code})"
  | none => f.description

/-- The fault with its parts, as the command shows it. -/
def shown (f : FileFault) : String :=
  let parts := s!"kind: {f.kind}, message: " ++ Text.shown f.description ++ " \x7d"
  match f.code? with
  | some code => s!"Os \x7b code: {code}, " ++ parts
  | none => "Error \x7b " ++ parts

end FileFault

/-- Why the lines of a schema do not form blocks. -/
inductive BlockFault where
  /-- A line opens a block and is not a keyword, a name and a brace. -/
  | header (text : String)
  /-- A brace closes no block. -/
  | unbalanced
  | insideOneof (name : String)
  | insideEnum (name parent : String)
  /-- A `oneof` stands outside every message. -/
  | strayOneof (name : String)
  | unknownKeyword (keyword : String)
  /-- A declaration stands outside every block. -/
  | outside (text : String)
  /-- The text ends inside a block. -/
  | unclosed (name : String)
deriving DecidableEq, Repr

def BlockFault.message : BlockFault → String
  | .header text => "Malformed block header " ++ quote text
  | .unbalanced => "Unbalanced \"\x7d\""
  | .insideOneof name => "Cannot open " ++ quote name ++ " inside a oneof"
  | .insideEnum name parent => "Cannot open " ++ quote name ++ " inside enum " ++ quote parent
  | .strayOneof name => "oneof " ++ quote name ++ " must be declared inside a message"
  | .unknownKeyword keyword => "Unknown block keyword " ++ quote keyword
  | .outside text => "Declaration " ++ quote text ++ " outside of a block"
  | .unclosed name => "Unclosed block " ++ quote name

/-- The forms that a declaration may have to have. -/
inductive Form where
  | field
  | variant
  | enumValue
deriving DecidableEq, Repr

/-- What a declaration that has not the form is told. -/
def Form.expectation : Form → String
  | .field => "expected \"[modifier] Type name\""
  | .variant => "expected \"Type name\" inside oneof"
  | .enumValue => "expected \"SYMBOL = value;\""

/-- Why the settings cannot be used. -/
inductive SettingFault where
  | emptySuffix
  | emptySeparator
deriving DecidableEq, Repr

def SettingFault.message : SettingFault → String
  | .emptySuffix => "node_suffix must not be empty"
  | .emptySeparator => "path_separator must not be empty"

/-- Why a JSON text cannot be read: it is no JSON, it is JSON of another shape, or it ends too
early. -/
inductive JsonFault where
  | malformed
  | mismatched
  | truncated
deriving DecidableEq, Repr

inductive Error where
  | file (fault : FileFault)
  | block (fault : BlockFault) (line column : Nat)
  | declaration (text : String) (form : Form)
  | unknownType (name : String)
  | setting (fault : SettingFault)
  | json (fault : JsonFault)
deriving DecidableEq, Repr

namespace Error

/-- The wording of a fault at a place of the schema text. -/
def atPlace (message : String) (line column : Nat) : String :=
  s!"Parse error at line {line}, column {column}: {message}"

/-- The wording of a declaration that has not the form it should have. -/
def ofDeclaration (text expectation : String) : String :=
  s!"Invalid declaration \"{text}\": {expectation}"

def message : Error → String
  | .file fault => "I/O error: " ++ fault.message
  | .block fault line column => atPlace fault.message line column
  | .declaration text form => ofDeclaration text form.expectation
  | .unknownType name => s!"Unknown type \"{name}\""
  | .setting fault => "Config error: " ++ fault.message
  | .json _ => "JSON error"

/-- The error with its parts, as the command shows it. -/
def shown : Error → String
  | .file fault => "Io(" ++ fault.shown ++ ")"
  | .block fault line column =>
    "ParseError \x7b msg: " ++ Text.shown fault.message ++ s!", line: {line}, column: {column} \x7d"
  | .declaration text form =>
    "InvalidDeclaration \x7b decl: " ++ Text.shown text ++ ", msg: " ++
      Text.shown form.expectation ++ " \x7d"
  | .unknownType name => "UnknownType(" ++ Text.shown name ++ ")"
  | .setting fault => "ConfigError(" ++ Text.shown fault.message ++ ")"
  | .json _ => "Json"

/-- What a failing command prints. Of a JSON fault it tells the kind only and ends no line. -/
def report (e : Error) : String :=
  match e with
  | .json _ => "Error: " ++ e.shown
  | _ => "Error: " ++ e.shown ++ "\n"

end Error

end TreeSchema
