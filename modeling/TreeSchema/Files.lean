import TreeSchema.Config.Reader
import TreeSchema.Module
import TreeSchema.Path
/-!
# A working directory

A command reads and writes files of the directory in which it runs. A `Files` value is such a
directory without subdirectories: its files with their contents. What fails changes nothing.
-/
namespace TreeSchema

/-- The files of a directory, by name. -/
abbrev Files := Entries ByteArray

namespace Files

/-- Where a path ends in the directory. -/
def place (files : Files) (path : String) : Except FileFault Place :=
  Path.follow (fun name => (files.get? name).isSome) path

/-- The text of a file. -/
def read (files : Files) (path : String) : Except FileFault String :=
  match files.place path with
  | .ok (.file name) =>
    match files.get? name with
    | some bytes =>
      match String.fromUTF8? bytes with
      | some text => .ok text
      | none => .error .notText
    | none => .error .missing
  | .ok (.folder fault) => .error fault
  | .ok .directory => .error .directory
  | .error fault => .error fault

/-- Puts a text into a file, which need not exist. A slash behind its name is refused before the
name is looked up. -/
def write (files : Files) (path text : String) : Except FileFault Files :=
  match files.place path with
  | .ok (.file name) => .ok (files.insert name text.toUTF8)
  | .ok (.folder _) => .error .directory
  | .ok .directory => .error .directory
  | .error fault => .error fault

/-- The files that are new or have another content than before. -/
def changes (files before : Files) : Files :=
  files.filter fun (name, bytes) => (before.get? name).map (·.toList) != some bytes.toList

end Files

/-- Reads settings from the text of a file. -/
def Config.ofFile (read : String → Except FileFault String) (path : String) :
    Except Error Config :=
  match read path with
  | .error fault => .error (.file fault)
  | .ok text => ofJson text

/-- Reads a schema from one file and writes the module to another, which is touched only when the
module is complete. -/
def Files.generate (files : Files) (input output : String) (c : Config) : Traced Files := do
  let text ← (files.read input).mapError Error.file
  let code ← TreeSchema.generate text c
  let written ← (files.write output code).mapError Error.file
  Traced.note (.wrote input output)
  pure written

end TreeSchema
