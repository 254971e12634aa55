import TreeSchema.Error
import TreeSchema.Text.Blank
/-!
# Paths

A path leads from the working directory to a place, name by name. The working directory holds files
only, so a path that goes on below one of its names stops there. Above it there are directories, of
which nothing else is known.
-/
namespace TreeSchema

/-- Where a path ends. -/
inductive Place where
  /-- A place for a file in the working directory. -/
  | file (name : String)
  /-- A name with a slash behind it, which asks for a directory. There is none, for the reason
  given. -/
  | folder (fault : FileFault)
  /-- The working directory, or one above it. -/
  | directory
deriving DecidableEq, Repr

namespace Path

/-- The most bytes that a name can have. -/
def longestName : Nat := 255

/-- The most bytes that a path can have. -/
def longestPath : Nat := 4095

/-- The names that a path goes through. Slashes side by side count as one. -/
def names (path : String) : List String :=
  (Text.splitNonempty (· == '/') path.toList).map String.ofList

/-- Why a name is no directory. -/
def nameFault (isFile : Bool) (name : String) : FileFault :=
  if longestName < name.utf8ByteSize then .tooLong
  else if isFile then .notDirectory
  else .missing

/-- Follows names from the working directory, or from one above it if `inside` is false. `slash`
says whether a slash follows the last name. -/
def walk (isFile : String → Bool) (slash : Bool) : Bool → List String → Except FileFault Place
  | _, [] => .ok .directory
  | inside, name :: rest =>
    if name = "." then walk isFile slash inside rest
    else if name = ".." then walk isFile slash false rest
    else
      let fault := nameFault (inside && isFile name) name
      if !rest.isEmpty then .error fault
      else if slash then .ok (.folder fault)
      else if inside && fault != .tooLong then .ok (.file name)
      else .error fault

/-- Follows a path. `isFile` says which names of the working directory are files. -/
def follow (isFile : String → Bool) (path : String) : Except FileFault Place :=
  if path.toList.contains '\x00' then .error .zeroByte
  else if path.isEmpty then .error .missing
  else if longestPath < path.utf8ByteSize then .error .tooLong
  else
    walk isFile (path.toList.getLast? == some '/') (path.toList.head? != some '/') (names path)

end Path

end TreeSchema
