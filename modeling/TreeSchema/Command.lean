import TreeSchema.Files
import TreeSchema.Schema.Dump
/-!
# The command line

There are three commands: `generate` writes or prints the module of a schema, `dump` prints the
schema as JSON, and `check` says how large it is. A command is planned from the texts of the files
that it names, and what it changes is part of the plan: at most one file, written at the end.
-/
namespace TreeSchema

inductive Command where
  | generate (input : String) (output config : Option String)
  | dump (input : String)
  | check (input : String) (config : Option String)
deriving DecidableEq, Repr

/-! ## Arguments -/

/-- The options, each of which takes a path. -/
inductive Flag where
  | input
  | output
  | config
deriving DecidableEq, Repr

namespace Flag

def long : Flag → String
  | .input => "input"
  | .output => "output"
  | .config => "config"

def short : Flag → Char
  | .input => 'i'
  | .output => 'o'
  | .config => 'c'

end Flag

/-- An argument that starts with an option: the option, and the path if it is in the same
argument. -/
def flagOf? (flags : List Flag) (arg : List Char) : Option (Flag × Option (List Char)) :=
  match arg with
  | '-' :: '-' :: name =>
    let label := name.takeWhile (· != '=')
    let path := (name.dropWhile (· != '=')).tail?
    (flags.find? (·.long.toList == label)).map fun flag => (flag, path)
  | '-' :: c :: rest =>
    let path :=
      match rest with
      | [] => none
      | '=' :: path => some path
      | path => some path
    (flags.find? (·.short == c)).map fun flag => (flag, path)
  | _ => none

/-- Whether an argument can be the path of the option before it. Only a single dash may start with
a dash. -/
def isPath (arg : List Char) : Bool :=
  match arg with
  | [] => false
  | ['-'] => true
  | c :: _ => c != '-'

/-- The paths of the options. Each option comes at most once, with a path that is not empty, and
nothing follows a double dash. -/
def readFlags (flags : List Flag) : List String → Option (List (Flag × String))
  | [] => some []
  | ["--"] => some []
  | arg :: args =>
    match flagOf? flags arg.toList with
    | none => none
    | some (flag, some path) =>
      if path.isEmpty then none else add flag (String.ofList path) (readFlags flags args)
    | some (flag, none) =>
      match args with
      | [] => none
      | path :: args => if isPath path.toList then add flag path (readFlags flags args) else none
where
  add (flag : Flag) (path : String) (others : Option (List (Flag × String))) :
      Option (List (Flag × String)) :=
    others.bind fun others =>
      if others.any (·.1 == flag) then none else some ((flag, path) :: others)

/-- The command that arguments ask for. `none` stands for arguments that cannot be used. -/
def Command.ofArgs? (args : List String) : Option Command :=
  match args with
  | "generate" :: args => do
    let paths ← readFlags [.input, .output, .config] args
    let input ← paths.lookup .input
    pure (.generate input (paths.lookup .output) (paths.lookup .config))
  | "dump" :: args => do
    let paths ← readFlags [.input] args
    let input ← paths.lookup .input
    pure (.dump input)
  | "check" :: args => do
    let paths ← readFlags [.input, .config] args
    let input ← paths.lookup .input
    pure (.check input (paths.lookup .config))
  | _ => none

/-! ## Plans -/

/-- What a command prints, and the text that it writes to a file before. -/
structure Plan where
  write : Option (String × String)
  stdout : String
deriving DecidableEq, Repr

namespace Command

/-- The files that a command reads. -/
def inputs : Command → List String
  | .generate input _ config => config.toList ++ [input]
  | .dump input => [input]
  | .check input config => config.toList ++ [input]

/-- The settings at a path, or the standard ones if there is none. -/
def settings (read : String → Except FileFault String) : Option String → Except Error Config
  | none => .ok .standard
  | some path => Config.ofFile read path

/-- Plans a command from the texts of files. The settings come before the schema. -/
def plan (read : String → Except FileFault String) : Command → Except Error Plan
  | .generate input output config => do
    let c ← settings read config
    let text ← (read input).mapError Error.file
    let code ← (TreeSchema.generate text c).result
    match output with
    | some path => pure ⟨some (path, code), s!"Generated {input} → {path}\n"⟩
    | none => pure ⟨none, code ++ "\n"⟩
  | .dump input => do
    let text ← (read input).mapError Error.file
    let s ← (Schema.ofText text).result
    pure ⟨none, s.dump ++ "\n"⟩
  | .check input config => do
    let c ← settings read config
    let text ← (read input).mapError Error.file
    let s ← (Schema.ofText text).result
    let _ ← (s.moduleText c).result
    let nodeTypes := (s.nodeTypes c).length
    pure ⟨none, s!"{input}: {s.nodeCount} nodes, {nodeTypes} node types\n"⟩

end Command

/-- How a command ends. -/
structure Outcome where
  exit : Nat
  stdout : String
  stderr : String
deriving DecidableEq, Repr

namespace Outcome

def success (stdout : String) : Outcome := ⟨0, stdout, ""⟩

def failure (e : Error) : Outcome := ⟨1, "", e.report⟩

end Outcome

/-- Runs a command in a directory. -/
def Files.run (files : Files) (command : Command) : Outcome × Files :=
  match command.plan files.read with
  | .error e => (.failure e, files)
  | .ok ⟨none, stdout⟩ => (.success stdout, files)
  | .ok ⟨some (path, text), stdout⟩ =>
    match files.write path text with
    | .error fault => (.failure (.file fault), files)
    | .ok written => (.success stdout, written)

end TreeSchema
