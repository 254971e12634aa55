import TreeSchema.Command
/-!
# The program

Reads the files that the command names, prints what it plans to print and writes what it plans to
write.
-/
namespace TreeSchema.Program

/-- The fault behind a failed access to a file. The system's number may come with its sign turned. -/
def faultOf : IO.Error → FileFault
  | .inappropriateType _ code _ =>
    if code = 20 ∨ 0 - code = 20 then .notDirectory else .directory
  | .invalidArgument .. => .tooLong
  | .permissionDenied .. => .denied
  | _ => .missing

/-- The text of a file, or why it has none. -/
def readFile (path : String) : IO (Except FileFault String) := do
  try
    let bytes ← IO.FS.readBinFile path
    match String.fromUTF8? bytes with
    | some text => pure (.ok text)
    | none => pure (.error .notText)
  catch e => pure (.error (faultOf e))

def writeFile (path text : String) : IO (Except FileFault Unit) := do
  try
    IO.FS.writeFile path text
    pure (.ok ())
  catch e => pure (.error (faultOf e))

/-- Prints how a command ended. -/
def finish (outcome : Outcome) : IO UInt32 := do
  IO.print outcome.stdout
  IO.eprint outcome.stderr
  pure (UInt32.ofNat outcome.exit)

def usage : String :=
  "usage: generate -i FILE [-o FILE] [-c FILE] | dump -i FILE | check -i FILE [-c FILE]"

def run (command : Command) : IO UInt32 := do
  let texts ← command.inputs.mapM fun path => do
    let text ← readFile path
    pure (path, text)
  match command.plan fun path => (texts.lookup path).getD (.error .missing) with
  | .error e => finish (.failure e)
  | .ok ⟨none, stdout⟩ => finish (.success stdout)
  | .ok ⟨some (path, text), stdout⟩ =>
    match ← writeFile path text with
    | .error fault => finish (.failure (.file fault))
    | .ok () => finish (.success stdout)

end TreeSchema.Program

def main (args : List String) : IO UInt32 :=
  match TreeSchema.Command.ofArgs? args with
  | some command => TreeSchema.Program.run command
  | none => do
    IO.eprintln TreeSchema.Program.usage
    pure 2
