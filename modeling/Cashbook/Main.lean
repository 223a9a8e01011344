/-
The program: it reads the files that it is told to, and writes what the command line
comes to.  Nothing that it writes shows an identifier's origin or a time, so the calls
are stamped by counting on from a random number.
-/
import Cashbook.CommandLine

namespace Cashbook.CommandLine

/-- The bytes of a file that can be read. -/
def contents? (path : String) : IO (Option (List UInt8)) := do
  try
    let bytes ← IO.FS.readBinFile path
    pure (some bytes.toList)
  catch _ => pure none

/-- The answer to what the arguments and the environment ask for. -/
def respond (arguments : List String) (env : String → Option String) : IO Response := do
  match parse arguments env with
  | .error stop => pure stop.response
  | .ok inv =>
    let files ← (inv.input :: inv.config.toList).mapM fun path => do
      pure (path, ← contents? path)
    let seed ← IO.rand 0 0xFFFFFFFFFFFF
    pure (inv.response (Stamp.series seed) fun path => (files.lookup path).join)

end Cashbook.CommandLine

open Cashbook CommandLine in
/-- The program. -/
def main (arguments : List String) : IO UInt32 := do
  let known ← (Flag.all.filterMap Flag.environmentName?).mapM fun name => do
    pure (name, ← IO.getEnv name)
  let response ← respond arguments fun name => (known.lookup name).join
  for line in response.stderr do
    IO.eprintln line
  IO.print response.stdout
  pure response.exit.toUInt32
