import PodMesh.CommandLine.Run

/-!
# The program

Reads the files that the arguments name in the current folder, runs, and prints.
-/

namespace PodMesh

/-- The files of some names that can be read, with their contents. -/
def readable (names : List String) : IO (List (String × List UInt8)) := do
  let mut files := []
  for name in names do
    try
      files := (name, (← IO.FS.readBinFile name).toList) :: files
    catch _ => pure ()
  return files

end PodMesh

/-- The program. -/
def main (arguments : List String) : IO UInt32 := do
  let contents ← PodMesh.readable (PodMesh.CommandLine.fileNames arguments)
  let files := PodMesh.Host.Files.ofCurrent contents PodMesh.Host.Program.names
  let result := PodMesh.CommandLine.run files arguments
  IO.print result.stdout
  IO.eprint result.stderr
  return result.status.toUInt32
