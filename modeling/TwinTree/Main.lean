import TwinTree.Command.Run
import TwinTree.Disk

/-!
# The command line

Runs the command on an image of the disk and brings what it changed to the disk.
-/
namespace TwinTree.Command

/-- The paths that a request reads and writes at. -/
def Request.paths : Request → List Path
  | run arguments => [arguments.sourcePath, arguments.destinationPath]
  | _ => []

end TwinTree.Command

/-- Prints what the run shows, brings its changes to the disk, and ends with its exit code. -/
def main (arguments : List String) : IO UInt32 := do
  let paths := (TwinTree.Command.Request.ofArguments arguments).paths
  let before ← TwinTree.Disk.imageOf paths
  let result := TwinTree.Command.run arguments (← IO.getEnv "RUST_LOG") before
  IO.eprint result.errors
  TwinTree.Disk.update before result.fileSystem
  IO.print result.output
  return result.code.toUInt32
