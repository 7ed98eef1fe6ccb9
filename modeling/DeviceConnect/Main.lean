import DeviceConnect.Bench.Host
import DeviceConnect.CommandLine.Parser
import DeviceConnect.CommandLine.Run
import DeviceConnect.Disk.Tree

/-! The command line as a program. It has no drivers of its own, so it runs on an empty bench:
settings and blacklist are real, and no device is attached. -/
namespace DeviceConnect

/-- The settings file as a tree of its own; a missing one leaves the tree empty. -/
def readTree (path : String) : IO FileTree := do
  try
    let bytes ← IO.FS.readBinFile path
    let (_, tree) := FileTree.createDirs ((Path.parent? path).getD "") .empty
    let (_, tree) := tree.writeBytes path bytes
    return tree
  catch
    | .noFileOrDirectory .. => return .empty
    | e => throw e

/-- Writes the settings file if the tree no longer holds what it held. -/
def writeTree (path : String) (before after : FileTree) : IO Unit := do
  match before.read path, after.read path with
  | .ok old, .ok new => if old != new then IO.FS.writeBinFile path new
  | .error _, .ok new =>
    IO.FS.createDirAll ((Path.parent? path).getD "")
    IO.FS.writeBinFile path new
  | _, _ => return

def runMain (args : List String) : IO UInt32 := do
  match CommandLine.parse args with
  | .error rejection =>
    IO.eprintln rejection.message
    return UInt32.ofNat rejection.exitCode
  | .ok line =>
    let path := Settings.workspacePath line.workspace
    let before ← readTree path
    let host := Bench.host Bench.defaultTimeoutMs
    let (report, _, after) := line.run host treeDisk .empty before
    IO.print report.text
    writeTree path before after
    match report.failure with
    | none => return 0
    | some failure =>
      IO.eprintln (": ".intercalate failure.chain)
      return 1

end DeviceConnect

def main (args : List String) : IO UInt32 := DeviceConnect.runMain args
