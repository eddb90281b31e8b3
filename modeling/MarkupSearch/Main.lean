/-
# The program

Runs the command on its arguments, with paths opened as files, and prints what it reports.
-/
import MarkupSearch.CommandLine

open MarkupSearch

/-- The source that a path leads to; `none` when it cannot be read. -/
def openPath (path : String) : IO (Option Source) := do
  try
    let bytes ← IO.FS.readBinFile path
    return some [.octets bytes.toList]
  catch _ => return none

def main (args : List String) : IO UInt32 := do
  let out ← CommandLine.run args openPath
  IO.print out.output
  return out.code.toUInt32
