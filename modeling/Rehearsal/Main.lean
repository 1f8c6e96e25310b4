import Rehearsal.Log.Format
import Rehearsal.Shell.Run

namespace Rehearsal

-- The names of files to work on, one on each line of the standard input.
private partial def readNames (input : IO.FS.Stream) (names : List String) : IO (List String) := do
  let line ← input.getLine
  if line.isEmpty then return names.reverse
  let name := String.ofList (line.toList.filter fun c => c != '\n' && c != '\r')
  readNames input (if name.isEmpty then names else name :: names)

private def readTree (names : List String) : IO FileTree :=
  names.foldlM (fun tree (name : String) => do
    return tree.plant (Path.ofString name) (.file (← IO.FS.readBinFile name))) {}

-- Files that a run has added or changed are written.
private def writeChanges (before after : FileTree) : IO Unit := do
  for (place, content) in after.files do
    let known := before.files.lookup place
    unless known.any (·.data == content.data) do
      let path := "/".intercalate place
      let above := "/".intercalate place.dropLast
      unless above.isEmpty do IO.FS.createDirAll above
      IO.FS.writeBinFile path content

private def showLog (threshold : Nat) (log : List Entry) : IO Unit := do
  let stderr ← IO.getStderr
  for entry in log do
    if threshold ≤ (Log.levelOf entry.level.name).toOption.getD 0 then
      stderr.putStrLn (Log.format entry.level.name "rehearsal" entry.text)

-- Settings may refer to any variable, so every text between braces is looked up.
private def variableNames : List Char → List String
  | [] => []
  | c :: rest =>
      if c == '\x7b' then String.ofList (rest.takeWhile (· != '\x7d')) :: variableNames rest
      else variableNames rest

private def readVariables (tree : FileTree) : IO Environment := do
  let texts := tree.files.filterMap fun file => String.fromUTF8? file.2
  let names := texts.flatMap fun text => variableNames text.toList
  let found ← names.eraseDups.mapM fun name => do
    return (← IO.getEnv name).map fun value => (name, value)
  return found.filterMap id

end Rehearsal

open Rehearsal in
def main (arguments : List String) : IO UInt32 := do
  let .ok threshold := Log.threshold none (← IO.getEnv "RETRYGEN_LOG_LEVEL")
    | do IO.eprintln "There is no such log level"; return 1
  let tree ← readTree (← readNames (← IO.getStdin) [])
  let platform := Shell.platform (← (← IO.getStdout).isTty)
  let outcome := Shell.run platform tree (← readVariables tree) arguments
  writeChanges tree outcome.effects.tree
  IO.print outcome.effects.output
  showLog threshold outcome.log
  if let some failure := outcome.failure then IO.eprintln failure.message
  return outcome.exitCode.toUInt32
