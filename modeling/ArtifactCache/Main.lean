import ArtifactCache.CommandLine.Run
import ArtifactCache.FileSystem.Edit

/-!
# The program

The program runs without a network: no server answers it, so a copy is kept as it is and nothing new
can be stored.  A run therefore needs to know only what is at the path of the artifact.
-/

namespace ArtifactCache.CommandLine

/-- What a machine without a network sees of a server. -/
def offline : Server := .failing ["no network"]

def readEnvironment : IO Environment := do
  let home ← IO.getEnv "HOME"
  let cacheDir ← IO.getEnv "STOWAGE_CACHE_DIR"
  let logFilter ← IO.getEnv "STOWAGE_LOG"
  return { home := home.map .ofString, cacheDir, logFilter }

/-- What is at a path, as the change that puts it there. -/
def readEntry (path : Path) : IO (List FileSystem.Edit) := do
  let place := (← IO.currentDir) / path.text
  if ← place.isDir then return [.directory path]
  if ← place.pathExists then
    let content ← IO.FS.readBinFile place
    return [.file path content.toList]
  return []

/-- The part of the disk that a run depends on. -/
def readStorage (args : List String) (env : Environment) : IO Storage := do
  let current := Path.ofString (← IO.currentDir).toString
  let root : FileSystem := { nodes := [], here := [] }
  let files := { root.edit (.directory current) with here := current.parts.reverse }
  let storage : Storage := { files, process := 0 }
  match parse args env.cacheDir with
  | .error _ => return storage
  | .ok a =>
      match a.cacheDirIn? env with
      | none => return storage
      | some dir =>
          IO.FS.createDirAll dir.text
          match Retriever.place (a.request dir) with
          | .error _ => return storage
          | .ok (_, path) => return { storage with files := files.editAll (← readEntry path) }

def Finished.print (f : Finished) : IO Unit := do
  for record in f.log do
    IO.eprintln (record.level.text ++ " " ++ record.text)
  match f.exit with
  | .success output => IO.print output
  | .failure failure => IO.eprintln failure.report
  | .misuse error => IO.eprintln ("error: " ++ error.message)
  | .stuck => IO.eprintln "no answer"

end ArtifactCache.CommandLine

open ArtifactCache CommandLine in
def main (args : List String) : IO UInt32 := do
  let env ← readEnvironment
  let finished := CommandLine.run args env offline (← readStorage args env)
  finished.print
  return finished.exit.code.toUInt32
