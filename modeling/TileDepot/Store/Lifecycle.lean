import TileDepot.Disk.Outside
import TileDepot.Store.Registry

/-!
# Whole layers

A layer exists if its store file does.  Removing or renaming a layer closes every handle on the files
concerned, changes the directory and takes away what databases leave beside a file.  The event is
announced last, so that it is missing where taking away the rest fails.
-/

namespace TileDepot.Store

/-- Whether a layer has a store file. -/
def layerExists (layer : String) : Step Bool := do
  let path ← pathFor layer
  let d ← Step.view (·.disk)
  Step.ofDisk (d.isFile? path)

/-- Take away one file beside a path; none need be there. -/
def removeBeside (path : Path) (suffix : String) : Step Unit := do
  let d ← Step.view (·.disk)
  match d.unlink (path.extendName suffix) with
  | .ok d => Step.changeDisk (fun _ => d)
  | .error f => if f.cause = .noEntry then pure () else throw (.os f)

/-- Take away what databases leave beside a file. -/
def removeSidecars (path : Path) : Step Unit := sidecarSuffixes.forM (removeBeside path)

/-- Remove the store file of a layer, and say whether there was one. -/
def deleteLayer (layer : String) : Step Bool := do
  Step.note .info .lifecycle ("Deleting SQLite cached layer " ++ layer)
  let path ← pathFor layer
  let _ ← lockOrder [layer]
  invalidate layer
  let d ← Step.view (·.disk)
  match d.unlink path with
  | .error f =>
      if f.cause = .noEntry then return false
      Step.fail (.notRemoved path.toString f) (some layer) "delete_layer"
  | .ok d =>
      Step.changeDisk (fun _ => d)
      removeSidecars path
      Step.announce (.layerDeleted layer)
      return true

/-- Move the store file of a layer to the name of another.  A layer without a file is renamed by doing
nothing, and so is a layer whose new name has the same file. -/
def renameLayer (source target : String) : Step Bool := do
  Step.note .info .lifecycle ("Renaming SQLite cached layer " ++ source ++ " to " ++ target)
  let sourcePath ← pathFor source
  let targetPath ← pathFor target
  if sourcePath = targetPath then
    invalidate source
    return true
  let _ ← lockOrder [source, target]
  if ← Step.ofDisk ((← get).disk.exists? targetPath) then
    Step.fail (.targetTaken source target) (some target) "rename"
  invalidate source
  invalidate target
  if !(← Step.ofDisk ((← get).disk.exists? sourcePath)) then
    Step.note .debug .lifecycle ("No store for layer " ++ source ++ ", nothing to rename")
    return true
  match (← get).disk.move sourcePath targetPath with
  | .error f =>
      Step.fail (.notMoved sourcePath.toString targetPath.toString f) (some source) "rename"
  | .ok d =>
      Step.changeDisk (fun _ => d)
      removeSidecars sourcePath
      Step.announce (.layerRenamed source target)
      return true

end TileDepot.Store
