import TileDepot.Store.Registry

/-!
# Metadata of a layer

Writing a value always reports its failure.  A forgiving store answers a read that fails as if there
were no value, and logs the failure; it does so for failures that the store reports itself, and every
other fault passes.
-/

namespace TileDepot.Store

/-- Answer a failed read with nothing, if the store is forgiving. -/
def forgiving {α : Type} (nothing : α) (x : Step α) : Step α :=
  tryCatch x (fun
    | .store e => do
        if !(← get).config.forgiving then throw (.store e)
        Step.note .warning .metadata ("Metadata read failed, reporting no value: " ++ e.text)
        return nothing
    | f => throw f)

/-- The value stored under a key. -/
def getMetadata (layer key : String) : Step (Option String) :=
  forgiving none (Step.translated layer "get_metadata" (session layer (fun id =>
    exec id (Statement.selectValue key))))

/-- Keys and values of every metadata row of a layer. -/
def metadataEntries (layer : String) : Step (List (Option String × Option String)) :=
  forgiving [] (Step.translated layer "get_metadata" (session layer (fun id =>
    exec id Statement.selectEntries)))

/-- The metadata of a layer as a map; of several rows with one key the last wins. -/
def allMetadata (layer : String) : Step (Ordered (Option String) (Option String)) := do
  return Ordered.ofPairs (← metadataEntries layer)

/-- Store a value in place of whatever is stored under the key. -/
def putMetadata (layer key value : String) : Step Unit := do
  Step.translated layer "put_metadata" (session layer (fun id => transact id (do
    let count ← exec id (Statement.updateValue key value)
    if count = 0 then exec id (Statement.insertValue (.text key) (.text value)))))
  Step.note .debug .metadata ("Stored metadata " ++ Text.quoted key ++ " for layer " ++ layer)

end TileDepot.Store
