import TileDepot.Json.Printer
import TileDepot.Notifier
import TileDepot.Scenario.Observation

/-!
# Rows and deliveries as JSON

Rows and deliveries that come in no particular order are put in the order of the JSON that shows them.
A short blob is shown by its digits and a long one by its two ends and a checksum.

* `mem_sorted` says that putting values in order loses none and adds none.
-/

namespace TileDepot.Scenario

/-- A checksum of bytes: multiply by thirty-one, add the byte, and keep thirty-two bits. -/
def checksum (b : Blob) : UInt32 := b.data.foldl (fun h x => h * 31 + x.toUInt32) 0

/-- Digits of some of the bytes of a blob. -/
def digitsOf (b : Blob) (start stop : Nat) : Json :=
  .text (String.ofList (Text.digitsOfBytes (b.extract start stop).toList))

/-- The most bytes that are shown one by one. -/
def shownWhole : Nat := 64

/-- How a blob is shown. -/
def blobJson (b : Blob) : Json :=
  if b.size ≤ shownWhole then .object [("size", .int b.size), ("hex", digitsOf b 0 b.size)]
  else
    .object [("size", .int b.size), ("hash", .int (checksum b).toNat), ("head", digitsOf b 0 16),
      ("tail", digitsOf b (b.size - 16) b.size)]

/-- How a data cell is shown. -/
def cellJson : Cell → Json
  | .null => .null
  | .integer i => .int i
  | .text s => .text s
  | .blob b => .object [("blob", blobJson b)]

/-- How a text cell is shown. -/
def textCellJson : TextCell → Json
  | .null => .null
  | .text s => .text s
  | .bytes bs => .object [("blob", blobJson ⟨bs.toArray⟩)]

/-- How a row of tiles is shown. -/
def tileRowJson (r : TileRow) : Json :=
  .list [.text r.key.grid, .int r.key.x, .int r.key.y, .int r.key.z, .text r.key.format,
    cellJson r.data]

/-- How a row of metadata is shown. -/
def metadataRowJson (r : MetadataRow) : Json := .list [textCellJson r.key, textCellJson r.value]

/-- How the key of a tile is shown. -/
def keyJson (k : TileKey) : Json :=
  .list [.text k.layer, .text k.grid, .text k.format, .int k.coordinate.x, .int k.coordinate.y,
    .int k.coordinate.z]

/-- How what an event says is shown. -/
def eventArguments : Event → List Json
  | .tileStored key size => [keyJson key, .int size]
  | .tileDeleted key => [keyJson key]
  | .gridsetDeleted layer grid => [.text layer, .text grid]
  | .layerDeleted layer => [.text layer]
  | .layerRenamed source target => [.text source, .text target]

/-- How a delivery is shown. -/
def deliveryJson (d : Delivery) : Json :=
  .list (.text d.label :: .text d.event.kind.name :: eventArguments d.event)

/-- Values in the order of the JSON that shows them. -/
def sorted {α : Type} (show_ : α → Json) (xs : List α) : List α :=
  ((xs.map (fun x => (Json.render Json.spaced (show_ x), x))).mergeSort
    (fun a b => decide (a.1 ≤ b.1))).map Prod.snd

/-- The rows of both tables in order. -/
def Rows.sorted (r : Rows) : Rows :=
  ⟨r.tiles.map (Scenario.sorted tileRowJson), r.metadata.map (Scenario.sorted metadataRowJson)⟩

/-- Putting values in order keeps them. -/
theorem mem_sorted {α : Type} {f : α → Json} {xs : List α} {x : α} :
    x ∈ sorted f xs ↔ x ∈ xs := by
  simp [sorted]

end TileDepot.Scenario
