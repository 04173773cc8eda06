/-!
# Tiles

A tile is addressed by its layer, its grid set, its format and its place in the grid.  Inside the store
of a layer the other five form the `RowKey`.  No bounds are set on coordinates, but a table keeps only
signed sixty-four-bit integers; `RowKey.Fits` says that a key can be written.
-/

namespace TileDepot

/-- Column, row and zoom of a tile. -/
structure Coordinate where
  x : Int
  y : Int
  z : Int
  deriving DecidableEq

/-- The address of a tile within the store of its layer, in column order. -/
structure RowKey where
  grid : String
  x : Int
  y : Int
  z : Int
  format : String
  deriving DecidableEq

/-- The address of a tile. -/
structure TileKey where
  layer : String
  grid : String
  format : String
  coordinate : Coordinate
  deriving DecidableEq

/-- The part of an address that the row carries. -/
def TileKey.row (k : TileKey) : RowKey :=
  ⟨k.grid, k.coordinate.x, k.coordinate.y, k.coordinate.z, k.format⟩

/-- The least integer of a table. -/
def leastInteger : Int := -9223372036854775808

/-- The greatest integer of a table. -/
def greatestInteger : Int := 9223372036854775807

/-- Whether a table can keep an integer. -/
def fitsInteger (i : Int) : Bool := decide (leastInteger ≤ i) && decide (i ≤ greatestInteger)

/-- Whether the three coordinates of a key can be written. -/
def RowKey.fits (k : RowKey) : Bool := fitsInteger k.x && fitsInteger k.y && fitsInteger k.z

/-- The bytes of a tile. -/
abbrev Blob := ByteArray

instance : DecidableEq Blob := fun a b =>
  if h : a.data = b.data then isTrue (ByteArray.ext h) else isFalse (fun e => h (congrArg _ e))

/-- A block of tiles across zoom levels, optionally clipped to a rectangle. -/
structure TileRange where
  layer : String
  grid : String
  format : String
  zoomStart : Int
  zoomStop : Int
  bounds : Option (List Float)

/-- Keys of one layer with the same row address are the same key. -/
theorem TileKey.row_injective {a b : TileKey} (hl : a.layer = b.layer) (hr : a.row = b.row) :
    a = b := by
  obtain ⟨la, ga, fa, xa, ya, za⟩ := a
  obtain ⟨lb, gb, fb, xb, yb, zb⟩ := b
  simp_all [TileKey.row]

end TileDepot
