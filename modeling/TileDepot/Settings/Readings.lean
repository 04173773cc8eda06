import TileDepot.Settings.Sources

/-!
# Reading settings again and again

A process reads its settings when it first needs them and holds them from then on, whatever the
environment becomes.  Only settings that were forgotten, or that could not be made, are read anew.

* `readings_length` says that every demand has a reading.
* `get_held` says that held settings are given as they are.
-/

namespace TileDepot.Settings

/-- A demand for settings, after variables were added to the environment and, if so wanted, the held
settings were forgotten. -/
structure Demand where
  additions : Ordered String String
  forget : Bool

/-- What a demand was given. -/
inductive Reading where
  | refused (r : Refusal)
  | failed (f : OsFault)
  | settings (s : Settings) (earlier : Option Nat) (isDirectory : Bool)

/-- Whether a path leads to a directory. -/
def isDirectory (d : Disk) (p : Path) : Bool :=
  match d.find p with
  | .ok (_, .directory) => true
  | _ => false

/-- Answer demands one after the other, the first of which has the given number. -/
def readingsFrom :
    Nat → Ordered String String → Cache → Disk → List Demand → List Reading
  | _, _, _, _, [] => []
  | number, environment, cache, disk, demand :: rest =>
      let environment := demand.additions.foldl (fun m p => Ordered.put m p.1 p.2) environment
      let cache := if demand.forget then ⟨none⟩ else cache
      let (outcome, cache, disk) := cache.get number ⟨[], environment, none⟩ disk
      let reading : Reading :=
        match outcome with
        | .error r => .refused r
        | .ok (.error f) => .failed f
        | .ok (.ok (first, s)) =>
            .settings s (if first < number then some first else none) (isDirectory disk s.storageDir)
      reading :: readingsFrom (number + 1) environment cache disk rest

/-- Answer demands in a process that has not read its settings yet. -/
def readings (disk : Disk) (demands : List Demand) : List Reading :=
  readingsFrom 0 [] ⟨none⟩ disk demands

theorem readings_length (disk : Disk) (demands : List Demand) :
    (readings disk demands).length = demands.length := by
  have key : ∀ (ds : List Demand) number environment cache disk,
      (readingsFrom number environment cache disk ds).length = ds.length := by
    intro ds
    induction ds with
    | nil => intros; rfl
    | cons d rest ih => intros; simp [readingsFrom, ih]
  exact key demands 0 [] ⟨none⟩ disk

/-- Settings that are held are given whatever the sources say. -/
theorem get_held (held : Nat × Settings) (reading : Nat) (g : Given) (d : Disk) :
    Cache.get ⟨some held⟩ reading g d = (.ok (.ok held), ⟨some held⟩, d) := rfl

end TileDepot.Settings
