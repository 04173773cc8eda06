import TileDepot.Text.Case

/-!
# Setting up logging

Logging is set up once: later calls change nothing until the mark is taken away.  The level is the
argument, or what the environment says, or INFO; an empty text counts as not given, and a name that is
no level means INFO.
-/

namespace TileDepot.Logging

/-- The levels by name. -/
def levels : List (String × Nat) :=
  [("CRITICAL", 50), ("FATAL", 50), ("ERROR", 40), ("WARNING", 30), ("WARN", 30), ("INFO", 20),
   ("DEBUG", 10), ("NOTSET", 0)]

/-- The layout of a line of the log. -/
def lineLayout : String := "%(asctime)s %(levelname)s %(name)s: %(message)s"

/-- The level of the root, the layouts of its handlers, and whether logging is set up. -/
structure State where
  level : Nat
  handlers : List String
  isSetUp : Bool

/-- Before anything is set up, warnings are the least that is logged, and nothing handles them. -/
def State.initial : State := ⟨30, [], false⟩

/-- The first text that is given and not empty. -/
def firstGiven : List (Option String) → String
  | [] => "INFO"
  | some s :: rest => if s.isEmpty then firstGiven rest else s
  | none :: rest => firstGiven rest

/-- The number of a level by its name in any case. -/
def levelOf (name : String) : Nat :=
  ((levels.find? (fun l => l.1 == Text.upperAscii name)).map Prod.snd).getD 20

/-- Set logging up, unless it is. -/
def State.setUp (s : State) (argument environment : Option String) : State :=
  if s.isSetUp then s
  else
    { level := levelOf (firstGiven [argument, environment])
      handlers := s.handlers ++ [lineLayout]
      isSetUp := true }

/-- Setting up twice is setting up once. -/
theorem State.setUp_setUp (s : State) (a b c d : Option String) :
    (s.setUp a b).setUp c d = s.setUp a b := by
  unfold State.setUp
  by_cases h : s.isSetUp = true <;> simp [h]

end TileDepot.Logging
