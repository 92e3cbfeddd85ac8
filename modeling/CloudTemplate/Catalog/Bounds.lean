import CloudTemplate.Value.Basic

/-!
# Numeric bounds

Several properties are whole numbers within bounds.  The same bounds serve twice: a validator
refuses what lies outside (`Bounds.fault?`), and the generator moves it to the nearest bound
(`Bounds.clamp`).
-/

namespace CloudTemplate

/-- Inclusive bounds of a whole number. -/
structure Bounds where
  least : Int
  greatest : Int
deriving DecidableEq

/-- What is wrong with a number. -/
inductive NumberFault where
  /-- It is none. -/
  | notANumber
  /-- It is not whole. -/
  | notWhole (number : Binary64)
  /-- It is out of bounds. -/
  | outside (number : Binary64) (bounds : Bounds)
deriving DecidableEq

/-- The wording of a fault of the property with that label. -/
def NumberFault.message (label : String) : NumberFault → String
  | .notANumber => label ++ " must be a number"
  | .notWhole number => label ++ " must be a whole number, got " ++ number.display
  | .outside number bounds =>
    label ++ " must be between " ++ toString bounds.least ++ " and " ++ toString bounds.greatest ++
      ", got " ++ number.display

namespace Bounds

/-- The whole number within bounds that is nearest to `n`. -/
def clamp (b : Bounds) (n : Int) : Int := min (max n b.least) b.greatest

/-- What is wrong with a value that should be a whole number within bounds. -/
def fault? (b : Bounds) (value : PropertyValue) : Option NumberFault :=
  match value.asDouble? with
  | none => some .notANumber
  | some number =>
    if !number.isWhole then some (.notWhole number)
    else if number.isBelow b.least || number.isAbove b.greatest then some (.outside number b)
    else none

/-! ## The bounds of the catalog -/

/-- The memory of a function, in megabytes. -/
def functionMemory : Bounds := ⟨128, 10240⟩

/-- The time that a function may take, in seconds. -/
def functionTimeout : Bounds := ⟨1, 900⟩

/-- The storage of a database, in gigabytes. -/
def databaseStorage : Bounds := ⟨20, 65536⟩

/-- How long backups of a database are kept, in days. -/
def backupRetention : Bounds := ⟨0, 35⟩

/-- How long a message is hidden after it was received, in seconds. -/
def visibilityTimeout : Bounds := ⟨0, 43200⟩

/-- How long a queue keeps a message, in seconds. -/
def messageRetention : Bounds := ⟨60, 1209600⟩

/-- How long a queue holds a message back, in seconds. -/
def messageDelay : Bounds := ⟨0, 900⟩

/-- The size of the largest message of a queue, in bytes. -/
def messageSize : Bounds := ⟨1024, 262144⟩

/-- How long a receiver waits for a message, in seconds. -/
def receiveWait : Bounds := ⟨0, 20⟩

/-- How long a role may be assumed, in seconds. -/
def sessionDuration : Bounds := ⟨3600, 43200⟩

/-- The provisioned capacity of a table, in units. -/
def tableCapacity : Bounds := ⟨1, 40000⟩

/-- A port of the network. -/
def networkPort : Bounds := ⟨0, 65535⟩

end Bounds

end CloudTemplate
