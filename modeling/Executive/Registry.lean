/-
Registries: fixed tables whose entries are vacant or in use under a name. Entry 0 is never handed
out, a newcomer gets the first vacant entry after it, and no two entries in use have one name.
-/
import Executive.Error

namespace Executive

/-- An entry of a registry: whether it is in use, and under which name. -/
class Named (α : Type) where
  busy : α → Bool
  name : α → String

namespace Registry

variable {α : Type} [Named α]

/-- The first entry after entry 0 that passes a test. -/
def first? (entries : Array α) (test : α → Bool) : Option Nat :=
  (List.range entries.size).find? fun i => 0 < i && entries[i]?.any test

/-- The entry in use under a name. -/
def find? (entries : Array α) (name : String) : Option Nat :=
  first? entries fun entry => Named.busy entry && Named.name entry == name

/-- The first vacant entry. -/
def vacant? (entries : Array α) : Option Nat :=
  first? entries fun entry => !Named.busy entry

/-- The entry in use at a place of the table. -/
def get? (entries : Array α) (i : Nat) : Option α :=
  if 0 < i then entries[i]?.filter Named.busy else none

/-- The entries in use with their places, in the order of the table. -/
def inUse (entries : Array α) : List (Nat × α) :=
  (List.range entries.size).filterMap fun i => (entries[i]?.filter Named.busy).map (i, ·)

/-- The entry for a newcomer. The name must be an object name and new; `full` reports that no entry
is vacant. -/
def place (entries : Array α) (name : String) (full : Error) : Except Error Nat :=
  if !isObjectName name then .error .invalidName
  else if (find? entries name).isSome then .error .nameAlreadyAssigned
  else match vacant? entries with
    | some i => .ok i
    | none => .error full

end Registry

end Executive
