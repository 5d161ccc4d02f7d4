/-
This file holds the settings of the identifier cache.
-/

import Predicates.Text.Integer
import Predicates.Text.Quoted

namespace Predicates

inductive SettingError where
  | negativeSize (size : Int)
  | notInteger (text : String)
  | negativeCapacity (capacity : Int)
  deriving DecidableEq

/-- This variable of the environment can hold the size of the cache. -/
def sizeVariable : String := "BOOLEVAL_IDENTIFIER_CACHE_SIZE"

def SettingError.message : SettingError → String
  | .negativeSize size => s!"identifier_cache_size must be >= 0, got {size}"
  | .notInteger text => s!"{sizeVariable} must be an integer, got {quoted text}"
  | .negativeCapacity capacity => s!"capacity must be >= 0, got {capacity}"

/-- A missing size leaves the cache without a bound. -/
structure Settings where
  size : Option Nat
  deriving DecidableEq

namespace Settings

def unbounded : Settings := ⟨none⟩

def ofSize : Option Int → Except SettingError Settings
  | none => .ok unbounded
  | some size => if size < 0 then .error (.negativeSize size) else .ok ⟨some size.toNat⟩

/-- A text of blanks counts as missing. -/
def ofEnvironment (raw : Option String) : Except SettingError Settings :=
  let characters := stripBlanks (raw.getD "").toList
  if characters.isEmpty then .ok unbounded
  else
    match readInteger? characters with
    | some size => ofSize (some size)
    | none => .error (.notInteger (String.ofList characters))

/-- The size zero means that there is no bound. -/
def capacity (settings : Settings) : Option Nat :=
  settings.size.filter (· ≠ 0)

def isBounded (settings : Settings) : Bool :=
  settings.capacity.isSome

end Settings

end Predicates
