import DeclaredDebt.Path

/-!
# Source locations

Where an attribute stands: its file, the line and column of its first byte (both counted from one,
columns in bytes), and the bytes it covers.
-/

namespace DeclaredDebt

/-- The place of an attribute in a source file. -/
structure Location where
  file : Path
  line : Nat
  column : Nat
  startByte : Nat := 0
  endByte : Nat := 0
  deriving DecidableEq, Inhabited

namespace Location

/-- The same place, covering the given bytes. -/
def withSpan (l : Location) (startByte endByte : Nat) : Location :=
  { l with startByte, endByte }

/-- A place comes before another one of the same file. -/
def IsBefore (l m : Location) : Prop := l.line < m.line ∨ l.line = m.line ∧ l.column < m.column

/-- `file:line:column`. -/
def render (l : Location) : String :=
  l.file.text ++ ":" ++ toString l.line ++ ":" ++ toString l.column

end Location

end DeclaredDebt
