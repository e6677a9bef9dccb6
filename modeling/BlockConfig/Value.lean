/-
BlockConfig.Value — values that are stored as their text.

A configuration holds texts only. A value of another kind is rendered once,
before it is stored: `Value.render`.
-/
import BlockConfig.Decimal.Shortest

namespace BlockConfig

/-- A value that has a text form. -/
inductive Value
  | text (s : String)
  | flag (b : Bool)
  | letter (c : Char)
  | whole (n : Int)
  /-- A 64-bit floating-point number, by its bits. -/
  | double (bits : UInt64)
  /-- A 32-bit floating-point number, by its bits. -/
  | single (bits : UInt32)

/-- A whole number in decimal, with a minus sign when it is negative. -/
def Value.renderWhole (n : Int) : String :=
  (if n < 0 then "-" else "") ++ String.ofList (Nat.toDigits 10 n.natAbs)

/-- The text form of a value. -/
def Value.render : Value → String
  | .text s => s
  | .flag b => if b then "true" else "false"
  | .letter c => String.singleton c
  | .whole n => Value.renderWhole n
  | .double bits => Decimal.BinaryFormat.double.text bits.toNat
  | .single bits => Decimal.BinaryFormat.single.text bits.toNat

end BlockConfig
