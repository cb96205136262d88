/-
Quoted literals, as they stand in messages: the quote that needs no escape is preferred, control
characters and characters that are not printable are written by their code.
-/
import SolidityWire.Text.Hex
import SolidityWire.Text.Printable
import SolidityWire.Text.Surrogate

namespace SolidityWire.Text

/-! ## Literals -/

/-- The quote of a literal: a double quote only where it saves escaping single ones. -/
def chooseQuote (hasSingle hasDouble : Bool) : Char :=
  if hasSingle && !hasDouble then '"' else '\''

/-- A character by its code, in the shortest of the three forms that holds it. -/
def escapeCode (n : Nat) : List Char :=
  if n < 0x100 then '\\' :: 'x' :: hexDigits 2 n []
  else if n < 0x10000 then '\\' :: 'u' :: hexDigits 4 n []
  else '\\' :: 'U' :: hexDigits 8 n []

/-- One character of a literal that the given quote delimits. -/
def escapeChar (quote c : Char) : List Char :=
  if c = quote || c = '\\' then ['\\', c]
  else if c = '\n' then ['\\', 'n']
  else if c = '\r' then ['\\', 'r']
  else if c = '\t' then ['\\', 't']
  else if isPrintable c then [c]
  else escapeCode (codeOf c)

/-- The literal of a text. -/
def quoted (s : String) : String :=
  let quote := chooseQuote (s.toList.contains '\'') (s.toList.contains '"')
  String.ofList (quote :: (s.toList.flatMap (escapeChar quote) ++ [quote]))

/-- One byte of a literal of bytes: printable ASCII stands for itself. -/
def escapeByte (quote : Char) (b : UInt8) : List Char :=
  if b.toNat < 127 then escapeChar quote (Char.ofNat b.toNat) else escapeCode b.toNat

/-- The literal of a list of bytes. -/
def quotedBytes (bytes : List UInt8) : String :=
  let quote := chooseQuote (bytes.contains 39) (bytes.contains 34)
  String.ofList ('b' :: quote :: (bytes.flatMap (escapeByte quote) ++ [quote]))

end SolidityWire.Text
