import EquatorialMount.Text.Printable

/-!
# Quoted text in messages

Text of a user is quoted in messages so that its ends and its unprintable characters show.  Single quotes are used
unless the text has single quotes and no double ones.  Bytes are quoted as the text they would be in ASCII, behind a
letter.
-/

namespace EquatorialMount.Text

def hexDigit (n : Nat) : Char := "0123456789abcdef".toList.getD (n % 16) '0'

/-- The last `width` hexadecimal digits of a number. -/
def hex (width n : Nat) : String :=
  String.ofList ((List.range width).map fun i => hexDigit (n >>> (4 * (width - 1 - i))))

/-- The quote that goes around some code points. -/
def quoteFor (points : List Nat) : Char :=
  if points.contains '\''.toNat && !points.contains '"'.toNat then '"' else '\''

/-- A code point that is written after a backslash in all quoted text, if it is one. -/
def shortEscape? (quote : Char) (n : Nat) : Option String :=
  if n = quote.toNat || n = '\\'.toNat then some ("\\" ++ (Char.ofNat n).toString)
  else if n = '\t'.toNat then some "\\t"
  else if n = '\n'.toNat then some "\\n"
  else if n = '\r'.toNat then some "\\r"
  else none

/-- One code point of a quoted text. -/
def quotedPoint (quote : Char) (n : Nat) : String :=
  (shortEscape? quote n).getD
    (if isPrintable n then (Char.ofNat n).toString
    else if n < 0x100 then "\\x" ++ hex 2 n
    else if n < 0x10000 then "\\u" ++ hex 4 n
    else "\\U" ++ hex 8 n)

/-- A text given by its code points. -/
def quotedPoints (points : List Nat) : String :=
  let quote := quoteFor points
  quote.toString ++ String.join (points.map (quotedPoint quote)) ++ quote.toString

def quoted (s : String) : String := quotedPoints (s.toList.map (·.toNat))

/-- One byte of quoted bytes. -/
def quotedByte (quote : Char) (n : Nat) : String :=
  (shortEscape? quote n).getD (if 0x20 ≤ n && n < 0x7f then (Char.ofNat n).toString else "\\x" ++ hex 2 n)

def quotedBytes (bytes : List UInt8) : String :=
  let points := bytes.map (·.toNat)
  let quote := quoteFor points
  "b" ++ quote.toString ++ String.join (points.map (quotedByte quote)) ++ quote.toString

end EquatorialMount.Text
