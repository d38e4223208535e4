/-!
# Bytes as text in base 64

Three bytes are four characters of 64; a text that ends within three bytes is filled up with equals signs.  Characters
that stand for nothing are passed over in reading.
-/

namespace EquatorialMount.Text.Base64

def alphabet : List Char := "ABCDEFGHIJKLMNOPQRSTUVWXYZabcdefghijklmnopqrstuvwxyz0123456789+/".toList

/-- The six bits a character stands for. -/
def sextet? (c : Char) : Option Nat := alphabet.idxOf? c

/-- Reads the characters of a text.  `place` counts those since the last whole three bytes, `left` has the bits of the
last one that no byte has yet, and `pads` counts the equals signs just before. -/
def decodeFrom (place left pads : Nat) : List Char → Option (List UInt8)
  | [] => if place = 0 then some [] else none
  | c :: rest =>
    if c = '=' then
      if 2 ≤ place then (if 3 ≤ place + pads then some [] else decodeFrom place left (pads + 1) rest)
      else decodeFrom place left pads rest
    else
      match sextet? c with
      | none => decodeFrom place left pads rest
      | some n =>
        if place = 0 then decodeFrom 1 n 0 rest
        else if place = 1 then (decodeFrom 2 (n % 16) 0 rest).map (UInt8.ofNat (left * 4 + n / 16) :: ·)
        else if place = 2 then (decodeFrom 3 (n % 4) 0 rest).map (UInt8.ofNat (left * 16 + n / 4) :: ·)
        else (decodeFrom 0 0 0 rest).map (UInt8.ofNat (left * 64 + n) :: ·)

/-- The bytes a text stands for, unless it breaks off within three of them. -/
def decode? (s : List Char) : Option (List UInt8) := decodeFrom 0 0 0 s

def character (n : Nat) : Char := alphabet.getD (n % 64) '='

/-- The text of some bytes. -/
def encode : List UInt8 → List Char
  | a :: b :: c :: rest =>
    let n := (a.toNat * 256 + b.toNat) * 256 + c.toNat
    character (n / 262144) :: character (n / 4096) :: character (n / 64) :: character n :: encode rest
  | [a, b] =>
    let n := (a.toNat * 256 + b.toNat) * 4
    [character (n / 4096), character (n / 64), character n, '=']
  | [a] => [character (a.toNat / 4), character (a.toNat * 16), '=', '=']
  | [] => []

end EquatorialMount.Text.Base64
