import Calculator.Json.Reader

/-!
# The points of a body

The bytes of a JSON text tell by themselves how they encode it: by a byte
order mark, or by where the zero bytes are among the first, since a JSON text
starts with an ASCII character.  Halves of surrogate pairs are let pass in all
encodings.
-/

namespace Calculator.Json

open Calculator.Text

inductive Encoding where
  | utf8
  | utf16 (bigEndian : Bool)
  | utf32 (bigEndian : Bool)
  deriving DecidableEq, Repr

/-- The encoding of a body, and the body without its byte order mark. -/
def Encoding.detect : List Nat → Encoding × List Nat
  | 0 :: 0 :: 0xfe :: 0xff :: rest => (.utf32 true, rest)
  | 0xff :: 0xfe :: 0 :: 0 :: rest => (.utf32 false, rest)
  | 0xfe :: 0xff :: rest => (.utf16 true, rest)
  | 0xff :: 0xfe :: rest => (.utf16 false, rest)
  | 0xef :: 0xbb :: 0xbf :: rest => (.utf8, rest)
  | bytes@(0 :: 0 :: _ :: _ :: _) => (.utf32 true, bytes)
  | bytes@(0 :: _ :: _ :: _ :: _) => (.utf16 true, bytes)
  | bytes@(_ :: 0 :: 0 :: 0 :: _) => (.utf32 false, bytes)
  | bytes@(_ :: 0 :: _ :: _ :: _) => (.utf16 false, bytes)
  | bytes@([0, _]) => (.utf16 true, bytes)
  | bytes@([_, 0]) => (.utf16 false, bytes)
  | bytes => (.utf8, bytes)

/-- Units of two bytes; none if a byte is left over. -/
def units16? (bigEndian : Bool) : List Nat → Option (List Nat)
  | [] => some []
  | a :: b :: rest =>
    (units16? bigEndian rest).map ((if bigEndian then 256 * a + b else 256 * b + a) :: ·)
  | _ => none

/-- Code points of four bytes; none if bytes are left over or a number is no
code point. -/
def points32? (bigEndian : Bool) : List Nat → Option (List Nat)
  | [] => some []
  | a :: b :: c :: d :: rest =>
    let point := if bigEndian then ((256 * a + b) * 256 + c) * 256 + d
      else ((256 * d + c) * 256 + b) * 256 + a
    if point < 0x110000 then (points32? bigEndian rest).map (point :: ·) else none
  | _ => none

/-- The points of bytes that encode characters only. -/
def strictPoints? (bytes : List UInt8) : Option (List Point) :=
  (String.fromUTF8? (ByteArray.mk bytes.toArray)).map points

/-- The half that three bytes give, where halves are encoded like characters. -/
def halfOf? (a b c : UInt8) : Option Half :=
  if a = 0xed && 0xa0 ≤ b && b < 0xc0 && 0x80 ≤ c && c < 0xc0 then
    match Point.ofCode (0xd000 + (b.toNat - 0x80) * 0x40 + (c.toNat - 0x80)) with
    | .half half => some half
    | .char _ => none
  else none

/-- The points of bytes that encode characters and halves, behind bytes that are
set aside with the last one first. -/
def loosePoints? (aside : List UInt8) : List UInt8 → Option (List Point)
  | a :: b :: c :: rest =>
    match halfOf? a b c with
    | some half => do
      let front ← strictPoints? aside.reverse
      let behind ← loosePoints? [] rest
      return front ++ .half half :: behind
    | none => loosePoints? (a :: aside) (b :: c :: rest)
  | bytes => strictPoints? (aside.reverse ++ bytes)

/-- The points of a body, if its bytes are in order. -/
def points? (bytes : List UInt8) : Option (List Point) :=
  match Encoding.detect (bytes.map UInt8.toNat) with
  | (.utf8, rest) =>
    let bytes := rest.map UInt8.ofNat
    (strictPoints? bytes).or (loosePoints? [] bytes)
  | (.utf16 bigEndian, rest) => (units16? bigEndian rest).map (assembled ∘ List.map Piece.ofUnit)
  | (.utf32 bigEndian, rest) => (points32? bigEndian rest).map (·.map Point.ofCode)

/-- The datum that a body writes. -/
def readBody? (bytes : List UInt8) : Option Datum :=
  (points? bytes).bind read?

end Calculator.Json
