import QueryFilters.Number.Digits
import QueryFilters.Text.Split

/-!
# Query strings

Queries in the form `a=1&a=2&b.min=3`: names and texts in order, with a plus sign for a space and
`%` with two hexadecimal digits for any byte. Bytes that are no UTF-8 are replaced.
-/

namespace QueryFilters

/-- The names and texts of a query in the order they are given. -/
structure FormData where
  entries : List (String × String)

namespace FormData

/-- The byte that two hexadecimal digits stand for. -/
def hexByte? (high low : UInt8) : Option UInt8 :=
  match Digits.hexValue? (Char.ofNat high.toNat), Digits.hexValue? (Char.ofNat low.toNat) with
  | some high, some low => some (UInt8.ofNat (16 * high + low))
  | _, _ => none

/-- The bytes that text with percent signs stands for. A percent sign without two digits stands for
itself. -/
def percentDecode : List UInt8 → List UInt8
  | 0x25 :: high :: low :: rest =>
    match hexByte? high low with
    | some byte => byte :: percentDecode rest
    | none => 0x25 :: percentDecode (high :: low :: rest)
  | byte :: rest => byte :: percentDecode rest
  | [] => []

/-- Whether a byte continues a character of several bytes. -/
def isContinuation (byte : UInt8) : Bool :=
  0x80 ≤ byte && byte ≤ 0xBF

/-- Whether a first byte of a character of three bytes goes with the second. -/
def startsThree (first second : UInt8) : Bool :=
  (first == 0xE0 && 0xA0 ≤ second && second ≤ 0xBF) ||
  (0xE1 ≤ first && first ≤ 0xEC && isContinuation second) ||
  (first == 0xED && 0x80 ≤ second && second ≤ 0x9F) ||
  (0xEE ≤ first && first ≤ 0xEF && isContinuation second)

/-- Whether a first byte of a character of four bytes goes with the second. -/
def startsFour (first second : UInt8) : Bool :=
  (first == 0xF0 && 0x90 ≤ second && second ≤ 0xBF) ||
  (0xF1 ≤ first && first ≤ 0xF3 && isContinuation second) ||
  (first == 0xF4 && 0x80 ≤ second && second ≤ 0x8F)

/-- The low six bits of a byte. -/
def lowSix (byte : UInt8) : Nat :=
  byte.toNat % 64

/-- The characters of bytes in UTF-8. Each longest start of a character that breaks off, and each
byte that starts none, becomes one replacement character. -/
def decodeUtf8 : List UInt8 → List Char
  | [] => []
  | a :: rest =>
    if a < 0x80 then Char.ofNat a.toNat :: decodeUtf8 rest
    else
      match rest with
      | [] => ['\uFFFD']
      | b :: rest₁ =>
        if 0xC2 ≤ a ∧ a ≤ 0xDF ∧ isContinuation b then
          Char.ofNat (a.toNat % 32 * 64 + lowSix b) :: decodeUtf8 rest₁
        else if startsThree a b then
          match rest₁ with
          | [] => ['\uFFFD']
          | c :: rest₂ =>
            if isContinuation c then
              Char.ofNat ((a.toNat % 16 * 64 + lowSix b) * 64 + lowSix c) :: decodeUtf8 rest₂
            else '\uFFFD' :: decodeUtf8 (c :: rest₂)
        else if startsFour a b then
          match rest₁ with
          | [] => ['\uFFFD']
          | c :: rest₂ =>
            if isContinuation c then
              match rest₂ with
              | [] => ['\uFFFD']
              | d :: rest₃ =>
                if isContinuation d then
                  Char.ofNat
                    (((a.toNat % 8 * 64 + lowSix b) * 64 + lowSix c) * 64 + lowSix d) ::
                    decodeUtf8 rest₃
                else '\uFFFD' :: decodeUtf8 (d :: rest₃)
            else '\uFFFD' :: decodeUtf8 (c :: rest₂)
        else '\uFFFD' :: decodeUtf8 (b :: rest₁)

/-- The text that an escaped text stands for. -/
def decode (text : List Char) : String :=
  let spaced := text.map fun c => if c = '+' then ' ' else c
  String.ofList (decodeUtf8 (percentDecode (spaced.flatMap String.utf8EncodeChar)))

/-- The name and the text of one piece of a query string. -/
def entry (piece : List Char) : String × String :=
  let (name, text) := Text.cutAt '=' piece
  (decode name, decode (text.getD []))

/-- The names and texts of a query string. A question mark at its start does not count. -/
def ofQueryString (query : String) : FormData :=
  let query :=
    match query.toList with
    | '?' :: rest => rest
    | chars => chars
  ⟨((Text.splitOn '&' query).filter fun piece => !piece.isEmpty).map entry⟩

/-- Adds a name and a text at the end. -/
def append (data : FormData) (name text : String) : FormData :=
  ⟨data.entries ++ [(name, text)]⟩

end FormData

end QueryFilters
