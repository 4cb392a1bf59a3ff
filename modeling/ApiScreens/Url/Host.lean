import ApiScreens.Text.Case
import ApiScreens.Text.Piece
import ApiScreens.Text.Shown
import ApiScreens.Url.Punycode

/-! Hosts of web addresses: names, and addresses of versions 4 and 6. A name whose last label is a
number has to be an address. -/
namespace ApiScreens.Url
open Number (ofDigits isDigit)

def addressNumber (part : List Char) : Option Nat :=
  match part with
  | '0' :: 'x' :: digits | '0' :: 'X' :: digits => if digits = [] then some 0 else ofDigits 16 digits
  | '0' :: d :: digits => ofDigits 8 (d :: digits)
  | digits => ofDigits 10 digits

def parts (host : List Char) : List (List Char) :=
  let all := Text.pieces (· == '.') host
  if all.getLast? = some [] && 1 < all.length then all.dropLast else all

def endsInNumber (host : List Char) : Bool :=
  (parts host).getLast?.any fun last =>
    (last ≠ [] && last.all isDigit) || (addressNumber last).isSome

/-- At most four numbers; each but the last is one byte, and the last fills the bytes that are left. -/
def isAddress4 (host : List Char) : Bool :=
  match (parts host).mapM addressNumber with
  | none => false
  | some numbers =>
      numbers.length ≤ 4 && numbers.dropLast.all (· ≤ 255) &&
        numbers.getLast?.any (· < Nat.pow 256 (5 - numbers.length))

def isQuad (text : List Char) : Bool :=
  let bytes := Text.pieces (· == '.') text
  bytes.length == 4 && bytes.all fun b =>
    b.all isDigit && (ofDigits 10 b).any (· ≤ 255) && (b.head? != some '0' || b.length == 1)

def isGroup (text : List Char) : Bool := text.length ≤ 4 && (ofDigits 16 text).isSome

def groups (last : Bool) (text : List Char) : Option Nat :=
  if text = [] then some 0
  else
    let all := Text.pieces (· == ':') text
    let final := all.getLast?.getD []
    if !all.dropLast.all isGroup then none
    else if isGroup final then some all.length
    else if last && isQuad final then some (all.length + 1)
    else none

def atDoubleColon : List Char → Option (List Char × List Char)
  | ':' :: ':' :: rest => some ([], rest)
  | c :: rest => (atDoubleColon rest).map fun (before, after) => (c :: before, after)
  | [] => none

def isAddress6 (text : List Char) : Bool :=
  match atDoubleColon text with
  | none => text ≠ [] && groups true text = some 8
  | some (before, after) =>
      match groups false before, groups true after with
      | some m, some n => m + n ≤ 7
      | _, _ => false

def percentDecoded : List Char → List UInt8
  | '%' :: a :: b :: rest =>
      match ofDigits 16 [a, b] with
      | some n => UInt8.ofNat n :: percentDecoded rest
      | none => 37 :: percentDecoded (a :: b :: rest)
  | c :: rest => (String.singleton c).toUTF8.toList ++ percentDecoded rest
  | [] => []

def isForbidden (c : Char) : Bool :=
  c.toNat ≤ 0x20 || c.toNat == 0x7f || "%#/:<>?@[\\]^|".toList.contains c

def isIgnored (c : Char) : Bool :=
  let n := c.toNat
  n == 0xad || n == 0x34f || (0x180b ≤ n && n ≤ 0x180f && n != 0x180e) || n == 0x200b ||
    n == 0x2060 || n == 0x2064 || (0xfe00 ≤ n && n ≤ 0xfe0f) || n == 0xfeff ||
    (0xe0100 ≤ n && n ≤ 0xe01ef)

def nameChar (c : Char) : Char :=
  let n := c.toNat
  if n == 0x3002 || n == 0xff61 then '.'
  else if 0xff01 ≤ n && n ≤ 0xff5e then Char.ofNat (n - 0xfee0)
  else c

def isAllowed (c : Char) : Bool :=
  if c.toNat < 0x80 then !isForbidden c else Text.printableSet.has c

def isEncodedLabel (text : List Char) : Bool :=
  match Punycode.decode text with
  | none => false
  | some codes =>
      codes.any (0x80 ≤ ·) && codes.all fun n =>
        let c := Char.ofNat n
        isAllowed c && !isIgnored c && nameChar c == c && !Text.isUppercase c

def isLabel (label : List Char) : Bool :=
  label.all isAllowed && !label.head?.any Text.extendingSet.has &&
    match label with
    | x :: n :: '-' :: '-' :: rest =>
        if (x == 'x' || x == 'X') && (n == 'n' || n == 'N') then
          isEncodedLabel (rest.map Char.toLower)
        else true
    | _ => true

def isName (host : List Char) : Bool :=
  match String.fromUTF8? ⟨(percentDecoded host).toArray⟩ with
  | none => false
  | some text =>
      let name := (text.toList.filter (! isIgnored ·)).map nameChar
      name ≠ [] && (Text.pieces (· == '.') name).all isLabel &&
        (!endsInNumber name || isAddress4 name)

def isHost (host : List Char) : Bool :=
  match host with
  | '[' :: rest => rest.getLast? = some ']' && isAddress6 rest.dropLast
  | host => host ≠ [] && isName host

end ApiScreens.Url
