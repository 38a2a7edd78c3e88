import SiteManifest.Idna.Domain
import SiteManifest.Url.Address

/-!
# Hosts

Which texts can be the host of an address of the web. The schemes of the web know what a host is, a
name or a numeric address; for any other scheme it is nearly any text.
-/

namespace SiteManifest.Url

/-- The bytes of a text in which `%` and two hexadecimal digits stand for a byte. -/
def percentBytes : List Char → List UInt8
  | [] => []
  | '%' :: a :: b :: rest =>
    if isDigitOf 16 a && isDigitOf 16 b then .ofNat (numberOf 16 [a, b]) :: percentBytes rest
    else '%'.toUInt8 :: percentBytes (a :: b :: rest)
  | c :: rest => c.toString.toUTF8.toList ++ percentBytes rest

/-- The text whose bytes are given with `%`, if they are the bytes of a text. -/
def percentDecode? (cs : List Char) : Option (List Char) :=
  if cs.contains '%' then
    (String.fromUTF8? ⟨(percentBytes cs).toArray⟩).map String.toList
  else some cs

/-- The address between brackets, if the text starts with one. -/
def bracketed? (cs : List Char) : Option (Option (List Char)) :=
  match cs with
  | '[' :: rest => some (if rest.getLast? = some ']' then some rest.dropLast else none)
  | _ => none

/-- Whether labels make a host: they are not all empty, and they are an address if the last one is a
number. -/
def isDomain (labels : List (List Char)) : Bool :=
  let name := List.intercalate ['.'] labels
  !name.isEmpty && (!endsInNumber name || isAddress name)

/-- Whether a text is the host of a scheme of the web. -/
def isWebHost (cs : List Char) : Bool :=
  match bracketed? cs with
  | some address => address.any isLongAddress
  | none => ((percentDecode? cs).bind Idna.labels?).any isDomain

/-- The characters that no host may hold. -/
def isForbidden (c : Char) : Bool :=
  c == '\x00' || "\t\n\r #/:<>?@[\\]^|".toList.contains c

/-- Whether a text is the host of another scheme. -/
def isOpaqueHost (cs : List Char) : Bool :=
  match bracketed? cs with
  | some address => address.any isLongAddress
  | none => !cs.any isForbidden

end SiteManifest.Url
