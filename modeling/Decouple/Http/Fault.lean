import Decouple.Json.Value
import Decouple.Text.Utf8

/-!
# Faults of requests

Why a request comes to nothing without a word from the server, or without one that can be read: its
address is none, something in it has no encoding, its address does not say where to go, or the
reply nests too deep.
-/

namespace Decouple

/-- Why a text is no address. -/
inductive AddressFault where
  | tooLong
  /-- The address holds a control code point. -/
  | control (c : CodePoint) (place : Nat)
  /-- A host of four groups that is no address of a network. -/
  | quad (host : Text)
  /-- A host in brackets that is no address of a network. -/
  | bracketed (host : Text)
  /-- A host that has no ASCII form. -/
  | hostName (host : Text)
  /-- What stands behind the host and its colon is no number. -/
  | service (t : Text)
  /-- A path without a host in front of it starts with what only comes behind a host. -/
  | path (start : Text)
  deriving DecidableEq

/-- Why a request comes to nothing. -/
inductive RequestFault where
  | address (f : AddressFault)
  /-- The address holds a code point that has no encoding. -/
  | unwritable (u : Utf8.Unwritable)
  /-- A header is not ASCII. -/
  | header (u : Utf8.Unwritable)
  /-- The body holds a code point that has no encoding. -/
  | body (u : Utf8.Unwritable)
  /-- The address that a reply came from does not say where that is. -/
  | nowhere (address : Text)
  /-- Values of a reply nest too deep. -/
  | tooDeep (holder : Json.Holder)
  deriving DecidableEq

namespace AddressFault

/-- A fault in words. -/
def message : AddressFault → Text
  | tooLong => "URL too long"
  | control c place =>
    "Invalid non-printable ASCII character in URL, " ++ Text.quoted [c] ++ " at position " ++
      Text.ofNat place ++ "."
  | quad host => "Invalid IPv4 address: " ++ host.quoted
  | bracketed host => "Invalid IPv6 address: " ++ host.quoted
  | hostName host => "Invalid IDNA hostname: " ++ host.quoted
  | service t => "Invalid port: " ++ t.quoted
  | path start => "Relative URLs cannot have a path starting with '" ++ start ++ "'"

end AddressFault

namespace RequestFault

/-- The first run of code points of a text that are not ASCII. -/
def notAscii? (t : Text) : Option Utf8.Unwritable :=
  match t.dropWhile CodePoint.isAscii with
  | [] => none
  | c :: rest =>
    some ⟨(t.takeWhile CodePoint.isAscii).length, c,
      (rest.takeWhile fun c => !c.isAscii).length + 1⟩

/-- Whether no other request is worth trying: the address is none, or the reply nests too deep. -/
def isFinal : RequestFault → Bool
  | address _ | tooDeep _ => true
  | _ => false

/-- What is said about a header that is not ASCII. -/
def headerMessage (u : Utf8.Unwritable) : Text :=
  let place : Text :=
    if u.length = 1 then
      "character '" ++ Text.numberEscape u.first ++ "' in position " ++ Text.ofNat u.start
    else
      "characters in position " ++ Text.ofNat u.start ++ "-" ++
        Text.ofNat (u.start + u.length - 1)
  "'ascii' codec can't encode " ++ place ++ ": ordinal not in range(128)"

/-- A fault in words. -/
def message : RequestFault → Text
  | address f => f.message
  | unwritable u => u.message
  | header u => headerMessage u
  | body u => u.message
  | nowhere a => "unknown url type: " ++ a.quoted
  | tooDeep holder => holder.tooDeep

end RequestFault

end Decouple
