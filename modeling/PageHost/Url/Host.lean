import PageHost.Url.Percent
import PageHost.Url.Address
import PageHost.Url.Domain
/-!
# Hosts

The host of a URL is a domain name, a numeric address, or empty. Special schemes
read a domain name and take it for an address when its last part is a number;
other schemes keep the host as it is written, with what is not allowed encoded.
-/

namespace PageHost.Url

/-- Why a text is no URL. -/
inductive UrlError where
  | emptyHost
  | invalidDomain
  | invalidPort
  | invalidFourBytes
  | invalidEightPieces
  | invalidHostCharacter
  | relativeWithoutBase
  | relativeWithOpaqueBase
deriving Repr, DecidableEq

/-- The text of an error. -/
def UrlError.message : UrlError → String
  | .emptyHost => "empty host"
  | .invalidDomain => "invalid international domain name"
  | .invalidPort => "invalid port number"
  | .invalidFourBytes => "invalid IPv4 address"
  | .invalidEightPieces => "invalid IPv6 address"
  | .invalidHostCharacter => "invalid domain character"
  | .relativeWithoutBase => "relative URL without a base"
  | .relativeWithOpaqueBase => "relative URL with a cannot-be-a-base base"

/-- The host of a URL. -/
inductive Host where
  | empty
  | domain (name : String)
  /-- An address of four bytes, as one number. -/
  | fourBytes (address : Nat)
  /-- An address of eight pieces of 16 bits. -/
  | eightPieces (pieces : List Nat)
deriving Repr, DecidableEq

namespace Host

/-- The written form of a host. -/
def text : Host → List Char
  | .empty => []
  | .domain name => name.toList
  | .fourBytes address => dottedText address
  | .eightPieces pieces => '[' :: (eightPiecesText pieces ++ [']'])

/-- Reads an address in brackets, after the opening one. -/
def readBracketed (s : List Char) : Except UrlError Host :=
  if s.getLast? = some ']' then
    match readEightPieces? s.dropLast with
    | none => .error .invalidEightPieces
    | some pieces => .ok (.eightPieces pieces)
  else .error .invalidEightPieces

/-- Reads the host of a special scheme. -/
def read (s : List Char) : Except UrlError Host :=
  match s with
  | '[' :: rest => readBracketed rest
  | s =>
    match domainToAscii? (percentDecode (Text.utf8Bytes s)) with
    | none => .error .invalidDomain
    | some [] => .error .emptyHost
    | some name =>
      if endsInNumber name then
        match readFourBytes? name with
        | none => .error .invalidFourBytes
        | some address => .ok (.fourBytes address)
      else .ok (.domain (String.ofList name))

/-- Characters that an uninterpreted host cannot have. -/
def forbidden (c : Char) : Bool := "\x00\t\n\r #/:<>?@[\\]^|".toList.contains c

/-- Reads the host of any other scheme. -/
def readUninterpreted (s : List Char) : Except UrlError Host :=
  match s with
  | [] => .ok .empty
  | '[' :: rest => readBracketed rest
  | s =>
    if s.any forbidden then .error .invalidHostCharacter
    else .ok (.domain (String.ofList (percentEncode controlSet s)))

end Host

end PageHost.Url
