import GridSchema.Error
import GridSchema.Text.Digits
import GridSchema.Text.Split

/-! Hosts and ports, and how an address names them. -/

namespace GridSchema

/-- A host as the network layer numbers it: by an address of version 4, or by the eight groups of
one of version 6 and the number of the interface that leads to it, zero where none is named. -/
inductive Host where
  | v4 (address : UInt32)
  | v6 (groups : List UInt16) (interface : UInt32)
  deriving DecidableEq, Repr

structure Endpoint where
  host : Host
  port : UInt16
  deriving DecidableEq, Repr

namespace Host

def ofOctets (a b c d : UInt8) : Host :=
  .v4 ((a.toUInt32 <<< 24) + (b.toUInt32 <<< 16) + (c.toUInt32 <<< 8) + d.toUInt32)

def ofGroups (groups : List UInt16) : Host := .v6 groups 0

def loopback : Host := ofOctets 127 0 0 1

def octet? (digits : List Char) : Option UInt8 := do
  if digits.head? = some '0' ∧ digits ≠ ['0'] then none
  let value ← Text.numberIn? 10 digits
  if value < 256 then return UInt8.ofNat value else none

def octets? (text : List Char) : Option (List UInt8) := do
  let octets ← (Text.split '.' text).mapM octet?
  if octets.length = 4 then return octets else none

/-- Reads a number in decimal, in octal after a zero or in hexadecimal after a zero and an x. -/
def number? : List Char → Option Nat
  | '0' :: 'x' :: digits | '0' :: 'X' :: digits => Text.numberIn? 16 digits
  | '0' :: d :: digits => Text.numberIn? 8 (d :: digits)
  | digits => Text.numberIn? 10 digits

/-- Reads an address of version 4: one to four numbers between dots, each for an octet but the last,
which is for all octets that remain. -/
def parse4? (text : List Char) : Option Host := do
  let numbers ← (Text.split '.' text).mapM number?
  let octets := numbers.dropLast
  let last ← numbers.getLast?
  let room := Nat.pow 256 (4 - octets.length)
  if octets.length < 4 ∧ octets.all (· < 256) ∧ last < room then
    return .v4 (UInt32.ofNat (octets.foldl (fun n octet => n * 256 + octet) 0 * room + last))
  else none

def group? (digits : List Char) : Option UInt16 := do
  if 4 < digits.length then none
  return UInt16.ofNat (← Text.numberIn? 16 digits)

/-- Reads groups between colons; none from nothing. The last two may be written as an address of
version 4 where that is allowed. -/
def groups? (mayEndInOctets : Bool) (text : List Char) : Option (List UInt16) :=
  if text.isEmpty then some []
  else
    let parts := Text.split ':' text
    match (if mayEndInOctets then parts.getLast?.bind octets? else none) with
    | some [a, b, c, d] => do
      let groups ← parts.dropLast.mapM group?
      return groups ++
        [(a.toUInt16 <<< 8) + b.toUInt16, (c.toUInt16 <<< 8) + d.toUInt16]
    | _ => parts.mapM group?

/-- The two parts of a text around the first two colons in a row. -/
def splitGap? : List Char → Option (List Char × List Char)
  | ':' :: ':' :: rest => some ([], rest)
  | c :: rest => (splitGap? rest).map fun (before, after) => (c :: before, after)
  | [] => none

/-- Reads an address of version 6: eight groups, or fewer with a gap that stands for zeros. -/
def parse6? (text : List Char) : Option (List UInt16) :=
  match splitGap? text with
  | none => (groups? true text).filter (·.length == 8)
  | some (before, after) => do
    let before ← groups? false before
    let after ← groups? true after
    if before.length + after.length < 8 then
      return before ++ List.replicate (8 - before.length - after.length) 0 ++ after
    else none

def isLinkLocal (groups : List UInt16) : Bool :=
  groups.head?.any fun group => group &&& 0xFFC0 == 0xFE80

def isMulticast (groups : List UInt16) : Bool :=
  groups.head?.any fun group => group &&& 0xFF00 == 0xFF00

def isLinkMulticast (groups : List UInt16) : Bool :=
  groups.head?.any fun group => group &&& 0xFF0F == 0xFF02

def ownInterface : UInt32 := 1

def interface? (digits : List Char) : Option UInt32 :=
  ((Text.numberIn? 10 digits).filter (· < Nat.pow 2 32)).map UInt32.ofNat

/-- Reads an address of version 6 and an interface after a percent sign, if there is one. Within a
link it may be called by its name where that is allowed. -/
def parseScoped? (mayBeNamed : Bool) (text : List Char) : Option Host :=
  match Text.splitFirst? '%' text with
  | none => (parse6? text).map ofGroups
  | some (address, interface) => do
    let groups ← parse6? address
    if mayBeNamed && (isLinkLocal groups || isLinkMulticast groups) &&
        String.ofList interface == "lo" then
      return .v6 groups ownInterface
    else return .v6 groups (← interface? interface)

/-- Whether a name may be that of a host: labels of letters, digits, underscores and hyphens between
dots, with a last dot or without, and no hyphen in front. -/
def isName (name : List Char) : Bool :=
  let name := if name.getLast? == some '.' then name.dropLast else name
  name.isEmpty || (name.length ≤ 253 && name.head? != some '-' &&
    (Text.split '.' name).all fun label =>
      0 < label.length && label.length ≤ 63 &&
        label.all fun c => c.isAlphanum || c == '_' || c == '-')

/-- The host of a name. Names other than that of the machine itself are not known. -/
def lookup (name : String) : Except IoFault Host :=
  if name.toList.contains '\x00' then .error .zeroInPath
  else match (parse4? name.toList).or (parseScoped? true name.toList) with
    | some host => .ok host
    | none =>
      if name.toLower = "localhost" then .ok loopback
      else if name.isEmpty || !isName name.toList then .error .invalidHost
      else .error .unknownHost

/-- The host by its address of version 4, if it has one, also where that is written as one of
version 6. -/
def plain : Host → Host
  | .v4 address => .v4 address
  | .v6 groups interface =>
    match groups.drop 6 with
    | [high, low] =>
      if groups.take 6 == [0, 0, 0, 0, 0, 0xFFFF] then
        .v4 ((high.toUInt32 <<< 16) + low.toUInt32)
      else .v6 groups interface
    | _ => .v6 groups interface

def withoutInterface : Host → Host
  | .v4 address => .v4 address
  | .v6 groups _ => ofGroups groups

def isUnspecified (host : Host) : Bool :=
  match host.plain with
  | .v4 address => address == 0
  | .v6 groups _ => groups.all (· == 0)

def isLoopback (host : Host) : Bool :=
  match host.plain with
  | .v4 address => address >>> 24 == 127
  | .v6 groups _ => groups == [0, 0, 0, 0, 0, 0, 0, 1]

/-- Why connections cannot be accepted at a host, on a machine that has addresses for itself or one
that has no addresses at all. The latter does not refuse any address of version 4. -/
def bindFault? (addressed : Bool) (host : Host) : Option IoFault :=
  match host.plain with
  | .v4 address =>
    let shared := address >>> 28 == 14 || address == 0xFFFFFFFF
    if addressed && !(host.isLoopback || host.isUnspecified || shared) then
      some .addressNotAvailable
    else none
  | .v6 groups interface =>
    if isMulticast groups then some .invalidArgument
    else if isLinkLocal groups then
      if interface == 0 then some .invalidArgument
      else if interface == ownInterface then some .addressNotAvailable
      else some .noDevice
    else if host.isUnspecified || (addressed && host.isLoopback) then none
    else some .addressNotAvailable

def connectFault? (addressed : Bool) (host : Host) : Option IoFault :=
  match host.plain with
  | .v4 _ => if addressed then none else some .networkUnreachable
  | .v6 groups interface =>
    if isMulticast groups then some .networkUnreachable
    else if isLinkLocal groups && interface == 0 then some .invalidArgument
    else if addressed then none
    else some .addressNotAvailable

def groupsText (groups : List UInt16) : String :=
  ":".intercalate (groups.map fun group => String.ofList (Nat.toDigits 16 group.toNat))

/-- Where the longest run of two or more zeros starts, and its length. -/
def zeros? (groups : List UInt16) : Option (Nat × Nat) :=
  (List.range 7).findSome? fun short =>
    let length := 8 - short
    ((List.range (short + 1)).find? fun start =>
      ((groups.drop start).take length).all (· == 0)).map (·, length)

def octetsText (address : UInt32) : String :=
  let octet (shift : UInt32) : String := toString (address >>> shift).toUInt8
  ".".intercalate [octet 24, octet 16, octet 8, octet 0]

def text (host : Host) : String :=
  match host with
  | .v4 address => octetsText address
  | .v6 groups interface =>
    let address := match host.plain with
      | .v4 address => "::ffff:" ++ octetsText address
      | .v6 .. =>
        match zeros? groups with
        | some (start, length) =>
          groupsText (groups.take start) ++ "::" ++ groupsText (groups.drop (start + length))
        | none => groupsText groups
    if interface == 0 then address else address ++ "%" ++ toString interface

end Host

namespace Endpoint

def port? (digits : List Char) : Option UInt16 := do
  let value ← Text.numberIn? 10 digits
  if value < 65536 then return UInt16.ofNat value else none

/-- Where an address leads: a host and a port with a colon between them. The port may have a plus
sign, unless the host is an address of version 6 in brackets. -/
def resolve (address : String) : Except IoFault Endpoint := do
  let some (name, digits) := Text.splitLast? ':' address.toList | throw .invalidAddress
  let some port := port? (match digits with | '+' :: rest => rest | all => all)
    | throw .invalidPort
  let bracketed := match name with
    | '[' :: rest =>
      if rest.getLast? = some ']' ∧ digits.head? ≠ some '+' then
        Host.parseScoped? false rest.dropLast
      else none
    | _ => none
  match bracketed with
  | some host => return ⟨host, port⟩
  | none => return ⟨← Host.lookup (String.ofList name), port⟩

def text (endpoint : Endpoint) : String :=
  match endpoint.host with
  | .v4 _ => endpoint.host.text ++ ":" ++ toString endpoint.port
  | .v6 .. => "[" ++ endpoint.host.text ++ "]:" ++ toString endpoint.port

end Endpoint

end GridSchema
