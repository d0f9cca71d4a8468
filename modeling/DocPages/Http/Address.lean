import DocPages.Bytes

/-!
# Listen Addresses

A server listens on an address, a host and a port with a colon between them.  A host with colons stands
in square brackets.  The port is a number or the name of a service.

## Main definitions

- `Http.AddressError`: why an address cannot be listened on
- `Http.checkAddress`
-/

namespace DocPages

namespace Http

/-- Why an address cannot be listened on. -/
inductive AddressError where
  | missingPort (address : Bytes)
  | tooManyColons (address : Bytes)
  | missingBracket (address : Bytes)
  | unexpectedOpening (address : Bytes)
  | unexpectedClosing (address : Bytes)
  | invalidPort (port : Bytes)
  | unknownPort (port : Bytes)
  deriving DecidableEq, Repr

/-- The wording for an address. -/
def addressText (address : Bytes) (why : String) : Bytes :=
  (if address.isEmpty then [] else bytes "address " ++ address ++ bytes ": ") ++ bytes why

/-- The wording of an address error. -/
def AddressError.message (e : AddressError) : Bytes :=
  bytes "listen tcp: " ++
    match e with
    | .missingPort a => addressText a "missing port in address"
    | .tooManyColons a => addressText a "too many colons in address"
    | .missingBracket a => addressText a "missing ']' in address"
    | .unexpectedOpening a => addressText a "unexpected '[' in address"
    | .unexpectedClosing a => addressText a "unexpected ']' in address"
    | .invalidPort port => addressText port "invalid port"
    | .unknownPort port => bytes "lookup tcp/" ++ port ++ bytes ": unknown port"

/-- The port of an address: what follows the last colon.  Brackets may stand only around the host. -/
def portOf (address : Bytes) : Except AddressError Bytes :=
  let port := (address.reverse.takeWhile (· != byte ':')).reverse
  if port.length == address.length then .error (.missingPort address)
  else
    let host := address.take (address.length - port.length - 1)
    if address.head? == some (byte '[') then
      let inside := address.takeWhile (· != byte ']')
      let after := address.drop (inside.length + 1)
      if inside.length == address.length then .error (.missingBracket address)
      else if inside.length + 1 == host.length then
        if (address.drop 1).contains (byte '[') then .error (.unexpectedOpening address)
        else if after.contains (byte ']') then .error (.unexpectedClosing address)
        else .ok port
      else if after.head? == some (byte ':') then .error (.tooManyColons address)
      else .error (.missingPort address)
    else if host.contains (byte ':') then .error (.tooManyColons address)
    else if address.contains (byte '[') then .error (.unexpectedOpening address)
    else if address.contains (byte ']') then .error (.unexpectedClosing address)
    else .ok port

/-- The services that a port may be named for. -/
def services : List String :=
  ["domain", "ftp", "ftps", "gopher", "http", "https", "imap2", "imap3", "imaps", "pop3", "pop3s",
    "smtp", "submissions", "ssh", "telnet"]

/-- Checks a port: at most 65535, or the name of a service. -/
def checkPort (port : Bytes) : Except AddressError Unit :=
  let digits := match port with
    | 0x2B :: rest | 0x2D :: rest => rest
    | _ => port
  if digits.all Bytes.isDigit then
    let size := digits.foldl (fun n b => n * 10 + (b.toNat - 0x30)) 0
    if size == 0 || (size ≤ 65535 && port.head? != some (byte '-')) then .ok ()
    else .error (.invalidPort port)
  else if services.any fun s => bytes s == port.map Bytes.lower then .ok ()
  else .error (.unknownPort port)

/-- Checks an address before it is listened on. -/
def checkAddress (address : Bytes) : Except AddressError Unit :=
  match portOf address with
  | .error e => .error e
  | .ok port => checkPort port

end Http

end DocPages
