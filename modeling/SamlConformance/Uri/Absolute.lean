import SamlConformance.Coding.Percent
import SamlConformance.Text.Blank
import SamlConformance.Domain.Name
import SamlConformance.Uri.Address

/-!
# Absolute URIs

A URI is absolute if it begins with a scheme. What has to follow depends on the
scheme. After the web schemes stands an authority with a host, whatever slashes
introduce it. A file may name a host. After all other schemes an authority
stands only if two slashes introduce it, its host is not interpreted, and
anything else is allowed. Path, query and fragment cannot be wrong.

## Main definitions

* `scheme?`: The scheme of a text and what follows it.
* `isAuthority`: User, host and port, up to the path.
* `isAbsolute`: The text is an absolute URI without blanks.
-/

namespace SamlConformance

namespace Uri

/-- How what follows a scheme is read. -/
inductive SchemeKind where
  /-- A web scheme, which needs a host. -/
  | web
  /-- Local files. -/
  | file
  /-- Every other scheme. -/
  | other
deriving Repr, DecidableEq

/-- The kind of a scheme, in any letter case. -/
def SchemeKind.of (scheme : List Char) : SchemeKind :=
  let s := String.ofList (scheme.map Char.toLower)
  if ["http", "https", "ws", "wss", "ftp"].contains s then .web
  else if s = "file" then .file
  else .other

/-- A character that may stand in a scheme after its first. -/
def isSchemeChar (c : Char) : Bool :=
  c.isAlphanum || c == '+' || c == '-' || c == '.'

/-- The scheme of a text and what follows its colon. -/
def scheme? (cs : List Char) : Option (List Char × List Char) :=
  match cs with
  | [] => none
  | c :: rest =>
    if c.isAlpha then
      match rest.dropWhile isSchemeChar with
      | ':' :: after => some (c :: rest.takeWhile isSchemeChar, after)
      | _ => none
    else none

/-- A character that ends an authority; a backslash does so in web addresses. -/
def endsAuthority (kind : SchemeKind) (c : Char) : Bool :=
  c == '/' || c == '?' || c == '#' || (kind == .web && c == '\\')

/-- Characters that a host must not hold even where it is not interpreted. -/
def isForbiddenInHost (c : Char) : Bool :=
  c == '\x00' || c == '\t' || c == '\n' || c == '\r' || c == ' ' ||
    "#/:<>?@[\\]^|".toList.contains c

/-- An address of version 6 in brackets; `cs` follows the opening one. -/
def isBracketed (cs : List Char) : Bool :=
  cs.getLast? == some ']' && isIpv6 cs.dropLast

/-- A host that is a domain name or an address. -/
def isWebHost : List Char → Bool
  | '[' :: cs => isBracketed cs
  | cs =>
    match Percent.decode (String.ofList cs) with
    | .error _ => false
    | .ok name =>
      match Domain.labels? name.toList with
      | none => false
      | some labels => labels != [[]] && (!endsInNumber labels || isIpv4 labels)

/-- A host that is not interpreted. -/
def isOtherHost : List Char → Bool
  | '[' :: cs => isBracketed cs
  | cs => !cs.any isForbiddenInHost

/-- The host at the front of an authority, and what follows it. A colon ends it
outside of brackets. -/
def hostOf (inBrackets : Bool) : List Char → List Char × List Char
  | [] => ([], [])
  | c :: cs =>
    if c = ':' ∧ !inBrackets then ([], c :: cs)
    else
      let r := hostOf (if c = '[' then true else if c = ']' then false else inBrackets) cs
      (c :: r.1, r.2)

/-- A port: digits of a number below 65536, or nothing. -/
def isPort (cs : List Char) : Bool :=
  cs.all Text.isDigit && Text.decimalOnto 0 cs < 65536

/-- The authority has user or password. -/
def namesUser (userinfo : List Char) : Bool :=
  !userinfo.isEmpty && userinfo != [':']

/-- User, host and port; `cs` begins where the authority does. -/
def isAuthority (kind : SchemeKind) (cs : List Char) : Bool :=
  let authority := cs.takeWhile fun c => !endsAuthority kind c
  let rest := cs.dropWhile fun c => !endsAuthority kind c
  let (userinfo, server) := match Text.cutLast '@' authority with
    | some (u, s) => (some u, s)
    | none => (none, authority)
  let (host, port) := hostOf false server
  if userinfo == some [] && server.isEmpty && !rest.isEmpty then false
  else
    (match kind with
      | .other =>
        isOtherHost host && !(host.isEmpty && (!port.isEmpty || namesUser (userinfo.getD [])))
      | _ => !host.isEmpty && isWebHost host) &&
    isPort ((port.drop 1).takeWhile (· ≠ '\\'))

/-- A letter with a colon or bar, as disks are named. -/
def isDriveLetter (cs : List Char) : Bool :=
  match cs with
  | [c, d] => c.isAlpha && (d == ':' || d == '|')
  | _ => false

/-- What may follow the scheme of a file. -/
def isFileRest : List Char → Bool
  | c :: d :: cs =>
    if (c == '/' || c == '\\') && (d == '/' || d == '\\') then
      let host := cs.takeWhile fun c => !endsAuthority .web c
      host.isEmpty || isDriveLetter host || isWebHost host
    else true
  | _ => true

/-- What may follow a scheme. -/
def isRest (kind : SchemeKind) (cs : List Char) : Bool :=
  match kind with
  | .web => isAuthority .web (cs.dropWhile fun c => c == '/' || c == '\\')
  | .file => isFileRest cs
  | .other =>
    match cs with
    | '/' :: '/' :: rest => isAuthority .other rest
    | _ => true

/-- A control character or a space, which do not count at the ends. -/
def isTrimmed (c : Char) : Bool :=
  c.toNat ≤ 0x20

/-- The text is an absolute URI; it holds something, and no blank. -/
def isAbsolute (s : String) : Bool :=
  !Text.allBlank s && !Text.anyBlank s &&
    let cs := ((s.toList.dropWhile isTrimmed).reverse.dropWhile isTrimmed).reverse
    match scheme? cs with
    | none => false
    | some (scheme, rest) => isRest (.of scheme) rest

end Uri

end SamlConformance
