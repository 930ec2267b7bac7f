import Mathlib.Algebra.BigOperators.Group.List.Basic
import Parqonaut.Rust.Str

/-!
# URLs

The parser of the URL standard, as the `url` crate implements it, for texts that start with
`file://` or with a scheme that is not special. Texts are lists of characters; a path is a list of
percent-encoded segments. Host names, IPv6 addresses, texts of another form and the one letter on
which versions of the crate disagree are parameters.
-/

namespace Parqonaut.Rust.UrlCrate

abbrev Text := List Char

inductive ParseError where
  | emptyHost
  | idnaError
  | invalidPort
  | invalidIpv4Address
  | invalidIpv6Address
  | invalidDomainCharacter
  | relativeUrlWithoutBase

def ParseError.display : ParseError → String
  | .emptyHost => "empty host"
  | .idnaError => "invalid international domain name"
  | .invalidPort => "invalid port number"
  | .invalidIpv4Address => "invalid IPv4 address"
  | .invalidIpv6Address => "invalid IPv6 address"
  | .invalidDomainCharacter => "invalid domain character"
  | .relativeUrlWithoutBase => "relative URL without a base"

structure Url where
  scheme : String
  username : Text
  password : Option Text
  host : Option Text
  path : List Text

/-- `Url::path`. -/
def Url.pathText (url : Url) : Text := url.path.flatMap ('/' :: ·)

/-! ## Letters -/

variable (isFile : Bool) (c : Char) (text : Text)

def isHexDigit : Bool :=
  ('0' ≤ c && c ≤ '9') || ('a' ≤ c && c ≤ 'f') || ('A' ≤ c && c ≤ 'F')

def hexValue : Nat :=
  if c ≤ '9' then c.toNat - '0'.toNat
  else if c ≤ 'F' then c.toNat - 'A'.toNat + 10
  else c.toNat - 'a'.toNat + 10

def hexDigit (value : Nat) : Char :=
  if value < 10 then Char.ofNat ('0'.toNat + value) else Char.ofNat ('A'.toNat + (value - 10))

def isTabOrNewline : Bool := c = '\t' || c = '\n' || c = '\r'

def isC0OrSpace : Bool := c.toNat ≤ 0x20

/-- The C0 control percent-encode set. -/
def isControl : Bool := c.toNat < 0x20 || 0x7e < c.toNat

/-- Path percent-encode set: a newer version of the standard has `^`, too. -/
def isPathEncoded (caret : Bool) (c : Char) : Bool :=
  isControl c || [0x20, 0x22, 0x23, 0x3c, 0x3e, 0x3f, 0x60, 0x7b, 0x7d].contains c.toNat ||
    (caret && c = '^')

def isForbiddenHost : Bool :=
  c = '\x00' || isTabOrNewline c || [' ', '#', '/', ':', '<', '>', '?', '@', '[', '\\', ']', '^',
    '|'].contains c

def isIpv6Letter : Bool := isHexDigit c || c = ':' || c = '.'

/-! ## Percent-encoding -/

def utf8 : List UInt8 := text.flatMap String.utf8EncodeChar

def fromUtf8 (bytes : List UInt8) : Option String := String.fromUTF8? bytes.toByteArray

def escaped (byte : UInt8) : Text :=
  ['%', hexDigit (byte.toNat / 16), hexDigit (byte.toNat % 16)]

def encodeChar (isEncoded : Char → Bool) (c : Char) : Text :=
  if isEncoded c then (String.utf8EncodeChar c).flatMap escaped else [c]

def percentEncode (isEncoded : Char → Bool) (text : Text) : Text :=
  text.flatMap (encodeChar isEncoded)

/-- `percent_decode`: a percent sign without two digits stands for itself. -/
def percentDecode : Text → List UInt8
  | c :: high :: low :: rest =>
    if c = '%' && isHexDigit high && isHexDigit low then
      UInt8.ofNat (hexValue high * 16 + hexValue low) :: percentDecode rest
    else String.utf8EncodeChar c ++ percentDecode (high :: low :: rest)
  | text => utf8 text

/-! ## Paths -/

def singleDots : List Text := [".", "%2e", "%2E"].map String.toList

def doubleDots : List Text :=
  ["..", "%2e%2e", "%2e%2E", "%2E%2e", "%2E%2E", "%2e.", "%2E.", ".%2e", ".%2E"].map String.toList

def isDriveLetter : Text → Bool
  | [letter, mark] => letter.isAlpha && (mark = ':' || mark = '|')
  | _ => false

def isNormalizedDriveLetter : Text → Bool
  | [letter, mark] => letter.isAlpha && mark = ':'
  | _ => false

/-- Shorten a path; the drive of a `file` path stays. -/
def shorten (path : List Text) : List Text :=
  match path with
  | [segment] => if isFile && isNormalizedDriveLetter segment then path else []
  | _ => path.dropLast

/-- The drive letter at the start of a `file` path is written with a colon. -/
def drive (path : List Text) (segment : Text) : Text :=
  match segment with
  | [letter, _] =>
    if isFile && path.isEmpty && isDriveLetter segment then [letter, ':'] else segment
  | _ => segment

/-- A dot segment at the end leaves an empty one. -/
def closing (isLast : Bool) : List Text := if isLast then [[]] else []

def addSegment (path : List Text) (segment : Text) (isLast : Bool) : List Text :=
  if segment ∈ doubleDots then shorten isFile path ++ closing isLast
  else if segment ∈ singleDots then path ++ closing isLast
  else path ++ [drive isFile path segment]

def addSegments (path : List Text) : List Text → List Text
  | [] => path
  | segment :: rest =>
    addSegments (addSegment isFile path segment rest.isEmpty) rest

def isSeparator : Bool := c = '/' || (isFile && c = '\\')

/-- Text before the query and the fragment. -/
def beforeQuery : Text := text.takeWhile fun c => c ≠ '?' && c ≠ '#'

def parsePath (caret isFile : Bool) (text : Text) : List Text :=
  addSegments isFile [] ((text.splitOnP (isSeparator isFile)).map
    (percentEncode (isPathEncoded caret)))

/-! ## Parser -/

/-- What the model leaves open of the crate. -/
structure Crate where
  parseHost : Text → Except ParseError Text
  parseIpv6 : Text → Except ParseError Text
  ipv6_letters : ∀ text address, parseIpv6 text = .ok address → ∀ c ∈ address, isIpv6Letter c
  encodesCaret : Bool
  parseOther : Text → Except ParseError Url

variable (crate : Crate)

namespace Crate

/-- Leading and trailing controls and spaces, tabs and newlines are removed. -/
def cleaned (text : Text) : Text :=
  ((text.dropWhile isC0OrSpace).rdropWhile isC0OrSpace).filter fun c => !isTabOrNewline c

def isAuthorityEnd (isFile : Bool) (c : Char) : Bool :=
  isSeparator isFile c || c = '?' || c = '#'

def fileHost (authority : Text) : Except ParseError (Option Text) :=
  if authority = [] then .ok none
  else do
    let host ← crate.parseHost authority
    return if host = "localhost".toList then none else some host

/-- Path after the authority. -/
def afterSeparator (isFile : Bool) : Text → Text
  | [] => []
  | c :: rest => if isSeparator isFile c then rest else c :: rest

def fileUrl (host : Option Text) (path : Text) : Url where
  scheme := "file"
  username := []
  password := none
  host := host
  path := parsePath crate.encodesCaret true path

/-- What follows `file://`. -/
def parseFile (rest : Text) : Except ParseError Url :=
  let authority := rest.takeWhile fun c => !isAuthorityEnd true c
  let after := rest.dropWhile fun c => !isAuthorityEnd true c
  if isDriveLetter authority then .ok (crate.fileUrl none (beforeQuery rest))
  else do
    let host ← crate.fileHost authority
    return crate.fileUrl host (afterSeparator true (beforeQuery after))

/-- `Host::parse_opaque`. -/
def opaqueHost (text : Text) : Except ParseError Text :=
  match text with
  | '[' :: rest =>
    if rest.getLast? = some ']' then do
      let address ← crate.parseIpv6 rest.dropLast
      return '[' :: address ++ [']']
    else .error .invalidIpv6Address
  | _ =>
    if text.any isForbiddenHost then .error .invalidDomainCharacter
    else .ok (percentEncode isControl text)

/-- Host and the text after the colon that is not in brackets. -/
def splitPort (inside : Bool) : Text → Text × Option Text
  | [] => ([], none)
  | c :: rest =>
    if c = ':' && !inside then ([], some rest)
    else
      let (host, port) := splitPort (if c = '[' then true else if c = ']' then false else inside)
        rest
      (c :: host, port)

def isPort (text : Text) : Bool :=
  text.all Char.isDigit && Nat.ofDigitChars 10 text 0 ≤ 65535

/-- Credentials before the last `@`, and the rest. -/
def splitCredentials (authority : Text) : Text × Text :=
  if '@' ∈ authority then
    ((authority.rdropWhile (· ≠ '@')).dropLast, authority.rtakeWhile (· ≠ '@'))
  else ([], authority)

def usernameOf (credentials : Text) : Text := credentials.takeWhile (· ≠ ':')

def passwordOf (credentials : Text) : Option Text :=
  match (credentials.dropWhile (· ≠ ':')).drop 1 with
  | [] => none
  | password => some password

def authorityHost (credentials host : Text) (port : Option Text) :
    Except ParseError (Option Text) :=
  if host = [] then
    if credentials ≠ [] ∨ port ≠ none then .error .emptyHost else .ok none
  else if port.all isPort then do
    let parsed ← crate.opaqueHost host
    return some parsed
  else .error .invalidPort

/-- What follows the scheme and `//` where the scheme is not a special one. -/
def parseAuthority (scheme : String) (rest : Text) : Except ParseError Url := do
  let authority := rest.takeWhile fun c => !isAuthorityEnd false c
  let after := beforeQuery (rest.dropWhile fun c => !isAuthorityEnd false c)
  let (credentials, hostText) := splitCredentials authority
  let (hostName, port) := splitPort false hostText
  let host ← crate.authorityHost credentials hostName port
  return {
    scheme := scheme
    username := usernameOf credentials
    password := passwordOf credentials
    host := host
    path := if after = [] then []
      else parsePath crate.encodesCaret false (afterSeparator false after) }

/-- `Url::parse`, for texts of the two forms. -/
def parse (text : Text) : Except ParseError Url :=
  let input := cleaned text
  if "file://".toList.isPrefixOf input then crate.parseFile (input.drop 7)
  else if "s3://".toList.isPrefixOf input then crate.parseAuthority "s3" (input.drop 5)
  else crate.parseOther input

end Crate

/-- `Url::to_file_path`, without the separator after a final drive letter. -/
def Url.toFilePath (url : Url) : Option (List UInt8) :=
  if url.host = none then some (url.path.flatMap fun segment => 47 :: percentDecode segment)
  else none

end Parqonaut.Rust.UrlCrate
