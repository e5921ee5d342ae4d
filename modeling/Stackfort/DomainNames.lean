import Stackfort.CoreValues

/-! Names and paths a domain is made of. A host name is brought to one ASCII form, which the routing
uses, and one Unicode form, which is shown; a leading `www.` is dropped, so that a domain stands for
its base name and its `www` alias. The IDNA profile, the parser of addresses and the parser of URLs
are libraries outside the repository and enter as parameters. -/

namespace Stackfort

/-- A URL as `url.Parse` takes it apart. -/
structure ParsedURL where
  (scheme opaquePart : String)
  hasUser : Bool
  (host hostname port path rawPath : String)
  forceQuery : Bool
  (rawQuery fragment : String)

/-- The libraries the normalisation calls. A failing IDNA conversion reports a text. -/
structure NameServices where
  (toASCII toUnicode : String → Except String String)
  /-- The canonical text of an IP address, if the argument is one. -/
  parseAddr : String → Option String
  parseURL : String → Option ParsedURL
  formatURL : ParsedURL → String
  queryUnescape : String → Option String

structure NormalizedDomainName where
  (display ascii : String)
  deriving DecidableEq

/-! ### Texts -/

/-- The replacement character or one of the class `unicode.IsControl`. -/
def containsControl (value : String) : Bool :=
  value.toList.any fun c => c.toNat == 0xfffd || c.toNat < 0x20 || (0x7f ≤ c.toNat && c.toNat ≤ 0x9f)

def splitText (separator : Char) (value : String) : List String :=
  (value.toList.splitOn separator).map String.ofList

def toLowerASCII (value : String) : String := String.ofList (value.toList.map Char.toLower)

def hasTextSuffix (value suffix : String) : Bool := suffix.toList.isSuffixOf value.toList

/-- `left LIKE '%.' || right`, for names without wildcard characters. -/
def isSubdomainOf (left right : String) : Bool := hasTextSuffix left ("." ++ right)

def trimOneRootSeparator (value : String) : String :=
  match value.toList.getLast? with
  | none => value
  | some last =>
    if last = '.' ∨ last.toNat = 0x3002 ∨ last.toNat = 0xff0e ∨ last.toNat = 0xff61 then
      String.ofList value.toList.dropLast
    else value

/-! ### Host names -/

section

variable (services : NameServices)

def normalizeDomainName (input : String) : Except CoreError NormalizedDomainName := do
  let value := trimSpace input
  if value = "" ∨ containsControl value then
    throw (.invalidInput "domain name is empty or contains control characters")
  if value.toList.contains '*' then
    throw (.invalidInput "wildcard labels are configured as redirect behavior, not domain names")
  if value.toList.any fun c => "/\\@:#?[]".toList.contains c then
    throw (.invalidInput "domain name must not include a scheme, port, path, or credentials")
  let value := trimOneRootSeparator value
  if value = "" then
    throw (.invalidInput "domain name has no labels")
  match services.toASCII value with
  | .error text => throw (.invalidInput ("invalid IDNA domain: " ++ text))
  | .ok encoded =>
    let asciiName := toLowerASCII encoded
    if (splitText '.' asciiName).length < 2 then
      throw (.invalidInput "domain name must contain at least two DNS labels")
    if (services.parseAddr asciiName).isSome then
      throw (.invalidInput "an IP address is not a domain name")
    match services.toUnicode asciiName with
    | .error text => throw (.invalidInput ("decode normalized IDNA domain: " ++ text))
    | .ok displayName =>
      match services.toASCII displayName with
      | .error _ => throw (.invalidInput "domain name does not have a stable IDNA round trip")
      | .ok roundTrip =>
        if toLowerASCII roundTrip ≠ asciiName then
          throw (.invalidInput "domain name does not have a stable IDNA round trip")
        pure ⟨displayName, asciiName⟩

def normalizeDomainBase (input : String) : Except CoreError NormalizedDomainName := do
  let name ← normalizeDomainName services input
  let base := name.ascii.toList.drop 4
  if "www.".toList.isPrefixOf name.ascii.toList ∧ base.contains '.' then
    normalizeDomainName services (String.ofList base)
  else pure name

/-! ### Redirect targets -/

/-- `strconv.Atoi` on the digits of a port. -/
def parsePort (port : String) : Option Nat :=
  if port ≠ "" ∧ port.toList.all Char.isDigit then
    some (port.toList.foldl (fun value c => 10 * value + (c.toNat - 48)) 0)
  else none

def joinHostPort (host port : String) : String :=
  if host.toList.contains ':' ∨ host.toList.contains '%' then "[" ++ host ++ "]:" ++ port else host ++ ":" ++ port

/-- The text `Error()` gives for the errors of the normalisation. -/
def invalidInputText : CoreError → String
  | .invalidInput message => "invalid core record input: " ++ message
  | _ => "invalid core record input"

structure RedirectURL where
  (url asciiHost port : String)

def redirectHost (host : String) : Except CoreError String :=
  match services.parseAddr host with
  | some address => pure address
  | none =>
    match normalizeDomainName services host with
    | .error error => throw (.invalidInput ("redirect host: " ++ invalidInputText error))
    | .ok name => pure name.ascii

def normalizeRedirectURL (value : String) : Except CoreError RedirectURL := do
  let target := trimSpace value
  if target = "" ∨ 2048 < target.utf8ByteSize ∨ containsControl target then
    throw (.invalidInput "redirect target is empty, too long, or contains control characters")
  match services.parseURL target with
  | none => throw (.invalidInput "redirect target must be an absolute URL")
  | some parsed =>
    if parsed.opaquePart ≠ "" ∨ parsed.scheme = "" then
      throw (.invalidInput "redirect target must be an absolute URL")
    if toLowerASCII parsed.scheme ≠ "https" then
      throw (.invalidInput "redirect target must use HTTPS")
    if parsed.hasUser ∨ parsed.fragment ≠ "" ∨ parsed.hostname = "" then
      throw (.invalidInput "redirect target must not contain credentials or a fragment")
    if containsControl parsed.path then
      throw (.invalidInput "redirect path contains control characters")
    if (services.queryUnescape parsed.rawQuery).all containsControl then
      throw (.invalidInput "redirect query is malformed or contains control characters")
    let asciiHost ← redirectHost services parsed.hostname
    if parsed.port ≠ "" ∧ (parsePort parsed.port).all fun port => decide (port < 1 ∨ 65535 < port) then
      throw (.invalidInput "redirect target port is outside the valid range")
    let port := if parsed.port = "443" then "" else parsed.port
    let host :=
      if port ≠ "" then joinHostPort asciiHost port
      else if asciiHost.toList.contains ':' then "[" ++ asciiHost ++ "]"
      else asciiHost
    pure ⟨services.formatURL { parsed with scheme := "https", host := host }, asciiHost, port⟩

/-- The URLs an ACME server hands out. -/
def validateACMEURL (value field : String) (optional : Bool) : Except CoreError String := do
  let trimmed := trimSpace value
  if trimmed = "" ∧ optional then return ""
  if trimmed = "" ∨ trimmed ≠ value ∨ 2048 < trimmed.utf8ByteSize then
    throw (.invalidInput (field ++ " is invalid"))
  match services.parseURL trimmed with
  | none => throw (.invalidInput (field ++ " must be an absolute HTTPS URL"))
  | some parsed =>
    if parsed.scheme ≠ "https" ∨ parsed.host = "" ∨ parsed.hasUser ∨ parsed.fragment ≠ "" then
      throw (.invalidInput (field ++ " must be an absolute HTTPS URL"))
    pure trimmed

end

/-! ### Document roots -/

def maximumDocumentRootBytes : Nat := 1024

/-- The pattern `^[A-Za-z0-9][A-Za-z0-9._-]{0,254}$`. -/
def matchesSegmentPattern (segment : String) : Bool :=
  match segment.toList with
  | [] => false
  | first :: rest =>
    first.isAlphanum && decide (rest.length ≤ 254) &&
      rest.all fun c => c.isAlphanum || c == '.' || c == '_' || c == '-'

/-- `path.Clean` changes a relative path only if it has an empty segment or one of dots, and no such
segment matches the pattern. -/
def normalizeDocumentRoot (value : String) : Except CoreError String :=
  if value = "" ∨ trimSpace value ≠ value ∨ containsControl value ∨ value.toList.contains '\\' ∨
      value.toList.head? = some '/' ∨ maximumDocumentRootBytes < value.utf8ByteSize ∨
      (splitText '/' value).all matchesSegmentPattern = false then
    throw (.invalidInput "document root is not a canonical account-relative path")
  else pure value

/-- The pattern `^[0-9]+\.[0-9]+$`. -/
def matchesPHPVersionPattern (version : String) : Bool :=
  match splitText '.' version with
  | [major, minor] =>
    decide (major ≠ "" ∧ minor ≠ "") && major.toList.all Char.isDigit && minor.toList.all Char.isDigit
  | _ => false

/-! ### Sample values -/

namespace PanelSample

/-- Names that are ASCII already, and no URLs. -/
def plainNames : NameServices := ⟨.ok, .ok, fun _ => none, fun _ => none, fun _ => "", fun _ => none⟩

/-- A canonical identifier, for a number of two digits. -/
def sampleID (n : Nat) : ID := "00000000-0000-7000-8000-0000000000" ++ toString n

end PanelSample

end Stackfort
