import Mathlib.Data.List.Infix
import Mathlib.Data.List.Sort
import Mathlib.Data.String.Basic
import Stackfort.BinaryRounding
import Stackfort.TableRows

/-! Values that cross the boundary of the core repository: identifiers, bounded texts, JSON objects
and the errors a rejected value produces. Every check is the one the repository makes before it
opens a transaction, with the field it names and the text it reports. A Go string is a Lean string:
the code counts runes, and inputs that are not valid UTF-8 are not modelled. -/

namespace Stackfort

/-- An opaque identifier. The Go type is a string as well; `validateID` is what makes it a canonical
UUIDv7. -/
abbrev ID := String

/-- The sentinel errors of the core package. A message is what the code formats after the
sentinel; `internal` stands for errors that wrap none of them. -/
inductive CoreError where
  | invalidInput (message : String)
  | notFound (message : String)
  | conflict (message : String)
  | acmeAccountRequired
  | noOperationAvailable
  | operationLeaseLost
  | operationCancellationRequested
  | internal (message : String)
  deriving DecidableEq

/-! ### Identifiers -/

def isLowerHexDigit (c : Char) : Bool := ('0' ≤ c && c ≤ '9') || ('a' ≤ c && c ≤ 'f')

/-- The canonical lowercase form of a version 7 UUID: the parsed value prints as the input and its
version nibble is seven. -/
def isCanonicalUUIDv7 (value : String) : Bool :=
  let characters := value.toList
  characters.length == 36 &&
    (characters.zipIdx.all fun entry =>
      if entry.2 = 8 ∨ entry.2 = 13 ∨ entry.2 = 18 ∨ entry.2 = 23 then entry.1 == '-'
      else isLowerHexDigit entry.1) &&
    characters[14]? == some '7'

def validateID (value : ID) (field : String) : Except CoreError Unit :=
  if isCanonicalUUIDv7 value then pure ()
  else throw (.invalidInput (field ++ ": identifier must be a canonical UUIDv7"))

def validateOptionalID (value : Option ID) (field : String) : Except CoreError Unit :=
  match value with
  | none => pure ()
  | some id => validateID id field

/-! ### Bounded texts -/

/-- White space in the sense of `unicode.IsSpace`. -/
def isSpace (c : Char) : Bool :=
  c == ' ' || (0x09 ≤ c.toNat && c.toNat ≤ 0x0d) || c.toNat == 0x85 || c.toNat == 0xa0 ||
    c.toNat == 0x1680 || (0x2000 ≤ c.toNat && c.toNat ≤ 0x200a) || c.toNat == 0x2028 ||
    c.toNat == 0x2029 || c.toNat == 0x202f || c.toNat == 0x205f || c.toNat == 0x3000

def trimSpace (value : String) : String :=
  String.ofList (((value.toList.dropWhile isSpace).reverse.dropWhile isSpace).reverse)

def validateText (value field : String) (minimum maximum : Nat) : Except CoreError String :=
  let normalized := trimSpace value
  if normalized.length < minimum ∨ maximum < normalized.length then
    throw (.invalidInput (field ++ " length must be between " ++ toString minimum ++ " and " ++
      toString maximum))
  else pure normalized

def validateOptionalText (value field : String) (maximum : Nat) : Except CoreError String :=
  if trimSpace value = "" then pure "" else validateText value field 1 maximum

/-- The pattern `^[a-z][a-z0-9_.-]*$`. -/
def matchesActionPattern (value : String) : Bool :=
  match value.toList with
  | [] => false
  | first :: rest =>
    ('a' ≤ first && first ≤ 'z') &&
      rest.all fun c =>
        ('a' ≤ c && c ≤ 'z') || ('0' ≤ c && c ≤ '9') || c == '_' || c == '.' || c == '-'

def validateAction (value field : String) (maximum : Nat) : Except CoreError String := do
  let normalized ← validateText value field 1 maximum
  if matchesActionPattern normalized then pure normalized
  else throw (.invalidInput (field ++ " contains unsupported characters"))

/-! ### JSON objects -/

/-- A JSON value. Its numbers are the integers of the Go types, which have at most 64 bits. -/
inductive Json where
  | null
  | bool (value : Bool)
  | number (value : Int)
  | string (value : String)
  | array (elements : List Json)
  | object (fields : List (String × Json))

namespace Json

def hexDigit (n : Nat) : Char := "0123456789abcdef".toList.getD n '0'

/-- The escapes of `json.Marshal`, which also escapes the HTML characters and the two line
separators. -/
def escapeChar (c : Char) : List Char :=
  if c = '"' then ['\\', '"']
  else if c = '\\' then ['\\', '\\']
  else if c.toNat = 0x08 then ['\\', 'b']
  else if c.toNat = 0x0c then ['\\', 'f']
  else if c = '\n' then ['\\', 'n']
  else if c = '\r' then ['\\', 'r']
  else if c = '\t' then ['\\', 't']
  else if c.toNat < 0x20 ∨ c = '<' ∨ c = '>' ∨ c = '&' then
    ['\\', 'u', '0', '0', hexDigit (c.toNat / 16), hexDigit (c.toNat % 16)]
  else if c.toNat = 0x2028 then "\\u2028".toList
  else if c.toNat = 0x2029 then "\\u2029".toList
  else [c]

def quote (value : String) : String := String.ofList ('"' :: value.toList.flatMap escapeChar ++ ['"'])

mutual

/-- The canonical encoding: object fields in key order and no white space. -/
def encode : Json → String
  | .null => "null"
  | .bool value => if value then "true" else "false"
  | .number value => toString value
  | .string value => quote value
  | .array elements => "[" ++ String.intercalate "," (encodeElements elements) ++ "]"
  | .object fields =>
    let sorted := (encodeFields fields).insertionSort fun left right => left.1 ≤ right.1
    "\x7b" ++ String.intercalate "," (sorted.map fun field => quote field.1 ++ ":" ++ field.2) ++ "\x7d"

def encodeElements : List Json → List String
  | [] => []
  | element :: rest => element.encode :: encodeElements rest

def encodeFields : List (String × Json) → List (String × String)
  | [] => []
  | (key, value) :: rest => (key, value.encode) :: encodeFields rest

end

/-- The integer that `json.Marshal` prints for the `float64` an integer is decoded to: the shortest decimal
that is read as the same number. Exponents are printed only from 10²¹ on. -/
def canonicalInteger : Int → Int
  | .ofNat n => Binary.printed 53 n
  | .negSucc n => -Binary.printed 53 (n + 1)

mutual

/-- The value that decoding and encoding a value again leaves. -/
def canonical : Json → Json
  | .null => .null
  | .bool value => .bool value
  | .number value => .number (canonicalInteger value)
  | .string value => .string value
  | .array elements => .array (canonicalElements elements)
  | .object fields => .object (canonicalFields fields)

def canonicalElements : List Json → List Json
  | [] => []
  | element :: rest => element.canonical :: canonicalElements rest

def canonicalFields : List (String × Json) → List (String × Json)
  | [] => []
  | (key, value) :: rest => (key, value.canonical) :: canonicalFields rest

end

mutual

/-- How deep arrays and objects are nested. -/
def depth : Json → Nat
  | .array elements => elementsDepth elements + 1
  | .object fields => fieldsDepth fields + 1
  | _ => 0

def elementsDepth : List Json → Nat
  | [] => 0
  | element :: rest => max element.depth (elementsDepth rest)

def fieldsDepth : List (String × Json) → Nat
  | [] => 0
  | (_, value) :: rest => max value.depth (fieldsDepth rest)

end

end Json

/-- Key fragments that mark secret material. -/
def auditForbiddenPieces : List String :=
  ["authorization", "cookie", "credential", "csrf", "password", "privatekey", "secret", "token"]

/-- What the key filter keeps of a character: letters and digits, lowered. The Kelvin sign and the
dotted capital I are the two letters outside ASCII whose lowercase form is an ASCII letter; other
characters outside ASCII are kept as letters. -/
def normalizedKeyChar (c : Char) : Option Char :=
  if ('a' ≤ c ∧ c ≤ 'z') ∨ ('0' ≤ c ∧ c ≤ '9') then some c
  else if 'A' ≤ c ∧ c ≤ 'Z' then some (Char.ofNat (c.toNat + 32))
  else if c.toNat = 0x212a then some 'k'
  else if c.toNat = 0x130 then some 'i'
  else if c.toNat < 0x80 then none
  else some c

def isSecretKey (key : String) : Bool :=
  let normalized := key.toList.filterMap normalizedKeyChar
  auditForbiddenPieces.any fun piece => normalized.tails.any piece.toList.isPrefixOf

mutual

def rejectAuditSecrets : Json → String → Except CoreError Unit
  | .object fields, path => rejectSecretFields fields path
  | .array elements, path => rejectSecretElements elements path 0
  | _, _ => pure ()

def rejectSecretFields : List (String × Json) → String → Except CoreError Unit
  | [], _ => pure ()
  | (key, child) :: rest, path => do
      if isSecretKey key then
        throw (.invalidInput ("audit field " ++ path ++ "." ++ key ++ " may contain secret material"))
      rejectAuditSecrets child (path ++ "." ++ key)
      rejectSecretFields rest path

def rejectSecretElements : List Json → String → Nat → Except CoreError Unit
  | [], _, _ => pure ()
  | child :: rest, path, index => do
      rejectAuditSecrets child (path ++ "[" ++ toString index ++ "]")
      rejectSecretElements rest path (index + 1)

end

/-- An object argument: a list of fields. `nil` and the empty map encode alike. -/
abbrev JsonObject := List (String × Json)

/-- How deep a document may be nested before `json.Unmarshal` refuses it. -/
def maxNestingDepth : Nat := 10000

/-- The canonical text of an object. The bound is on the text before it is decoded and encoded again. -/
def encodeObject (value : JsonObject) (maximum : Nat) : Except CoreError String :=
  if maximum < (Json.object value).encode.utf8ByteSize then
    throw (.invalidInput ("JSON object exceeds " ++ toString maximum ++ " bytes"))
  else if maxNestingDepth < (Json.object value).depth then
    throw (.invalidInput "normalize JSON object: exceeded max depth")
  else pure (Json.object (Json.canonicalFields value)).encode

/-- The canonical text of an object, once its size is bounded and no key names secret material. The object
that is decoded from the text is `Json.canonicalFields value`. -/
def encodeSafeOperationObject (value : JsonObject) (maximum : Nat) : Except CoreError String := do
  let encoded ← encodeObject value maximum
  rejectAuditSecrets (.object (Json.canonicalFields value)) "operation"
  pure encoded

def maxOperationJSONBytes : Nat := 2 ^ 20

def maxOperationEventDetailsBytes : Nat := 16 * 2 ^ 10

/-- Equal canonical texts, provided both objects pass the checks of an operation payload. -/
def objectsEqual (left right : JsonObject) : Bool :=
  match encodeSafeOperationObject left maxOperationJSONBytes,
    encodeSafeOperationObject right maxOperationJSONBytes with
  | .ok leftJSON, .ok rightJSON => leftJSON == rightJSON
  | _, _ => false

/-! ### Canonical values -/

namespace Json

theorem canonicalInteger_canonicalInteger (value : Int) :
    canonicalInteger (canonicalInteger value) = canonicalInteger value := by
  have hprinted : ∀ n : Nat, canonicalInteger (Binary.printed 53 n : Nat) = (Binary.printed 53 n : Nat) := by
    intro n
    show ((Binary.printed 53 (Binary.printed 53 n) : Nat) : Int) = _
    rw [Binary.printed_printed (by omega)]
  cases value with
  | ofNat n => exact hprinted n
  | negSucc n =>
    show canonicalInteger (-(Binary.printed 53 (n + 1) : Nat)) = -(Binary.printed 53 (n + 1) : Nat)
    have hsame := Binary.printed_printed (p := 53) (by omega) (n + 1)
    cases hprinted : Binary.printed 53 (n + 1) with
    | zero => rfl
    | succ k =>
      rw [hprinted] at hsame
      show -((Binary.printed 53 (k + 1) : Nat) : Int) = -((k + 1 : Nat) : Int)
      rw [hsame]

mutual

theorem canonical_canonical : ∀ value : Json, value.canonical.canonical = value.canonical
  | .null => by simp only [canonical]
  | .bool _ => by simp only [canonical]
  | .number value => by simp only [canonical, canonicalInteger_canonicalInteger]
  | .string _ => by simp only [canonical]
  | .array elements => by simp only [canonical, canonicalElements_canonicalElements elements]
  | .object fields => by simp only [canonical, canonicalFields_canonicalFields fields]

theorem canonicalElements_canonicalElements :
    ∀ elements : List Json, canonicalElements (canonicalElements elements) = canonicalElements elements
  | [] => rfl
  | element :: rest => by
      simp only [canonicalElements, canonical_canonical element, canonicalElements_canonicalElements rest]

theorem canonicalFields_canonicalFields :
    ∀ fields : List (String × Json), canonicalFields (canonicalFields fields) = canonicalFields fields
  | [] => rfl
  | (_, value) :: rest => by
      simp only [canonicalFields, canonical_canonical value, canonicalFields_canonicalFields rest]

end

mutual

theorem depth_canonical : ∀ value : Json, value.canonical.depth = value.depth
  | .null => by simp only [canonical]
  | .bool _ => by simp only [canonical]
  | .number _ => by simp only [canonical, depth]
  | .string _ => by simp only [canonical]
  | .array elements => by simp only [canonical, depth, elementsDepth_canonicalElements elements]
  | .object fields => by simp only [canonical, depth, fieldsDepth_canonicalFields fields]

theorem elementsDepth_canonicalElements :
    ∀ elements : List Json, elementsDepth (canonicalElements elements) = elementsDepth elements
  | [] => rfl
  | element :: rest => by
      simp only [canonicalElements, elementsDepth, depth_canonical element, elementsDepth_canonicalElements rest]

theorem fieldsDepth_canonicalFields :
    ∀ fields : List (String × Json), fieldsDepth (canonicalFields fields) = fieldsDepth fields
  | [] => rfl
  | (_, value) :: rest => by
      simp only [canonicalFields, fieldsDepth, depth_canonical value, fieldsDepth_canonicalFields rest]

end

end Json

/-- An object as it is stored: in canonical form, nested as the decoder allows and without secret keys. -/
structure StoredObject (value : JsonObject) : Prop where
  canonical : Json.canonicalFields value = value
  nesting : (Json.object value).depth ≤ maxNestingDepth
  safe : rejectAuditSecrets (.object value) "operation" = .ok ()

variable {value : JsonObject} {maximum : Nat}

theorem storedObject_of_encode {text : String} (h : encodeSafeOperationObject value maximum = .ok text) :
    StoredObject (Json.canonicalFields value) := by
  simp only [encodeSafeOperationObject, bind_eq_ok_iff] at h
  obtain ⟨encoded, hencoded, ⟨⟩, hsafe, -⟩ := h
  refine ⟨Json.canonicalFields_canonicalFields value, ?_, hsafe⟩
  have hdepth := Json.depth_canonical (.object value)
  rw [Json.canonical] at hdepth
  rw [hdepth]
  simp only [encodeObject, ite_throw_eq_ok_iff] at hencoded
  exact Nat.le_of_not_lt hencoded.2.1

/-- A stored object is encoded again exactly when its text is within the bound. -/
theorem StoredObject.encode (h : StoredObject value) (maximum : Nat) :
    (encodeSafeOperationObject value maximum = .ok (Json.object value).encode ∧
        (Json.object value).encode.utf8ByteSize ≤ maximum) ∨
      ((∃ error, encodeSafeOperationObject value maximum = .error error) ∧
        maximum < (Json.object value).encode.utf8ByteSize) := by
  rcases Nat.lt_or_ge maximum (Json.object value).encode.utf8ByteSize with hlarge | hsmall
  · right
    refine ⟨⟨.invalidInput ("JSON object exceeds " ++ toString maximum ++ " bytes"), ?_⟩, hlarge⟩
    rw [encodeSafeOperationObject, encodeObject, if_pos hlarge]
    rfl
  · left
    refine ⟨?_, hsmall⟩
    rw [encodeSafeOperationObject, encodeObject, if_neg (Nat.not_lt.mpr hsmall), if_neg (Nat.not_lt.mpr h.nesting),
      h.canonical, pure_eq_ok, ok_bind, h.safe]
    rfl

/-- Stored objects are equal for the repository when their texts are, provided that the text is within the
bound of a payload. -/
theorem objectsEqual_iff {left right : JsonObject} (hleft : StoredObject left) (hright : StoredObject right) :
    objectsEqual left right = true ↔
      (Json.object left).encode = (Json.object right).encode ∧
        (Json.object left).encode.utf8ByteSize ≤ maxOperationJSONBytes := by
  unfold objectsEqual
  rcases hleft.encode maxOperationJSONBytes with ⟨hencode, hsize⟩ | ⟨⟨error, hencode⟩, hsize⟩
  · rw [hencode]
    rcases hright.encode maxOperationJSONBytes with ⟨hencode', hsize'⟩ | ⟨⟨error, hencode'⟩, hsize'⟩
    · rw [hencode']
      simp [hsize]
    · rw [hencode']
      simp only [Bool.false_eq_true, false_iff, not_and]
      intro heq
      rw [heq] at hsize
      omega
  · rw [hencode]
    simp only [Bool.false_eq_true, false_iff, not_and]
    intro _
    omega

/-! ### Rejected input -/

/-- The error is one of rejected input. -/
def CoreError.IsInvalidInput : CoreError → Prop
  | .invalidInput _ => True
  | _ => False

variable {error : CoreError}

theorem validateText_error {value field : String} {minimum maximum : Nat}
    (h : validateText value field minimum maximum = .error error) : error.IsInvalidInput := by
  simp only [validateText] at h
  split at h
  · cases h
    trivial
  · cases h

theorem validateAction_error {value field : String} (h : validateAction value field maximum = .error error) :
    error.IsInvalidInput := by
  rcases Except.bind_eq_error_iff.mp h with htext | ⟨normalized, -, h⟩
  · exact validateText_error htext
  · split at h
    · cases h
    · cases h
      trivial

mutual

theorem rejectAuditSecrets_error : ∀ (value : Json) (path : String) {error : CoreError},
    rejectAuditSecrets value path = .error error → error.IsInvalidInput
  | .object fields, path, _, h => rejectSecretFields_error fields path (by simpa [rejectAuditSecrets] using h)
  | .array elements, path, _, h => rejectSecretElements_error elements path 0 (by simpa [rejectAuditSecrets] using h)
  | .null, path, _, h => by simp [rejectAuditSecrets] at h; cases h
  | .bool _, path, _, h => by simp [rejectAuditSecrets] at h; cases h
  | .number _, path, _, h => by simp [rejectAuditSecrets] at h; cases h
  | .string _, path, _, h => by simp [rejectAuditSecrets] at h; cases h

theorem rejectSecretFields_error : ∀ (fields : List (String × Json)) (path : String) {error : CoreError},
    rejectSecretFields fields path = .error error → error.IsInvalidInput
  | [], path, _, h => by simp [rejectSecretFields] at h; cases h
  | (key, child) :: rest, path, error, h => by
      simp only [rejectSecretFields] at h
      split at h
      · cases h
        trivial
      · rcases Except.bind_eq_error_iff.mp h with hchild | ⟨_, -, hrest⟩
        · exact rejectAuditSecrets_error child _ hchild
        · exact rejectSecretFields_error rest path hrest

theorem rejectSecretElements_error : ∀ (elements : List Json) (path : String) (index : Nat) {error : CoreError},
    rejectSecretElements elements path index = .error error → error.IsInvalidInput
  | [], path, index, _, h => by simp [rejectSecretElements] at h; cases h
  | child :: rest, path, index, error, h => by
      simp only [rejectSecretElements] at h
      rcases Except.bind_eq_error_iff.mp h with hchild | ⟨_, -, hrest⟩
      · exact rejectAuditSecrets_error child _ hchild
      · exact rejectSecretElements_error rest path _ hrest

end

theorem encodeSafeOperationObject_error (h : encodeSafeOperationObject value maximum = .error error) :
    error.IsInvalidInput := by
  rcases Except.bind_eq_error_iff.mp h with hencode | ⟨encoded, -, h⟩
  · simp only [encodeObject] at hencode
    split at hencode
    · cases hencode
      trivial
    · split at hencode
      · cases hencode
        trivial
      · cases hencode
  · rcases Except.bind_eq_error_iff.mp h with hreject | ⟨_, -, h⟩
    · exact rejectAuditSecrets_error _ _ hreject
    · cases h

end Stackfort
