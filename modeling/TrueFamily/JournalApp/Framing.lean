import TrueFamily.JournalApp.Protocol
import TrueFamily.Lib.Chunked
import TrueFamily.Lib.Splitting

/-!
# Request framing

`StrictHttpServer._read_request`: the header block up to the first blank line, its strict parser,
and the body of the declared length. The timeouts are left out; the reader holds what the
connection sends, cut into chunks.
-/

namespace TrueFamily.JournalApp

open Checked JsonValue Chunked Splitting

abbrev Bytes := List UInt8

/-! ## The server and its requests -/

/-- What `_read_request` reads of `StrictHttpServer`. -/
structure StrictHttpServer where
  maxHeaderBytes : ℕ
  bootId : Text
  atLeast : 256 ≤ maxHeaderBytes

/-- `StrictHttpRequest`. A header is listed where it stands in the request. -/
structure StrictHttpRequest where
  method : Text
  path : Text
  headers : List (Text × Text)
  body : Bytes
  deriving DecidableEq

def maxContentLengthDigits : ℕ := 10

/-- The blank line, with the end of the line before it. -/
def blankLine : Bytes := [0x0d, 0x0a, 0x0d, 0x0a]

/-! ## Texts -/

/-- `bytes.decode("ascii", "strict")`. -/
def decodeAsciiStrict (raw : Bytes) : Option Text :=
  if raw.all fun byte => decide (byte < 0x80) then some (decodeAscii raw) else none

/-- `text.split("\r\n")`. -/
def splitLines : Text → List Text
  | [] => [[]]
  | '\x0d' :: '\n' :: rest => [] :: splitLines rest
  | c :: rest =>
    match splitLines rest with
    | [] => [[c]]
    | line :: lines => (c :: line) :: lines

/-- `text.split(separator)`. -/
def splitOn (separator : Char) : Text → List Text
  | [] => [[]]
  | c :: rest =>
    if c = separator then [] :: splitOn separator rest
    else
      match splitOn separator rest with
      | [] => [[c]]
      | part :: parts => (c :: part) :: parts

/-- `text.split(":", 1)`, when there is a colon. -/
def splitColon (text : Text) : Option (Text × Text) :=
  if ':' ∈ text then
    some (text.takeWhile fun c => decide (c ≠ ':'), (text.dropWhile fun c => decide (c ≠ ':')).tail)
  else none

/-- `text.strip(" ")`. -/
def stripSpaces (text : Text) : Text :=
  ((text.dropWhile fun c => decide (c = ' ')).reverse.dropWhile fun c => decide (c = ' ')).reverse

def lower (text : Text) : Text := text.map Char.toLower

/-- `HEADER_NAME_PATTERN`. -/
def isHeaderName (text : Text) : Bool :=
  !text.isEmpty && text.all fun c => c.isAlphanum || "!#$%&'*+.^_\x60|~-".toList.contains c

/-- `HEX_32_PATTERN`. -/
def isHex32 (text : Text) : Bool := decide (text.length = 32) && text.all isHex

/-- `CONTENT_LENGTH_PATTERN`. -/
def isContentLength (text : Text) : Bool :=
  decide (text = ['0']) ||
    (text.all isDigit && !text.isEmpty && decide (text.head? ≠ some '0'))

/-! ## The header block -/

/-- `_parse_header_block`, one header after those that stand before it. -/
def parseHeader (headers : List (Text × Text)) (line : Text) :
    Except ProtocolFailure (List (Text × Text)) := do
  check (line.head? ≠ some ' ' ∧ line.head? ≠ some '\t') ⟨400, "invalid_headers"⟩
  match splitColon line with
  | none => .error ⟨400, "invalid_headers"⟩
  | some (name, value) => do
    check (isHeaderName name = true) ⟨400, "invalid_headers"⟩
    check (lower name ∉ headers.map Prod.fst) ⟨400, "invalid_headers"⟩
    check (value.head? ≠ some '\t' ∧ value.getLast? ≠ some '\t') ⟨400, "invalid_headers"⟩
    check (stripSpaces value ≠ [] ∧
      (stripSpaces value).all (fun c => decide (32 ≤ c.toNat ∧ c.toNat ≤ 126)) = true)
      ⟨400, "invalid_headers"⟩
    return headers ++ [(lower name, stripSpaces value)]

/-- `headers.get(name)`. -/
def header? (headers : List (Text × Text)) (name : String) : Option Text :=
  headers.lookup name.toList

/-- The checks of `_parse_header_block` on all the headers. -/
def checkHeaders (headers : List (Text × Text)) : Except ProtocolFailure Unit := do
  check ((header? headers "host").isSome = true) ⟨400, "invalid_headers"⟩
  check ((header? headers "transfer-encoding").isSome = false) ⟨400, "invalid_transfer_encoding"⟩
  check ((header? headers "expect").isSome = false) ⟨400, "expectation_not_supported"⟩
  check (∀ encodings ∈ header? headers "content-encoding", lower encodings = "identity".toList)
    ⟨400, "unsupported_content_encoding"⟩

/-- `_parse_header_block`. -/
def parseHeaderBlock (headerBlock : Bytes) :
    Except ProtocolFailure (Text × Text × List (Text × Text)) :=
  match decodeAsciiStrict headerBlock with
  | none => .error ⟨400, "invalid_http"⟩
  | some text => do
    check ((splitLines text).all (fun line => !line.isEmpty) = true) ⟨400, "invalid_http"⟩
    match splitLines text with
    | [] => .error ⟨400, "invalid_http"⟩
    | requestLine :: lines =>
      match splitOn ' ' requestLine with
      | [method, path, version] => do
        check ((method = "GET".toList ∨ method = "POST".toList) ∧ version = "HTTP/1.1".toList)
          ⟨400, "invalid_http"⟩
        check (path.head? = some '/' ∧
          path.all (fun c => decide (c ≠ '?' ∧ c ≠ '#' ∧ 33 ≤ c.toNat ∧ c.toNat ≤ 126)) = true)
          ⟨400, "invalid_http"⟩
        let headers ← lines.foldlM parseHeader []
        checkHeaders headers
        return (method, path, headers)
      | _ => .error ⟨400, "invalid_http"⟩

/-- `_parse_content_length`. -/
def parseContentLength (value : Text) : Except ProtocolFailure ℕ := do
  check (value.length ≤ maxContentLengthDigits ∧ isContentLength value = true)
    ⟨400, "invalid_content_length"⟩
  check (natOfText value ≤ maxBodyBytes) ⟨413, "body_too_large"⟩
  return natOfText value

/-- The content types that a request may have. -/
def contentTypes : List Text :=
  ["application/json".toList, "application/json;charset=utf-8".toList]

namespace StrictHttpServer

/-- The headers that authenticate a request. -/
def Authenticated (self : StrictHttpServer) (headers : List (Text × Text)) : Prop :=
  ∃ bootId ∈ header? headers "x-true-family-boot-id",
    ∃ requestId ∈ header? headers "x-true-family-request-id",
      ∃ signature ∈ header? headers "x-true-family-signature",
        isHex32 bootId = true ∧ ValidRequestId requestId ∧ ValidDigest signature ∧
          bootId = self.bootId

instance (self : StrictHttpServer) (headers : List (Text × Text)) :
    Decidable (self.Authenticated headers) := by
  unfold Authenticated
  infer_instance

/-- `_validate_strict_framing`: the declared length of the body. -/
def validateStrictFraming (self : StrictHttpServer) (method path : Text)
    (headers : List (Text × Text)) : Except ProtocolFailure ℕ :=
  let lengthValue := header? headers "content-length"
  if method = "GET".toList then do
    check (path = "/healthz".toList) ⟨404, "not_found"⟩
    check (lengthValue = none ∨ lengthValue = some ['0']) ⟨400, "invalid_content_length"⟩
    return 0
  else
    match lengthValue with
    | none => .error ⟨400, "invalid_content_length"⟩
    | some value => do
      let contentLength ← parseContentLength value
      check (∃ contentType ∈ header? headers "content-type",
        lower (contentType.filter fun c => decide (c ≠ ' ')) ∈ contentTypes)
        ⟨400, "invalid_content_type"⟩
      check (self.Authenticated headers) ⟨401, "authentication_failed"⟩
      return contentLength

/-! ## Reading -/

/-- The loop of `_read_header_block`. Every pass takes a byte, so the bound on the bytes bounds
the passes. -/
def readHeaderLoop (self : StrictHttpServer) : ℕ → Bytes → List Bytes →
    Except ProtocolFailure (Bytes × Bytes × List Bytes)
  | 0, _, _ => .error ⟨431, "headers_too_large"⟩
  | passes + 1, buffered, reader =>
    let remaining := self.maxHeaderBytes + 1 - buffered.length
    if remaining = 0 then .error ⟨431, "headers_too_large"⟩
    else
      match read (min 1024 remaining) reader with
      | ([], _) => .error ⟨400, "invalid_http"⟩
      | (chunk, reader) =>
        let buffered := buffered ++ chunk
        match find blankLine buffered with
        | some marker =>
          if self.maxHeaderBytes < marker + 4 then .error ⟨431, "headers_too_large"⟩
          else .ok (buffered.take marker, buffered.drop (marker + 4), reader)
        | none =>
          if self.maxHeaderBytes ≤ buffered.length then .error ⟨431, "headers_too_large"⟩
          else readHeaderLoop self passes buffered reader

/-- `_read_header_block`: the block, the bytes of the body that came with it, and the reader. -/
def readHeaderBlock (self : StrictHttpServer) (reader : List Bytes) :
    Except ProtocolFailure (Bytes × Bytes × List Bytes) :=
  self.readHeaderLoop (self.maxHeaderBytes + 1) [] reader

/-- The loop of `_read_request` over the body. Every pass takes a byte. -/
def readBodyLoop : ℕ → ℕ → Bytes → List Bytes → Except ProtocolFailure Bytes
  | _, 0, body, _ => .ok body
  | 0, _ + 1, _, _ => .error ⟨400, "invalid_content_length"⟩
  | passes + 1, remaining, body, reader =>
    match read (min (64 * 1024) remaining) reader with
    | ([], _) => .error ⟨400, "invalid_content_length"⟩
    | (chunk, reader) => readBodyLoop passes (remaining - chunk.length) (body ++ chunk) reader

/-- `_read_request`. -/
def readRequest (self : StrictHttpServer) (reader : List Bytes) :
    Except ProtocolFailure StrictHttpRequest := do
  let (headerBlock, bodyPrefix, reader) ← self.readHeaderBlock reader
  let (method, path, headers) ← parseHeaderBlock headerBlock
  let contentLength ← self.validateStrictFraming method path headers
  check (bodyPrefix.length ≤ contentLength) ⟨400, "invalid_content_length"⟩
  let remaining := contentLength - bodyPrefix.length
  let body ← readBodyLoop remaining remaining bodyPrefix reader
  return { method := method, path := path, headers := headers, body := body }

end StrictHttpServer

end TrueFamily.JournalApp
