import TrueFamily.JournalFile.Codec
import TrueFamily.Lib.CodePoints
import TrueFamily.Lib.Splitting

/-!
# The mount table

`_read_mountinfo`: the records of `/proc/self/mountinfo`, out of its lines and their fields.
`write` is how the kernel writes a table: it escapes a space, a tab, a newline and a backslash in
the byte strings of a record, and nothing else.
-/

namespace TrueFamily.JournalFile

open JsonValue (Text decodeAscii isDigit natText natOfText)
open Splitting

/-- `os.fsdecode`. -/
class FsDecode where
  fsdecode : Bytes → PyText

export FsDecode (fsdecode)

/-- `os.fsencode` recovers the bytes. -/
class LawfulFsDecode [FsDecode] : Prop where
  injective : Function.Injective fsdecode

/-- What `_read_mountinfo` raises. -/
inductive MountError
  | unsupportedFilesystem
  | valueError
  deriving DecidableEq, Repr

abbrev MountResult := Except MountError

/-- `sys.int_info.default_max_str_digits`. -/
def maxStrDigits : ℕ := 4300

def mountinfoMaxBytes : ℕ := 8 * 1024 * 1024

/-! ## Fields -/

/-- An octal digit. -/
def isOctal (byte : UInt8) : Bool := decide (0x30 ≤ byte ∧ byte ≤ 0x37)

/-- The value of three octal digits. -/
def octal (a b c : UInt8) : ℕ := ((a.toNat - 0x30) * 8 + (b.toNat - 0x30)) * 8 + (c.toNat - 0x30)

/-- `_decode_mount_field`, before `os.fsdecode`. -/
def unescape : Bytes → MountResult Bytes
  | [] => .ok []
  | byte :: rest =>
    if byte ≠ 0x5c then (byte :: ·) <$> unescape rest
    else
      match rest with
      | a :: b :: c :: rest =>
        if isOctal a && isOctal b && isOctal c then
          -- `bytearray.append` takes a byte
          if octal a b c < 256 then (UInt8.ofNat (octal a b c) :: ·) <$> unescape rest
          else .error .valueError
        else .error .unsupportedFilesystem
      | _ => .error .unsupportedFilesystem

/-- `_decode_mount_field`. -/
def decodeMountField [FsDecode] (value : Bytes) : MountResult PyText := fsdecode <$> unescape value

/-- A byte of an ASCII value. -/
def isGraphic (byte : UInt8) : Bool := decide (33 ≤ byte ∧ byte < 127)

/-- `_decode_ascii_mount_value`. -/
def decodeAsciiMountValue (value : Bytes) : MountResult Text :=
  if value ≠ [] ∧ value.all isGraphic = true then .ok (decodeAscii value)
  else .error .unsupportedFilesystem

/-- A byte that separates no option. -/
def isComma (byte : UInt8) : Bool := decide (byte = 0x2c)

/-- `_mount_options`. An option that is decoded matches `_MOUNT_OPTION_PATTERN`. -/
def mountOptions (value : Bytes) : MountResult (List Text) := do
  let options ← (pieces isComma value).mapM decodeAsciiMountValue
  if options.Nodup then .ok options else .error .unsupportedFilesystem

/-- `_DEVICE_PATTERN`. -/
def isDevice (text : Text) : Bool :=
  match text.span isDigit with
  | (major, ':' :: minor) => !major.isEmpty && !minor.isEmpty && minor.all isDigit
  | _ => false

def isLowerOrDigit (c : Char) : Bool := c.isLower || isDigit c

/-- `_FILESYSTEM_TYPE_PATTERN`. -/
def isFilesystemType : Text → Bool
  | [] => false
  | c :: rest => isLowerOrDigit c && decide (rest.length ≤ 63) &&
    rest.all fun c => isLowerOrDigit c || "_.+-".toList.contains c

/-! ## Records -/

/-- `_MountRecord`. -/
structure MountRecord where
  mountId : ℕ
  parentMountId : ℕ
  device : Text
  root : PyText
  mountPoint : PyText
  mountOptions : List Text
  optionalFields : List Text
  filesystemType : Text
  mountSource : PyText
  superOptions : List Text
  deriving DecidableEq

/-- The white space of `bytes.split`. -/
def isSpace (byte : UInt8) : Bool := decide (byte = 0x20 ∨ (0x09 ≤ byte ∧ byte ≤ 0x0d))

/-- `bytes.splitlines`. -/
def splitlines : Bytes → List Bytes
  | [] => []
  | 0x0d :: 0x0a :: rest => [] :: splitlines rest
  | byte :: rest =>
    if byte = 0x0a ∨ byte = 0x0d then [] :: splitlines rest
    else
      match splitlines rest with
      | [] => [[byte]]
      | line :: lines => (byte :: line) :: lines

/-- `value.isdigit()` and `int(value)`. -/
def mountId (value : Bytes) : MountResult ℕ :=
  if value ≠ [] ∧ (decodeAscii value).all isDigit = true then
    if maxStrDigits < value.length then .error .valueError
    else .ok (natOfText (decodeAscii value))
  else .error .unsupportedFilesystem

/-- A record of `_read_mountinfo` out of the words on both sides of the separator. -/
def readRecord [FsDecode] (records : List MountRecord) (left right : List Bytes) :
    MountResult MountRecord :=
  match left, right with
  | mountIdField :: parentField :: deviceField :: root :: mountPoint :: options :: optional,
      [typeField, source, superOptions] => do
    let id ← mountId mountIdField
    let parent ← mountId parentField
    if id = 0 ∨ parent = 0 ∨ id ∈ records.map (·.mountId) then .error .unsupportedFilesystem
    else do
      let device ← decodeAsciiMountValue deviceField
      let filesystemType ← decodeAsciiMountValue typeField
      if isDevice device = false ∨ isFilesystemType filesystemType = false then
        .error .unsupportedFilesystem
      else do
        let optionalFields ← optional.mapM decodeAsciiMountValue
        let root ← decodeMountField root
        let mountPoint ← decodeMountField mountPoint
        let options ← mountOptions options
        let mountSource ← decodeMountField source
        let superOptions ← mountOptions superOptions
        return ⟨id, parent, device, root, mountPoint, options, optionalFields, filesystemType,
          mountSource, superOptions⟩
  | _, _ => .error .unsupportedFilesystem

/-- `b" - "`. -/
def separator : Bytes := [0x20, 0x2d, 0x20]

/-- An iteration of `_read_mountinfo`. -/
def readLine [FsDecode] (records : List MountRecord) (line : Bytes) :
    MountResult (List MountRecord) :=
  match find separator line with
  | none => .error .unsupportedFilesystem
  | some position => do
    let record ← readRecord records (words isSpace (line.take position))
      (words isSpace (line.drop (position + 3)))
    return records ++ [record]

/-- `_read_mountinfo`, of the bytes that `/proc/self/mountinfo` holds. -/
def readMountinfo [FsDecode] (raw : Bytes) : MountResult (List MountRecord) :=
  if mountinfoMaxBytes < raw.length then .error .unsupportedFilesystem
  else (splitlines raw).foldlM readLine []

/-! ## What the kernel writes -/

/-- A byte that the kernel escapes. -/
def isEscaped (byte : UInt8) : Bool :=
  decide (byte = 0x20 ∨ byte = 0x09 ∨ byte = 0x0a ∨ byte = 0x5c)

/-- A byte of a byte string, as the kernel writes it. -/
def escapeByte (byte : UInt8) : Bytes :=
  if isEscaped byte then
    [0x5c, 0x30 + byte / 64, 0x30 + byte / 8 % 8, 0x30 + byte % 8]
  else [byte]

def escape (value : Bytes) : Bytes := value.flatMap escapeByte

/-- What is written of options, and of every field but the byte strings: no white space and no
control byte, and it is not empty. -/
def Graphic (value : Bytes) : Prop := value ≠ [] ∧ ∀ byte ∈ value, isGraphic byte = true

/-- A mount, as the kernel knows it: its byte strings are arbitrary. -/
structure KernelMount where
  mountId : ℕ
  parentMountId : ℕ
  device : Bytes
  root : Bytes
  mountPoint : Bytes
  options : List Bytes
  optionalFields : List Bytes
  filesystemType : Bytes
  source : Bytes
  superOptions : List Bytes
  device_graphic : Graphic device ∧ device ≠ [0x2d]
  type_graphic : Graphic filesystemType
  options_graphic : ∀ option ∈ options, Graphic option ∧ (0x2c : UInt8) ∉ option
  options_ne_nil : options ≠ []
  optional_graphic : ∀ field ∈ optionalFields, Graphic field ∧ field ≠ [0x2d]
  super_graphic : ∀ option ∈ superOptions, Graphic option ∧ (0x2c : UInt8) ∉ option
  super_ne_nil : superOptions ≠ []

/-- A decimal number. -/
def decimal (n : ℕ) : Bytes := encodeAscii (natText n)

/-- Options, separated by commas. -/
def joinOptions (options : List Bytes) : Bytes := [0x2c].intercalate options

namespace KernelMount

/-- The fields before the separator. -/
def left (mount : KernelMount) : List Bytes :=
  decimal mount.mountId :: decimal mount.parentMountId :: mount.device :: escape mount.root ::
    escape mount.mountPoint :: joinOptions mount.options :: mount.optionalFields

/-- The fields after the separator. -/
def right (mount : KernelMount) : List Bytes :=
  [mount.filesystemType, escape mount.source, joinOptions mount.superOptions]

/-- The line of a record: its fields, separated by a space each. -/
def line (mount : KernelMount) : Bytes :=
  [0x20].intercalate (mount.left ++ [0x2d] :: mount.right)

/-- The record as it is. -/
def record [FsDecode] (mount : KernelMount) : MountRecord where
  mountId := mount.mountId
  parentMountId := mount.parentMountId
  device := decodeAscii mount.device
  root := fsdecode mount.root
  mountPoint := fsdecode mount.mountPoint
  mountOptions := mount.options.map decodeAscii
  optionalFields := mount.optionalFields.map decodeAscii
  filesystemType := decodeAscii mount.filesystemType
  mountSource := fsdecode mount.source
  superOptions := mount.superOptions.map decodeAscii

end KernelMount

/-- The table, one record a line. -/
def write (mounts : List KernelMount) : Bytes := mounts.flatMap fun mount => mount.line ++ [0x0a]

end TrueFamily.JournalFile
