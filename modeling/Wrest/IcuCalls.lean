import Wrest.ResourceProtocols
import Wrest.WideStrings
import Wrest.DueTimes

/-!
# The decoders of the system

Charsets are decoded by ICU, which is a library that is loaded when it is first needed,
or by `MultiByteToWideChar`; the host of a URL is mapped by the IDNA functions of ICU.
Both groups of ICU functions are resolved once and kept.  A converter and a mapping
object are opened for one use, and closed by a guard.

Modules, converters and mapping objects are numbers, and zero is the null pointer.  The
pointer to an export is its module with its name.
-/

namespace Wrest.Icu

open Interaction TextDecoding WideString

def U_ZERO_ERROR : Int := 0

def U_FILE_ACCESS_ERROR : Int := 4

def U_BUFFER_OVERFLOW_ERROR : Int := 15

structure FunctionPointer where
  module : Nat
  exportName : String
deriving DecidableEq, Repr

structure IcuFunctions where
  ucnvOpen : FunctionPointer
  ucnvToUChars : FunctionPointer
  ucnvClose : FunctionPointer
deriving DecidableEq, Repr

structure IcuIdnaFunctions where
  openUts46 : FunctionPointer
  nameToAsciiUtf8 : FunctionPointer
  close : FunctionPointer
deriving DecidableEq, Repr

/-- The number of code units of the result, the status, and the destination buffer. -/
structure ConversionReply where
  written : Int
  status : Int
  buffer : List UInt16

/-- The length of the result, the status, the error bits, and the destination buffer. -/
structure IdnaReply where
  length : Int
  status : Int
  errors : Nat
  output : List UInt8

/-- The number of code units, and those that were written. -/
structure NlsReply where
  count : Int
  written : List UInt16

/-- The calls into the system, and the two cells that keep the resolved functions. -/
inductive IcuCall
  | loadLibrary
  | freeLibrary (module : Nat)
  | getProcAddress (module : Nat) (exportName : String)
  | getIcu
  | setIcu (functions : Option IcuFunctions)
  | getIcuIdna
  | setIcuIdna (functions : Option IcuIdnaFunctions)
  | ucnvOpen (function : FunctionPointer) (name : List UInt8)
  | ucnvToUChars (function : FunctionPointer) (converter capacity : Nat)
      (data : List UInt8)
  | ucnvClose (function : FunctionPointer) (converter : Nat)
  | uidnaOpen (function : FunctionPointer) (options : Nat)
  | nameToAscii (function : FunctionPointer) (idna : Nat) (name : List UInt8)
      (capacity : Nat) (status : Int)
  | uidnaClose (function : FunctionPointer) (idna : Nat)
  | multiByteToWideChar (codepage : Nat) (data : List UInt8) (capacity : Option Nat)

def icuInterface : Interface where
  Call := IcuCall
  Reply
    | .loadLibrary => Nat
    | .freeLibrary _ => Unit
    | .getProcAddress _ _ => Bool
    | .getIcu => Option (Option IcuFunctions)
    | .setIcu _ => Unit
    | .getIcuIdna => Option (Option IcuIdnaFunctions)
    | .setIcuIdna _ => Unit
    | .ucnvOpen _ _ => Nat × Int
    | .ucnvToUChars _ _ _ _ => ConversionReply
    | .ucnvClose _ _ => Unit
    | .uidnaOpen _ _ => Nat × Int
    | .nameToAscii _ _ _ _ _ => IdnaReply
    | .uidnaClose _ _ => Unit
    | .multiByteToWideChar _ _ _ => NlsReply

/-- Programs that call into the system. -/
abbrev IcuProgram (α : Type) : Type :=
  Program icuInterface α

section Loading

def getProcAddress (module : Nat) (exportName : String) :
    IcuProgram (Option FunctionPointer) :=
  .call (.getProcAddress module exportName) fun found : Bool =>
    .pure (if found then some ⟨module, exportName⟩ else none)

/-- The module is released again when a function is missing, and stays loaded
otherwise. -/
def loadIcuExports {T : Type} (resolve : Nat → IcuProgram (Option T)) :
    IcuProgram (Option T) :=
  .call .loadLibrary fun module : Nat =>
    if module = 0 then .pure none
    else
      resolve module >>= fun
        | some exports => .pure (some exports)
        | none => .call (.freeLibrary module) fun _ => .pure none

/-- Three exports, all of which are looked up. -/
def resolveThree {T : Type} (first second third : String)
    (build : FunctionPointer → FunctionPointer → FunctionPointer → T) (module : Nat) :
    IcuProgram (Option T) :=
  getProcAddress module first >>= fun firstFound =>
    getProcAddress module second >>= fun secondFound =>
      getProcAddress module third >>= fun thirdFound =>
        .pure (match firstFound, secondFound, thirdFound with
          | some first, some second, some third => some (build first second third)
          | _, _, _ => none)

def loadIcu : IcuProgram (Option IcuFunctions) :=
  loadIcuExports (resolveThree "ucnv_open" "ucnv_toUChars" "ucnv_close" IcuFunctions.mk)

def loadIcuIdna : IcuProgram (Option IcuIdnaFunctions) :=
  loadIcuExports (resolveThree "uidna_openUTS46" "uidna_nameToASCII_UTF8" "uidna_close"
    IcuIdnaFunctions.mk)

/-- `ICU.get_or_init(load_icu)`. -/
def icuFunctions : IcuProgram (Option IcuFunctions) :=
  .call .getIcu fun cell : Option (Option IcuFunctions) =>
    match cell with
    | some functions => .pure functions
    | none =>
      loadIcu >>= fun functions =>
        .call (.setIcu functions) fun _ => .pure functions

/-- `ICU_IDNA.get_or_init(load_icu_idna)`. -/
def icuIdnaFunctions : IcuProgram (Option IcuIdnaFunctions) :=
  .call .getIcuIdna fun cell : Option (Option IcuIdnaFunctions) =>
    match cell with
    | some functions => .pure functions
    | none =>
      loadIcuIdna >>= fun functions =>
        .call (.setIcuIdna functions) fun _ => .pure functions

end Loading

section Converting

def cannotOpen (converterName : String) (status : Int) : Error :=
  Error.decode (.message
    s!"ICU cannot open converter \"{converterName}\" (error code {status})")

/-- Convert with an open converter, which the caller closes. -/
def convert (icu : IcuFunctions) (converter : Nat) (converterName : String)
    (data : List UInt8) : IcuProgram (Except Error (Option String)) :=
  let tooLarge := Error.decode (.message
    s!"input too large ({data.length} bytes) for ICU converter")
  if i32Max < data.length then .pure (.error tooLarge)
  else if i32Max < data.length + 1 then .pure (.error tooLarge)
  else
    .call (.ucnvToUChars icu.ucnvToUChars converter (data.length + 1) data)
      fun reply : ConversionReply =>
        if reply.status > U_ZERO_ERROR then
          .pure (.error (Error.decode (.message
            s!"ICU conversion failed for \"{converterName}\" (error code {reply.status})")))
        else
          .pure ((stringFromUtf16 (reply.buffer.take reply.written.toNat)
            "ICU produced invalid UTF-16").map some)

def decodeWithIcu (icu : IcuFunctions) (converterName : String) (data : List UInt8) :
    IcuProgram (Except Error (Option String)) :=
  .call (.ucnvOpen icu.ucnvOpen (utf8Bytes converterName ++ [0])) fun opened : Nat × Int =>
    let (converter, status) := opened
    if converter = 0 ∧ status = U_FILE_ACCESS_ERROR then .pure (.ok none)
    else if status > U_ZERO_ERROR ∨ converter = 0 then
      if converter ≠ 0 then
        .call (.ucnvClose icu.ucnvClose converter) fun _ =>
          .pure (.error (cannotOpen converterName status))
      else .pure (.error (cannotOpen converterName status))
    else
      Program.scoped (.call (.ucnvClose icu.ucnvClose converter) fun _ => .pure ())
        (convert icu converter converterName data)

def icuDecode (converterName : String) (data : List UInt8) :
    IcuProgram (Except Error String) :=
  if data = [] then .pure (.ok "")
  else
    icuFunctions >>= fun
      | none => .pure (.error (Error.decode (.message
          s!"charset \"{converterName}\" requires icu.dll (Windows 10 1903+)")))
      | some icu =>
        decodeWithIcu icu converterName data >>= fun
          | .error error => .pure (.error error)
          | .ok (some text) => .pure (.ok text)
          | .ok none => .pure (.error (cannotOpen converterName U_FILE_ACCESS_ERROR))

def icuDecodeIfAvailable (converterName : String) (data : List UInt8) :
    IcuProgram (Except Error (Option String)) :=
  if data = [] then .pure (.ok (some ""))
  else
    icuFunctions >>= fun
      | none => .pure (.ok none)
      | some icu => decodeWithIcu icu converterName data

end Converting

/-- Decode with a code page: ask for the length, and convert. -/
def multiByteToString (codepage : Nat) (data : List UInt8) :
    IcuProgram (Except Error String) :=
  let failed := Error.decode (.message
    s!"MultiByteToWideChar failed for code page {codepage}")
  if data = [] then .pure (.ok "")
  else if i32Max < data.length then
    .pure (.error (Error.decode (.message
      s!"input too large ({data.length} bytes) for MultiByteToWideChar")))
  else
    .call (.multiByteToWideChar codepage data none) fun query : NlsReply =>
      if query.count ≤ 0 then .pure (.error failed)
      else
        let bufCap := query.count.toNat
        .call (.multiByteToWideChar codepage data (some bufCap)) fun reply : NlsReply =>
          if reply.count ≤ 0 then .pure (.error failed)
          else
            .pure (stringFromUtf16 (reply.written.take (min reply.count.toNat bufCap))
              "UTF-16 conversion failed")

section Bodies

/-- `decode_icu_preferred` with the decoders of the system. -/
def decodeIcuPreferredProgram (codepage : Nat) (icuName : String) (data : List UInt8) :
    IcuProgram (Except Error String) :=
  icuDecodeIfAvailable icuName data >>= fun
    | .error error => .pure (.error error)
    | .ok (some decoded) => .pure (.ok decoded)
    | .ok none => multiByteToString codepage data

def decodeCodepageProgram (codepage : Nat) (data : List UInt8) :
    IcuProgram (Except Error String) :=
  if codepage = cpXUserDefined then .pure (.ok (decodeXUserDefined data))
  else if codepage = cpReplacement then .pure (.ok (String.singleton replacement))
  else if codepage = cpUtf16Le then .pure (.ok (decodeUtf16 data (codeUnit false)))
  else if codepage = cpUtf16Be then .pure (.ok (decodeUtf16 data (codeUnit true)))
  else if codepage = cpIso885916 then .pure (.ok (decodeIso885916 data))
  else
    match codepageBackend codepage with
    | some (.icuRequired icuName) => icuDecode icuName data
    | some (.icuPreferred icuName) => decodeIcuPreferredProgram codepage icuName data
    | some .nls => multiByteToString codepage data
    | none =>
      .pure (.error (Error.decode (.message
        s!"no charset decoder for code page {codepage}")))

def decodeLabeledProgram (data : List UInt8) (label : String) :
    IcuProgram (Except Error String) :=
  if isUtf8Label label then .pure (.ok (decodeUtf8OrLossy data))
  else
    match whatwgLabelToCodepage label with
    | none => .pure (.ok (decodeUtf8OrLossy data))
    | some codepage => decodeCodepageProgram codepage data

def decodeBodyProgram (data : List UInt8) (charset : String) :
    IcuProgram (Except Error String) :=
  if data.isEmpty then .pure (.ok "")
  else decodeLabeledProgram (sniffMark data charset).1 (sniffMark data charset).2

end Bodies

section Idna

/-- `UIDNA_CHECK_BIDI`, `UIDNA_CHECK_CONTEXTJ` and `UIDNA_NONTRANSITIONAL_TO_ASCII`. -/
def UTS46_OPTIONS : Nat := 4 ||| 8 ||| 16

/-- The errors about the lengths of labels and names, and about hyphens. -/
def TOLERATED_UTS46_ERRORS : Nat := 2 ||| 4 ||| 8 ||| 16 ||| 32

def hasRejectedUts46Errors (errors : Nat) : Bool :=
  errors &&& (0xFFFFFFFF ^^^ TOLERATED_UTS46_ERRORS) != 0

inductive IcuIdnaError
  | unavailable
  | invalidName
deriving DecidableEq, Repr

/-- Map a name with an open mapping object, which the caller closes. -/
def mapName (functions : IcuIdnaFunctions) (idna : Nat) (name : String) (status : Int) :
    IcuProgram (Except IcuIdnaError String) :=
  .call (.nameToAscii functions.nameToAsciiUtf8 idna (utf8Bytes name) 0 status)
    fun first : IdnaReply =>
      if first.length < 0 ∨
          (first.status > U_ZERO_ERROR ∧ first.status ≠ U_BUFFER_OVERFLOW_ERROR) ∨
          hasRejectedUts46Errors first.errors = true then
        .pure (.error .invalidName)
      else
        .call (.nameToAscii functions.nameToAsciiUtf8 idna (utf8Bytes name)
            first.length.toNat U_ZERO_ERROR) fun second : IdnaReply =>
          if second.status > U_ZERO_ERROR ∨ hasRejectedUts46Errors second.errors = true ∨
              second.length ≠ first.length then
            .pure (.error .invalidName)
          else
            .pure (match decodeUtf8 second.output with
              | some ascii => .ok ascii
              | none => .error .invalidName)

def idnaToAscii (name : String) : IcuProgram (Except IcuIdnaError String) :=
  icuIdnaFunctions >>= fun
    | none => .pure (.error .unavailable)
    | some functions =>
      if i32Max < (utf8Bytes name).length then .pure (.error .invalidName)
      else
        .call (.uidnaOpen functions.openUts46 UTS46_OPTIONS) fun opened : Nat × Int =>
          let (idna, status) := opened
          if status > U_ZERO_ERROR ∨ idna = 0 then .pure (.error .invalidName)
          else
            Program.scoped (.call (.uidnaClose functions.close idna) fun _ => .pure ())
              (mapName functions idna name status)

end Idna

end Wrest.Icu
