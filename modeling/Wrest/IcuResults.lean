import Wrest.IcuProtocols

/-!
# What the decoders of the system compute

The decoding of a body takes the decoders of ICU and of Windows from outside, as
functions.  The client gets at them through converters, buffers and status codes.  On a
system that answers these calls as documented, the calls compute these functions, however
many bodies and names came before.
-/

namespace Wrest.Icu

open Interaction TextDecoding WideString

/-- The status codes of errors other than a buffer that is too small. -/
abbrev ErrorCode : Type :=
  { code : Int // U_ZERO_ERROR < code ∧ code ≠ U_BUFFER_OVERFLOW_ERROR }

/-- What ICU makes of octets in a charset, with at most one code unit for an octet. -/
structure Converter where
  convert : List UInt8 → Except ErrorCode (List UInt16)
  convert_length_le : ∀ data units, convert data = .ok units → units.length ≤ data.length

/-- The functions of a system. -/
structure CharsetSystem where
  isInstalled : Bool
  exports : String → Bool
  /-- The converter of a name, which is a string without the zero at its end. -/
  converters : List UInt8 → Except ErrorCode Converter
  opensIdna : Bool
  /-- The error bits and the name in ASCII. -/
  mapName : List UInt8 → Except ErrorCode (Nat × List UInt8)
  codepages : Nat → List UInt8 → Option (List UInt16)

/-- The two cells, and the charsets of the open converters. -/
structure SystemState where
  icu : Option (Option IcuFunctions)
  icuIdna : Option (Option IcuIdnaFunctions)
  converters : Nat → Option Converter

namespace CharsetSystem

variable (system : CharsetSystem)

/-- The converter of a string of C. -/
def converterOf (name : List UInt8) : Except ErrorCode Converter :=
  system.converters (name.takeWhile (· != 0))

section Replies

/-- The replies of the system.  A result that does not fit into its buffer is only
counted. -/
def Answers (state : SystemState) : Exchange icuInterface → Prop
  | ⟨.loadLibrary, (module : Nat)⟩ => module ≠ 0 ↔ system.isInstalled = true
  | ⟨.getProcAddress _ exportName, found⟩ => found = system.exports exportName
  | ⟨.getIcu, cell⟩ => cell = state.icu
  | ⟨.getIcuIdna, cell⟩ => cell = state.icuIdna
  | ⟨.ucnvOpen _ name, (reply : Nat × Int)⟩ =>
    match system.converterOf name with
    | .error code => reply = (0, code.val)
    | .ok _ => reply.1 ≠ 0 ∧ reply.2 ≤ U_ZERO_ERROR
  | ⟨.ucnvToUChars _ converter capacity data, (reply : ConversionReply)⟩ =>
    ∀ charset, state.converters converter = some charset →
      match charset.convert data with
      | .error code => reply.status = code.val
      | .ok units => units.length ≤ capacity →
          reply.status ≤ U_ZERO_ERROR ∧ reply.written = units.length ∧ units <+: reply.buffer
  | ⟨.uidnaOpen _ _, (reply : Nat × Int)⟩ =>
    if system.opensIdna then reply.1 ≠ 0 ∧ reply.2 ≤ U_ZERO_ERROR else reply.1 = 0
  | ⟨.nameToAscii _ _ name capacity status, (reply : IdnaReply)⟩ =>
    status ≤ U_ZERO_ERROR →
      match system.mapName name with
      | .error code => reply.status = code.val
      | .ok (errors, ascii) =>
          reply.length = ascii.length ∧ reply.errors = errors ∧
            if ascii.length ≤ capacity then
              reply.status ≤ U_ZERO_ERROR ∧ ascii <+: reply.output ∧
                reply.output.length = capacity
            else reply.status = U_BUFFER_OVERFLOW_ERROR
  | ⟨.multiByteToWideChar codepage data capacity, (reply : NlsReply)⟩ =>
    match system.codepages codepage data with
    | none => reply.count = 0
    | some units => reply.count = units.length ∧
        ∀ room, capacity = some room → units.length ≤ room → units <+: reply.written
  | _ => True

def next (state : SystemState) : Exchange icuInterface → SystemState
  | ⟨.setIcu functions, _⟩ => { state with icu := some functions }
  | ⟨.setIcuIdna functions, _⟩ => { state with icuIdna := some functions }
  | ⟨.ucnvOpen _ name, (reply : Nat × Int)⟩ =>
    { state with converters :=
        Function.update state.converters reply.1 (system.converterOf name).toOption }
  | _ => state

/-- The system as the other side of the calls. -/
def protocol : Protocol icuInterface SystemState where
  initial := ⟨none, none, fun _ => none⟩
  permits _ _ := True
  expects := system.Answers
  next := system.next

end Replies

section Functions

def hasAll (first second third : String) : Bool :=
  system.isInstalled && (system.exports first && system.exports second &&
    system.exports third)

def hasIcu : Bool :=
  system.hasAll "ucnv_open" "ucnv_toUChars" "ucnv_close"

def hasIcuIdna : Bool :=
  system.hasAll "uidna_openUTS46" "uidna_nameToASCII_UTF8" "uidna_close"

/-- The text in a charset of ICU, or nothing for a converter without data. -/
def decodeNamed (converterName : String) (data : List UInt8) :
    Except Error (Option String) :=
  match system.converterOf (utf8Bytes converterName ++ [0]) with
  | .error code =>
    if code.val = U_FILE_ACCESS_ERROR then .ok none
    else .error (cannotOpen converterName code.val)
  | .ok charset =>
    if i32Max < data.length + 1 then
      .error (Error.decode (.message
        s!"input too large ({data.length} bytes) for ICU converter"))
    else
      match charset.convert data with
      | .error code =>
        .error (Error.decode (.message
          s!"ICU conversion failed for \"{converterName}\" (error code {code.val})"))
      | .ok units => (stringFromUtf16 units "ICU produced invalid UTF-16").map some

def decodeCodepage (codepage : Nat) (data : List UInt8) : Except Error String :=
  if data = [] then .ok ""
  else if i32Max < data.length then
    .error (Error.decode (.message
      s!"input too large ({data.length} bytes) for MultiByteToWideChar"))
  else
    match system.codepages codepage data with
    | none | some [] =>
      .error (Error.decode (.message s!"MultiByteToWideChar failed for code page {codepage}"))
    | some units => stringFromUtf16 units "UTF-16 conversion failed"

/-- The decoders of the system as functions. -/
def libraries : CharsetLibraries where
  icuDecode converterName data :=
    if data = [] then .ok ""
    else if system.hasIcu then
      match system.decodeNamed converterName data with
      | .error error => .error error
      | .ok (some text) => .ok text
      | .ok none => .error (cannotOpen converterName U_FILE_ACCESS_ERROR)
    else .error (Error.decode (.message
      s!"charset \"{converterName}\" requires icu.dll (Windows 10 1903+)"))
  icuDecodeIfAvailable converterName data :=
    if data = [] then .ok (some "")
    else if system.hasIcu then system.decodeNamed converterName data
    else .ok none
  multiByteToString := system.decodeCodepage

/-- The name in ASCII, without the errors that are not tolerated. -/
def idnaToAscii (name : String) : Except IcuIdnaError String :=
  if system.hasIcuIdna then
    if i32Max < (utf8Bytes name).length ∨ system.opensIdna = false then .error .invalidName
    else
      match system.mapName (utf8Bytes name) with
      | .error _ => .error .invalidName
      | .ok (errors, ascii) =>
        if hasRejectedUts46Errors errors then .error .invalidName
        else
          match decodeUtf8 ascii with
          | some text => .ok text
          | none => .error .invalidName
  else .error .unavailable

end Functions

end CharsetSystem

section Loading

variable {system : CharsetSystem} {T : Type}
variable {build : FunctionPointer → FunctionPointer → FunctionPointer → T}
variable {state : SystemState} {first second third : String}

/-- A program that computes a value and leaves the state as it is. -/
def Computes {α : Type} (system : CharsetSystem) (state : SystemState)
    (program : IcuProgram α) (value : α) : Prop :=
  system.protocol.Respects (· = state) program
    fun result after => result = value ∧ after = state

theorem computes_pure {α : Type} {value : α} : Computes system state (.pure value) value :=
  Protocol.respects_pure fun _ same => ⟨rfl, same⟩

theorem computes_call {α : Type} {value : α} {request : IcuCall}
    {next : icuInterface.Reply request → IcuProgram α}
    (same : ∀ reply, system.next state ⟨request, reply⟩ = state)
    (rest : ∀ reply, system.Answers state ⟨request, reply⟩ →
      Computes system state (next reply) value) :
    Computes system state (.call request next) value := by
  refine Protocol.respects_call
    (fun reply after => system.Answers state ⟨request, reply⟩ ∧ after = state)
    (fun _ _ => trivial) ?_ fun reply => Protocol.respects_of_forall ?_
  · rintro _ reply rfl answers
    exact ⟨answers, same reply⟩
  · rintro _ ⟨answers, rfl⟩
    exact rest reply answers

theorem Computes.bind {α β : Type} {program : IcuProgram α} {next : α → IcuProgram β}
    {middle : α} {value : β} (first : Computes system state program middle)
    (second : Computes system state (next middle) value) :
    Computes system state (program >>= next) value := by
  refine Protocol.Respects.bind first fun result => Protocol.respects_of_forall ?_
  rintro _ ⟨rfl, rfl⟩
  exact second

theorem getProcAddress_computes (module : Nat) (exportName : String) :
    Computes system state (getProcAddress module exportName)
      (if system.exports exportName then some ⟨module, exportName⟩ else none) := by
  refine computes_call (fun _ => rfl) ?_
  rintro _ rfl
  exact computes_pure

/-- All three functions are found, or none is kept. -/
theorem resolveThree_computes (module : Nat) :
    Computes system state (resolveThree first second third build module)
      (if system.exports first && system.exports second && system.exports third then
        some (build ⟨module, first⟩ ⟨module, second⟩ ⟨module, third⟩) else none) := by
  refine (getProcAddress_computes module first).bind ?_
  refine (getProcAddress_computes module second).bind ?_
  refine (getProcAddress_computes module third).bind ?_
  cases system.exports first <;> cases system.exports second <;>
    cases system.exports third <;> exact computes_pure

theorem loadIcuExports_isSome :
    system.protocol.Respects (· = state)
      (loadIcuExports (resolveThree first second third build))
      fun found after => found.isSome = system.hasAll first second third ∧ after = state := by
  refine Protocol.respects_call
    (fun module after => (module ≠ (0 : Nat) ↔ system.isInstalled = true) ∧ after = state)
    (fun _ _ => trivial) ?_ fun (module : Nat) => Protocol.respects_of_forall ?_
  · rintro _ module rfl answers
    exact ⟨answers, rfl⟩
  · rintro _ ⟨loads, rfl⟩
    by_cases null : module = 0
    · rw [if_pos null]
      have missing : system.isInstalled = false :=
        Bool.eq_false_iff.mpr fun installed => loads.mpr installed null
      refine Protocol.respects_pure fun _ same => ⟨?_, same⟩
      rw [CharsetSystem.hasAll, missing]
      rfl
    · rw [if_neg null]
      have installed : system.isInstalled = true := loads.mp null
      refine Protocol.Respects.bind (resolveThree_computes module) fun found => ?_
      refine Protocol.respects_of_forall ?_
      rintro after ⟨isFound, same⟩
      rw [CharsetSystem.hasAll, installed, Bool.true_and]
      cases found with
      | some table =>
        refine Protocol.respects_pure ?_
        rintro _ rfl
        refine ⟨?_, same⟩
        split at isFound
        · next all => exact all.symm
        · cases isFound
      | none =>
        refine Protocol.respects_call (fun _ => (· = after)) (fun _ _ => trivial) ?_
          fun _ => Protocol.respects_pure ?_
        · rintro _ _ rfl _
          rfl
        · rintro _ rfl
          refine ⟨?_, same⟩
          split at isFound
          · cases isFound
          · next some => exact (Bool.eq_false_iff.mpr some).symm

end Loading

section Converting

variable {system : CharsetSystem} {state : SystemState}

theorem take_of_prefix {units buffer : List UInt16} {written : Int}
    (fits : written = units.length) (isPrefix : units <+: buffer) :
    buffer.take written.toNat = units := by
  rw [fits, Int.toNat_natCast]
  exact List.prefix_iff_eq_take.mp isPrefix |>.symm

/-- The buffer is large enough for what the converter makes of the data. -/
theorem convert_computes {icu : IcuFunctions} {converter : Nat} {converterName : String}
    {charset : Converter} (data : List UInt8)
    (isOpen : state.converters converter = some charset)
    (opens : system.converterOf (utf8Bytes converterName ++ [0]) = .ok charset) :
    Computes system state (convert icu converter converterName data)
      (system.decodeNamed converterName data) := by
  unfold convert CharsetSystem.decodeNamed
  rw [opens]
  by_cases full : i32Max < data.length + 1
  · by_cases large : i32Max < data.length
    · simp only [full, large, if_true]
      exact computes_pure
    · simp only [full, large, if_true, if_false]
      exact computes_pure
  · have small : ¬i32Max < data.length := by omega
    simp only [full, small, if_false]
    refine computes_call (fun _ => rfl) fun (reply : ConversionReply) answers => ?_
    have converts := answers charset isOpen
    cases result : charset.convert data with
    | error code =>
      rw [result] at converts
      rw [if_pos (converts ▸ code.property.1), converts]
      exact computes_pure
    | ok units =>
      rw [result] at converts
      obtain ⟨succeeds, counts, isPrefix⟩ :=
        converts (Nat.le_succ_of_le (charset.convert_length_le data units result))
      rw [if_neg (Int.not_lt.mpr succeeds), take_of_prefix counts isPrefix]
      exact computes_pure

theorem multiByteToString_computes (codepage : Nat) (data : List UInt8) :
    Computes system state (multiByteToString codepage data)
      (system.decodeCodepage codepage data) := by
  unfold multiByteToString CharsetSystem.decodeCodepage
  by_cases empty : data = []
  · simp only [empty, if_true]
    exact computes_pure
  by_cases large : i32Max < data.length
  · simp only [empty, large, if_true, if_false]
    exact computes_pure
  simp only [empty, large, if_false]
  refine computes_call (fun _ => rfl) fun (query : NlsReply) counts => ?_
  simp only [CharsetSystem.Answers] at counts
  cases result : system.codepages codepage data with
  | none =>
    rw [result] at counts
    rw [if_pos (Int.le_of_eq counts)]
    exact computes_pure
  | some units =>
    rw [result] at counts
    cases units with
    | nil =>
      have nothing : query.count ≤ 0 := Int.le_of_eq counts.1
      rw [if_pos nothing]
      exact computes_pure
    | cons unit units =>
      have positive (count : Int) (counted : count = (unit :: units).length) : ¬count ≤ 0 := by
        rw [counted, List.length_cons]
        omega
      rw [if_neg (positive _ counts.1)]
      refine computes_call (fun _ => rfl) fun (reply : NlsReply) answers => ?_
      simp only [CharsetSystem.Answers, result] at answers
      have room : query.count.toNat = (unit :: units).length := by
        rw [counts.1, Int.toNat_natCast]
      have isPrefix := answers.2 _ rfl (Nat.le_of_eq room.symm)
      have all : min reply.count.toNat query.count.toNat = (unit :: units).length := by
        rw [room, answers.1, Int.toNat_natCast, Nat.min_self]
      rw [if_neg (positive _ answers.1), all, ← List.prefix_iff_eq_take.mp isPrefix]
      exact computes_pure

theorem mapName_computes {functions : IcuIdnaFunctions} {idna : Nat} {status : Int}
    (name : String) (isOpen : status ≤ U_ZERO_ERROR) :
    Computes system state (mapName functions idna name status)
      (match system.mapName (utf8Bytes name) with
        | .error _ => .error .invalidName
        | .ok (errors, ascii) =>
          if hasRejectedUts46Errors errors then .error .invalidName
          else
            match decodeUtf8 ascii with
            | some text => .ok text
            | none => .error .invalidName) := by
  refine computes_call (fun _ => rfl) fun (query : IdnaReply) answers => ?_
  have counts := answers isOpen
  cases result : system.mapName (utf8Bytes name) with
  | error code =>
    rw [result] at counts
    rw [if_pos (.inr (.inl (counts ▸ code.property)))]
    exact computes_pure
  | ok mapped =>
    obtain ⟨errors, ascii⟩ := mapped
    rw [result] at counts
    obtain ⟨length, reported, fits⟩ := counts
    dsimp only
    have accepted : ¬(query.status > U_ZERO_ERROR ∧ query.status ≠ U_BUFFER_OVERFLOW_ERROR) := by
      rintro ⟨failed, other⟩
      split at fits
      · exact absurd failed (Int.not_lt.mpr fits.1)
      · exact other fits
    by_cases rejects : hasRejectedUts46Errors errors = true
    · rw [if_pos (.inr (.inr (reported ▸ rejects))), if_pos rejects]
      exact computes_pure
    · have goesOn : ¬(query.length < 0 ∨
          (query.status > U_ZERO_ERROR ∧ query.status ≠ U_BUFFER_OVERFLOW_ERROR) ∨
          hasRejectedUts46Errors query.errors = true) := by
        rintro (negative | failed | rejected)
        · rw [length] at negative
          exact absurd negative (Int.not_lt.mpr (Int.natCast_nonneg _))
        · exact accepted failed
        · exact rejects (reported ▸ rejected)
      rw [if_neg goesOn, if_neg rejects]
      refine computes_call (fun _ => rfl) fun (reply : IdnaReply) again => ?_
      have written := again (Int.le_refl 0)
      rw [result] at written
      obtain ⟨sameLength, sameErrors, inside⟩ := written
      have capacity : query.length.toNat = ascii.length := by
        rw [length, Int.toNat_natCast]
      rw [capacity, if_pos (Nat.le_refl _)] at inside
      obtain ⟨succeeds, isPrefix, whole⟩ := inside
      have output : ascii = reply.output :=
        isPrefix.eq_of_length whole.symm
      have ends : ¬(reply.status > U_ZERO_ERROR ∨
          hasRejectedUts46Errors reply.errors = true ∨ reply.length ≠ query.length) := by
        rintro (failed | rejected | different)
        · exact absurd failed (Int.not_lt.mpr succeeds)
        · exact rejects (sameErrors ▸ rejected)
        · exact different (sameLength.trans length.symm)
      rw [if_neg ends, ← output]
      exact computes_pure

end Converting

/-- The cells say whether the system has the functions. -/
structure Ready (system : CharsetSystem) (state : SystemState) : Prop where
  icu : ∀ found, state.icu = some found → found.isSome = system.hasIcu
  icuIdna : ∀ found, state.icuIdna = some found → found.isSome = system.hasIcuIdna

/-- A program that computes a value whenever the system is ready, and leaves it ready. -/
def Gives {α : Type} (system : CharsetSystem) (program : IcuProgram α) (value : α) : Prop :=
  system.protocol.Respects (Ready system) program
    fun result after => result = value ∧ Ready system after

section Uses

variable {system : CharsetSystem} {state : SystemState}

theorem gives_pure {α : Type} {value : α} : Gives system (.pure value) value :=
  Protocol.respects_pure fun _ ready => ⟨rfl, ready⟩

theorem Gives.bind {α β : Type} {program : IcuProgram α} {next : α → IcuProgram β}
    {middle : α} {value : β} (first : Gives system program middle)
    (second : Gives system (next middle) value) :
    Gives system (program >>= next) value := by
  refine Protocol.Respects.bind first fun result => Protocol.respects_of_forall ?_
  rintro after ⟨rfl, ready⟩
  exact second.mono (fun _ same => same ▸ ready) fun _ _ holds => holds

theorem gives_of_computes {α : Type} {program : IcuProgram α} {value : α}
    (computes : ∀ state, Ready system state → Computes system state program value) :
    Gives system program value := by
  refine Protocol.respects_of_forall fun state ready => ?_
  refine (computes state ready).mono (fun _ same => same) ?_
  rintro _ _ ⟨isValue, rfl⟩
  exact ⟨isValue, ready⟩

theorem icuFunctions_isSome :
    system.protocol.Respects (Ready system) icuFunctions
      fun found after => found.isSome = system.hasIcu ∧ Ready system after := by
  refine Protocol.respects_call (fun cell after => cell = after.icu ∧ Ready system after)
    (fun _ _ => trivial) (fun _ _ ready known => ⟨known, ready⟩)
    fun (cell : Option (Option IcuFunctions)) => ?_
  cases cell with
  | some found =>
    refine Protocol.respects_pure ?_
    rintro after ⟨known, ready⟩
    exact ⟨ready.icu found known.symm, ready⟩
  | none =>
    refine Protocol.respects_of_forall ?_
    rintro state ⟨_, ready⟩
    refine loadIcuExports_isSome.bind fun found => ?_
    refine Protocol.respects_call
      (fun _ after => found.isSome = system.hasIcu ∧ Ready system after)
      (fun _ _ => trivial) ?_ fun _ => Protocol.respects_pure fun _ holds => holds
    rintro _ _ ⟨isFound, rfl⟩ _
    refine ⟨isFound, ⟨?_, ready.icuIdna⟩⟩
    rintro _ ⟨⟩
    exact isFound

theorem icuIdnaFunctions_isSome :
    system.protocol.Respects (Ready system) icuIdnaFunctions
      fun found after => found.isSome = system.hasIcuIdna ∧ Ready system after := by
  refine Protocol.respects_call (fun cell after => cell = after.icuIdna ∧ Ready system after)
    (fun _ _ => trivial) (fun _ _ ready known => ⟨known, ready⟩)
    fun (cell : Option (Option IcuIdnaFunctions)) => ?_
  cases cell with
  | some found =>
    refine Protocol.respects_pure ?_
    rintro after ⟨known, ready⟩
    exact ⟨ready.icuIdna found known.symm, ready⟩
  | none =>
    refine Protocol.respects_of_forall ?_
    rintro state ⟨_, ready⟩
    refine loadIcuExports_isSome.bind fun found => ?_
    refine Protocol.respects_call
      (fun _ after => found.isSome = system.hasIcuIdna ∧ Ready system after)
      (fun _ _ => trivial) ?_ fun _ => Protocol.respects_pure fun _ holds => holds
    rintro _ _ ⟨isFound, rfl⟩ _
    refine ⟨isFound, ⟨ready.icu, ?_⟩⟩
    rintro _ ⟨⟩
    exact isFound

/-- The converter is opened, used and closed. -/
theorem decodeWithIcu_gives (icu : IcuFunctions) (converterName : String)
    (data : List UInt8) :
    Gives system (decodeWithIcu icu converterName data)
      (system.decodeNamed converterName data) := by
  have closes (converter : Nat) :
      Gives system (.call (.ucnvClose icu.ucnvClose converter) fun _ => .pure ()) () :=
    gives_of_computes fun _ _ => computes_call (fun _ => rfl) fun _ _ => computes_pure
  refine Protocol.respects_call (fun reply after =>
    Ready system after ∧
      match system.converterOf (utf8Bytes converterName ++ [0]) with
      | .error code => reply = ((0 : Nat), code.val)
      | .ok charset => reply.1 ≠ (0 : Nat) ∧ reply.2 ≤ U_ZERO_ERROR ∧
          after.converters reply.1 = some charset) (fun _ _ => trivial) ?_ ?_
  · intro state reply ready answers
    refine ⟨⟨ready.icu, ready.icuIdna⟩, ?_⟩
    simp only [CharsetSystem.protocol, CharsetSystem.Answers] at answers
    cases opens : system.converterOf (utf8Bytes converterName ++ [0]) with
    | error code =>
      rw [opens] at answers
      exact answers
    | ok charset =>
      rw [opens] at answers
      refine ⟨answers.1, answers.2, ?_⟩
      simp [CharsetSystem.protocol, CharsetSystem.next, opens, Except.toOption]
  · rintro ⟨converter, status⟩
    refine Protocol.respects_of_forall ?_
    rintro state ⟨ready, answered⟩
    cases opens : system.converterOf (utf8Bytes converterName ++ [0]) with
    | error code =>
      rw [opens] at answered
      obtain ⟨rfl, rfl⟩ := Prod.mk.inj answered
      have fails : system.decodeNamed converterName data =
          if code.val = U_FILE_ACCESS_ERROR then .ok none
          else .error (cannotOpen converterName code.val) := by
        rw [CharsetSystem.decodeNamed, opens]
      rw [fails]
      by_cases noData : code.val = U_FILE_ACCESS_ERROR
      · simp only [noData, and_self, if_true]
        exact Protocol.respects_pure fun _ same => ⟨rfl, same ▸ ready⟩
      · simp only [noData, and_false, or_true, ne_eq, not_true_eq_false, if_false, if_true]
        exact Protocol.respects_pure fun _ same => ⟨rfl, same ▸ ready⟩
    | ok charset =>
      rw [opens] at answered
      obtain ⟨notNull, succeeds, isOpen⟩ := answered
      have isOpened : ¬(status > U_ZERO_ERROR ∨ converter = (0 : Nat)) := by
        rintro (failed | null)
        · exact absurd failed (Int.not_lt.mpr succeeds)
        · exact notNull null
      have hasObject : ¬(converter = (0 : Nat) ∧ status = U_FILE_ACCESS_ERROR) :=
        fun missing => notNull missing.1
      simp only [if_neg hasObject, if_neg isOpened]
      refine (convert_computes data isOpen opens).scoped fun result => ?_
      refine Protocol.respects_of_forall ?_
      rintro after ⟨rfl, rfl⟩
      exact (closes converter).mono (fun _ same => same ▸ ready) fun _ _ holds => ⟨rfl, holds.2⟩

theorem icuDecode_gives (converterName : String) (data : List UInt8) :
    Gives system (icuDecode converterName data)
      (system.libraries.icuDecode converterName data) := by
  unfold icuDecode
  by_cases empty : data = []
  · simp only [CharsetSystem.libraries, empty, if_true]
    exact gives_pure
  simp only [CharsetSystem.libraries, empty, if_false]
  refine icuFunctions_isSome.bind fun found => Protocol.respects_of_forall ?_
  rintro state ⟨isFound, ready⟩
  refine Protocol.Respects.mono ?_ (fun _ same => same ▸ ready) fun _ _ holds => holds
  cases found with
  | none =>
    rw [← isFound]
    exact gives_pure
  | some icu =>
    rw [← isFound]
    refine (decodeWithIcu_gives icu converterName data).bind ?_
    rcases system.decodeNamed converterName data with error | _ | text
    · exact gives_pure
    · exact gives_pure
    · exact gives_pure

theorem icuDecodeIfAvailable_gives (converterName : String) (data : List UInt8) :
    Gives system (icuDecodeIfAvailable converterName data)
      (system.libraries.icuDecodeIfAvailable converterName data) := by
  unfold icuDecodeIfAvailable
  by_cases empty : data = []
  · simp only [CharsetSystem.libraries, empty, if_true]
    exact gives_pure
  simp only [CharsetSystem.libraries, empty, if_false]
  refine icuFunctions_isSome.bind fun found => Protocol.respects_of_forall ?_
  rintro state ⟨isFound, ready⟩
  refine Protocol.Respects.mono ?_ (fun _ same => same ▸ ready) fun _ _ holds => holds
  cases found with
  | none =>
    rw [← isFound]
    exact gives_pure
  | some icu =>
    rw [← isFound]
    exact decodeWithIcu_gives icu converterName data

theorem multiByteToString_gives (codepage : Nat) (data : List UInt8) :
    Gives system (multiByteToString codepage data)
      (system.libraries.multiByteToString codepage data) :=
  gives_of_computes fun _ _ => multiByteToString_computes codepage data

theorem idnaToAscii_gives (name : String) :
    Gives system (idnaToAscii name) (system.idnaToAscii name) := by
  unfold CharsetSystem.idnaToAscii
  refine icuIdnaFunctions_isSome.bind fun found => Protocol.respects_of_forall ?_
  rintro state ⟨isFound, ready⟩
  refine Protocol.Respects.mono ?_ (fun _ same => same ▸ ready) fun _ _ holds => holds
  cases found with
  | none =>
    rw [← isFound]
    exact gives_pure
  | some functions =>
    rw [← isFound, Option.isSome_some, if_pos rfl]
    by_cases large : i32Max < (utf8Bytes name).length
    · simp only [large, true_or, if_true]
      exact gives_pure
    simp only [large, false_or, if_false]
    refine gives_of_computes fun state _ => computes_call (fun _ => rfl) ?_
    intro ((idna : Nat), (status : Int)) answers
    simp only [CharsetSystem.Answers] at answers
    cases opens : system.opensIdna with
    | false =>
      rw [opens] at answers
      have null : idna = 0 := answers
      simp only [null, or_true, if_true]
      exact computes_pure
    | true =>
      rw [opens, if_pos rfl] at answers
      have isOpened : ¬(status > U_ZERO_ERROR ∨ idna = 0) := by
        rintro (failed | null)
        · exact absurd failed (Int.not_lt.mpr answers.2)
        · exact answers.1 null
      simp only [isOpened, Bool.true_eq_false, if_false]
      refine Computes.bind (mapName_computes name answers.2) ?_
      exact Computes.bind (computes_call (fun _ => rfl) fun _ _ => computes_pure) computes_pure

theorem decodeIcuPreferredProgram_gives (codepage : Nat) (icuName : String)
    (data : List UInt8) :
    Gives system (decodeIcuPreferredProgram codepage icuName data)
      (decodeIcuPreferred codepage icuName data system.libraries.icuDecodeIfAvailable
        system.libraries.multiByteToString) := by
  refine (icuDecodeIfAvailable_gives icuName data).bind ?_
  unfold decodeIcuPreferred
  rcases system.libraries.icuDecodeIfAvailable icuName data with error | _ | text
  · exact gives_pure
  · exact multiByteToString_gives codepage data
  · exact gives_pure

theorem decodeCodepageProgram_gives (codepage : Nat) (data : List UInt8) :
    Gives system (decodeCodepageProgram codepage data)
      (Wrest.decodeCodepage system.libraries codepage data) := by
  unfold decodeCodepageProgram Wrest.decodeCodepage
  split_ifs
  · exact gives_pure
  · exact gives_pure
  · exact gives_pure
  · exact gives_pure
  · exact gives_pure
  · cases codepageBackend codepage with
    | none => exact gives_pure
    | some backend =>
      cases backend with
      | icuRequired icuName => exact icuDecode_gives icuName data
      | icuPreferred icuName => exact decodeIcuPreferredProgram_gives codepage icuName data
      | nls => exact multiByteToString_gives codepage data

theorem decodeBodyProgram_gives (data : List UInt8) (charset : String) :
    Gives system (decodeBodyProgram data charset)
      (decodeBody system.libraries data charset) := by
  unfold decodeBodyProgram decodeBody
  split_ifs
  · exact gives_pure
  · unfold decodeLabeledProgram decodeLabeled
    split_ifs
    · exact gives_pure
    · cases whatwgLabelToCodepage (sniffMark data charset).2 with
      | none => exact gives_pure
      | some codepage => exact decodeCodepageProgram_gives codepage _

/-- What a use is for. -/
def CharsetSystem.result (system : CharsetSystem) : IcuUse → IcuResult
  | .decodeBody data charset => .body (decodeBody system.libraries data charset)
  | .idnaToAscii name => .host (system.idnaToAscii name)

theorem usesProgram_gives (uses : List IcuUse) :
    Gives system (usesProgram uses) (uses.map system.result) := by
  induction uses with
  | nil => exact gives_pure
  | cons use uses ih =>
    have used : Gives system use.program (system.result use) := by
      cases use with
      | decodeBody data charset => exact (decodeBodyProgram_gives data charset).bind gives_pure
      | idnaToAscii name => exact (idnaToAscii_gives name).bind gives_pure
    exact used.bind (ih.bind gives_pure)

end Uses

theorem ready_initial (system : CharsetSystem) : Ready system system.protocol.initial where
  icu := nofun
  icuIdna := nofun

/-- Bodies are decoded and names are mapped by the functions of the system, whatever was
decoded and mapped before. -/
theorem icu_computes (system : CharsetSystem) (uses : List IcuUse)
    {trace : List (Exchange icuInterface)} {results : List IcuResult}
    (traces : Traces (usesProgram uses) trace results)
    (answered : Follows (fun history exchange =>
      system.Answers (system.protocol.after history) exchange) [] trace) :
    results = uses.map system.result :=
  ((usesProgram_gives uses).traces (ready_initial system) traces answered).2.1

section Replies

/-- One reply for every call. -/
def CharsetSystem.reply (system : CharsetSystem) (state : SystemState) :
    (request : IcuCall) → icuInterface.Reply request
  | .loadLibrary => if system.isInstalled then (7 : Nat) else (0 : Nat)
  | .getProcAddress _ exportName => system.exports exportName
  | .getIcu => state.icu
  | .getIcuIdna => state.icuIdna
  | .ucnvOpen _ name =>
    match system.converterOf name with
    | .error code => ((0 : Nat), code.val)
    | .ok _ => ((11 : Nat), U_ZERO_ERROR)
  | .ucnvToUChars _ converter _ data =>
    match state.converters converter with
    | none => (⟨0, U_ZERO_ERROR, []⟩ : ConversionReply)
    | some charset =>
      match charset.convert data with
      | .error code => (⟨0, code.val, []⟩ : ConversionReply)
      | .ok units => (⟨units.length, U_ZERO_ERROR, units⟩ : ConversionReply)
  | .uidnaOpen _ _ =>
    if system.opensIdna then ((12 : Nat), U_ZERO_ERROR) else ((0 : Nat), U_ZERO_ERROR)
  | .nameToAscii _ _ name capacity _ =>
    match system.mapName name with
    | .error code => (⟨0, code.val, 0, []⟩ : IdnaReply)
    | .ok (errors, ascii) =>
      if ascii.length ≤ capacity then
        (⟨ascii.length, U_ZERO_ERROR, errors, ascii ++ List.replicate (capacity - ascii.length) 0⟩ :
          IdnaReply)
      else (⟨ascii.length, U_BUFFER_OVERFLOW_ERROR, errors, []⟩ : IdnaReply)
  | .multiByteToWideChar codepage data _ =>
    match system.codepages codepage data with
    | none => (⟨0, []⟩ : NlsReply)
    | some units => (⟨units.length, units⟩ : NlsReply)
  | .freeLibrary _ | .setIcu _ | .setIcuIdna _ | .ucnvClose _ _ | .uidnaClose _ _ => ()

theorem CharsetSystem.answers_reply (system : CharsetSystem) (state : SystemState)
    (request : IcuCall) : system.Answers state ⟨request, system.reply state request⟩ := by
  cases request with
  | loadLibrary =>
    simp only [Answers, reply]
    cases system.isInstalled <;> simp
  | getProcAddress module exportName => rfl
  | getIcu => rfl
  | getIcuIdna => rfl
  | ucnvOpen function name =>
    simp only [Answers, reply]
    cases system.converterOf name with
    | error code => rfl
    | ok charset => exact ⟨Nat.succ_ne_zero 10, Int.le_refl 0⟩
  | ucnvToUChars function converter capacity data =>
    intro charset isOpen
    simp only [reply, isOpen]
    cases charset.convert data with
    | error code => rfl
    | ok units => exact fun _ => ⟨Int.le_refl 0, rfl, List.prefix_refl units⟩
  | uidnaOpen function options =>
    simp only [Answers, reply]
    cases system.opensIdna <;> simp
  | nameToAscii function idna name capacity status =>
    intro _
    simp only [reply]
    cases system.mapName name with
    | error code => rfl
    | ok mapped =>
      by_cases fits : mapped.2.length ≤ capacity
      · simp [fits]
      · simp [fits]
  | multiByteToWideChar codepage data capacity =>
    simp only [Answers, reply]
    cases system.codepages codepage data with
    | none => rfl
    | some units => exact ⟨rfl, fun _ _ _ => List.prefix_refl units⟩
  | _ => trivial

/-- A system with one converter, which finds one code unit in every octet. -/
def exampleSystem : CharsetSystem where
  isInstalled := true
  exports _ := true
  converters name :=
    if name = utf8Bytes "EUC-JP" then
      .ok ⟨fun data => .ok (data.map (·.toUInt16)), fun data units same => by
        rw [← Except.ok.inj same, List.length_map]⟩
    else .error ⟨U_FILE_ACCESS_ERROR, by decide⟩
  opensIdna := true
  mapName name := .ok (0, name)
  codepages _ _ := none

theorem icu_computes_three :
    (exampleSystem.protocol.replay exampleSystem.reply exampleSystem.protocol.initial
        (usesProgram [.decodeBody [65, 66] "euc-jp", .idnaToAscii "a",
          .decodeBody [65] "latin6"])).2 =
      [.body (.ok "AB"), .host (.ok "a"), .body (.error (Error.decode (.message
        "ICU cannot open converter \"ISO-8859-10\" (error code 4)")))] :=
  (icu_computes exampleSystem _ (Protocol.traces_replay _ _)
    (exampleSystem.protocol.follows_replay exampleSystem.answers_reply _ [])).trans (by rfl)

end Replies

end Wrest.Icu
