import Wrest.IcuCalls

/-!
# The use of ICU

However often texts are decoded and names are mapped, each group of functions is looked
up once, only functions that were found are called, and only while their module is loaded.
Every converter and mapping object is closed once, after its last use, and it is used only
if it was opened without an error.

ICU gives no mapping object beside an error.  A pointer that it returned with one would not
be closed.
-/

namespace Wrest.Icu

open Interaction TextDecoding

/-- The references to the modules, the functions that were found in them, the two cells,
the open converters and mapping objects with the success of their opening, and the number of
loads. -/
structure IcuState where
  modules : List Nat
  exports : List FunctionPointer
  icu : Option (Option IcuFunctions)
  icuIdna : Option (Option IcuIdnaFunctions)
  converters : List (Nat × Bool)
  idnas : List (Nat × Bool)
  loads : Nat

namespace IcuState

def initial : IcuState where
  modules := []
  exports := []
  icu := none
  icuIdna := none
  converters := []
  idnas := []
  loads := 0

/-- A pointer that may be called as the function of this name: it was found in a module that
is still loaded. -/
def Callable (state : IcuState) (function : FunctionPointer) (exportName : String) : Prop :=
  function ∈ state.exports ∧ function.module ∈ state.modules ∧
    function.exportName = exportName

def Resolved (state : IcuState) (functions : IcuFunctions) : Prop :=
  state.Callable functions.ucnvOpen "ucnv_open" ∧
    state.Callable functions.ucnvToUChars "ucnv_toUChars" ∧
    state.Callable functions.ucnvClose "ucnv_close"

def ResolvedIdna (state : IcuState) (functions : IcuIdnaFunctions) : Prop :=
  state.Callable functions.openUts46 "uidna_openUTS46" ∧
    state.Callable functions.nameToAsciiUtf8 "uidna_nameToASCII_UTF8" ∧
    state.Callable functions.close "uidna_close"

end IcuState

/-- The calls that a state permits.  Functions are called through pointers to them, with
objects that were opened without an error and lengths that fit in their types; a module that
is in use is not released, and a cell is set once. -/
def permitsCall (state : IcuState) : IcuCall → Prop
  | .loadLibrary | .getIcu | .getIcuIdna => True
  | .freeLibrary module | .getProcAddress module _ => module ∈ state.modules
  | .setIcu functions =>
    state.icu = none ∧ ∀ table, functions = some table → state.Resolved table
  | .setIcuIdna functions =>
    state.icuIdna = none ∧ ∀ table, functions = some table → state.ResolvedIdna table
  | .ucnvOpen function name =>
    state.Callable function "ucnv_open" ∧ name.getLast? = some 0
  | .ucnvToUChars function converter capacity data =>
    state.Callable function "ucnv_toUChars" ∧ (converter, true) ∈ state.converters ∧
      capacity ≤ i32Max ∧ data.length ≤ i32Max
  | .ucnvClose function converter =>
    state.Callable function "ucnv_close" ∧ converter ∈ state.converters.map Prod.fst
  | .uidnaOpen function _ => state.Callable function "uidna_openUTS46"
  | .nameToAscii function idna name _ _ =>
    state.Callable function "uidna_nameToASCII_UTF8" ∧ (idna, true) ∈ state.idnas ∧
      name.length ≤ i32Max
  | .uidnaClose function idna =>
    state.Callable function "uidna_close" ∧ (idna, true) ∈ state.idnas
  | .multiByteToWideChar _ data _ => data.length ≤ i32Max

/-- The cells give what was put into them.  All other replies are possible. -/
def expectsReply (state : IcuState) : Exchange icuInterface → Prop
  | ⟨.getIcu, cell⟩ => cell = state.icu
  | ⟨.getIcuIdna, cell⟩ => cell = state.icuIdna
  | _ => True

/-- A new object, unless it is null, and whether it was opened without an error. -/
def opened (reply : Nat × Int) (objects : List (Nat × Bool)) : List (Nat × Bool) :=
  if reply.1 = 0 then objects else (reply.1, decide (reply.2 ≤ U_ZERO_ERROR)) :: objects

def closed (object : Nat) (objects : List (Nat × Bool)) : List (Nat × Bool) :=
  objects.eraseP fun other => other.1 == object

theorem closed_cons (object : Nat) (succeeded : Bool) (objects : List (Nat × Bool)) :
    closed object ((object, succeeded) :: objects) = objects := by
  simp [closed]

/-- The functions of a module go with its last reference. -/
def freed (module : Nat) (state : IcuState) : IcuState :=
  let modules := state.modules.erase module
  { state with
    modules
    exports := state.exports.filter fun function => modules.contains function.module }

def nextState (state : IcuState) : Exchange icuInterface → IcuState
  | ⟨.loadLibrary, (module : Nat)⟩ =>
    { state with
      modules := if module = 0 then state.modules else module :: state.modules
      loads := state.loads + 1 }
  | ⟨.freeLibrary module, _⟩ => freed module state
  | ⟨.getProcAddress module exportName, found⟩ =>
    { state with
      exports := bif found then ⟨module, exportName⟩ :: state.exports else state.exports }
  | ⟨.setIcu functions, _⟩ => { state with icu := some functions }
  | ⟨.setIcuIdna functions, _⟩ => { state with icuIdna := some functions }
  | ⟨.ucnvOpen _ _, reply⟩ => { state with converters := opened reply state.converters }
  | ⟨.ucnvClose _ converter, _⟩ =>
    { state with converters := closed converter state.converters }
  | ⟨.uidnaOpen _ _, reply⟩ => { state with idnas := opened reply state.idnas }
  | ⟨.uidnaClose _ idna, _⟩ => { state with idnas := closed idna state.idnas }
  | _ => state

def icuProtocol : Protocol icuInterface IcuState where
  initial := .initial
  permits := permitsCall
  expects := expectsReply
  next := nextState

/-- Between two uses no converter is open, and no mapping object that was opened without an
error; the kept functions can be called, and every cell that is set took one load. -/
structure Idle (state : IcuState) : Prop where
  converters : state.converters = []
  idnas : ∀ idna ∈ state.idnas, idna.2 = false
  resolved : ∀ table, state.icu = some (some table) → state.Resolved table
  resolvedIdna : ∀ table, state.icuIdna = some (some table) → state.ResolvedIdna table
  loads : state.loads = state.icu.isSome.toNat + state.icuIdna.isSome.toNat

/-- Modules were loaded and functions were found, and what could be called still can. -/
structure Extends (state : IcuState) (loads : Nat) (after : IcuState) : Prop where
  same : ∃ modules exports, after = { state with modules, exports, loads }
  callable : ∀ function exportName, state.Callable function exportName →
    after.Callable function exportName

theorem Extends.trans {state middle after : IcuState} {first second : Nat}
    (left : Extends state first middle) (right : Extends middle second after) :
    Extends state second after := by
  obtain ⟨modules, exports, rfl⟩ := left.same
  obtain ⟨others, functions, rfl⟩ := right.same
  exact ⟨⟨others, functions, rfl⟩, fun function exportName callable =>
    right.callable function exportName (left.callable function exportName callable)⟩

section Loading

variable {state : IcuState}

theorem getProcAddress_respects {module : Nat} (exportName : String)
    (loaded : module ∈ state.modules) :
    icuProtocol.Respects (· = state) (getProcAddress module exportName)
      fun found after => Extends state state.loads after ∧ after.modules = state.modules ∧
        ∀ pointer, found = some pointer → after.Callable pointer exportName := by
  refine Protocol.respects_call (fun (found : Bool) after => after =
    { state with
      exports := bif found then ⟨module, exportName⟩ :: state.exports else state.exports })
    ?_ ?_ fun (found : Bool) => Protocol.respects_pure ?_
  · rintro _ rfl
    exact loaded
  · rintro _ found rfl _
    rfl
  · rintro after rfl
    refine ⟨⟨⟨_, _, rfl⟩, fun function name callable => ?_⟩, rfl, fun pointer known => ?_⟩
    · cases found with
      | false => exact callable
      | true => exact ⟨List.mem_cons_of_mem _ callable.1, callable.2⟩
    · cases found with
      | false => cases known
      | true =>
        obtain rfl := Option.some.inj known
        exact ⟨List.mem_cons_self, loaded, rfl⟩

variable {T : Type} {build : FunctionPointer → FunctionPointer → FunctionPointer → T}
variable {first second third : String}

/-- The table consists of functions of these names. -/
def Provides (build : FunctionPointer → FunctionPointer → FunctionPointer → T)
    (first second third : String) (state : IcuState) (table : T) : Prop :=
  ∃ one two three, table = build one two three ∧ state.Callable one first ∧
    state.Callable two second ∧ state.Callable three third

theorem resolveThree_respects {module : Nat} (loaded : module ∈ state.modules) :
    icuProtocol.Respects (· = state) (resolveThree first second third build module)
      fun found after => Extends state state.loads after ∧ after.modules = state.modules ∧
        ∀ table, found = some table → Provides build first second third after table := by
  refine (getProcAddress_respects first loaded).bind fun firstFound => ?_
  refine Protocol.respects_of_forall ?_
  rintro middle ⟨extended, modulesEq, isFirst⟩
  refine (getProcAddress_respects second (modulesEq ▸ loaded)).bind fun secondFound => ?_
  refine Protocol.respects_of_forall ?_
  rintro later ⟨extendedLater, modulesLater, isSecond⟩
  have stillLoaded : module ∈ later.modules := by rwa [modulesLater, modulesEq]
  refine (getProcAddress_respects third stillLoaded).bind fun thirdFound => ?_
  refine Protocol.respects_pure ?_
  rintro last ⟨extendedLast, modulesLast, isThird⟩
  have loadsEq : later.loads = state.loads := by
    obtain ⟨_, _, rfl⟩ := extended.same
    obtain ⟨_, _, rfl⟩ := extendedLater.same
    rfl
  refine ⟨loadsEq ▸ (extended.trans extendedLater).trans extendedLast,
    modulesLast.trans (modulesLater.trans modulesEq), fun table known => ?_⟩
  cases firstFound with
  | none => cases known
  | some firstPointer =>
    cases secondFound with
    | none => cases known
    | some secondPointer =>
      cases thirdFound with
      | none => cases known
      | some thirdPointer =>
        refine ⟨firstPointer, secondPointer, thirdPointer, (Option.some.inj known).symm, ?_, ?_,
          isThird _ rfl⟩
        · exact extendedLast.callable _ _ (extendedLater.callable _ _ (isFirst _ rfl))
        · exact extendedLast.callable _ _ (isSecond _ rfl)

/-- A module that provides nothing is released, and the other ones stay. -/
theorem extends_freed {module : Nat} {after : IcuState}
    (extended : Extends { state with
      modules := module :: state.modules, loads := state.loads + 1 } (state.loads + 1) after)
    (modulesEq : after.modules = module :: state.modules) :
    Extends state (state.loads + 1) (freed module after) := by
  have remaining : after.modules.erase module = state.modules := by
    rw [modulesEq, List.erase_cons_head]
  have callable := extended.callable
  obtain ⟨modules, exports, rfl⟩ := extended.same
  refine ⟨⟨_, _, rfl⟩, fun function exportName known => ?_⟩
  obtain ⟨found, -, -⟩ := callable function exportName
    ⟨known.1, List.mem_cons_of_mem _ known.2.1, known.2.2⟩
  refine ⟨?_, ?_, known.2.2⟩
  · simp only [freed, List.mem_filter, List.contains_iff_mem]
    exact ⟨found, remaining ▸ known.2.1⟩
  · show function.module ∈ List.erase _ module
    exact remaining ▸ known.2.1

/-- The module stays loaded when the functions were found in it. -/
theorem loadIcuExports_respects :
    icuProtocol.Respects (· = state)
      (loadIcuExports (resolveThree first second third build))
      fun found after => Extends state (state.loads + 1) after ∧
        ∀ table, found = some table → Provides build first second third after table := by
  refine Protocol.respects_call (fun (module : Nat) after => after =
    { state with
      modules := if module = 0 then state.modules else module :: state.modules
      loads := state.loads + 1 })
    (fun _ _ => trivial) ?_ fun (module : Nat) => ?_
  · rintro _ module rfl _
    rfl
  · by_cases null : module = 0
    · simp only [null, if_true]
      refine Protocol.respects_pure ?_
      rintro _ rfl
      exact ⟨⟨⟨_, _, rfl⟩, fun _ _ callable => callable⟩, nofun⟩
    · simp only [null, if_false]
      have started : Extends state (state.loads + 1)
          { state with modules := module :: state.modules, loads := state.loads + 1 } :=
        ⟨⟨_, _, rfl⟩, fun _ _ callable =>
          ⟨callable.1, List.mem_cons_of_mem _ callable.2.1, callable.2.2⟩⟩
      refine (resolveThree_respects List.mem_cons_self).bind fun found => ?_
      cases found with
      | some table =>
        refine Protocol.respects_pure ?_
        rintro after ⟨extended, -, provides⟩
        exact ⟨started.trans extended, provides⟩
      | none =>
        refine Protocol.respects_call (fun _ after => Extends state (state.loads + 1) after)
          ?_ ?_ fun _ => Protocol.respects_pure fun _ extended => ⟨extended, nofun⟩
        · rintro after ⟨-, modulesEq, -⟩
          show module ∈ after.modules
          rw [modulesEq]
          exact List.mem_cons_self
        · rintro after _ ⟨extended, modulesEq, -⟩ _
          exact extends_freed extended modulesEq

end Loading

section Cells

variable {state after : IcuState}

theorem Idle.extended (idle : Idle state) {loads : Nat} (extended : Extends state loads after) :
    after.converters = [] ∧ (∀ idna ∈ after.idnas, idna.2 = false) ∧
      (∀ table, after.icu = some (some table) → after.Resolved table) ∧
      ∀ table, after.icuIdna = some (some table) → after.ResolvedIdna table := by
  have callable := extended.callable
  obtain ⟨modules, exports, rfl⟩ := extended.same
  refine ⟨idle.converters, idle.idnas, fun table known => ?_, fun table known => ?_⟩
  · obtain ⟨opens, converts, closes⟩ := idle.resolved table known
    exact ⟨callable _ _ opens, callable _ _ converts, callable _ _ closes⟩
  · obtain ⟨opens, maps, closes⟩ := idle.resolvedIdna table known
    exact ⟨callable _ _ opens, callable _ _ maps, callable _ _ closes⟩

theorem Idle.setIcu (idle : Idle state) (unset : state.icu = none)
    (extended : Extends state (state.loads + 1) after) {found : Option IcuFunctions}
    (resolves : ∀ table, found = some table → after.Resolved table) :
    Idle { after with icu := some found } := by
  obtain ⟨converters, idnas, -, resolvedIdna⟩ := idle.extended extended
  have loads := idle.loads
  refine ⟨converters, idnas, fun table known => resolves table (Option.some.inj known),
    resolvedIdna, ?_⟩
  obtain ⟨modules, exports, rfl⟩ := extended.same
  simp only [unset, Option.isSome_none, Option.isSome_some] at loads ⊢
  simp only [Bool.toNat_false, Bool.toNat_true] at loads ⊢
  omega

theorem Idle.setIcuIdna (idle : Idle state) (unset : state.icuIdna = none)
    (extended : Extends state (state.loads + 1) after) {found : Option IcuIdnaFunctions}
    (resolves : ∀ table, found = some table → after.ResolvedIdna table) :
    Idle { after with icuIdna := some found } := by
  obtain ⟨converters, idnas, resolved, -⟩ := idle.extended extended
  have loads := idle.loads
  refine ⟨converters, idnas, resolved,
    fun table known => resolves table (Option.some.inj known), ?_⟩
  obtain ⟨modules, exports, rfl⟩ := extended.same
  simp only [unset, Option.isSome_none, Option.isSome_some] at loads ⊢
  simp only [Bool.toNat_false, Bool.toNat_true] at loads ⊢
  omega

theorem icuFunctions_respects :
    icuProtocol.Respects Idle icuFunctions
      fun found after => Idle after ∧ after.icu = some found := by
  refine Protocol.respects_call (fun cell after => Idle after ∧ cell = after.icu)
    (fun _ _ => trivial) (fun _ _ idle known => ⟨idle, known⟩)
    fun (cell : Option (Option IcuFunctions)) => ?_
  cases cell with
  | some functions =>
    refine Protocol.respects_pure ?_
    rintro _ ⟨idle, known⟩
    exact ⟨idle, known.symm⟩
  | none =>
    refine Protocol.respects_of_forall ?_
    rintro state ⟨idle, unset⟩
    refine loadIcuExports_respects.bind fun found => ?_
    have resolves : ∀ after, (∀ table, found = some table →
        Provides IcuFunctions.mk "ucnv_open" "ucnv_toUChars" "ucnv_close" after table) →
          ∀ table, found = some table → after.Resolved table := by
      rintro after provides table known
      obtain ⟨one, two, three, rfl, opens, converts, closes⟩ := provides table known
      exact ⟨opens, converts, closes⟩
    refine Protocol.respects_call (fun _ after => Idle after ∧ after.icu = some found)
      ?_ ?_ fun _ => Protocol.respects_pure fun _ holds => holds
    · rintro after ⟨extended, provides⟩
      refine ⟨?_, resolves after provides⟩
      obtain ⟨modules, exports, rfl⟩ := extended.same
      exact unset.symm
    · rintro after _ ⟨extended, provides⟩ _
      exact ⟨idle.setIcu unset.symm extended (resolves after provides), rfl⟩

theorem icuIdnaFunctions_respects :
    icuProtocol.Respects Idle icuIdnaFunctions
      fun found after => Idle after ∧ after.icuIdna = some found := by
  refine Protocol.respects_call (fun cell after => Idle after ∧ cell = after.icuIdna)
    (fun _ _ => trivial) (fun _ _ idle known => ⟨idle, known⟩)
    fun (cell : Option (Option IcuIdnaFunctions)) => ?_
  cases cell with
  | some functions =>
    refine Protocol.respects_pure ?_
    rintro _ ⟨idle, known⟩
    exact ⟨idle, known.symm⟩
  | none =>
    refine Protocol.respects_of_forall ?_
    rintro state ⟨idle, unset⟩
    refine loadIcuExports_respects.bind fun found => ?_
    have resolves : ∀ after, (∀ table, found = some table →
        Provides IcuIdnaFunctions.mk "uidna_openUTS46" "uidna_nameToASCII_UTF8" "uidna_close"
          after table) →
          ∀ table, found = some table → after.ResolvedIdna table := by
      rintro after provides table known
      obtain ⟨one, two, three, rfl, opens, maps, closes⟩ := provides table known
      exact ⟨opens, maps, closes⟩
    refine Protocol.respects_call (fun _ after => Idle after ∧ after.icuIdna = some found)
      ?_ ?_ fun _ => Protocol.respects_pure fun _ holds => holds
    · rintro after ⟨extended, provides⟩
      refine ⟨?_, resolves after provides⟩
      obtain ⟨modules, exports, rfl⟩ := extended.same
      exact unset.symm
    · rintro after _ ⟨extended, provides⟩ _
      exact ⟨idle.setIcuIdna unset.symm extended (resolves after provides), rfl⟩

end Cells

section Uses

variable {state : IcuState}

/-- A call that leaves the state as it is. -/
theorem respects_call_same {α : Type} {request : IcuCall}
    {next : icuInterface.Reply request → IcuProgram α} {post : α → IcuState → Prop}
    (permitted : permitsCall state request)
    (same : ∀ reply, nextState state ⟨request, reply⟩ = state)
    (rest : ∀ reply, icuProtocol.Respects (· = state) (next reply) post) :
    icuProtocol.Respects (· = state) (.call request next) post := by
  refine Protocol.respects_call (fun _ after => after = state) ?_ ?_ rest
  · rintro _ rfl
    exact permitted
  · rintro _ reply rfl _
    exact same reply

theorem respects_return {α : Type} {value : α} :
    icuProtocol.Respects (· = state) (.pure value) fun _ after => after = state :=
  Protocol.respects_pure fun _ holds => holds

theorem convert_respects {icu : IcuFunctions} {converter : Nat} (converterName : String)
    (data : List UInt8) (resolved : state.Resolved icu)
    (isOpen : (converter, true) ∈ state.converters) :
    icuProtocol.Respects (· = state) (convert icu converter converterName data)
      fun _ after => after = state := by
  unfold convert
  by_cases large : i32Max < data.length
  · simp only [large, if_true]
    exact respects_return
  · by_cases full : i32Max < data.length + 1
    · simp only [large, full, if_true, if_false]
      exact respects_return
    · simp only [large, full, if_false]
      refine respects_call_same ⟨resolved.2.1, isOpen, by omega, by omega⟩ (fun _ => rfl)
        fun (reply : ConversionReply) => ?_
      split
      · exact respects_return
      · exact respects_return

theorem decodeWithIcu_respects {icu : IcuFunctions} (converterName : String)
    (data : List UInt8) (resolved : state.Resolved icu) :
    icuProtocol.Respects (· = state) (decodeWithIcu icu converterName data)
      fun _ after => after = state := by
  refine Protocol.respects_call (fun reply after =>
    after = { state with converters := opened reply state.converters }) ?_ ?_ ?_
  · rintro _ rfl
    exact ⟨resolved.1, by simp⟩
  · rintro _ reply rfl _
    rfl
  · intro (converter, status)
    by_cases null : converter = 0
    · simp only [null, opened, if_true, true_and, or_true, ne_eq, not_true_eq_false, if_false]
      split
      · exact respects_return
      · exact respects_return
    · have closes : ∀ succeeded, icuProtocol.Respects
          (· = { state with converters := (converter, succeeded) :: state.converters })
          (.call (.ucnvClose icu.ucnvClose converter) fun _ => .pure ())
          fun _ after => after = state := by
        intro succeeded
        refine Protocol.respects_call (fun _ after => after = state) ?_ ?_
          fun _ => respects_return
        · rintro _ rfl
          exact ⟨resolved.2.2, List.mem_cons_self⟩
        · rintro _ reply rfl _
          simp only [icuProtocol, nextState, closed_cons]
      simp only [null, opened, if_false, false_and, or_false, ne_eq, not_false_eq_true, if_true]
      split
      · exact (closes _).bind fun _ => respects_return
      · next usable =>
        rw [decide_eq_true (Int.not_lt.mp usable)]
        have converts : icuProtocol.Respects
            (· = { state with converters := (converter, true) :: state.converters })
            (convert icu converter converterName data)
            fun _ after =>
              after = { state with converters := (converter, true) :: state.converters } :=
          convert_respects converterName data resolved List.mem_cons_self
        exact converts.scoped fun _ => closes true

theorem multiByteToString_respects (codepage : Nat) (data : List UInt8) :
    icuProtocol.Respects (· = state) (multiByteToString codepage data)
      fun _ after => after = state := by
  unfold multiByteToString
  by_cases empty : data = []
  · simp only [empty, if_true]
    exact respects_return
  · by_cases large : i32Max < data.length
    · simp only [empty, large, if_true, if_false]
      exact respects_return
    · simp only [empty, large, if_false]
      refine respects_call_same (Nat.not_lt.mp large) (fun _ => rfl)
        fun (query : NlsReply) => ?_
      split
      · exact respects_return
      · refine respects_call_same (Nat.not_lt.mp large) (fun _ => rfl)
          fun (reply : NlsReply) => ?_
        split
        · exact respects_return
        · exact respects_return

theorem mapName_respects {functions : IcuIdnaFunctions} {idna : Nat} {name : String}
    (status : Int) (resolved : state.ResolvedIdna functions)
    (isOpen : (idna, true) ∈ state.idnas)
    (fits : (utf8Bytes name).length ≤ i32Max) :
    icuProtocol.Respects (· = state) (mapName functions idna name status)
      fun _ after => after = state := by
  refine respects_call_same ⟨resolved.2.1, isOpen, fits⟩ (fun _ => rfl)
    fun (first : IdnaReply) => ?_
  split
  · exact respects_return
  · refine respects_call_same ⟨resolved.2.1, isOpen, fits⟩ (fun _ => rfl)
      fun (second : IdnaReply) => ?_
    split
    · exact respects_return
    · exact respects_return

/-- A decoder is looked up when it is first needed. -/
theorem icuDecode_respects (converterName : String) (data : List UInt8) :
    icuProtocol.Respects Idle (icuDecode converterName data) fun _ => Idle := by
  unfold icuDecode
  by_cases empty : data = []
  · rw [if_pos empty]
    exact Protocol.respects_pure fun _ idle => idle
  · rw [if_neg empty]
    refine icuFunctions_respects.bind fun found => ?_
    cases found with
    | none => exact Protocol.respects_pure fun _ holds => holds.1
    | some icu =>
      refine Protocol.respects_of_forall ?_
      rintro state ⟨idle, known⟩
      refine (decodeWithIcu_respects converterName data (idle.resolved icu known)).bind
        fun decoded => ?_
      rcases decoded with error | _ | text
      · exact Protocol.respects_pure fun _ same => same ▸ idle
      · exact Protocol.respects_pure fun _ same => same ▸ idle
      · exact Protocol.respects_pure fun _ same => same ▸ idle

theorem icuDecodeIfAvailable_respects (converterName : String) (data : List UInt8) :
    icuProtocol.Respects Idle (icuDecodeIfAvailable converterName data) fun _ => Idle := by
  unfold icuDecodeIfAvailable
  by_cases empty : data = []
  · rw [if_pos empty]
    exact Protocol.respects_pure fun _ idle => idle
  · rw [if_neg empty]
    refine icuFunctions_respects.bind fun found => ?_
    cases found with
    | none => exact Protocol.respects_pure fun _ holds => holds.1
    | some icu =>
      refine Protocol.respects_of_forall ?_
      rintro state ⟨idle, known⟩
      refine (decodeWithIcu_respects converterName data (idle.resolved icu known)).mono
        (fun _ same => same) ?_
      rintro _ _ rfl
      exact idle

theorem idnaToAscii_respects (name : String) :
    icuProtocol.Respects Idle (idnaToAscii name) fun _ => Idle := by
  refine icuIdnaFunctions_respects.bind fun found => ?_
  cases found with
  | none => exact Protocol.respects_pure fun _ holds => holds.1
  | some functions =>
    refine Protocol.respects_of_forall ?_
    rintro state ⟨idle, known⟩
    have resolved := idle.resolvedIdna functions known
    by_cases large : i32Max < (utf8Bytes name).length
    · simp only [large, if_true]
      exact Protocol.respects_pure fun _ same => same ▸ idle
    · simp only [large, if_false]
      refine Protocol.respects_call (fun reply after =>
        after = { state with idnas := opened reply state.idnas }) ?_ ?_ ?_
      · rintro _ rfl
        exact resolved.1
      · rintro _ reply rfl _
        rfl
      · intro (idna, status)
        by_cases null : idna = 0
        · simp only [null, opened, if_true, or_true]
          exact Protocol.respects_pure fun _ same => same ▸ idle
        · simp only [null, opened, if_false, or_false]
          split
          · next failed =>
            rw [decide_eq_false (Int.not_le.mpr failed)]
            refine Protocol.respects_pure ?_
            rintro _ rfl
            refine ⟨idle.converters, ?_, idle.resolved, idle.resolvedIdna, idle.loads⟩
            rintro other (_ | ⟨_, member⟩)
            · rfl
            · exact idle.idnas other member
          · next usable =>
            rw [decide_eq_true (Int.not_lt.mp usable)]
            have closes : icuProtocol.Respects
                (· = { state with idnas := (idna, true) :: state.idnas })
                (.call (.uidnaClose functions.close idna) fun _ => .pure ())
                fun _ => Idle := by
              refine Protocol.respects_call (fun _ => Idle) ?_ ?_
                fun _ => Protocol.respects_pure fun _ holds => holds
              · rintro _ rfl
                exact ⟨resolved.2.2, List.mem_cons_self⟩
              · rintro _ reply rfl _
                simp only [icuProtocol, nextState, closed_cons]
                exact idle
            have maps : icuProtocol.Respects
                (· = { state with idnas := (idna, true) :: state.idnas })
                (mapName functions idna name status)
                fun _ after => after = { state with idnas := (idna, true) :: state.idnas } :=
              mapName_respects status resolved List.mem_cons_self (Nat.not_lt.mp large)
            exact maps.scoped fun _ => closes

theorem decodeBodyProgram_respects (data : List UInt8) (charset : String) :
    icuProtocol.Respects Idle (decodeBodyProgram data charset) fun _ => Idle := by
  have returns : ∀ result : Except Error String,
      icuProtocol.Respects Idle (.pure result) fun _ => Idle :=
    fun _ => Protocol.respects_pure fun _ idle => idle
  have converts : ∀ codepage rest,
      icuProtocol.Respects Idle (multiByteToString codepage rest) fun _ => Idle := by
    intro codepage rest
    refine Protocol.respects_of_forall fun state idle => ?_
    exact (multiByteToString_respects codepage rest).mono (fun _ same => same)
      fun _ _ same => same ▸ idle
  have prefers : ∀ codepage icuName rest,
      icuProtocol.Respects Idle (decodeIcuPreferredProgram codepage icuName rest)
        fun _ => Idle := by
    intro codepage icuName rest
    refine (icuDecodeIfAvailable_respects icuName rest).bind fun decoded => ?_
    rcases decoded with error | _ | text
    · exact returns _
    · exact converts codepage rest
    · exact returns _
  unfold decodeBodyProgram decodeLabeledProgram decodeCodepageProgram
  split_ifs
  · exact returns _
  · exact returns _
  · split
    · exact returns _
    · split_ifs
      all_goals first | exact returns _ | skip
      split
      · exact icuDecode_respects _ _
      · exact prefers _ _ _
      · exact converts _ _
      · exact returns _

end Uses

/-- What the client uses the functions for. -/
inductive IcuUse
  | decodeBody (data : List UInt8) (charset : String)
  | idnaToAscii (name : String)

inductive IcuResult
  | body (decoded : Except Error String)
  | host (mapped : Except IcuIdnaError String)

def IcuUse.program : IcuUse → IcuProgram IcuResult
  | decodeBody data charset =>
    decodeBodyProgram data charset >>= fun decoded => .pure (.body decoded)
  | idnaToAscii name => Icu.idnaToAscii name >>= fun mapped => .pure (.host mapped)

/-- One use after the other. -/
def usesProgram : List IcuUse → IcuProgram (List IcuResult)
  | [] => .pure []
  | use :: uses =>
    use.program >>= fun result => usesProgram uses >>= fun results => .pure (result :: results)

theorem IcuUse.program_respects (use : IcuUse) :
    icuProtocol.Respects Idle use.program fun _ => Idle := by
  have returns (result : IcuResult) : icuProtocol.Respects Idle (.pure result) fun _ => Idle :=
    Protocol.respects_pure fun _ idle => idle
  cases use with
  | decodeBody data charset =>
    exact (decodeBodyProgram_respects data charset).bind fun _ => returns _
  | idnaToAscii name => exact (idnaToAscii_respects name).bind fun _ => returns _

theorem usesProgram_respects (uses : List IcuUse) :
    icuProtocol.Respects Idle (usesProgram uses) fun _ => Idle := by
  induction uses with
  | nil => exact Protocol.respects_pure fun _ idle => idle
  | cons use uses ih =>
    exact use.program_respects.bind fun _ => ih.bind fun _ =>
      Protocol.respects_pure fun _ idle => idle

theorem idle_initial : Idle .initial where
  converters := rfl
  idnas := nofun
  resolved := nofun
  resolvedIdna := nofun
  loads := rfl

def isLoad (exchange : Exchange icuInterface) : Bool :=
  match exchange.call with
  | .loadLibrary => true
  | _ => false

theorem nextState_loads (state : IcuState) (exchange : Exchange icuInterface) :
    (nextState state exchange).loads = state.loads + (isLoad exchange).toNat := by
  obtain ⟨request, reply⟩ := exchange
  cases request <;> rfl

theorem after_loads (trace : List (Exchange icuInterface)) :
    (icuProtocol.after trace).loads = trace.countP isLoad := by
  induction trace using List.reverseRecOn with
  | nil => rfl
  | append_singleton trace exchange ih =>
    rw [Protocol.after_concat, List.countP_append, List.countP_singleton, ← ih]
    refine (nextState_loads _ _).trans ?_
    cases isLoad exchange <;> rfl

/-- However often bodies are decoded and names are mapped, and whatever is replied: every call
goes through a function that was found in a module that is still loaded, to an object that
was opened without an error and is still open; the library is loaded at most twice, and
afterwards nothing is left open that was opened without an error. -/
theorem icu_isWellUsed (uses : List IcuUse) {trace : List (Exchange icuInterface)}
    {results : List IcuResult} (traces : Traces (usesProgram uses) trace results)
    (expected : Follows (fun history exchange =>
      expectsReply (icuProtocol.after history) exchange) [] trace) :
    Follows (fun history exchange =>
        permitsCall (icuProtocol.after history) exchange.call) [] trace ∧
      trace.countP isLoad ≤ 2 ∧ Idle (icuProtocol.after trace) := by
  obtain ⟨permitted, idle⟩ :=
    (usesProgram_respects uses).traces idle_initial traces expected
  refine ⟨permitted, ?_, idle⟩
  have bounded (known : Bool) : known.toNat ≤ 1 := Bool.toNat_le known
  rw [← after_loads, idle.loads]
  exact Nat.add_le_add (bounded _) (bounded _)

/-- A system that has the functions, and one converter and one mapping. -/
def exampleReplies (state : IcuState) : (request : IcuCall) → icuInterface.Reply request
  | .loadLibrary => (7 : Nat)
  | .getProcAddress _ _ => true
  | .getIcu => state.icu
  | .getIcuIdna => state.icuIdna
  | .ucnvOpen _ _ => ((11 : Nat), U_ZERO_ERROR)
  | .ucnvToUChars _ _ _ _ => (⟨1, U_ZERO_ERROR, [0x3042]⟩ : ConversionReply)
  | .uidnaOpen _ _ => ((12 : Nat), U_ZERO_ERROR)
  | .nameToAscii _ _ _ _ _ => (⟨1, U_ZERO_ERROR, 0, [97]⟩ : IdnaReply)
  | .multiByteToWideChar _ _ _ => (⟨0, []⟩ : NlsReply)
  | .freeLibrary _ | .setIcu _ | .setIcuIdna _ | .ucnvClose _ _ | .uidnaClose _ _ => ()

theorem exampleReplies_expected (state : IcuState) (request : IcuCall) :
    expectsReply state ⟨request, exampleReplies state request⟩ := by
  cases request with
  | getIcu => rfl
  | getIcuIdna => rfl
  | _ => trivial

/-- The exchanges of three uses.  Each group of functions is looked up for its first
use. -/
def exampleTrace : List (Exchange icuInterface) :=
  (icuProtocol.replay exampleReplies icuProtocol.initial (usesProgram
    [.decodeBody [0xA4, 0xA2] "euc-jp", .idnaToAscii "A",
      .decodeBody [0xA4, 0xA2] "x-euc-jp"])).1

theorem icu_isWellUsed_three :
    exampleTrace.length = 23 ∧
      Follows (fun history exchange =>
        permitsCall (icuProtocol.after history) exchange.call) [] exampleTrace ∧
      exampleTrace.countP isLoad ≤ 2 ∧ Idle (icuProtocol.after exampleTrace) :=
  ⟨by decide +kernel, icu_isWellUsed _ (Protocol.traces_replay _ _)
    (icuProtocol.follows_replay exampleReplies_expected _ [])⟩

end Wrest.Icu
