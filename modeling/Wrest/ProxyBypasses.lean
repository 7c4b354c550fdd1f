import Wrest.ProxyConfiguration
import Wrest.DelimitedLists
import Mathlib.Data.List.Forall2

/-!
# Hosts that bypass the proxy

The entries of a `NO_PROXY` list name hosts and domains.  A domain is a list of labels, and
the hosts of a domain are those whose labels end with the labels of the domain, whatever
the case of their letters.  The client compares texts instead of labels; both say the same
of every host.
-/

namespace Wrest.ProxyBypass

/-- The trimmed entries of a list that are not empty. -/
def noProxyEntries (value : String) : List (List Char) :=
  ((value.toList.splitOn ',').map trim).filter fun entry => !entry.isEmpty

/-- The list of the environment; an unset one has no entries. -/
def noProxyValue (environment : ProcessEnvironment) : String :=
  (environment "NO_PROXY").getD ""

def labels (name : List Char) : List (List Char) :=
  name.splitOn '.'

def foldCase (text : List Char) : List Char :=
  text.map asciiLower

def dropLeadingDot : List Char → List Char
  | '.' :: entry => entry
  | entry => entry

/-- The entry names every host, the host, or a domain that the host is in. -/
def Covers (entry host : List Char) : Prop :=
  entry = ['*'] ∨
    if '.' ∈ entry then
      (labels (dropLeadingDot entry)).map foldCase <:+ (labels host).map foldCase
    else
      foldCase entry = foldCase host

/-- The host ends with the text of the entry, but not at a boundary of its labels. -/
def Lookalike (entry host : List Char) : Prop :=
  entry ≠ ['*'] ∧ ∃ before, foldCase host = before ++ foldCase (dropLeadingDot entry) ∧
    before ≠ [] ∧ before.getLast? ≠ some '.'

/-- Each entry of the second list is the one of the first between white space. -/
def Pads (first second : String) : Prop :=
  List.Forall₂
    (fun entry padded => ∃ left right,
      (∀ character ∈ left ++ right, isWhitespace character = true) ∧
        padded = left ++ entry ++ right)
    (first.toList.splitOn ',') (second.toList.splitOn ',')

section Texts

variable {entry host : List Char}

/-- Lower-casing neither makes nor removes a dot. -/
theorem asciiLower_eq_dot (character : Char) :
    asciiLower character = asciiLower '.' ↔ character = '.' := by
  constructor
  · intro same
    have dot : asciiLower '.' = '.' := by decide
    rw [dot] at same
    unfold asciiLower at same
    split at same
    · next upper =>
      have notDot : ∀ code : Fin 26, Char.ofNat (65 + code + 32) ≠ '.' := by decide
      obtain ⟨fromA, toZ⟩ := upper
      have lower : 65 ≤ character.toNat := fromA
      have higher : character.toNat ≤ 90 := toZ
      have code := notDot ⟨character.toNat - 65, by omega⟩
      rw [Nat.add_sub_cancel' lower] at code
      exact absurd same code
    · exact same
  · rintro rfl
    rfl

theorem labels_foldCase (name : List Char) :
    labels (foldCase name) = (labels name).map foldCase :=
  splitOn_map asciiLower_eq_dot name

theorem noProxyEntries_of_pads {first second : String} (pads : Pads first second) :
    noProxyEntries second = noProxyEntries first := by
  have trimmed : (second.toList.splitOn ',').map trim =
      (first.toList.splitOn ',').map trim := by
    unfold Pads at pads
    generalize first.toList.splitOn ',' = pieces, second.toList.splitOn ',' = padded at pads
    induction pads with
    | nil => rfl
    | cons pad _ ih =>
      obtain ⟨left, right, blank, rfl⟩ := pad
      rw [List.map_cons, List.map_cons, trim_pad _ blank, ih]
  rw [noProxyEntries, trimmed, noProxyEntries]

end Texts

section Patterns

variable {entry : List Char} {host : String}

/-- A domain is matched exactly when its labels end the host. -/
theorem isMatch_domainSuffix (domain : List Char) (host : String) :
    (NoProxyPattern.domainSuffix (toAsciiLowercase (String.ofList domain))).isMatch host =
        true ↔
      (labels domain).map foldCase <:+ (labels host.toList).map foldCase := by
  rw [← labels_foldCase, ← labels_foldCase, labels, labels, splitOn_isSuffix_iff]
  simp only [NoProxyPattern.isMatch, toAsciiLowercase, Bool.or_eq_true, beq_iff_eq,
    List.isSuffixOf_iff_suffix, String.toList_ofList, String.ofList_inj]
  rw [eq_comm]
  rfl

theorem isMatch_exact (name : List Char) (host : String) :
    (NoProxyPattern.exact (toAsciiLowercase (String.ofList name))).isMatch host = true ↔
      foldCase name = foldCase host.toList := by
  simp only [NoProxyPattern.isMatch, toAsciiLowercase, beq_iff_eq, String.toList_ofList,
    String.ofList_inj]
  rw [eq_comm]
  rfl

/-- The pattern of an entry matches the hosts that the entry names. -/
theorem isMatch_noProxyPattern (entry : List Char) (host : String) :
    (noProxyPattern entry).isMatch host = true ↔ Covers entry host.toList := by
  unfold noProxyPattern Covers
  split
  · next wildcard => exact iff_of_true rfl (.inl wildcard)
  · next named =>
    rw [or_iff_right named]
    split
    · next domain =>
      rw [if_pos List.mem_cons_self]
      exact isMatch_domainSuffix domain host
    · next noLeadingDot =>
      have unchanged : dropLeadingDot entry = entry := by
        unfold dropLeadingDot
        split
        · next domain => exact absurd rfl (noLeadingDot domain)
        · rfl
      rw [unchanged]
      by_cases dotted : '.' ∈ entry
      · rw [if_pos (List.contains_iff_mem.mpr dotted), if_pos dotted]
        exact isMatch_domainSuffix entry host
      · rw [if_neg (mt List.contains_iff_mem.mp dotted), if_neg dotted]
        exact isMatch_exact entry host

theorem not_covers_of_lookalike {host : List Char} (lookalike : Lookalike entry host) :
    ¬Covers entry host := by
  obtain ⟨named, before, hostEq, nonempty, boundary⟩ := lookalike
  have longer : (foldCase (dropLeadingDot entry)).length < (foldCase host).length := by
    rw [hostEq, List.length_append]
    have := List.length_pos_iff.mpr nonempty
    omega
  rintro (wildcard | covers)
  · exact named wildcard
  · split at covers
    · rw [← labels_foldCase, ← labels_foldCase, labels, labels, splitOn_isSuffix_iff]
        at covers
      rcases covers with same | ⟨start, hostSplit⟩
      · rw [same] at longer
        exact absurd longer (lt_irrefl _)
      · rw [hostEq, ← List.singleton_append, ← List.append_assoc] at hostSplit
        have beforeEq := List.append_cancel_right hostSplit
        rw [← beforeEq, List.getLast?_concat] at boundary
        exact boundary rfl
    · next noDot =>
      have unchanged : dropLeadingDot entry = entry := by
        unfold dropLeadingDot
        split
        · next domain => exact absurd List.mem_cons_self noDot
        · rfl
      rw [unchanged, covers] at longer
      exact absurd longer (lt_irrefl _)

end Patterns

section Configurations

theorem parseNoProxy_eq (value : String) :
    parseNoProxy value = (noProxyEntries value).map noProxyPattern :=
  rfl

/-- The bypass list is the one of the environment, whatever proxies are added. -/
theorem buildProxyConfig_noProxy (environment : ProcessEnvironment) (proxies : List Proxy) :
    (buildProxyConfig environment (proxies.map ProxyCall.proxy)).noProxy =
      parseNoProxy (noProxyValue environment) := by
  have fromEnvironment : (ProxyConfig.fromEnv environment).noProxy =
      parseNoProxy (noProxyValue environment) := by
    unfold ProxyConfig.fromEnv readEnvVar noProxyValue
    cases environment "NO_PROXY" with
    | none => rfl
    | some value =>
      by_cases empty : value = ""
      · subst empty
        rfl
      · simp [Option.filter, empty]
  unfold buildProxyConfig
  rw [← fromEnvironment]
  induction proxies using List.reverseRecOn with
  | nil => rfl
  | append_singleton proxies proxy ih =>
    rw [List.map_append, List.map_singleton, List.foldl_concat]
    obtain ⟨kind, url, creds⟩ := proxy
    cases kind <;> exact ih

/-- Only the bypass list makes a connection direct. -/
theorem resolve_eq_direct {config : ProxyConfig} {host : String} {isHttps : Bool} :
    config.resolve host isHttps = .direct ↔ config.bypasses host = true := by
  unfold ProxyConfig.resolve
  split
  · next bypasses => exact iff_of_true rfl bypasses
  · next proxied =>
    refine iff_of_false ?_ proxied
    split <;> exact ProxyAction.noConfusion

end Configurations

section Resolution

variable (environment : ProcessEnvironment) (proxies : List Proxy) (host : String)
variable (isHttps : Bool)

/-- The action for a request of a client that is built with these proxies. -/
def resolvedFor : ProxyAction :=
  (buildProxyConfig environment (proxies.map ProxyCall.proxy)).resolve host isHttps

/-- When the connection to a host is direct. -/
structure ResolvesByLabels : Prop where
  direct : resolvedFor environment proxies host isHttps = .direct ↔
    ∃ entry ∈ noProxyEntries (noProxyValue environment), Covers entry host.toList
  lookalikes : ∀ entry, Lookalike entry host.toList → ¬Covers entry host.toList
  sameEntries : ∀ other : ProcessEnvironment,
    (∀ entry, entry ∈ noProxyEntries (noProxyValue other) ↔
        entry ∈ noProxyEntries (noProxyValue environment)) →
      (resolvedFor other proxies host isHttps = .direct ↔
        resolvedFor environment proxies host isHttps = .direct)
  padded : ∀ other : ProcessEnvironment,
    Pads (noProxyValue environment) (noProxyValue other) →
      (resolvedFor other proxies host isHttps = .direct ↔
        resolvedFor environment proxies host isHttps = .direct)

theorem resolvedFor_eq_direct :
    resolvedFor environment proxies host isHttps = .direct ↔
      ∃ entry ∈ noProxyEntries (noProxyValue environment), Covers entry host.toList := by
  rw [resolvedFor, resolve_eq_direct, ProxyConfig.bypasses, buildProxyConfig_noProxy,
    parseNoProxy_eq, List.any_map, List.any_eq_true]
  simp only [Function.comp_apply, isMatch_noProxyPattern]

/-- Whatever proxies are configured, the connection to a host is direct exactly when an
entry of the list names the host or a domain of it. -/
theorem resolve_resolvesByLabels : ResolvesByLabels environment proxies host isHttps := by
  have direct := fun environment =>
    resolvedFor_eq_direct environment proxies host isHttps
  constructor
  · exact direct environment
  · exact fun entry => not_covers_of_lookalike
  · intro other same
    simp only [direct, same]
  · intro other pads
    rw [direct other, noProxyEntries_of_pads pads, direct environment]

/-- The domain `.b` of a list does not name the host `ab`. -/
example : resolvedFor (fun name => if name = "NO_PROXY" then some " x,.b " else none) []
    "ab" false = .automatic := by
  decide

end Resolution

end Wrest.ProxyBypass
