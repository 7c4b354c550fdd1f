import Wrest.UrlRoundTrips

/-!
# Comparing URLs

URLs are equal, and hashed, by all their fields, but ordered by their text.  The text
leaves out the userinfo, so the order takes two URLs for the same exactly when they
differ at most in their userinfo.
-/

namespace Wrest

/-- What a `Hasher` does with the values that are written to it. -/
structure Hasher (State : Type) where
  writeStr : State → String → State
  writeU16 : State → Nat → State
  writeBool : State → Bool → State
  writeDiscriminant : State → Nat → State

namespace Hasher

variable {State : Type} (hasher : Hasher State)

def hashOption (state : State) : Option String → State
  | none => hasher.writeDiscriminant state 0
  | some text => hasher.writeStr (hasher.writeDiscriminant state 1) text

end Hasher

namespace Url

/-- `Ord::cmp`: texts are compared by their octets. -/
def cmp (url other : Url) : Ordering :=
  compare (utf8Bytes url.serialized) (utf8Bytes other.serialized)

/-- `Hash::hash`: every field, in the order of the declaration. -/
def hash {State : Type} (hasher : Hasher State) (url : Url) (state : State) : State :=
  let state := hasher.writeStr state url.serialized
  let state := hasher.writeStr state url.scheme
  let state := hasher.writeStr state url.host
  let state := hasher.writeU16 state url.port
  let state := hasher.writeBool state url.explicitPort
  let state := hasher.writeStr state url.path
  let state := hasher.hashOption state url.query
  let state := hasher.hashOption state url.fragment
  let state := hasher.writeBool state url.isHttps
  let state := hasher.writeStr state url.pathAndQuery
  let state := hasher.writeStr state url.username
  hasher.hashOption state url.password

end Url

theorem utf8Bytes_injective : Function.Injective utf8Bytes := by
  intro first second same
  have decoded := decodeUtf8_utf8Bytes first
  rw [same, decodeUtf8_utf8Bytes] at decoded
  exact (Option.some.inj decoded).symm

namespace Url

theorem cmp_eq_eq_iff {url other : Url} :
    url.cmp other = .eq ↔ url.serialized = other.serialized := by
  rw [cmp, Std.compare_eq_iff_eq]
  exact utf8Bytes_injective.eq_iff

theorem eq_iff_withoutUserinfo {url other : Url} :
    url = other ↔ url.withoutUserinfo = other.withoutUserinfo ∧
      url.username = other.username ∧ url.password = other.password := by
  constructor
  · rintro rfl
    exact ⟨rfl, rfl, rfl⟩
  · rintro ⟨rest, username, password⟩
    calc url
        = { url.withoutUserinfo with username := url.username, password := url.password } :=
          rfl
      _ = { other.withoutUserinfo with
            username := other.username, password := other.password } := by
          rw [rest, username, password]
      _ = other := rfl

/-- The text of a URL determines everything else but the userinfo. -/
theorem serialized_eq_iff {libraries : UrlLibraries} (conforms : libraries.Conforms)
    {url other : Url} (reachable : url.Reachable libraries)
    (otherReachable : other.Reachable libraries) :
    url.serialized = other.serialized ↔ url.withoutUserinfo = other.withoutUserinfo := by
  constructor
  · intro same
    have parsed := parse_serialized conforms (reachable.wellFormed conforms)
    rw [same, parse_serialized conforms (otherReachable.wellFormed conforms)] at parsed
    exact (Except.ok.inj parsed).symm
  · intro rest
    calc url.serialized
        = url.withoutUserinfo.serialized := rfl
      _ = other.withoutUserinfo.serialized := congrArg Url.serialized rest
      _ = other.serialized := rfl

/-- The order, the equality and the hash agree on two URLs. -/
structure ComparesAlike (url other : Url) : Prop where
  cmp : url.cmp other = .eq ↔ url = other
  hash : url.cmp other = .eq → ∀ {State : Type} (hasher : Hasher State) (state : State),
    url.hash hasher state = other.hash hasher state

/-- The URLs are the same apart from their userinfo, which is not. -/
def DifferInUserinfoOnly (url other : Url) : Prop :=
  url.withoutUserinfo = other.withoutUserinfo ∧
    ¬(url.username = other.username ∧ url.password = other.password)

instance (url other : Url) : Decidable (DifferInUserinfoOnly url other) :=
  inferInstanceAs (Decidable (_ ∧ _))

/-- The comparisons agree on two URLs unless these differ in their userinfo only. -/
theorem comparesAlike_iff {libraries : UrlLibraries} (conforms : libraries.Conforms)
    {url other : Url} (reachable : url.Reachable libraries)
    (otherReachable : other.Reachable libraries) :
    ComparesAlike url other ↔ ¬DifferInUserinfoOnly url other := by
  have cmpEq : url.cmp other = .eq ↔ url.withoutUserinfo = other.withoutUserinfo :=
    cmp_eq_eq_iff.trans (serialized_eq_iff conforms reachable otherReachable)
  constructor
  · rintro alike ⟨rest, userinfo⟩
    have same := alike.cmp.mp (cmpEq.mpr rest)
    exact userinfo (eq_iff_withoutUserinfo.mp same).2
  · intro together
    have same : url.cmp other = .eq ↔ url = other := by
      constructor
      · intro equal
        have rest := cmpEq.mp equal
        refine eq_iff_withoutUserinfo.mpr ⟨rest, ?_⟩
        by_contra userinfo
        exact together ⟨rest, userinfo⟩
      · rintro rfl
        exact cmpEq.mpr rfl
    refine ⟨same, ?_⟩
    intro equal State hasher state
    rw [same.mp equal]

theorem comparesAlike_iff_hosts :
    ∃ url other, parse grammarLibraries "http://u@1.2.3.4/" = .ok url ∧
      parse grammarLibraries "http://5.6.7.8/" = .ok other ∧ ComparesAlike url other := by
  have runs : ∃ url other, parse grammarLibraries "http://u@1.2.3.4/" = .ok url ∧
      parse grammarLibraries "http://5.6.7.8/" = .ok other ∧
      url.host = "1.2.3.4" ∧ other.host = "5.6.7.8" := ⟨_, _, rfl, rfl, rfl, rfl⟩
  obtain ⟨url, other, parsed, otherParsed, host, otherHost⟩ := runs
  have together : ¬DifferInUserinfoOnly url other := by
    rintro ⟨rest, -⟩
    have sameHost := congrArg Url.host rest
    change url.host = other.host at sameHost
    rw [host, otherHost] at sameHost
    exact absurd sameHost (by decide)
  exact ⟨url, other, parsed, otherParsed,
    (comparesAlike_iff grammarLibraries_conforms (.parse parsed) (.parse otherParsed)).mpr
      together⟩

/-- A URL with a userinfo and the one without it are ordered as the same. -/
theorem userinfo_comparesEqual :
    ∃ url other, parse grammarLibraries "http://u@1.2.3.4/" = .ok url ∧
      parse grammarLibraries "http://1.2.3.4/" = .ok other ∧
      url.cmp other = .eq ∧ url ≠ other ∧ ¬ComparesAlike url other := by
  have runs : ∃ url other, parse grammarLibraries "http://u@1.2.3.4/" = .ok url ∧
      parse grammarLibraries "http://1.2.3.4/" = .ok other ∧
      url.serialized = "http://1.2.3.4/" ∧ other.serialized = "http://1.2.3.4/" ∧
      url.username = "u" ∧ other.username = "" :=
    ⟨_, _, rfl, rfl, rfl, rfl, rfl, rfl⟩
  obtain ⟨url, other, parsed, otherParsed, text, otherText, username, otherUsername⟩ := runs
  have sameText : url.serialized = other.serialized := text.trans otherText.symm
  have different : url ≠ other := by
    intro same
    rw [same, otherUsername] at username
    exact absurd username (by decide)
  have equal : url.cmp other = .eq := cmp_eq_eq_iff.mpr sameText
  exact ⟨url, other, parsed, otherParsed, equal, different,
    fun alike => different (alike.cmp.mp equal)⟩

end Url

end Wrest
