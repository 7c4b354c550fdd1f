import Wrest.UrlRoundTrips

/-!
# Joining a URL with a reference

Joining gives the URL of the target of the reference, apart from the userinfo, also for
the references without a path that it treats itself.  The userinfo is the reference's
if it has a scheme or an authority, and the base's otherwise, and never changes the text.
-/

namespace Wrest.Url

open Uri

/-- The components of the base without its fragment. -/
def baseIri (url : Url) : Iri :=
  { url.toIri with fragment := none }

section Base

variable {libraries : UrlLibraries} {url : Url}

theorem isValid_baseIri (formed : url.WellFormed libraries) :
    url.baseIri.toReference.IsValid := by
  have valid := isValid_toIri formed
  exact ⟨valid.scheme, valid.authority, valid.path, valid.rooted, valid.bare, valid.query,
    nofun⟩

theorem splitOnce_eq (separator : Char) (text : List Char) :
    splitOnce separator text =
      (splitOptional separator text).2.map fun behind =>
        ((splitOptional separator text).1, behind) := by
  unfold splitOnce splitOptional
  by_cases member : separator ∈ text
  · simp [member]
  · simp [member]

theorem serializedWithoutFragment_toList (formed : url.WellFormed libraries) :
    url.serializedWithoutFragment.toList = url.baseIri.recompose := by
  have noHash : '#' ∉ url.baseIri.recompose :=
    Reference.hash_notMem (Reference.delimited_of_isValid (isValid_baseIri formed))
  have whole : url.serialized.toList = appendOptional '#' url.baseIri.recompose
      (url.fragment.map String.toList) := (recompose_toIri formed.consistent).symm
  rw [serializedWithoutFragment, splitOnce_eq, whole, splitOptional_appendOptional noHash]
  cases fragmentEq : url.fragment with
  | none =>
    rw [fragmentEq] at whole
    exact whole
  | some fragment => exact String.toList_ofList

theorem parseIri_serializedWithoutFragment (conforms : libraries.Conforms)
    (formed : url.WellFormed libraries) :
    libraries.parseIri url.serializedWithoutFragment = .ok url.baseIri := by
  rw [← toOption_eq_some, conforms.parseIri, serializedWithoutFragment_toList formed]
  exact Iri.parse_recompose (isValid_baseIri formed)

end Base

section Target

variable {libraries : UrlLibraries} {url : Url} {reference : Reference}

/-- Only what is encoded counts. -/
theorem ofIri_congr (conforms : libraries.Conforms) {iri other : Iri}
    (valid : iri.toReference.IsValid) (otherValid : other.toReference.IsValid)
    (scheme : iri.scheme = other.scheme) (authority : iri.authority = other.authority)
    (encoded : iri.toUri = other.toUri) : ofIri libraries iri = ofIri libraries other := by
  simp only [ofIri, conforms.toUri iri valid, conforms.toUri other otherValid, scheme,
    authority, encoded]

theorem transform_emptyPath (base : Iri) (schemeless : reference.scheme = none)
    (bare : reference.authority = none) (pathless : reference.path = []) :
    transform base reference =
      { scheme := base.scheme
        authority := base.authority
        path := base.path
        query := reference.query.or base.query
        fragment := reference.fragment } := by
  simp only [transform, schemeless, bare, pathless, if_true]

theorem isValid_emptyPath (formed : url.WellFormed libraries) (valid : reference.IsValid)
    (schemeless : reference.scheme = none) (bare : reference.authority = none)
    (pathless : reference.path = []) :
    (transform url.baseIri reference).toReference.IsValid := by
  have baseValid := isValid_baseIri formed
  rw [transform_emptyPath _ schemeless bare pathless]
  refine ⟨baseValid.scheme, baseValid.authority, baseValid.path, baseValid.rooted,
    baseValid.bare, ?_, valid.fragment⟩
  intro query queryEq
  rcases Option.or_eq_some_iff.mp queryEq with given | ⟨-, kept⟩
  · exact valid.query query given
  · exact baseValid.query query kept

/-- Encoding text that was encoded and kept changes nothing. -/
theorem map_encodeNonAscii_kept (text : Option (List Char)) :
    (((text.map encodeNonAscii).map String.ofList).map String.toList).map encodeNonAscii =
      text.map encodeNonAscii := by
  cases text with
  | none => rfl
  | some text =>
    have ascii : ∀ character ∈ encodeNonAscii text, isAscii character = true :=
      fun character member => isAscii_of_mem_encodeNonAscii member
    simp only [Option.map_some, String.toList_ofList, encodeNonAscii_of_ascii ascii]

/-- A reference without a path, as `join` and as the transform treat it. -/
theorem ofIri_emptyPath (conforms : libraries.Conforms) (formed : url.WellFormed libraries)
    (valid : reference.IsValid) (schemeless : reference.scheme = none)
    (bare : reference.authority = none) (pathless : reference.path = []) :
    ofIri libraries (transform url.baseIri reference) =
      .ok (url.joinEmptyPath reference.toUri).withoutUserinfo := by
  have joinedFormed := formed.joinEmptyPath valid
  rw [← ofIri_toIri conforms joinedFormed]
  apply ofIri_congr conforms
  · exact isValid_emptyPath formed valid schemeless bare pathless
  · exact isValid_toIri joinedFormed
  · rw [transform_emptyPath _ schemeless bare pathless, joinEmptyPath_eq]
    rfl
  · rw [transform_emptyPath _ schemeless bare pathless, joinEmptyPath_eq]
    rfl
  · rw [transform_emptyPath _ schemeless bare pathless, joinEmptyPath_eq]
    have query : (reference.query.or (url.query.map String.toList)).map encodeNonAscii =
        (((reference.toUri.query.map String.ofList).or url.query).map String.toList).map
          encodeNonAscii := by
      cases queryEq : reference.query with
      | none => simp [Reference.toUri, Hierarchy.toUri, queryEq]
      | some text =>
        have kept := map_encodeNonAscii_kept (some text)
        simp [Reference.toUri, Hierarchy.toUri, queryEq] at kept ⊢
        exact kept.symm
    have fragment : reference.fragment.map encodeNonAscii =
        ((reference.toUri.fragment.map String.ofList).map String.toList).map encodeNonAscii :=
      (map_encodeNonAscii_kept reference.fragment).symm
    simp only [Iri.toUri, Hierarchy.toUri, Iri.mk.injEq, Hierarchy.mk.injEq]
    exact ⟨⟨rfl, rfl, query, fragment⟩, rfl⟩

theorem join_emptyPath (conforms : libraries.Conforms) (formed : url.WellFormed libraries)
    {input : String} (parsed : libraries.parseIriRef input = .ok reference)
    (schemeless : reference.scheme = none) (bare : reference.authority = none)
    (pathless : reference.path = []) :
    url.join libraries input = .ok (url.joinEmptyPath reference.toUri) := by
  have valid := isValid_of_parseIriRef conforms parsed
  refine join_eq_ok.mpr ⟨_, reference, parseIri_serializedWithoutFragment conforms formed,
    parsed, ?_⟩
  rw [if_pos ⟨schemeless, bare, pathless⟩, conforms.toUriRef reference valid]

theorem join_target (conforms : libraries.Conforms) (resolves : libraries.Resolves)
    (formed : url.WellFormed libraries) {input : String}
    (parsed : libraries.parseIriRef input = .ok reference)
    (more : ¬(reference.scheme = none ∧ reference.authority = none ∧ reference.path = [])) :
    url.join libraries input =
      (parse libraries (targetText url.baseIri reference)).map fun target =>
        if reference.scheme = none ∧ reference.authority = none then
          { target with username := url.username, password := url.password }
        else
          target := by
  have valid := isValid_of_parseIriRef conforms parsed
  have some_more : reference.scheme ≠ none ∨ reference.authority ≠ none ∨
      reference.path ≠ [] := by
    by_contra none
    simp only [not_or, not_not] at none
    exact more none
  have resolved := resolves reference url.baseIri valid (isValid_baseIri formed) rfl some_more
  have notEmpty : (reference.scheme.isNone && reference.authority.isNone &&
      reference.path.isEmpty) = false := by
    simpa [and_assoc] using more
  have joins : url.join libraries input =
      parse libraries (targetText url.baseIri reference) >>= fun target =>
        if (reference.scheme.isNone && reference.authority.isNone) = true then
          .ok { target with username := url.username, password := url.password }
        else
          .ok target := by
    simp [join, parseIri_serializedWithoutFragment conforms formed, parsed, notEmpty,
      resolved, okOr, Except.mapError, bind, Except.bind]
  rw [joins]
  cases parse libraries (targetText url.baseIri reference) with
  | error error => rfl
  | ok target =>
    simp only [Bool.and_eq_true, Option.isNone_iff_eq_none]
    show (if reference.scheme = none ∧ reference.authority = none then _ else _) = _
    split <;> rfl

end Target

/-- Joining agrees with the target of the reference. -/
structure AgreesWithTarget (libraries : UrlLibraries) (base : Url) (input : String)
    (reference : Reference) : Prop where
  withoutFragment : libraries.parseIri base.serializedWithoutFragment = .ok base.baseIri
  accepted : ∀ joined, base.join libraries input = .ok joined →
    ∃ target, parse libraries (targetText base.baseIri reference) = .ok target ∧
      joined.withoutUserinfo = target.withoutUserinfo
  rejected : (∃ error, base.join libraries input = .error error) ↔
    ∃ error, parse libraries (targetText base.baseIri reference) = .error error
  emptyPath : reference.scheme = none → reference.authority = none → reference.path = [] →
    ∃ joined, base.join libraries input = .ok joined ∧ joined.path = base.path ∧
      joined.query = (reference.toUri.query.map String.ofList).or base.query ∧
      joined.fragment = reference.toUri.fragment.map String.ofList

/-- The URL of every valid reference is that of its target. -/
theorem join_agreesWithTarget {libraries : UrlLibraries} (conforms : libraries.Conforms)
    (resolves : libraries.Resolves) {base : Url} (reachable : base.Reachable libraries)
    {input : String} {reference : Reference}
    (parsed : libraries.parseIriRef input = .ok reference) :
    AgreesWithTarget libraries base input reference := by
  have formed := reachable.wellFormed conforms
  have valid := isValid_of_parseIriRef conforms parsed
  have baseEq := parseIri_serializedWithoutFragment conforms formed
  by_cases more : reference.scheme = none ∧ reference.authority = none ∧ reference.path = []
  · obtain ⟨schemeless, bare, pathless⟩ := more
    have joins := join_emptyPath conforms formed parsed schemeless bare pathless
    have targets : parse libraries (targetText base.baseIri reference) =
        .ok (base.joinEmptyPath reference.toUri).withoutUserinfo := by
      rw [parse_eq_ok conforms, targetText, String.toList_ofList]
      exact ⟨_, Iri.parse_recompose (isValid_emptyPath formed valid schemeless bare pathless),
        ofIri_emptyPath conforms formed valid schemeless bare pathless⟩
    constructor
    · exact baseEq
    · intro joined joinedEq
      obtain rfl := Except.ok.inj (joins.symm.trans joinedEq)
      exact ⟨_, targets, rfl⟩
    · rw [joins, targets]
      constructor <;> nofun
    · intro _ _ _
      refine ⟨_, joins, ?_, ?_, ?_⟩ <;> rw [joinEmptyPath_eq] <;> rfl
  · have joins := join_target conforms resolves formed parsed more
    constructor
    · exact baseEq
    · intro joined joinedEq
      rw [joins] at joinedEq
      cases targets : parse libraries (targetText base.baseIri reference) with
      | error error =>
        rw [targets] at joinedEq
        cases joinedEq
      | ok target =>
        rw [targets] at joinedEq
        obtain rfl := Except.ok.inj joinedEq
        refine ⟨target, rfl, ?_⟩
        split <;> rfl
    · rw [joins]
      cases parse libraries (targetText base.baseIri reference) with
      | error error => exact ⟨fun _ => ⟨error, rfl⟩, fun _ => ⟨error, rfl⟩⟩
      | ok target => constructor <;> nofun
    · exact fun schemeless bare pathless => absurd ⟨schemeless, bare, pathless⟩ more

theorem grammarLibraries_resolves : grammarLibraries.Resolves :=
  fun _ _ _ _ _ _ => rfl

/-- A query alone keeps the dot segments of the base. -/
theorem join_agreesWithTarget_query :
    ∃ base reference, parse grammarLibraries "http://1.2.3.4/a/../b?old#f" = .ok base ∧
      grammarLibraries.parseIriRef "?new" = .ok reference ∧
      (∃ joined, base.join grammarLibraries "?new" = .ok joined ∧
        joined.serialized = "http://1.2.3.4/a/../b?new") ∧
      AgreesWithTarget grammarLibraries base "?new" reference := by
  have runs : ∃ base reference,
      parse grammarLibraries "http://1.2.3.4/a/../b?old#f" = .ok base ∧
      grammarLibraries.parseIriRef "?new" = .ok reference ∧
      ∃ joined, base.join grammarLibraries "?new" = .ok joined ∧
        joined.serialized = "http://1.2.3.4/a/../b?new" := ⟨_, _, rfl, rfl, _, rfl, rfl⟩
  obtain ⟨base, reference, baseEq, referenceEq, joins⟩ := runs
  exact ⟨base, reference, baseEq, referenceEq, joins,
    join_agreesWithTarget grammarLibraries_conforms grammarLibraries_resolves
      (.parse baseEq) referenceEq⟩

section Userinfo

variable {libraries : UrlLibraries} {url : Url} {reference : Reference}

/-- The userinfo of a target that has the authority of the reference. -/
theorem userinfo_of_parse_target (conforms : libraries.Conforms) {base : Iri}
    (baseValid : base.toReference.IsValid) (valid : reference.IsValid)
    {authority : Authority} (schemeless : reference.scheme = none)
    (authorityEq : reference.authority = some authority)
    (parsed : parse libraries (targetText base reference) = .ok url) :
    url.username = (splitUserinfo authority.toUri.userinfo).1 ∧
      url.password = (splitUserinfo authority.toUri.userinfo).2 := by
  obtain ⟨iri, iriEq, made⟩ := (parse_eq_ok conforms).mp parsed
  rw [targetText, String.toList_ofList] at iriEq
  have rooted : reference.authority ≠ none := by
    rw [authorityEq]
    exact Option.some_ne_none _
  have iriIs := Iri.eq_of_parse_recompose
    (delimited_transform baseValid valid schemeless rooted) iriEq
  have targetAuthority : iri.authority = some authority := by
    rw [iriIs]
    simp only [transform, schemeless, authorityEq]
  obtain ⟨_, host, port, encodedAuthority, -, -, -, -, -, encodedEq, rfl⟩ :=
    ofIri_eq_ok.mp made
  rw [conforms.toUri iri (Iri.isValid_of_parse iriEq)] at encodedEq
  have encodedIs : encodedAuthority = authority.toUri := by
    have mapped : iri.authority.map Authority.toUri = some encodedAuthority := encodedEq
    rw [targetAuthority] at mapped
    exact (Option.some.inj mapped).symm
  rw [encodedIs]
  exact ⟨rfl, rfl⟩

theorem hash_notMem_serializedWithoutFragment (url : Url) :
    '#' ∉ url.serializedWithoutFragment.toList := by
  rw [serializedWithoutFragment, splitOnce]
  split
  · next before behind found =>
    obtain ⟨-, same⟩ := Option.ite_none_right_eq_some.mp found
    obtain rfl := (Prod.mk.inj (Option.some.inj same)).1
    rw [String.toList_ofList]
    intro member
    simpa using List.mem_takeWhile_imp member
  · next found =>
    simpa using found

/-- Every base that `join` takes is valid and has no fragment. -/
theorem base_of_parseIri (conforms : libraries.Conforms) {base : Iri}
    (parsed : libraries.parseIri url.serializedWithoutFragment = .ok base) :
    base.toReference.IsValid ∧ base.fragment = none := by
  have read : Iri.parse url.serializedWithoutFragment.toList = some base := by
    rw [← conforms.parseIri, parsed]
    rfl
  exact ⟨Iri.isValid_of_parse read,
    Iri.fragment_of_parse read (hash_notMem_serializedWithoutFragment url)⟩

/-- What a reference with a scheme or an authority of its own is joined to. -/
theorem join_given (conforms : libraries.Conforms) (resolves : libraries.Resolves)
    {input : String} {joined : Url}
    (parsed : libraries.parseIriRef input = .ok reference)
    (given : reference.scheme ≠ none ∨ reference.authority ≠ none)
    (joins : url.join libraries input = .ok joined) :
    ∃ base : Iri, base.toReference.IsValid ∧
      parse libraries (targetText base reference) = .ok joined := by
  obtain ⟨base, other, baseEq, otherEq, made⟩ := join_eq_ok.mp joins
  obtain rfl := Except.ok.inj (parsed.symm.trans otherEq)
  obtain ⟨baseValid, noFragment⟩ := base_of_parseIri conforms baseEq
  have notInherits : ¬(reference.scheme = none ∧ reference.authority = none) :=
    not_and_or.mpr given
  rw [if_neg fun all => notInherits ⟨all.1, all.2.1⟩] at made
  obtain ⟨resolved, target, resolvedEq, targetEq, joinedEq⟩ := made
  rw [if_neg notInherits] at joinedEq
  have valid := isValid_of_parseIriRef conforms parsed
  have some_more : reference.scheme ≠ none ∨ reference.authority ≠ none ∨
      reference.path ≠ [] := given.elim .inl fun authority => .inr (.inl authority)
  rw [resolves reference base valid baseValid noFragment some_more] at resolvedEq
  obtain rfl := Option.some.inj resolvedEq
  rw [joinedEq]
  exact ⟨base, baseValid, targetEq⟩

/-- Two joins with a reference that has a scheme or an authority. -/
theorem userinfo_given (conforms : libraries.Conforms) (resolves : libraries.Resolves)
    {input : String} {other joined otherJoined : Url}
    (parsed : libraries.parseIriRef input = .ok reference)
    (given : reference.scheme ≠ none ∨ reference.authority ≠ none)
    (joins : url.join libraries input = .ok joined)
    (otherJoins : other.join libraries input = .ok otherJoined) :
    otherJoined.username = joined.username ∧ otherJoined.password = joined.password := by
  obtain ⟨base, baseValid, targetEq⟩ := join_given conforms resolves parsed given joins
  obtain ⟨otherBase, otherValid, otherEq⟩ := join_given conforms resolves parsed given
    otherJoins
  have valid := isValid_of_parseIriRef conforms parsed
  cases schemeEq : reference.scheme with
  | some scheme =>
    have same : targetText otherBase reference = targetText base reference := by
      simp only [targetText, transform, schemeEq]
    rw [same, targetEq] at otherEq
    obtain rfl := Except.ok.inj otherEq
    exact ⟨rfl, rfl⟩
  | none =>
    have authority := given.resolve_left fun absent => absent schemeEq
    obtain ⟨authority, authorityEq⟩ := Option.ne_none_iff_exists'.mp authority
    have first := userinfo_of_parse_target conforms baseValid valid schemeEq authorityEq
      targetEq
    have second := userinfo_of_parse_target conforms otherValid valid schemeEq authorityEq
      otherEq
    exact ⟨second.1.trans first.1.symm, second.2.trans first.2.symm⟩

end Userinfo

/-- Where the userinfo of a joined URL comes from. -/
structure UserinfoFollows (libraries : UrlLibraries) (base : Url) (input : String)
    (reference : Reference) (joined : Url) : Prop where
  given : reference.scheme ≠ none ∨ reference.authority ≠ none →
    ∀ username password, { base with username, password }.join libraries input = .ok joined
  anyBase : libraries.Conforms → libraries.Resolves →
    reference.scheme ≠ none ∨ reference.authority ≠ none →
    ∀ other otherJoined : Url, other.join libraries input = .ok otherJoined →
      otherJoined.username = joined.username ∧ otherJoined.password = joined.password
  inherited : reference.scheme = none → reference.authority = none →
    joined.username = base.username ∧ joined.password = base.password
  text : ∀ username password, ∃ other,
    { base with username, password }.join libraries input = .ok other ∧
      other.serialized = joined.serialized

section Bases

variable {libraries : UrlLibraries} {base joined : Url} {input : String}
  {reference : Reference} (parsed : libraries.parseIriRef input = .ok reference)
  (joins : base.join libraries input = .ok joined)

include parsed joins

/-- A base with another userinfo. -/
theorem join_withUserinfo (username : String) (password : Option String) :
    { base with username, password }.join libraries input =
      .ok (if reference.scheme = none ∧ reference.authority = none then
        { joined with username, password }
      else
        joined) := by
  obtain ⟨baseIri, other, baseEq, otherEq, made⟩ := join_eq_ok.mp joins
  obtain rfl := Except.ok.inj (parsed.symm.trans otherEq)
  refine join_eq_ok.mpr ⟨baseIri, reference, baseEq, parsed, ?_⟩
  split at made
  · next empty =>
    rw [if_pos empty, if_pos ⟨empty.1, empty.2.1⟩, made, joinEmptyPath_eq, joinEmptyPath_eq]
    rfl
  · next more =>
    obtain ⟨resolved, target, resolvedEq, targetEq, rfl⟩ := made
    rw [if_neg more]
    refine ⟨resolved, target, resolvedEq, targetEq, ?_⟩
    by_cases inherits : reference.scheme = none ∧ reference.authority = none
    · simp only [if_pos inherits]
    · simp only [if_neg inherits]

theorem userinfo_inherited (schemeless : reference.scheme = none)
    (bare : reference.authority = none) :
    joined.username = base.username ∧ joined.password = base.password := by
  have same := join_withUserinfo parsed joins base.username base.password
  rw [if_pos ⟨schemeless, bare⟩] at same
  have joinedEq := Except.ok.inj (joins.symm.trans same)
  rw [joinedEq]
  exact ⟨rfl, rfl⟩

end Bases

/-- The userinfo of a joined URL is the reference's or the base's, and does not show. -/
theorem join_userinfoFollows {libraries : UrlLibraries} {base joined : Url}
    {input : String} {reference : Reference}
    (parsed : libraries.parseIriRef input = .ok reference)
    (joins : base.join libraries input = .ok joined) :
    UserinfoFollows libraries base input reference joined := by
  have others := join_withUserinfo parsed joins
  constructor
  · intro given username password
    have notInherits : ¬(reference.scheme = none ∧ reference.authority = none) :=
      not_and_or.mpr given
    have same := others username password
    rwa [if_neg notInherits] at same
  · intro conforms resolves given other otherJoined otherJoins
    exact userinfo_given conforms resolves parsed given joins otherJoins
  · exact userinfo_inherited parsed joins
  · intro username password
    refine ⟨_, others username password, ?_⟩
    split <;> rfl

/-- A reference to another host does not take the password along. -/
theorem join_userinfoFollows_host :
    ∃ base joined reference,
      parse grammarLibraries "http://u:p@1.2.3.4/" = .ok base ∧
      base.join grammarLibraries "//5.6.7.8/x" = .ok joined ∧
      base.password = some "p" ∧ joined.password = none ∧
      UserinfoFollows grammarLibraries base "//5.6.7.8/x" reference joined := by
  have runs : ∃ base joined reference,
      parse grammarLibraries "http://u:p@1.2.3.4/" = .ok base ∧
      base.join grammarLibraries "//5.6.7.8/x" = .ok joined ∧
      base.password = some "p" ∧ joined.password = none ∧
      grammarLibraries.parseIriRef "//5.6.7.8/x" = .ok reference :=
    ⟨_, _, _, rfl, rfl, rfl, rfl, rfl⟩
  obtain ⟨base, joined, reference, baseEq, joins, password, noPassword, parsed⟩ := runs
  exact ⟨base, joined, reference, baseEq, joins, password, noPassword,
    join_userinfoFollows parsed joins⟩

end Wrest.Url
