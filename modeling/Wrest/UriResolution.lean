import Wrest.UriReferences

/-!
# Resolving references

A reference is resolved against a base by taking components of both, and by removing
the dot segments of a path that the reference contributes to.  An encoded dot counts as
a dot.
-/

namespace Wrest.Uri

namespace Authority

/-- Encode what is outside ASCII. -/
def toUri (authority : Authority) : Authority where
  userinfo := authority.userinfo.map encodeNonAscii
  host := encodeNonAscii authority.host
  port := authority.port

/-- The port as a number of 16 bits; a missing or empty port is none. -/
def portNumber (authority : Authority) : Option (Option Nat) :=
  match authority.port with
  | none | some [] => some none
  | some digits =>
    let number := Nat.ofDigitChars 10 digits 0
    if number < 65536 then some (some number) else none

end Authority

def Hierarchy.toUri (hierarchy : Hierarchy) : Hierarchy where
  authority := hierarchy.authority.map Authority.toUri
  path := encodeNonAscii hierarchy.path
  query := hierarchy.query.map encodeNonAscii
  fragment := hierarchy.fragment.map encodeNonAscii

def Iri.toUri (iri : Iri) : Iri where
  toHierarchy := iri.toHierarchy.toUri
  scheme := iri.scheme

def Reference.toUri (reference : Reference) : Reference where
  toHierarchy := reference.toHierarchy.toUri
  scheme := reference.scheme

/-- Replace encoded dots by dots. -/
def decodeDots : List Char → List Char
  | '%' :: '2' :: 'e' :: rest => '.' :: decodeDots rest
  | '%' :: '2' :: 'E' :: rest => '.' :: decodeDots rest
  | character :: rest => character :: decodeDots rest
  | [] => []

def isDot (segment : List Char) : Bool :=
  decodeDots segment == ['.']

def isDoubleDot (segment : List Char) : Bool :=
  decodeDots segment == ['.', '.']

/-- Move segments to the output, which is kept in reverse with the slash in front of
each segment. -/
def moveSegments (output : List (List Char)) : List (List Char) → List (List Char)
  | [] => output
  | segment :: segments =>
    if isDot segment then
      if segments = [] then ['/'] :: output else moveSegments output segments
    else if isDoubleDot segment then
      if segments = [] then ['/'] :: output.tail else moveSegments output.tail segments
    else
      moveSegments (('/' :: segment) :: output) segments

def removeDotSegments (path : List Char) : List Char :=
  match path with
  | '/' :: rest => (moveSegments [] (rest.splitOn '/')).reverse.flatten
  | path =>
    match (path.splitOn '/').dropWhile fun segment => isDot segment || isDoubleDot segment with
    | [] => []
    | first :: segments => (moveSegments [first] segments).reverse.flatten

/-- Put a relative path in place of the last segment of the base. -/
def mergePaths (base : Hierarchy) (path : List Char) : List Char :=
  if base.authority.isSome && base.path.isEmpty then
    '/' :: path
  else
    base.path.rdropWhile (· != '/') ++ path

/-- The target of a reference. -/
def transform (base : Iri) (reference : Reference) : Iri :=
  match reference.scheme with
  | some scheme =>
    { scheme
      authority := reference.authority
      path := removeDotSegments reference.path
      query := reference.query
      fragment := reference.fragment }
  | none =>
    match reference.authority with
    | some authority =>
      { scheme := base.scheme
        authority := some authority
        path := removeDotSegments reference.path
        query := reference.query
        fragment := reference.fragment }
    | none =>
      if reference.path = [] then
        { scheme := base.scheme
          authority := base.authority
          path := base.path
          query := reference.query.or base.query
          fragment := reference.fragment }
      else
        { scheme := base.scheme
          authority := base.authority
          path :=
            if reference.path.head? = some '/' then
              removeDotSegments reference.path
            else
              removeDotSegments (mergePaths base.toHierarchy reference.path)
          query := reference.query
          fragment := reference.fragment }

example : removeDotSegments "/a/b/c/./../../g".toList = "/a/g".toList := by decide

example : removeDotSegments "mid/content=5/%2E./6".toList = "mid/6".toList := by decide

section DotSegments

theorem mem_of_mem_splitOn {separator character : Char} {text piece : List Char}
    (among : piece ∈ text.splitOn separator) (member : character ∈ piece) :
    character ∈ text := by
  induction text generalizing piece with
  | nil =>
    obtain rfl := List.mem_singleton.mp among
    cases member
  | cons first rest ih =>
    rw [List.splitOn_cons_eq_if_modifyHead] at among
    split at among
    · rcases List.mem_cons.mp among with rfl | among
      · cases member
      · exact List.mem_cons_of_mem first (ih among member)
    · cases piecesEq : rest.splitOn separator with
      | nil => exact absurd piecesEq (List.splitOn_ne_nil _ _)
      | cons head pieces =>
        rw [piecesEq] at among ih
        rcases List.mem_cons.mp among with rfl | among
        · rcases List.mem_cons.mp member with rfl | member
          · exact List.mem_cons_self
          · exact List.mem_cons_of_mem first (ih List.mem_cons_self member)
        · exact List.mem_cons_of_mem first (ih (List.mem_cons_of_mem head among) member)

/-- What holds of a lone slash and of every segment that is moved holds of the output. -/
theorem moveSegments_forall {holds : List Char → Prop} (slash : holds ['/'])
    {output segments : List (List Char)} (outputs : ∀ chunk ∈ output, holds chunk)
    (moved : ∀ segment ∈ segments, holds ('/' :: segment)) :
    ∀ chunk ∈ moveSegments output segments, holds chunk := by
  induction segments generalizing output with
  | nil => exact outputs
  | cons segment segments ih =>
    have later : ∀ other ∈ segments, holds ('/' :: other) :=
      fun other member => moved other (List.mem_cons_of_mem segment member)
    have tails : ∀ chunk ∈ output.tail, holds chunk :=
      fun chunk member => outputs chunk (List.mem_of_mem_tail member)
    unfold moveSegments
    split
    · split
      · exact List.forall_mem_cons.mpr ⟨slash, outputs⟩
      · exact ih outputs later
    · split
      · split
        · exact List.forall_mem_cons.mpr ⟨slash, tails⟩
        · exact ih tails later
      · have here := moved segment List.mem_cons_self
        exact ih (List.forall_mem_cons.mpr ⟨here, outputs⟩) later

/-- No other characters appear. -/
theorem mem_of_mem_removeDotSegments {path : List Char} {character : Char}
    (member : character ∈ removeDotSegments path) : character = '/' ∨ character ∈ path := by
  let holds (chunk : List Char) := ∀ other ∈ chunk, other = '/' ∨ other ∈ path
  have slash : holds ['/'] := by
    intro other among
    exact .inl (List.mem_singleton.mp among)
  have flattened : ∀ {output : List (List Char)}, (∀ chunk ∈ output, holds chunk) →
      character ∈ output.reverse.flatten → character = '/' ∨ character ∈ path := by
    intro output outputs among
    obtain ⟨chunk, chunkAmong, among⟩ := List.mem_flatten.mp among
    exact outputs chunk (List.mem_reverse.mp chunkAmong) character among
  unfold removeDotSegments at member
  split at member
  · next rest =>
    apply flattened (moveSegments_forall slash _ _) member
    · exact fun chunk impossible => absurd impossible List.not_mem_nil
    · intro segment among other inside
      rcases List.mem_cons.mp inside with rfl | inside
      · exact .inl rfl
      · exact .inr (List.mem_cons_of_mem '/' (mem_of_mem_splitOn among inside))
  · have kept : ∀ segment ∈ (path.splitOn '/').dropWhile
        (fun segment => isDot segment || isDoubleDot segment), holds segment := by
      intro segment among other inside
      exact .inr (mem_of_mem_splitOn ((List.dropWhile_sublist _).subset among) inside)
    split at member
    · cases member
    · next first segments segmentsEq =>
      rw [segmentsEq] at kept
      obtain ⟨firstKept, segmentsKept⟩ := List.forall_mem_cons.mp kept
      apply flattened (moveSegments_forall slash _ _) member
      · exact List.forall_mem_cons.mpr ⟨firstKept, fun _ impossible =>
          absurd impossible List.not_mem_nil⟩
      · intro segment among other inside
        rcases List.mem_cons.mp inside with rfl | inside
        · exact .inl rfl
        · exact segmentsKept segment among other inside

/-- A path that begins with a slash keeps it. -/
theorem rooted_removeDotSegments {path : List Char}
    (rooted : path = [] ∨ path.head? = some '/') :
    removeDotSegments path = [] ∨ (removeDotSegments path).head? = some '/' := by
  rcases rooted with rfl | begins
  · exact .inl (by decide)
  · obtain ⟨rest, rfl⟩ := List.head?_eq_some_iff.mp begins
    have chunks : ∀ chunk ∈ moveSegments [] (rest.splitOn '/'), chunk.head? = some '/' := by
      apply moveSegments_forall
      · rfl
      · exact fun chunk impossible => absurd impossible List.not_mem_nil
      · exact fun _ _ => rfl
    show (moveSegments [] (rest.splitOn '/')).reverse.flatten = [] ∨
      (moveSegments [] (rest.splitOn '/')).reverse.flatten.head? = some '/'
    cases reversed : (moveSegments [] (rest.splitOn '/')).reverse with
    | nil => exact .inl rfl
    | cons first others =>
      have among : first ∈ moveSegments [] (rest.splitOn '/') := by
        rw [← List.mem_reverse, reversed]
        exact List.mem_cons_self
      refine .inr ?_
      rw [List.flatten_cons, List.head?_append, chunks first among]
      rfl

/-- With an authority of its own the reference makes valid delimiters. -/
theorem delimited_transform {base : Iri} {reference : Reference}
    (baseValid : base.toReference.IsValid) (valid : reference.IsValid)
    (schemeless : reference.scheme = none) (rooted : reference.authority ≠ none) :
    (transform base reference).toReference.Delimited := by
  have delimited := Reference.delimited_of_isValid valid
  have baseDelimited := Reference.delimited_of_isValid baseValid
  obtain ⟨authority, authorityEq⟩ := Option.ne_none_iff_exists'.mp rooted
  simp only [transform, schemeless, authorityEq, Iri.toReference]
  constructor
  · exact baseDelimited.scheme
  · intro other otherEq
    exact delimited.authority other (authorityEq.trans otherEq)
  · intro delimiter among member
    rcases mem_of_mem_removeDotSegments member with rfl | member
    · revert among
      decide
    · exact delimited.path delimiter among member
  · intro _
    exact rooted_removeDotSegments (delimited.rooted rooted)
  · nofun
  · exact delimited.query

end DotSegments

end Wrest.Uri
