import Wrest.RequestErrors

/-!
# Request bodies

A body is either in-memory bytes or a stream of chunks.  Bytes are cheap to
clone; a stream can be consumed once only.
-/

namespace Wrest

/-- The representations of a body.  A stream is given by the chunks, or errors,
that it will yield. -/
inductive BodyInner
  | bytes (content : List UInt8)
  | stream (items : List (Except ErrorSource (List UInt8)))

structure Body where
  inner : BodyInner

namespace Body

/-- Clone the body; a stream cannot be replayed. -/
def tryClone (body : Body) : Option Body :=
  match body.inner with
  | .bytes content => some { inner := .bytes content }
  | .stream _ => none

def isStream (body : Body) : Bool :=
  match body.inner with
  | .bytes _ => false
  | .stream _ => true

theorem tryClone_eq_some {body cloned : Body} :
    body.tryClone = some cloned ↔ body.isStream = false ∧ cloned = body := by
  obtain ⟨_ | _⟩ := body <;> simp [tryClone, isStream, eq_comm]

theorem tryClone_eq_none {body : Body} :
    body.tryClone = none ↔ body.isStream = true := by
  obtain ⟨_ | _⟩ := body <;> simp [tryClone, isStream]

end Body

end Wrest
