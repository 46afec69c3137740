/-!
# HTTP verbs

## Main definitions

* `Verb` — the verbs that an operation can be declared with.
* `Verb.all` — the verbs in the order in which a path is read.
-/

set_option autoImplicit false

namespace ClientGen

/-- A verb that an operation can be declared with. -/
inductive Verb where
  /-- Reading. -/
  | get
  /-- Writing as a whole. -/
  | put
  /-- Creating. -/
  | post
  /-- Changing in part. -/
  | patch
  /-- Removing. -/
  | delete
  deriving DecidableEq, Repr, Inhabited

namespace Verb

/-- The verbs in the order in which the operations of a path are read. -/
def all : List Verb := [.get, .put, .post, .patch, .delete]

/-- The verb as a request states it. -/
def name : Verb → String
  | .get => "GET"
  | .put => "PUT"
  | .post => "POST"
  | .patch => "PATCH"
  | .delete => "DELETE"

/-- The member of a path that declares the operation of this verb. -/
def key : Verb → String
  | .get => "get"
  | .put => "put"
  | .post => "post"
  | .patch => "patch"
  | .delete => "delete"

end Verb

end ClientGen
