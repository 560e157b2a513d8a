import EaaRecruit.Js

/-!
# Requests, responses and the session

What the pages hand to `fetch`, how a `fetch` settles, and the session `useAuth` supplies.
The session provider, `context/AuthContext`, is not in the repository: `Session` follows
the spec's description of it.
-/

namespace EaaRecruit

/-- `process.env.REACT_APP_API_URL || 'http://localhost:8000/api'`. -/
def apiBaseUrl (configured : Option String) : String :=
  match configured with
  | some url => if url.isEmpty then "http://localhost:8000/api" else url
  | none => "http://localhost:8000/api"

structure File where
  name : String
  deriving DecidableEq, Repr

/-- What a page hands to `fetch`: method, URL, the `Authorization` header if any, and
the fields of the `FormData` body. -/
structure Request where
  method : String
  url : String
  authorization : Option String
  form : List (String × File)
  deriving DecidableEq, Repr

/-- How one `fetch` settles, with what `response.json()` then gives. -/
inductive Outcome where
  /-- `fetch` rejects (a network failure) with an error of this message. -/
  | failure (message : String)
  /-- A response with this status arrives; reading its body as JSON gives the value, or
  rejects with a `SyntaxError` of this message. -/
  | response (status : Nat) (body : Except String Json)

@[simp] theorem except_ok_bind {ε α β : Type} (a : α) (f : α → Except ε β) :
    (Except.ok a >>= f) = f a := rfl

@[simp] theorem except_error_bind {ε α β : Type} (e : ε) (f : α → Except ε β) :
    (Except.error e >>= f) = .error e := rfl

/-- `response.ok`. -/
def okStatus (status : Nat) : Bool := decide (200 ≤ status ∧ status ≤ 299)

/-- A response with a 2xx status whose body is JSON. -/
def Outcome.parsedOk : Outcome → Bool
  | .response status (.ok _) => okStatus status
  | _ => false

/-- `response.ok` of a response that arrived; a network failure has none. -/
def Outcome.responseOk : Outcome → Bool
  | .response status _ => okStatus status
  | .failure _ => false

/-- The body of a 2xx response whose body is JSON. -/
def Outcome.okBody : Outcome → Option Json
  | .response status (.ok data) => if okStatus status then some data else none
  | _ => none

inductive Role where
  | candidate
  | recruiter
  | admin
  deriving DecidableEq, Repr

/-- Modelled from the spec: the signed-in user of `useAuth` (`context/AuthContext`, not in
the repository), with the fields the pages read. -/
structure User where
  id : Json
  fullName : String
  role : Role

/-- Modelled from the spec: the session of `useAuth`, a user and a bearer credential,
each possibly absent. Login and logout are outside the pages. -/
structure Session where
  user : Option User
  token : Option String

namespace Session

/-! The role predicates, modelled from the spec's data model. -/

def isAuthenticated (session : Session) : Bool := session.user.isSome

def isRecruiter (session : Session) : Bool :=
  match session.user with
  | some user => user.role = .recruiter || user.role = .admin
  | none => false

def isAdmin (session : Session) : Bool :=
  match session.user with
  | some user => user.role = .admin
  | none => false

/-- `user?.id`. -/
def userId (session : Session) : Option Json := session.user.map User.id

end Session

end EaaRecruit
