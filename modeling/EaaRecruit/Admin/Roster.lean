import EaaRecruit.Fetch

/-!
# The admin roster page

`Admin` in `pages/Admin.js`: the user list, a role filter, Refresh, and per row the
actions Assign Recruiter, Revoke Recruiter and Delete. As for the home page, a click runs
its handler up to the first `await`, and each response arrives as a step of its own.
`State.inflight` holds the handler calls still waiting. Nothing on the page waits for
another request or checks `loading` before sending one.

`fetchUsers` is a `useCallback` over `roleFilter`: a filter change renders a new
`fetchUsers`, which the effect then calls. The row handlers are created in each render and
call the `fetchUsers` of that render after a success, so a waiting row action carries the
filter of the render it was clicked in.
-/

namespace EaaRecruit.Admin

-- What sets the three row actions apart: the method, the path after the user's id, and the
-- texts of their `Error` fallback and of their success message.
structure RowAction where
  method : String
  suffix : String
  fallback : String
  done : String
  deriving DecidableEq, Repr

def assignRecruiter : RowAction :=
  ⟨"POST", "/assign-recruiter", "Failed to assign recruiter role",
    "Recruiter role assigned successfully"⟩

def revokeRecruiter : RowAction :=
  ⟨"POST", "/revoke-recruiter", "Failed to revoke recruiter role",
    "Recruiter role revoked successfully"⟩

def deleteUser : RowAction :=
  ⟨"DELETE", "", "Failed to delete user", "User deleted successfully"⟩

/-- A handler call waiting for its response, with what its closure captured: the user's
id as the URL prints it, and the `roleFilter` of the render whose `fetchUsers` it calls. -/
inductive Call where
  | list (roleFilter : String)
  | row (action : RowAction) (userId : String) (roleFilter : String)
  deriving DecidableEq, Repr

structure State where
  users : Json
  loading : Bool
  error : String
  success : String
  roleFilter : String
  inflight : List Call

def fresh : State where
  users := .array []
  loading := true
  error := ""
  success := ""
  roleFilter := ""
  inflight := []

/-- The request a waiting call has sent, with `Authorization: Bearer ${token}`; a session
without a token is taken to hold `null` there. -/
def Call.request (api : String) (token : Option String) : Call → Request
  | .list roleFilter =>
    ⟨"GET", if roleFilter.isEmpty then api ++ "/admin/users"
      else api ++ "/admin/users?role=" ++ roleFilter, some ("Bearer " ++ token.getD "null"), []⟩
  | .row action userId _ =>
    ⟨action.method, api ++ "/admin/users/" ++ userId ++ action.suffix,
      some ("Bearer " ++ token.getD "null"), []⟩

/-! ### Handlers -/

/-- `fetchUsers` up to its `await`, for the `roleFilter` its closure captured. -/
def fetchUsers (roleFilter : String) (s : State) : State :=
  { s with loading := true, error := "", inflight := s.inflight ++ [.list roleFilter] }

@[simp] theorem mem_fetchUsers {call : Call} {roleFilter : String} {s : State} :
    call ∈ (fetchUsers roleFilter s).inflight ↔ call ∈ s.inflight ∨ call = .list roleFilter := by
  simp [fetchUsers]

def startRowAction (action : RowAction) (userId : Option Json) (s : State) : State :=
  { s with error := "", success := "",
           inflight := s.inflight ++ [.row action (jsString userId) s.roleFilter] }

@[simp] theorem mem_startRowAction {call : Call} {action : RowAction} {userId : Option Json}
    {s : State} : call ∈ (startRowAction action userId s).inflight ↔
      call ∈ s.inflight ∨ call = .row action (jsString userId) s.roleFilter := by
  simp [startRowAction]

def handleAssignRecruiter (userId : Option Json) (s : State) : State :=
  startRowAction assignRecruiter userId s

def handleRevokeRecruiter (userId : Option Json) (s : State) : State :=
  startRowAction revokeRecruiter userId s

/-- `handleDeleteUser` asks `window.confirm` first, and does nothing when it is declined. -/
def handleDeleteUser (confirmed : Bool) (userId : Option Json) (s : State) : State :=
  if confirmed then startRowAction deleteUser userId s else s

def listResponse : Outcome → Except String Json
  | .failure message => .error message
  | .response status body => if okStatus status then body else .error "Failed to fetch users"

/-- `fetchUsers` from its `await` on: its `try` block stores the body of a 2xx or throws,
then `setUsers(data)` or `setError(err.message)`, and `setLoading(false)`. -/
def listSettled (s : State) (outcome : Outcome) : State :=
  match listResponse outcome with
  | .ok data => { s with users := data, loading := false }
  | .error message => { s with error := message, loading := false }

/-- The `try` block of a row action once `fetch` settles, up to `setSuccess`: nothing on
a 2xx, else the message of what it throws, `new Error(data.detail || fallback)` when the
body can be read. -/
def rowResponse (action : RowAction) : Outcome → Except String Unit
  | .failure message => .error message
  | .response status body =>
    if okStatus status then .ok ()
    else do
      let data ← body
      let detail ← data.get "detail"
      .error (jsString (orElse detail (some (.string action.fallback))))

/-- A row action from its `await` on: `setSuccess` and the captured `fetchUsers()` after a
2xx, `setError(err.message)` otherwise. -/
def rowSettled (action : RowAction) (roleFilter : String) (s : State) (outcome : Outcome) :
    State :=
  match rowResponse action outcome with
  | .ok () => fetchUsers roleFilter { s with success := action.done }
  | .error message => { s with error := message }

def settled (s : State) : Call → Outcome → State
  | .list _, outcome => listSettled s outcome
  | .row action _ roleFilter, outcome => rowSettled action roleFilter s outcome

/-! ### What the table renders -/

def rows : Json → List Json
  | .array items => items
  | _ => []

/-- `u.role === role`, read from a row. -/
def hasRole (role : String) (u : Json) : Bool :=
  match u.get "role" with
  | .ok value => strictEq value (some (.string role))
  | .error _ => false

/-- `u.id !== user?.id && u.role !== 'admin'`: the condition for a row's Delete button. -/
def offersDelete (me : Option Json) (u : Json) : Bool :=
  match u.get "id", u.get "role" with
  | .ok id, .ok role => !strictEq id me && !strictEq role (some (.string "admin"))
  | _, _ => false

def rowShows (shows : Json → Bool) (s : State) (index : Nat) : Bool :=
  !s.loading && ((rows s.users)[index]?.map shows).getD false

def rowId (s : State) (index : Nat) : Option Json :=
  ((rows s.users)[index]?.map (Json.prop "id")).join

/-! ### The page as a state machine -/

def roleOptions : List String := ["", "candidate", "recruiter", "admin"]

/-- The select's `onChange` with the effect's refetch that follows a change (choosing the
current value again sets the same state, so React neither renders nor refetches), a click on
Refresh (`onClick={fetchUsers}`), a click on a row's Assign Recruiter, Revoke Recruiter or
Delete with the answer to the confirm dialog, and the arrival of a waiting call's response. -/
inductive Event where
  | chooseRole (value : String)
  | refresh
  | assign (index : Nat)
  | revoke (index : Nat)
  | delete (index : Nat) (confirmed : Bool)
  | settle (call : Call) (outcome : Outcome)

def next (s : State) : Event → State
  | .chooseRole value =>
    if value = s.roleFilter then s else fetchUsers value { s with roleFilter := value }
  | .refresh => fetchUsers s.roleFilter s
  | .assign index => handleAssignRecruiter (rowId s index) s
  | .revoke index => handleRevokeRecruiter (rowId s index) s
  | .delete index confirmed => handleDeleteUser confirmed (rowId s index) s
  | .settle call outcome => settled { s with inflight := s.inflight.erase call } call outcome

/-- What can happen next on the page of a signed-in user `me`: the select and Refresh are
always rendered, a row's buttons only while the table is, and a response arrives only for
a waiting call. -/
def Enabled (me : Option Json) (s : State) : Event → Prop
  | .chooseRole value => value ∈ roleOptions
  | .refresh => True
  | .assign index => rowShows (hasRole "candidate") s index = true
  | .revoke index => rowShows (hasRole "recruiter") s index = true
  | .delete index _ => rowShows (offersDelete me) s index = true
  | .settle call _ => call ∈ s.inflight

instance (me : Option Json) (s : State) : (e : Event) → Decidable (Enabled me s e)
  | .chooseRole value => inferInstanceAs (Decidable (value ∈ roleOptions))
  | .refresh => inferInstanceAs (Decidable True)
  | .assign _ | .revoke _ | .delete _ _ => inferInstanceAs (Decidable (_ = true))
  | .settle call _ => inferInstanceAs (Decidable (call ∈ s.inflight))

/-- The state after the mount effect: a non-admin is sent to `/` with nothing fetched,
and an admin's page starts its first `fetchUsers`. -/
def mounted (session : Session) : Option State :=
  if session.isAdmin then some (fetchUsers fresh.roleFilter fresh) else none

theorem eq_of_mounted {session : Session} {s : State} (h : mounted session = some s) :
    s = fetchUsers "" fresh := by
  simp only [mounted] at h
  split at h <;> cases h
  rfl

inductive Run (session : Session) : List Event → State → Prop where
  | mount {s} : mounted session = some s → Run session [] s
  | step {events s e} : Run session events s → Enabled session.userId s e →
      Run session (events ++ [e]) (next s e)

def Valid (me : Option Json) (s : State) : List Event → Bool
  | [] => true
  | e :: rest => decide (Enabled me s e) && Valid me (next s e) rest

theorem Run.append {session : Session} {events rest : List Event} {s : State}
    (run : Run session events s) (valid : Valid session.userId s rest = true) :
    Run session (events ++ rest) (rest.foldl next s) := by
  induction rest generalizing events s with
  | nil => simpa using run
  | cons e rest ih =>
    simp only [Valid, Bool.and_eq_true, decide_eq_true_eq] at valid
    simpa using ih (run.step valid.1) valid.2

theorem Run.of_valid {session : Session} {events : List Event} (admin : session.isAdmin = true)
    (valid : Valid session.userId (fetchUsers "" fresh) events = true) :
    Run session events (events.foldl next (fetchUsers "" fresh)) := by
  simpa using (Run.mount (by simp [mounted, admin, fresh])).append valid

end EaaRecruit.Admin
