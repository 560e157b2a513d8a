import EaaRecruit.Admin.Invariants

/-!
# What the roster page asks of the server

Over every run: each list request asks for all users or for one of the select's three
roles (`list_requests_use_select_roles`), and each row action targets a user that some list
response of the run delivered, on a row where that action's button is rendered
(`row_actions_target_listed_users`).
-/

namespace EaaRecruit.Admin

variable {session : Session} {events : List Event} {s : State}

/-! ### The filters of list requests -/

/-- The `roleFilter` a waiting call's closure captured. -/
def Call.roleFilter : Call → String
  | .list roleFilter | .row _ _ roleFilter => roleFilter

/-- The filter, and every filter a waiting call captured, is the value of an option of the
select. -/
def FiltersOffered (s : State) : Prop :=
  s.roleFilter ∈ roleOptions ∧ ∀ call ∈ s.inflight, call.roleFilter ∈ roleOptions

theorem filtersOffered_fetchUsers {filter : String} (offered : FiltersOffered s)
    (option : filter ∈ roleOptions) : FiltersOffered (fetchUsers filter s) := by
  refine ⟨offered.1, fun call member => ?_⟩
  rcases mem_fetchUsers.mp member with member | rfl
  · exact offered.2 call member
  · exact option

theorem filtersOffered_startRowAction (action : RowAction) (userId : Option Json)
    (offered : FiltersOffered s) : FiltersOffered (startRowAction action userId s) := by
  refine ⟨offered.1, fun call member => ?_⟩
  rcases mem_startRowAction.mp member with member | rfl
  · exact offered.2 call member
  · exact offered.1

theorem filtersOffered_erase (call : Call) (offered : FiltersOffered s) :
    FiltersOffered { s with inflight := s.inflight.erase call } :=
  ⟨offered.1, fun waiting member => offered.2 waiting (List.mem_of_mem_erase member)⟩

theorem filtersOffered_next {e : Event} (enabled : Enabled session.userId s e)
    (offered : FiltersOffered s) : FiltersOffered (next s e) := by
  cases e with
  | chooseRole value =>
    simp only [next]
    split
    · exact offered
    · exact filtersOffered_fetchUsers ⟨enabled, offered.2⟩ enabled
  | refresh => exact filtersOffered_fetchUsers offered offered.1
  | assign | revoke => exact filtersOffered_startRowAction _ _ offered
  | delete index confirmed =>
    cases confirmed
    · exact offered
    · exact filtersOffered_startRowAction _ _ offered
  | settle call outcome =>
    have erased := filtersOffered_erase call offered
    cases call with
    | list filter =>
      simp only [next, settled, listSettled]
      split <;> exact erased
    | row action userId filter =>
      simp only [next, settled, rowSettled]
      split
      · exact filtersOffered_fetchUsers ⟨offered.1, erased.2⟩ (offered.2 _ enabled)
      · exact erased

theorem run_filtersOffered (run : Run session events s) : FiltersOffered s := by
  induction run with
  | mount h =>
    rw [eq_of_mounted h]
    exact filtersOffered_fetchUsers ⟨by decide, by simp [fresh]⟩ (by decide)
  | step _ enabled offered => exact filtersOffered_next enabled offered

/-- In every state of every run, each waiting list request is `GET ${API_BASE_URL}/admin/users`
or the same with `?role=` and one of `candidate`, `recruiter` and `admin`: the filter comes
from the select, also when a row action's refetch uses the filter of an older render. -/
theorem list_requests_use_select_roles (run : Run session events s) (api : String)
    (filter : String) (member : Call.list filter ∈ s.inflight) :
    ((Call.list filter).request api session.token).url ∈
      [api ++ "/admin/users", api ++ "/admin/users?role=candidate",
        api ++ "/admin/users?role=recruiter", api ++ "/admin/users?role=admin"] := by
  have option : filter ∈ roleOptions := (run_filtersOffered run).2 _ member
  simp only [roleOptions, List.mem_cons, List.not_mem_nil, or_false] at option
  have all : "".isEmpty = true := rfl
  have roles : ∀ role ∈ ["candidate", "recruiter", "admin"], role.isEmpty = false := by decide
  rcases option with rfl | rfl | rfl | rfl <;> simp [Call.request, all, roles, String.append_assoc]

/-- The filter is set to recruiters, and the refetch it starts asks for them. -/
theorem recruiter_filter_request_offered :
    ((Call.list "recruiter").request (apiBaseUrl none) admin.token).url ∈
      [apiBaseUrl none ++ "/admin/users", apiBaseUrl none ++ "/admin/users?role=candidate",
        apiBaseUrl none ++ "/admin/users?role=recruiter", apiBaseUrl none ++ "/admin/users?role=admin"] :=
  list_requests_use_select_roles
    (Run.of_valid rfl (by decide) : Run admin [.chooseRole "recruiter"] _) (apiBaseUrl none)
    "recruiter" (by decide)

/-! ### The targets of row actions -/

/-- A call waiting after a step was waiting before it, is a list fetch, or is the row
action the step clicked, for that row's `u.id` and the current filter. -/
theorem mem_next_inflight {e : Event} {call : Call} (member : call ∈ (next s e).inflight) :
    call ∈ s.inflight ∨ (∃ filter, call = .list filter) ∨
      ∃ index action, call = .row action (jsString (rowId s index)) s.roleFilter ∧
        (e = .assign index ∧ action = assignRecruiter ∨ e = .revoke index ∧ action = revokeRecruiter ∨
          e = .delete index true ∧ action = deleteUser) := by
  have listed {filter : String} {clicked : Prop} (member : call ∈ (fetchUsers filter s).inflight) :
      call ∈ s.inflight ∨ (∃ filter, call = .list filter) ∨ clicked :=
    (mem_fetchUsers.mp member).imp_right fun same => .inl ⟨filter, same⟩
  cases e with
  | chooseRole value =>
    simp only [next] at member
    split at member
    · exact .inl member
    · exact listed member
  | refresh => exact listed member
  | assign index | revoke index =>
    rcases mem_startRowAction.mp member with member | rfl
    · exact .inl member
    · exact .inr (.inr ⟨index, _, rfl, by simp⟩)
  | delete index confirmed =>
    cases confirmed
    · exact .inl member
    · rcases mem_startRowAction.mp member with member | rfl
      · exact .inl member
      · exact .inr (.inr ⟨index, _, rfl, by simp⟩)
  | settle waiting outcome =>
    cases waiting with
    | list filter =>
      simp only [next, settled, listSettled] at member
      split at member <;> exact .inl (List.mem_of_mem_erase member)
    | row action userId filter =>
      simp only [next, settled, rowSettled] at member
      split at member
      · rcases mem_fetchUsers.mp member with member | rfl
        · exact .inl (List.mem_of_mem_erase member)
        · exact .inr (.inl ⟨filter, rfl⟩)
      · exact .inl (List.mem_of_mem_erase member)

/-- The rows of every list body the run's responses delivered. -/
def listedRows (events : List Event) : List Json :=
  (events.filterMap Event.listed).flatMap rows

theorem listedRows_append (events : List Event) (e : Event) :
    listedRows (events ++ [e]) = listedRows events ++ (e.listed.map rows).getD [] := by
  cases h : e.listed <;> simp [listedRows, h]

theorem mem_listedRows_append {u : Json} (e : Event) (member : u ∈ listedRows events) :
    u ∈ listedRows (events ++ [e]) := by
  rw [listedRows_append]
  exact List.mem_append_left _ member

/-- A row passing `shows` is rendered at `index`, and its `u.id` is what the row's
handlers are given. -/
theorem exists_row_of_rowShows {shows : Json → Bool} {index : Nat}
    (shown : rowShows shows s index = true) :
    ∃ u ∈ rows s.users, shows u = true ∧ rowId s index = u.prop "id" := by
  cases row : (rows s.users)[index]? with
  | none => simp [rowShows, row] at shown
  | some u =>
    simp only [rowShows, row, Option.map_some', Option.getD_some, Bool.and_eq_true] at shown
    exact ⟨u, List.getElem?_mem row, shown.2, by simp [rowId, row]⟩

/-- The table shows only rows the run's list responses delivered, and each waiting row
action was clicked on such a row, one where that action's button is rendered. -/
def ActionsListed (me : Option Json) (events : List Event) (s : State) : Prop :=
  (∀ u ∈ rows s.users, u ∈ listedRows events) ∧
  ∀ action userId filter, Call.row action userId filter ∈ s.inflight →
    ∃ u ∈ listedRows events, userId = jsString (u.prop "id") ∧
      (action = assignRecruiter ∧ hasRole "candidate" u = true ∨
       action = revokeRecruiter ∧ hasRole "recruiter" u = true ∨
       action = deleteUser ∧ offersDelete me u = true)

theorem actionsListed_next {e : Event} (enabled : Enabled session.userId s e)
    (listed : ActionsListed session.userId events s) :
    ActionsListed session.userId (events ++ [e]) (next s e) := by
  obtain ⟨shown, targets⟩ := listed
  refine ⟨fun u member => ?_, fun action userId filter member => ?_⟩
  · rw [next_users] at member
    cases delivered : e.listed with
    | none =>
      rw [delivered] at member
      exact mem_listedRows_append e (shown u member)
    | some data =>
      rw [delivered] at member
      rw [listedRows_append, delivered]
      exact List.mem_append_right _ member
  · rcases mem_next_inflight member with member | ⟨_, listed⟩ | ⟨index, action, same, clicked⟩
    · obtain ⟨u, row, id, button⟩ := targets _ _ _ member
      exact ⟨u, mem_listedRows_append e row, id, button⟩
    · cases listed
    · simp only [Call.row.injEq] at same
      obtain ⟨rfl, rfl, -⟩ := same
      rcases clicked with ⟨rfl, rfl⟩ | ⟨rfl, rfl⟩ | ⟨rfl, rfl⟩ <;>
        obtain ⟨u, row, button, id⟩ := exists_row_of_rowShows enabled <;>
        exact ⟨u, mem_listedRows_append _ (shown u row), by rw [id], by simp [button]⟩

theorem run_actionsListed (run : Run session events s) : ActionsListed session.userId events s := by
  induction run with
  | mount h =>
    rw [eq_of_mounted h]
    refine ⟨fun u member => by simp [fetchUsers, fresh, rows] at member, fun _ _ _ member => ?_⟩
    simp [fresh] at member
  | step _ enabled listed => exact actionsListed_next enabled listed

/-- In every state of every run, each waiting row action targets the `u.id` of a user that
a list response of the run delivered, with the role its button needed when it was
clicked: Assign Recruiter a candidate, Revoke Recruiter a recruiter, and Delete a user who
is not an admin and whose id is not `===` the signed-in user's. -/
theorem row_actions_target_listed_users (run : Run session events s) :
    (∀ userId filter, Call.row assignRecruiter userId filter ∈ s.inflight →
      ∃ u ∈ listedRows events, userId = jsString (u.prop "id") ∧ hasRole "candidate" u = true) ∧
    (∀ userId filter, Call.row revokeRecruiter userId filter ∈ s.inflight →
      ∃ u ∈ listedRows events, userId = jsString (u.prop "id") ∧ hasRole "recruiter" u = true) ∧
    (∀ userId filter, Call.row deleteUser userId filter ∈ s.inflight →
      ∃ u ∈ listedRows events, userId = jsString (u.prop "id") ∧
        offersDelete session.userId u = true) := by
  have targets := (run_actionsListed run).2
  refine ⟨fun userId filter member => ?_, fun userId filter member => ?_,
    fun userId filter member => ?_⟩ <;>
    obtain ⟨u, row, id, ⟨same, button⟩ | ⟨same, button⟩ | ⟨same, button⟩⟩ :=
      targets _ userId filter member <;>
    first | exact ⟨u, row, id, button⟩ | exact absurd same (by decide)

/-- Two candidates are listed and both get Assign Recruiter before either answers. -/
theorem overlap_targets_listed :
    (∀ userId filter,
      Call.row assignRecruiter userId filter ∈ (overlapEvents.foldl next (fetchUsers "" fresh)).inflight →
      ∃ u ∈ listedRows overlapEvents, userId = jsString (u.prop "id") ∧
        hasRole "candidate" u = true) ∧
    (∀ userId filter,
      Call.row revokeRecruiter userId filter ∈ (overlapEvents.foldl next (fetchUsers "" fresh)).inflight →
      ∃ u ∈ listedRows overlapEvents, userId = jsString (u.prop "id") ∧
        hasRole "recruiter" u = true) ∧
    (∀ userId filter,
      Call.row deleteUser userId filter ∈ (overlapEvents.foldl next (fetchUsers "" fresh)).inflight →
      ∃ u ∈ listedRows overlapEvents, userId = jsString (u.prop "id") ∧
        offersDelete admin.userId u = true) :=
  row_actions_target_listed_users overlap_run

end EaaRecruit.Admin
