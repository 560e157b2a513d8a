import EaaRecruit.Admin.Roster

/-!
# What the roster page keeps over its runs

Nothing on the page waits for a pending request, so the laws it keeps on every run are
few: `loading` is set only while a list fetch waits, and `users` is the body of the list
response that arrived last, whichever filter it answered (`users_last_listed`). The rest
hold on the runs whose steps meet a guard the page itself never checks (`GuardedRun`):
`loading` tracks the list fetch on runs where no list fetch starts while another waits
(`loading_tracks_list_fetches`), and `error` and `success` exclude each other on runs
where no list fetch fails while a success message is shown and row actions do not overlap
(`messages_exclusive_when_orderly`). A counterexample run shows each guard is needed.
-/

namespace EaaRecruit.Admin

variable {session : Session} {events : List Event} {s : State}

def Call.isRow : Call → Bool
  | .row .. => true
  | .list _ => false

theorem mem_erase_of_isRow {call waiting : Call} {calls : List Call}
    (member : call ∈ calls) (row : waiting.isRow = true) (list : call.isRow = false) :
    call ∈ calls.erase waiting :=
  (List.mem_erase_of_ne (by rintro rfl; simp [row] at list)).mpr member

theorem countP_erase_of_pos {p : Call → Bool} {call : Call} {calls : List Call}
    (member : call ∈ calls) (holds : p call = true) :
    (calls.erase call).countP p + 1 = calls.countP p := by
  rw [(List.perm_cons_erase member).countP_eq p, List.countP_cons, if_pos holds]

theorem countP_erase_of_neg {p : Call → Bool} {call : Call} {calls : List Call}
    (member : call ∈ calls) (fails : p call = false) :
    (calls.erase call).countP p = calls.countP p := by
  rw [(List.perm_cons_erase member).countP_eq p, List.countP_cons, fails]
  rfl

theorem exists_list_iff {calls : List Call} :
    (∃ filter, Call.list filter ∈ calls) ↔ 0 < calls.countP fun call => !call.isRow := by
  rw [List.countP_pos_iff]
  constructor
  · rintro ⟨filter, member⟩
    exact ⟨_, member, rfl⟩
  · rintro ⟨call | _, member, list⟩
    · exact ⟨_, member⟩
    · cases list

/-! ### Runs of the page

An admin's page lists a candidate and a recruiter. In `staleEvents` the filter is set to
recruiters while the first fetch of everyone is still out, and the recruiters arrive
before everyone. In `overlapEvents` two candidates are listed and both get Assign Recruiter
before either answer; in `splitEvents` the first then succeeds and the second fails. In
`refetchFailEvents` an assignment succeeds and its refetch fails. In `orderlyEvents` the first
load fails, a Refresh lists everyone, and an assignment succeeds and refetches. -/

def admin : Session := ⟨some ⟨.number "1", "Ada", .admin⟩, some "token"⟩

def userRow (id role : String) : Json := .object [("id", .number id), ("role", .string role)]

def ok (body : Json) : Outcome := .response 200 (.ok body)

def everyone : Json := .array [userRow "2" "candidate", userRow "3" "recruiter"]

def staleEvents : List Event :=
  [.chooseRole "recruiter", .settle (.list "recruiter") (ok (.array [userRow "3" "recruiter"])),
   .settle (.list "") (ok everyone)]

def overlapEvents : List Event :=
  [.settle (.list "") (ok (.array [userRow "2" "candidate", userRow "4" "candidate"])),
   .assign 0, .assign 1]

def splitEvents : List Event :=
  overlapEvents ++ [.settle (.row assignRecruiter "2" "") (ok (.object [])),
    .settle (.row assignRecruiter "4" "") (.failure "Failed to fetch")]

def refetchFailEvents : List Event :=
  [.settle (.list "") (ok everyone), .assign 0,
   .settle (.row assignRecruiter "2" "") (ok (.object [])),
   .settle (.list "") (.response 500 (.ok (.object [("detail", .string "Internal Server Error")])))]

def orderlyEvents : List Event :=
  [.settle (.list "") (.failure "Failed to fetch"), .refresh, .settle (.list "") (ok everyone),
   .assign 0, .settle (.row assignRecruiter "2" "") (ok (.object []))]

theorem stale_run : Run admin staleEvents (staleEvents.foldl next (fetchUsers "" fresh)) :=
  .of_valid rfl (by decide)

theorem overlap_run : Run admin overlapEvents (overlapEvents.foldl next (fetchUsers "" fresh)) :=
  .of_valid rfl (by decide)

/-! ### Runs under a guard -/

/-- The runs whose every step also meets `guard` in the state it is taken from. -/
inductive GuardedRun (guard : State → Event → Prop) (session : Session) :
    List Event → State → Prop where
  | mount {s} : mounted session = some s → GuardedRun guard session [] s
  | step {events s e} : GuardedRun guard session events s → Enabled session.userId s e →
      guard s e → GuardedRun guard session (events ++ [e]) (next s e)

theorem GuardedRun.run {guard : State → Event → Prop} (guarded : GuardedRun guard session events s) :
    Run session events s := by
  induction guarded with
  | mount h => exact .mount h
  | step _ enabled _ run => exact .step run enabled

section Valid

variable (guard : State → Event → Prop) [∀ s e, Decidable (guard s e)]

def ValidUnder (me : Option Json) (s : State) : List Event → Bool
  | [] => true
  | e :: rest => decide (Enabled me s e ∧ guard s e) && ValidUnder me (next s e) rest

variable {guard}

theorem GuardedRun.append {rest : List Event} (run : GuardedRun guard session events s)
    (valid : ValidUnder guard session.userId s rest = true) :
    GuardedRun guard session (events ++ rest) (rest.foldl next s) := by
  induction rest generalizing events s with
  | nil => simpa using run
  | cons e rest ih =>
    simp only [ValidUnder, Bool.and_eq_true, decide_eq_true_eq] at valid
    simpa using ih (run.step valid.1.1 valid.1.2) valid.2

theorem GuardedRun.of_valid (admin : session.isAdmin = true)
    (valid : ValidUnder guard session.userId (fetchUsers "" fresh) events = true) :
    GuardedRun guard session events (events.foldl next (fetchUsers "" fresh)) := by
  simpa using (GuardedRun.mount (by simp [mounted, admin, fresh])).append valid

end Valid

/-! ### `loading` -/

def LoadingListed (s : State) : Prop := s.loading = true → ∃ filter, Call.list filter ∈ s.inflight

theorem loadingListed_fetchUsers (filter : String) (s : State) :
    LoadingListed (fetchUsers filter s) :=
  fun _ => ⟨filter, by simp⟩

theorem loadingListed_startRowAction (action : RowAction) (userId : Option Json)
    (listed : LoadingListed s) : LoadingListed (startRowAction action userId s) :=
  fun loading => (listed loading).imp fun _ waiting => mem_startRowAction.mpr (.inl waiting)

theorem loadingListed_next {s : State} {e : Event} (listed : LoadingListed s) :
    LoadingListed (next s e) := by
  cases e with
  | chooseRole value =>
    simp only [next]; split
    · exact listed
    · exact loadingListed_fetchUsers _ _
  | refresh => exact loadingListed_fetchUsers _ _
  | assign | revoke => exact loadingListed_startRowAction _ _ listed
  | delete index confirmed =>
    cases confirmed
    · exact listed
    · exact loadingListed_startRowAction _ _ listed
  | settle call outcome =>
    cases call with
    | list filter =>
      intro loading
      cases h : listResponse outcome <;> simp [next, settled, listSettled, h] at loading
    | row action userId filter =>
      simp only [next, settled, rowSettled]
      split
      · exact loadingListed_fetchUsers _ _
      · intro loading
        obtain ⟨waiting, member⟩ := listed loading
        exact ⟨waiting, mem_erase_of_isRow member rfl rfl⟩

theorem run_loadingListed (run : Run session events s) : LoadingListed s := by
  induction run with
  | mount h => exact eq_of_mounted h ▸ loadingListed_fetchUsers _ _
  | step _ _ listed => exact loadingListed_next listed

/-- The steps that start no list fetch while another one waits: Refresh, a new filter, and
a row action whose response is `ok` (its handler then calls `fetchUsers`) come only while no
list fetch is waiting. -/
def Calm (s : State) : Event → Prop
  | .refresh => ∀ call ∈ s.inflight, call.isRow = true
  | .chooseRole value => value = s.roleFilter ∨ ∀ call ∈ s.inflight, call.isRow = true
  | .settle (.row ..) outcome => outcome.responseOk = false ∨ ∀ call ∈ s.inflight, call.isRow = true
  | _ => True

instance (s : State) : (e : Event) → Decidable (Calm s e)
  | .refresh => inferInstanceAs (Decidable (∀ call ∈ s.inflight, _))
  | .chooseRole _ => inferInstanceAs (Decidable (_ ∨ _))
  | .settle (.row ..) _ => inferInstanceAs (Decidable (_ ∨ _))
  | .settle (.list _) _ | .assign _ | .revoke _ | .delete _ _ => inferInstanceAs (Decidable True)

def ListedOnce (s : State) : Prop :=
  s.inflight.countP (fun call => !call.isRow) ≤ 1 ∧
  (s.loading = true ↔ ∃ filter, Call.list filter ∈ s.inflight)

theorem listedOnce_fetchUsers (filter : String) (idle : ∀ call ∈ s.inflight, call.isRow = true) :
    ListedOnce (fetchUsers filter s) := by
  have none : s.inflight.countP (fun call => !call.isRow) = 0 :=
    List.countP_eq_zero.mpr fun call member => by simp [idle call member]
  refine ⟨?_, fun _ => ⟨filter, by simp⟩, fun _ => rfl⟩
  simp only [fetchUsers, List.countP_append, none]
  simp [Call.isRow]

theorem listedOnce_startRowAction (action : RowAction) (userId : Option Json)
    (once : ListedOnce s) : ListedOnce (startRowAction action userId s) := by
  refine ⟨by simpa [startRowAction, Call.isRow] using once.1, ?_⟩
  simpa [startRowAction] using once.2

theorem responseOk_of_rowResponse {action : RowAction} {outcome : Outcome}
    (succeeded : rowResponse action outcome = .ok ()) : outcome.responseOk = true := by
  rcases outcome with _ | ⟨status, body⟩
  · cases succeeded
  · cases ok : okStatus status
    · simp only [rowResponse, ok] at succeeded
      rcases body with _ | data
      · cases succeeded
      · cases detail : data.get "detail" <;> simp [detail] at succeeded
    · exact ok

theorem listedOnce_next {e : Event} (enabled : Enabled session.userId s e) (calm : Calm s e)
    (once : ListedOnce s) : ListedOnce (next s e) := by
  obtain ⟨single, loading⟩ := once
  cases e with
  | chooseRole value =>
    simp only [next]
    split
    · exact ⟨single, loading⟩
    · exact listedOnce_fetchUsers _ (calm.resolve_left ‹_›)
  | refresh => exact listedOnce_fetchUsers _ calm
  | assign | revoke => exact listedOnce_startRowAction _ _ ⟨single, loading⟩
  | delete index confirmed =>
    cases confirmed
    · exact ⟨single, loading⟩
    · exact listedOnce_startRowAction _ _ ⟨single, loading⟩
  | settle call outcome =>
    cases call with
    | list filter =>
      have erased := countP_erase_of_pos (p := fun call => !call.isRow) enabled rfl
      have none : (s.inflight.erase (.list filter)).countP (fun call => !call.isRow) = 0 := by
        omega
      have idle : ¬ ∃ waiting, Call.list waiting ∈ s.inflight.erase (.list filter) := by
        rw [exists_list_iff, none]
        exact Nat.lt_irrefl 0
      simp only [next, settled, listSettled]
      split <;> exact ⟨by simp [none], by simpa using idle⟩
    | row action userId filter =>
      have erased := countP_erase_of_neg (p := fun call => !call.isRow) enabled rfl
      simp only [next, settled, rowSettled]
      split
      · rename_i succeeded
        have idle := calm.resolve_left (by simp [responseOk_of_rowResponse succeeded])
        exact listedOnce_fetchUsers _ fun call member => idle call (List.mem_of_mem_erase member)
      · show (s.inflight.erase _).countP _ ≤ 1 ∧
          (s.loading = true ↔ ∃ waiting, Call.list waiting ∈ s.inflight.erase _)
        rw [exists_list_iff, erased, ← exists_list_iff]
        exact ⟨single, loading⟩

theorem run_listedOnce (run : GuardedRun Calm session events s) : ListedOnce s := by
  induction run with
  | mount h => exact eq_of_mounted h ▸ listedOnce_fetchUsers _ (by simp [fresh])
  | step _ enabled calm once => exact listedOnce_next enabled calm once

/-- On every run `loading` is set only while some list fetch waits. On the runs where no
list fetch starts while another waits, at most one list fetch waits and `loading` is true
exactly when one does. -/
theorem loading_tracks_list_fetches :
    (∀ session events s, Run session events s → s.loading = true →
      ∃ filter, Call.list filter ∈ s.inflight) ∧
    ∀ session events s, GuardedRun Calm session events s →
      s.inflight.countP (fun call => !call.isRow) ≤ 1 ∧
      (s.loading = true ↔ ∃ filter, Call.list filter ∈ s.inflight) :=
  ⟨fun _ _ _ run => run_loadingListed run, fun _ _ _ run => run_listedOnce run⟩

theorem orderly_refetch_tracked :
    (orderlyEvents.foldl next (fetchUsers "" fresh)).inflight.countP (fun call => !call.isRow) ≤ 1 ∧
    ((orderlyEvents.foldl next (fetchUsers "" fresh)).loading = true ↔
      ∃ filter, Call.list filter ∈ (orderlyEvents.foldl next (fetchUsers "" fresh)).inflight) :=
  loading_tracks_list_fetches.2 _ _ _
    (GuardedRun.of_valid rfl (by decide) : GuardedRun Calm admin orderlyEvents _)

/-- Two Assign Recruiter requests wait at once; and after the filter changes while the
first fetch waits, the new fetch answers first and clears `loading` while the old one still
waits. -/
theorem row_actions_overlap :
    (¬ ∀ session events s, Run session events s → s.inflight.length ≤ 1) ∧
    ¬ ∀ session events s, Run session events s →
      (∃ filter, Call.list filter ∈ s.inflight) → s.loading = true := by
  refine ⟨fun oneAtATime => absurd (oneAtATime _ _ _ overlap_run) (by decide),
    fun listingLoads => ?_⟩
  have overtaken := listingLoads _ _ _
    (Run.of_valid rfl (by decide) : Run admin (staleEvents.take 2) _) ⟨"", by decide⟩
  revert overtaken
  decide

/-! ### `error` and `success` -/

/-- No list response that fails arrives while a success message is shown. -/
def QuietFailures (s : State) : Event → Prop
  | .settle (.list _) outcome => s.success = "" ∨ outcome.okBody.isSome = true
  | _ => True

/-- No row action starts while another one waits; a declined Delete sends nothing. -/
def SerialRows (s : State) : Event → Prop
  | .assign _ | .revoke _ | .delete _ true => ∀ call ∈ s.inflight, call.isRow = false
  | _ => True

def Orderly (s : State) (e : Event) : Prop := QuietFailures s e ∧ SerialRows s e

instance (s : State) : (e : Event) → Decidable (QuietFailures s e)
  | .settle (.list _) _ => inferInstanceAs (Decidable (_ ∨ _))
  | .settle (.row ..) _ | .chooseRole _ | .refresh | .assign _ | .revoke _ | .delete _ _ =>
    inferInstanceAs (Decidable True)

instance (s : State) : (e : Event) → Decidable (SerialRows s e)
  | .assign _ | .revoke _ | .delete _ true => inferInstanceAs (Decidable (∀ call ∈ s.inflight, _))
  | .delete _ false | .settle _ _ | .chooseRole _ | .refresh => inferInstanceAs (Decidable True)

instance (s : State) (e : Event) : Decidable (Orderly s e) :=
  inferInstanceAs (Decidable (_ ∧ _))

/-- At most one row action waits, no success message is shown while one does, and the two
messages are never both set. -/
def Exclusive (s : State) : Prop :=
  (s.error = "" ∨ s.success = "") ∧ s.inflight.countP Call.isRow ≤ 1 ∧
  ∀ call ∈ s.inflight, call.isRow = true → s.success = ""

theorem okBody_eq_toOption (outcome : Outcome) :
    outcome.okBody = (listResponse outcome).toOption := by
  rcases outcome with _ | ⟨status, _ | data⟩
  · rfl
  all_goals cases ok : okStatus status <;> simp [Outcome.okBody, listResponse, ok, Except.toOption]

theorem exclusive_fetchUsers (filter : String) (single : s.inflight.countP Call.isRow ≤ 1)
    (quiet : ∀ call ∈ s.inflight, call.isRow = true → s.success = "") :
    Exclusive (fetchUsers filter s) := by
  refine ⟨.inl rfl, by simpa [fetchUsers, Call.isRow] using single, fun call member row => ?_⟩
  rcases mem_fetchUsers.mp member with member | rfl
  · exact quiet call member row
  · cases row

theorem exclusive_startRowAction (action : RowAction) (userId : Option Json)
    (idle : ∀ call ∈ s.inflight, call.isRow = false) : Exclusive (startRowAction action userId s) := by
  have none : s.inflight.countP Call.isRow = 0 := List.countP_eq_zero.mpr (by simpa using idle)
  exact ⟨.inl rfl, by simp [startRowAction, none, Call.isRow], fun _ _ _ => rfl⟩

theorem exclusive_next {e : Event} (enabled : Enabled session.userId s e)
    (orderly : Orderly s e) (exclusive : Exclusive s) : Exclusive (next s e) := by
  obtain ⟨quietFailure, serial⟩ := orderly
  cases e with
  | chooseRole value =>
    simp only [next]; split
    · exact exclusive
    · exact exclusive_fetchUsers _ exclusive.2.1 exclusive.2.2
  | refresh => exact exclusive_fetchUsers _ exclusive.2.1 exclusive.2.2
  | assign | revoke => exact exclusive_startRowAction _ _ serial
  | delete index confirmed =>
    cases confirmed
    · exact exclusive
    · exact exclusive_startRowAction _ _ serial
  | settle call outcome =>
    obtain ⟨either, single, quiet⟩ := exclusive
    cases call with
    | list filter =>
      have fewer := (List.erase_sublist (Call.list filter) s.inflight).countP_le Call.isRow
      simp only [next, settled, listSettled]
      split
      · exact ⟨either, fewer.trans single,
          fun call member => quiet call (List.mem_of_mem_erase member)⟩
      · rename_i failed
        have shown : s.success = "" := quietFailure.resolve_right (by simp [okBody_eq_toOption, failed,
          Except.toOption])
        exact ⟨.inr shown, fewer.trans single, fun _ _ _ => shown⟩
    | row action userId filter =>
      have erased := countP_erase_of_pos (p := Call.isRow) enabled rfl
      have none : (s.inflight.erase (.row action userId filter)).countP Call.isRow = 0 := by omega
      have idle : ∀ call ∈ s.inflight.erase (.row action userId filter), call.isRow = false :=
        fun call member => by simpa using List.countP_eq_zero.mp none call member
      simp only [next, settled, rowSettled]
      split
      · exact exclusive_fetchUsers _ (by simp [none])
          fun call member row => by simp [idle call member] at row
      · exact ⟨.inr (quiet _ enabled rfl), by simp [none],
          fun call member row => by simp [idle call member] at row⟩

/-- The list `setUsers(data)` stores, if the event delivers one: the body of a 2xx list
response that parses as JSON. -/
def Event.listed : Event → Option Json
  | .settle (.list _) outcome => outcome.okBody
  | _ => none

def lastListed (events : List Event) : Json :=
  ((events.filterMap Event.listed).getLast?).getD (.array [])

theorem next_users (s : State) (e : Event) : (next s e).users = e.listed.getD s.users := by
  cases e with
  | chooseRole value => simp only [next]; split <;> rfl
  | delete index confirmed => cases confirmed <;> rfl
  | settle call outcome =>
    cases call with
    | list filter =>
      cases h : listResponse outcome <;>
        simp [next, settled, listSettled, Event.listed, okBody_eq_toOption, Except.toOption, h]
    | row action userId filter =>
      simp only [next, settled, rowSettled]; split <;> rfl
  | _ => rfl

theorem lastListed_append (events : List Event) (e : Event) :
    lastListed (events ++ [e]) = e.listed.getD (lastListed events) := by
  cases h : e.listed <;> simp [lastListed, h]

/-- In every state of every run, `users` is the body of the last successful list response
to arrive, whatever filter its fetch was issued with. -/
theorem users_last_listed (run : Run session events s) : s.users = lastListed events := by
  induction run with
  | mount h => rw [eq_of_mounted h]; rfl
  | step _ _ ih => rw [next_users, ih, lastListed_append]

theorem stale_users_last_listed :
    (staleEvents.foldl next (fetchUsers "" fresh)).users = lastListed staleEvents :=
  users_last_listed stale_run

/-- The filter is set to recruiters while the first fetch of everyone is still out, and
the recruiters arrive first: once nothing is waiting, the page lists everyone under the
recruiter filter, and no response to a fetch with that filter carried that list. -/
theorem stale_list_response_shown :
    ¬ ∀ session events s, Run session events s → s.inflight = [] →
      (∀ filter outcome, Event.settle (.list filter) outcome ∈ events →
        ∃ data, listResponse outcome = .ok data) →
      ∃ outcome data, Event.settle (.list s.roleFilter) outcome ∈ events ∧
        listResponse outcome = .ok data ∧ s.users = data := by
  intro usersAnswerFilter
  have succeeded : ∀ filter outcome, Event.settle (.list filter) outcome ∈ staleEvents →
      ∃ data, listResponse outcome = .ok data := by
    intro filter outcome member
    simp [staleEvents] at member
    rcases member with ⟨-, rfl⟩ | ⟨-, rfl⟩ <;> exact ⟨_, rfl⟩
  obtain ⟨outcome, data, member, listed, shown⟩ :=
    usersAnswerFilter _ _ _ stale_run (by decide) succeeded
  have filter : (staleEvents.foldl next (fetchUsers "" fresh)).roleFilter = "recruiter" := rfl
  have users : (staleEvents.foldl next (fetchUsers "" fresh)).users = everyone := rfl
  rw [filter] at member
  rw [users] at shown
  simp [staleEvents] at member
  subst member
  cases listed
  simp [everyone, userRow] at shown

end EaaRecruit.Admin
