import EaaRecruit.Home.Pipeline

/-!
# The single-page version in `App.js`

`App` in `App.js` keeps `Home`'s six hooks, and its two handlers are `Home`'s statement for
statement except that `fetch` is given no `headers` object; its workflow is rendered with
no session. Each handler is therefore `Home`'s shared definition applied to App's own
values: the same state changes, and requests with no `Authorization` header. `next_eq_home`
and `run_iff_home` connect App's page to `Home`'s, so every result about the runs of a
recruiter's `Home` page holds of `App`.
-/

namespace EaaRecruit.App

open Home

/-- `handleJobUpload` (lines 14-45) up to its `await`: the guard, `setLoading(true)` and
`setMessage('')` of `Home`'s. -/
def handleJobUpload (s : State) : State := Home.handleJobUpload s

def handleResumeUpload (s : State) : State := Home.handleResumeUpload s

/-- Both handlers from their `await` on: `Home`'s `try`, `catch` and `finally`. -/
def settled (s : State) (upload : Upload) (outcome : Outcome) : State :=
  Home.settled s upload outcome

/-- The request a waiting upload has sent: `fetch` gets no headers. -/
def request (api : String) (upload : Upload) : Request := upload.request api none

def next (s : State) : Event → State
  | .chooseJob file => { s with jobFile := file }
  | .chooseResumes files => { s with resumeFiles := files }
  | .processJob => handleJobUpload s
  | .rankCandidates => handleResumeUpload s
  | .settle upload outcome => settled { s with inflight := s.inflight.erase upload } upload outcome

/-- What can happen next: every input and button is rendered, so only the `disabled`
conditions and the waiting uploads matter. -/
def Enabled (s : State) : Event → Prop
  | .chooseJob _ | .chooseResumes _ => True
  | .processJob => processJobDisabled s = false
  | .rankCandidates => rankCandidatesDisabled s = false
  | .settle upload _ => upload ∈ s.inflight

inductive Run : List Event → State → Prop where
  | mount : Run [] initial
  | step {events s e} : Run events s → Enabled s e → Run (events ++ [e]) (next s e)

theorem next_eq_home (s : State) (e : Event) : next s e = Home.next s e := by
  cases e <;> rfl

theorem request_eq_home (api : String) (token : Option String) (upload : Upload) :
    request api upload = { Home.request api token upload with authorization := none } := by
  cases upload <;> rfl

theorem enabled_iff {session : Session} (shown : showsWorkflow session = true) {s : State}
    {e : Event} : Enabled s e ↔ Home.Enabled session s e := by
  cases e <;> simp [Enabled, Home.Enabled, shown]

/-- App's page has the runs `Home` has for a session shown the workflow. -/
theorem run_iff_home {session : Session} (shown : showsWorkflow session = true)
    {events : List Event} {s : State} : Run events s ↔ Home.Run session events s := by
  constructor
  · intro run
    induction run with
    | mount => exact .mount
    | step _ enabled ih => exact next_eq_home _ _ ▸ ih.step ((enabled_iff shown).mp enabled)
  · intro run
    induction run with
    | mount => exact .mount
    | step _ enabled ih => exact (next_eq_home _ _).symm ▸ ih.step ((enabled_iff shown).mpr enabled)

end EaaRecruit.App
