import EaaRecruit.Fetch

/-!
# The upload pipeline of the home page

`Home` in `pages/Home.js`. A job description goes to `/upload-job`, then a batch of résumés
to `/upload-resumes`, and the report that comes back is shown. The state is the page's six
`useState` hooks. Each handler `await`s its request, so a click runs the handler up to its
`await` and the response arrives later as a step of its own; `State.inflight` holds the
handler calls still waiting, with what their closures captured.

The workflow is rendered only for a signed-in recruiter or admin, so only such a session
can choose files or click.
-/

namespace EaaRecruit.Home

/-- A `handleJobUpload` or `handleResumeUpload` call waiting for its response, with the
files its request carries. -/
inductive Upload where
  | job (file : File)
  | resumes (files : List File)
  deriving DecidableEq, Repr

structure State where
  jobFile : Option File
  resumeFiles : List File
  jobUploaded : Bool
  results : Option Json
  loading : Bool
  message : String
  inflight : List Upload

def initial : State where
  jobFile := none
  resumeFiles := []
  jobUploaded := false
  results := some .null
  loading := false
  message := ""
  inflight := []

/-- `if (token) headers['Authorization'] = \`Bearer ${token}\``. -/
def bearer : Option String → Option String
  | some token => if token.isEmpty then none else some ("Bearer " ++ token)
  | none => none

/-- The `fetch` a waiting upload has made, given the `Authorization` header its handler's
`headers` object holds. -/
def Upload.request (api : String) (authorization : Option String) : Upload → Request
  | .job file => ⟨"POST", api ++ "/upload-job", authorization, [("job_file", file)]⟩
  | .resumes files =>
    ⟨"POST", api ++ "/upload-resumes", authorization,
      files.map fun file => ("resume_files", file)⟩

/-- The request of a waiting upload of `Home`, whose handlers send `bearer token`. -/
def request (api : String) (token : Option String) (upload : Upload) : Request :=
  upload.request api (bearer token)

/-! ### Handlers -/

def handleJobUpload (s : State) : State :=
  match s.jobFile with
  | none => { s with message := "Please select a job description file" }
  | some file => { s with loading := true, message := "", inflight := s.inflight ++ [.job file] }

def handleResumeUpload (s : State) : State :=
  if s.resumeFiles.length = 0 then { s with message := "Please select resume files" }
  else { s with loading := true, message := "", inflight := s.inflight ++ [.resumes s.resumeFiles] }

/-- The `try` block of `handleJobUpload` once `fetch` settles: the state it leaves, or the
message of what it throws. -/
def jobResponse (s : State) : Outcome → Except String State
  | .failure message => .error message
  | .response status body => do
    let data ← body
    if okStatus status then
      pure { s with jobUploaded := true, message := "✅ Job description processed successfully!" }
    else
      let detail ← data.get "detail"
      pure { s with message := "❌ Error: " ++ jsString detail }

/-- The `try` block of `handleResumeUpload` once `fetch` settles; `count` is the
`resumeFiles.length` its closure captured. -/
def resumesResponse (count : Nat) (s : State) : Outcome → Except String State
  | .failure message => .error message
  | .response status body => do
    let data ← body
    if okStatus status then
      let report ← data.get "report"
      pure { s with results := report,
                    message := "✅ Processed " ++ toString count ++ " resumes successfully!" }
    else
      let detail ← data.get "detail"
      pure { s with message := "❌ Error: " ++ jsString detail }

/-- The `catch` and `finally` both handlers wrap around their `try` block. -/
def catchFinally (s : State) : Except String State → State
  | .ok tried => { tried with loading := false }
  | .error message => { s with message := "❌ Error: " ++ message, loading := false }

def settled (s : State) : Upload → Outcome → State
  | .job _, outcome => catchFinally s (jobResponse s outcome)
  | .resumes files, outcome => catchFinally s (resumesResponse files.length s outcome)

/-! ### The page as a state machine -/

/-- The file inputs' `onChange` (`setJobFile(e.target.files[0])`,
`setResumeFiles(Array.from(e.target.files))`), the clicks on the two buttons, and the arrival
of a waiting upload's response. -/
inductive Event where
  | chooseJob (file : Option File)
  | chooseResumes (files : List File)
  | processJob
  | rankCandidates
  | settle (upload : Upload) (outcome : Outcome)

def next (s : State) : Event → State
  | .chooseJob file => { s with jobFile := file }
  | .chooseResumes files => { s with resumeFiles := files }
  | .processJob => handleJobUpload s
  | .rankCandidates => handleResumeUpload s
  | .settle upload outcome => settled { s with inflight := s.inflight.erase upload } upload outcome

/-- `canUseRecruitment`, after the sign-in check: whether the page renders the workflow
rather than the sign-in prompt or the candidate notice. -/
def showsWorkflow (session : Session) : Bool := session.isAuthenticated && session.isRecruiter

/-- `disabled={!jobFile || loading}`. -/
def processJobDisabled (s : State) : Bool := s.jobFile.isNone || s.loading

/-- `disabled={!jobUploaded || resumeFiles.length === 0 || loading}`. -/
def rankCandidatesDisabled (s : State) : Bool :=
  !s.jobUploaded || s.resumeFiles.length == 0 || s.loading

/-- What can happen next: an input or a button that is rendered and not disabled, or the
response to a waiting upload. -/
def Enabled (session : Session) (s : State) : Event → Prop
  | .chooseJob _ | .chooseResumes _ => showsWorkflow session = true
  | .processJob => showsWorkflow session = true ∧ processJobDisabled s = false
  | .rankCandidates => showsWorkflow session = true ∧ rankCandidatesDisabled s = false
  | .settle upload _ => upload ∈ s.inflight

instance (session : Session) (s : State) : (e : Event) → Decidable (Enabled session s e)
  | .chooseJob _ | .chooseResumes _ => inferInstanceAs (Decidable (_ = true))
  | .processJob | .rankCandidates => inferInstanceAs (Decidable (_ ∧ _))
  | .settle upload _ => inferInstanceAs (Decidable (upload ∈ s.inflight))

inductive Run (session : Session) : List Event → State → Prop where
  | mount : Run session [] initial
  | step {events s e} : Run session events s → Enabled session s e →
      Run session (events ++ [e]) (next s e)

def Valid (session : Session) (s : State) : List Event → Bool
  | [] => true
  | e :: rest => decide (Enabled session s e) && Valid session (next s e) rest

theorem Run.append {session : Session} {events rest : List Event} {s : State}
    (run : Run session events s) (valid : Valid session s rest = true) :
    Run session (events ++ rest) (rest.foldl next s) := by
  induction rest generalizing events s with
  | nil => simpa using run
  | cons e rest ih =>
    simp only [Valid, Bool.and_eq_true, decide_eq_true_eq] at valid
    simpa using ih (run.step valid.1) valid.2

theorem Run.of_valid {session : Session} {events : List Event}
    (valid : Valid session initial events = true) :
    Run session events (events.foldl next initial) := by
  simpa using Run.mount.append valid

end EaaRecruit.Home
