import EaaRecruit.Home.Pipeline

/-!
# What the upload handlers guarantee

Over every run of the page: at most one upload is in flight and `loading` says whether
one is (`loading_iff_one_upload`); `jobUploaded` is exactly "some job response was a 2xx
with a JSON body", so a résumé batch is sent only after one
(`resumes_sent_only_after_job_accepted`); and what the arrival of each response does to
`loading`, `jobUploaded` and `results` (`settle_upload_fields`).
-/

namespace EaaRecruit.Home

/-! ### What one response does -/

/-- What `setResults(data.report)` stores, on the responses that get that far: a 2xx
whose body is JSON other than `null`. The stored value is `undefined` when the body has
no `report`. -/
def reportOf : Outcome → Option (Option Json)
  | .response status (.ok data) => if okStatus status then (data.get "report").toOption else none
  | _ => none

theorem settled_job (s : State) (file : File) (outcome : Outcome) :
    ∃ message, settled s (.job file) outcome =
      { s with jobUploaded := s.jobUploaded || outcome.parsedOk, message, loading := false } := by
  rcases outcome with message | ⟨status, message | data⟩
  · exact ⟨_, by simp [settled, jobResponse, catchFinally, Outcome.parsedOk]; rfl⟩
  · exact ⟨_, by simp [settled, jobResponse, catchFinally, Outcome.parsedOk]; rfl⟩
  · cases ok : okStatus status <;> cases detail : data.get "detail" <;>
      exact ⟨_, by simp [settled, jobResponse, catchFinally, Outcome.parsedOk, ok, detail]; rfl⟩

theorem settled_resumes (s : State) (files : List File) (outcome : Outcome) :
    ∃ message, settled s (.resumes files) outcome =
      { s with results := (reportOf outcome).getD s.results, message, loading := false } := by
  rcases outcome with message | ⟨status, message | data⟩
  · exact ⟨_, by simp [settled, resumesResponse, catchFinally, reportOf]; rfl⟩
  · exact ⟨_, by simp [settled, resumesResponse, catchFinally, reportOf]; rfl⟩
  · cases ok : okStatus status <;> cases report : data.get "report" <;>
      cases detail : data.get "detail" <;>
      exact ⟨_, by simp [settled, resumesResponse, catchFinally, reportOf, Except.toOption, ok, report, detail]; rfl⟩

@[simp] theorem settled_loading (s : State) (upload : Upload) (outcome : Outcome) :
    (settled s upload outcome).loading = false := by
  cases upload with
  | job file => obtain ⟨_, h⟩ := settled_job s file outcome; rw [h]
  | resumes files => obtain ⟨_, h⟩ := settled_resumes s files outcome; rw [h]

@[simp] theorem settled_inflight (s : State) (upload : Upload) (outcome : Outcome) :
    (settled s upload outcome).inflight = s.inflight := by
  cases upload with
  | job file => obtain ⟨_, h⟩ := settled_job s file outcome; rw [h]
  | resumes files => obtain ⟨_, h⟩ := settled_resumes s files outcome; rw [h]

/-- The event that runs `setJobUploaded(true)`: a job response with a 2xx status and a JSON
body. -/
def Event.acceptsJob : Event → Bool
  | .settle (.job _) outcome => outcome.parsedOk
  | _ => false

theorem eq_settle_of_acceptsJob {e : Event} (accepts : e.acceptsJob = true) :
    ∃ file status data, e = .settle (.job file) (.response status (.ok data)) ∧
      okStatus status = true := by
  rcases e with _ | _ | _ | _ | ⟨_ | _, _ | ⟨_, _ | _⟩⟩ <;>
    simp [Event.acceptsJob, Outcome.parsedOk] at accepts
  exact ⟨_, _, _, rfl, accepts⟩

@[simp] theorem settled_jobUploaded (s : State) (upload : Upload) (outcome : Outcome) :
    (settled s upload outcome).jobUploaded =
      (s.jobUploaded || (Event.settle upload outcome).acceptsJob) := by
  cases upload with
  | job file => obtain ⟨_, h⟩ := settled_job s file outcome; simp [h, Event.acceptsJob]
  | resumes files => obtain ⟨_, h⟩ := settled_resumes s files outcome; simp [h, Event.acceptsJob]

/-! ### A run of the page

A recruiter chooses `job.pdf` and sends it, the server accepts it, the recruiter chooses
two résumés and sends them, a report comes back, and the batch is sent once more. -/

def recruiter : Session := ⟨some ⟨.number "7", "Rita", .recruiter⟩, some "token"⟩

def jobPdf : File := ⟨"job.pdf"⟩

def resumePair : List File := [⟨"r1.pdf"⟩, ⟨"r2.docx"⟩]

def reportBody : Json :=
  .object [("report", .object [("total_candidates", .number "2"), ("candidates", .array [])])]

def jobSent : List Event := [.chooseJob (some jobPdf), .processJob]

def rankingEvents : List Event :=
  jobSent ++ [.settle (.job jobPdf) (.response 200 (.ok (.object []))), .chooseResumes resumePair,
    .rankCandidates, .settle (.resumes resumePair) (.response 200 (.ok reportBody)), .rankCandidates]

theorem jobSent_run : Run recruiter jobSent (jobSent.foldl next initial) := .of_valid (by decide)

theorem ranking_run : Run recruiter rankingEvents (rankingEvents.foldl next initial) :=
  .of_valid (by decide)

/-- Resolving a job upload clears `loading`, keeps `results`, and sets `jobUploaded` on a
2xx with a JSON body; resolving a résumé batch clears `loading`, keeps `jobUploaded`, and
stores the body's `report` (possibly `undefined`) exactly when the body is JSON other
than `null` and the status is 2xx. -/
theorem settle_upload_fields (s : State) (outcome : Outcome) :
    (∀ file, (next s (.settle (.job file) outcome)).loading = false ∧
      (next s (.settle (.job file) outcome)).results = s.results ∧
      (next s (.settle (.job file) outcome)).jobUploaded = (s.jobUploaded || outcome.parsedOk)) ∧
    ∀ files, (next s (.settle (.resumes files) outcome)).loading = false ∧
      (next s (.settle (.resumes files) outcome)).jobUploaded = s.jobUploaded ∧
      (next s (.settle (.resumes files) outcome)).results = (reportOf outcome).getD s.results := by
  refine ⟨fun file => ?_, fun files => ?_⟩
  · obtain ⟨_, h⟩ := settled_job { s with inflight := s.inflight.erase (.job file) } file outcome
    simp only [next, h, and_self]
  · obtain ⟨_, h⟩ :=
      settled_resumes { s with inflight := s.inflight.erase (.resumes files) } files outcome
    simp only [next, h, and_self]

/-- The law with "2xx" alone as the signal fails on the page: a 2xx job response whose body
is not JSON leaves `jobUploaded` false, and a 2xx batch response whose body has no
`report` replaces the report on screen by `undefined`. -/
theorem ok_status_alone_not_enough :
    (¬ ∀ session events s, Run session events s → ∀ file status body,
        (next s (.settle (.job file) (.response status body))).jobUploaded =
          (s.jobUploaded || okStatus status)) ∧
    (¬ ∀ session events s, Run session events s → ∀ files outcome,
        (next s (.settle (.resumes files) outcome)).results = s.results ∨
        ∃ status data report, outcome = .response status (.ok data) ∧ okStatus status = true ∧
          data.get "report" = .ok (some report) ∧
          (next s (.settle (.resumes files) outcome)).results = some report) := by
  refine ⟨fun okSetsJobUploaded => ?_, fun okStoresReport => ?_⟩
  · have kept := okSetsJobUploaded _ _ _ jobSent_run jobPdf 200 (.error "Unexpected end of JSON input")
    revert kept
    decide
  · rcases okStoresReport _ _ _ ranking_run resumePair (.response 200 (.ok (.object []))) with
      same | ⟨status, data, report, outcome, -, read, -⟩
    · have shown := congrArg Option.isSome same
      revert shown
      decide
    · cases outcome
      simp [Json.get] at read

/-! ### One upload at a time -/

theorem handleJobUpload_of_some {s : State} {file : File} (chosen : s.jobFile = some file) :
    handleJobUpload s =
      { s with loading := true, message := "", inflight := s.inflight ++ [.job file] } := by
  simp [handleJobUpload, chosen]

theorem handleResumeUpload_of_ne {s : State} (chosen : s.resumeFiles.length ≠ 0) :
    handleResumeUpload s =
      { s with loading := true, message := "", inflight := s.inflight ++ [.resumes s.resumeFiles] } := by
  simp [handleResumeUpload, chosen]

theorem enabled_processJob {session : Session} {s : State}
    (enabled : Enabled session s .processJob) :
    ∃ file, s.jobFile = some file ∧ s.loading = false := by
  obtain ⟨-, enabled⟩ := enabled
  cases chosen : s.jobFile <;> simp_all [processJobDisabled]

theorem enabled_rankCandidates {session : Session} {s : State}
    (enabled : Enabled session s .rankCandidates) :
    s.jobUploaded = true ∧ s.resumeFiles.length ≠ 0 ∧ s.loading = false := by
  simpa [rankCandidatesDisabled, and_assoc] using enabled.2

/-- At most one upload is waiting, and `loading` says whether one is. -/
def OneUpload (s : State) : Prop :=
  (s.loading = false ∧ s.inflight = []) ∨ (s.loading = true ∧ ∃ upload, s.inflight = [upload])

theorem OneUpload.idle {s : State} (one : OneUpload s) (idle : s.loading = false) :
    s.inflight = [] := by
  rcases one with ⟨-, empty⟩ | ⟨busy, -⟩
  · exact empty
  · simp [busy] at idle

theorem oneUpload_next {session : Session} {s : State} {e : Event}
    (enabled : Enabled session s e) (one : OneUpload s) : OneUpload (next s e) := by
  cases e with
  | chooseJob | chooseResumes => exact one
  | processJob =>
    obtain ⟨file, chosen, idle⟩ := enabled_processJob enabled
    simp [OneUpload, next, handleJobUpload_of_some chosen, one.idle idle]
  | rankCandidates =>
    obtain ⟨-, chosen, idle⟩ := enabled_rankCandidates enabled
    simp [OneUpload, next, handleResumeUpload_of_ne chosen, one.idle idle]
  | settle upload outcome =>
    rcases one with ⟨-, empty⟩ | ⟨-, waiting, busy⟩
    · simp [Enabled, empty] at enabled
    · obtain rfl : upload = waiting := by simpa [Enabled, busy] using enabled
      simp [OneUpload, next, busy]

theorem run_oneUpload {session : Session} {events : List Event} {s : State}
    (run : Run session events s) : OneUpload s := by
  induction run with
  | mount => exact .inl ⟨rfl, rfl⟩
  | step _ enabled one => exact oneUpload_next enabled one

/-- In every state of every run, at most one upload is waiting and `loading` is true
exactly when one is. -/
theorem loading_iff_one_upload {session : Session} {events : List Event} {s : State}
    (run : Run session events s) :
    s.inflight.length ≤ 1 ∧ (s.loading = true ↔ s.inflight ≠ []) := by
  rcases run_oneUpload run with ⟨loading, empty⟩ | ⟨loading, upload, busy⟩
  · simp [loading, empty]
  · simp [loading, busy]

theorem ranking_one_upload :
    (rankingEvents.foldl next initial).inflight.length ≤ 1 ∧
      ((rankingEvents.foldl next initial).loading = true ↔
        (rankingEvents.foldl next initial).inflight ≠ []) :=
  loading_iff_one_upload ranking_run

/-! ### A résumé batch needs an accepted job description -/

theorem next_jobUploaded (s : State) (e : Event) :
    (next s e).jobUploaded = (s.jobUploaded || e.acceptsJob) := by
  cases e with
  | chooseJob | chooseResumes => simp [next, Event.acceptsJob]
  | processJob => cases chosen : s.jobFile <;> simp [next, handleJobUpload, chosen, Event.acceptsJob]
  | rankCandidates =>
    by_cases chosen : s.resumeFiles.length = 0 <;>
      simp [next, handleResumeUpload, chosen, Event.acceptsJob]
  | settle upload outcome => simp [next]

theorem run_jobUploaded {session : Session} {events : List Event} {s : State}
    (run : Run session events s) : s.jobUploaded = events.any Event.acceptsJob := by
  induction run with
  | mount => rfl
  | step _ _ ih => simp [next_jobUploaded, ih]

/-- A résumé batch waiting after an enabled step was waiting before it, or the step is the
"Rank Candidates" click that sent the chosen files, a non-empty selection, once
`jobUploaded` was set. -/
theorem mem_next_resumes {session : Session} {s : State} {e : Event} {files : List File}
    (enabled : Enabled session s e) (member : Upload.resumes files ∈ (next s e).inflight) :
    Upload.resumes files ∈ s.inflight ∨
      e = .rankCandidates ∧ files = s.resumeFiles ∧ s.jobUploaded = true ∧ files ≠ [] := by
  cases e with
  | chooseJob | chooseResumes => exact .inl member
  | processJob =>
    obtain ⟨file, chosen, -⟩ := enabled_processJob enabled
    simpa [next, handleJobUpload_of_some chosen] using member
  | rankCandidates =>
    obtain ⟨accepted, chosen, -⟩ := enabled_rankCandidates enabled
    simp only [next, handleResumeUpload_of_ne chosen, List.mem_append, List.mem_singleton,
      Upload.resumes.injEq] at member
    refine member.imp_right fun same => ⟨rfl, same, accepted, ?_⟩
    simpa [same] using chosen
  | settle upload outcome =>
    simp only [next, settled_inflight] at member
    exact .inl (List.mem_of_mem_erase member)

/-- `jobUploaded` is true exactly when some job response so far was a 2xx with a JSON body,
and a step sends a résumé batch only when such a response is among the events before it. -/
theorem resumes_sent_only_after_job_accepted {session : Session} {events : List Event}
    {s : State} (run : Run session events s) :
    s.jobUploaded = events.any Event.acceptsJob ∧
    ∀ e files, Enabled session s e → Upload.resumes files ∉ s.inflight →
      Upload.resumes files ∈ (next s e).inflight →
      ∃ file status data, Event.settle (.job file) (.response status (.ok data)) ∈ events ∧
        okStatus status = true := by
  refine ⟨run_jobUploaded run, fun e files enabled fresh sent => ?_⟩
  obtain before | ⟨-, -, accepted, -⟩ := mem_next_resumes enabled sent
  · exact absurd before fresh
  rw [run_jobUploaded run, List.any_eq_true] at accepted
  obtain ⟨_, member, accepts⟩ := accepted
  obtain ⟨file, status, data, rfl, ok⟩ := eq_settle_of_acceptsJob accepts
  exact ⟨file, status, data, member, ok⟩

theorem ranking_resumes_after_acceptance :
    (rankingEvents.foldl next initial).jobUploaded = rankingEvents.any Event.acceptsJob ∧
    ∀ e files, Enabled recruiter (rankingEvents.foldl next initial) e →
      Upload.resumes files ∉ (rankingEvents.foldl next initial).inflight →
      Upload.resumes files ∈ (next (rankingEvents.foldl next initial) e).inflight →
      ∃ file status data, Event.settle (.job file) (.response status (.ok data)) ∈ rankingEvents ∧
        okStatus status = true :=
  resumes_sent_only_after_job_accepted ranking_run

/-- Every résumé batch in flight carries at least one file: an empty selection never
reaches the network. -/
theorem batch_never_empty {session : Session} {events : List Event} {s : State}
    {files : List File} (run : Run session events s) (member : Upload.resumes files ∈ s.inflight) :
    files ≠ [] := by
  induction run with
  | mount => simp [initial] at member
  | step _ enabled ih =>
    rcases mem_next_resumes enabled member with before | ⟨-, -, -, nonempty⟩
    · exact ih before
    · exact nonempty

theorem ranking_batch_never_empty : resumePair ≠ [] :=
  batch_never_empty ranking_run (by decide)

end EaaRecruit.Home
