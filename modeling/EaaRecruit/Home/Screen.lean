import EaaRecruit.Home.Uploads

/-!
# What the home page shows over a run

The message banner and the rankings card of `Home`. While an upload waits the banner is
empty, so the spinner and the banner never show together; afterwards the banner holds a
success text or `❌ Error: …`, and its class tells them apart. The guards' "Please select"
prompts are never shown: both buttons are disabled exactly when a guard would fire
(`banner_matches_outcome`). The rankings card shows the report of the last batch response
that stored one, and nothing else replaces it, so processing a new job description leaves
the old rankings on screen (`results_last_report`).
-/

namespace EaaRecruit.Home

variable {session : Session} {events : List Event} {s : State}

/-! ### The banner

In lemma names, `cross` is the mark `❌` and `check` the mark `✅`. -/

/-- `{message && <div className={\`message ${message.includes('❌') ? 'error' : 'success'}\`}>}`:
the banner's class, when a banner is rendered. `includes` of the one-character string `'❌'`
searches for that character. -/
def bannerClass (message : String) : Option String :=
  if message = "" then none else if '❌' ∈ message.data then some "error" else some "success"

theorem bannerClass_of_mem {message : String} (marked : '❌' ∈ message.data) :
    bannerClass message = some "error" := by
  have nonempty : message ≠ "" := by rintro rfl; cases marked
  simp [bannerClass, nonempty, marked]

theorem bannerClass_of_not_mem {message : String} (nonempty : message ≠ "")
    (unmarked : '❌' ∉ message.data) : bannerClass message = some "success" := by
  simp [bannerClass, nonempty, unmarked]

/-- `Nat.toDigitsCore` only prepends decimal digits to what it is given. -/
theorem mem_toDigitsCore {c : Char} :
    ∀ {fuel n : Nat} {ds : List Char}, c ∈ Nat.toDigitsCore 10 fuel n ds →
      c ∈ ds ∨ ∃ d < 10, c = Nat.digitChar d
  | 0, _, _, member => .inl member
  | fuel + 1, n, ds, member => by
    have pushed : c ∈ Nat.digitChar (n % 10) :: ds → c ∈ ds ∨ ∃ d < 10, c = Nat.digitChar d :=
      fun member => (List.mem_cons.mp member).elim
        (fun same => .inr ⟨_, Nat.mod_lt n (by decide), same⟩) .inl
    change c ∈ (if n / 10 = 0 then Nat.digitChar (n % 10) :: ds
      else Nat.toDigitsCore 10 fuel (n / 10) (Nat.digitChar (n % 10) :: ds)) at member
    split at member
    · exact pushed member
    · exact (mem_toDigitsCore member).elim pushed .inr

/-- The decimal text of a count has no `❌` in it. -/
theorem cross_not_mem_toString (count : Nat) : '❌' ∉ (toString count).data := by
  intro member
  rcases mem_toDigitsCore (show '❌' ∈ Nat.toDigitsCore 10 (count + 1) count [] from member) with
    member | ⟨d, digit, same⟩
  · cases member
  · exact (show ∀ d < 10, Nat.digitChar d ≠ '❌' by decide) d digit same.symm

/-- The texts a response leaves in the banner: the two success texts, the second with the
count its handler captured, and the error texts. -/
def ResponseText (message : String) : Prop :=
  message = "✅ Job description processed successfully!" ∨
  (∃ count : Nat, message = "✅ Processed " ++ toString count ++ " resumes successfully!") ∨
  ∃ text, message = "❌ Error: " ++ text

theorem catchFinally_responseText {s : State} {tried : Except String State}
    (text : ∀ t, tried = .ok t → ResponseText t.message) :
    ResponseText (catchFinally s tried).message := by
  cases tried with
  | error message => exact .inr (.inr ⟨message, rfl⟩)
  | ok t => exact text t rfl

theorem jobResponse_responseText {s t : State} {outcome : Outcome}
    (tried : jobResponse s outcome = .ok t) : ResponseText t.message := by
  rcases outcome with _ | ⟨status, _ | data⟩ <;> try cases tried
  simp only [jobResponse, except_ok_bind] at tried
  split at tried
  · cases tried
    exact .inl rfl
  · cases detail : data.get "detail" <;>
      simp only [detail, except_error_bind, except_ok_bind] at tried <;> cases tried
    exact .inr (.inr ⟨_, rfl⟩)

theorem resumesResponse_responseText {s t : State} {count : Nat} {outcome : Outcome}
    (tried : resumesResponse count s outcome = .ok t) : ResponseText t.message := by
  rcases outcome with _ | ⟨status, _ | data⟩ <;> try cases tried
  simp only [resumesResponse, except_ok_bind] at tried
  split at tried
  · cases report : data.get "report" <;>
      simp only [report, except_error_bind, except_ok_bind] at tried <;> cases tried
    exact .inr (.inl ⟨_, rfl⟩)
  · cases detail : data.get "detail" <;>
      simp only [detail, except_error_bind, except_ok_bind] at tried <;> cases tried
    exact .inr (.inr ⟨_, rfl⟩)

theorem settled_responseText (s : State) (upload : Upload) (outcome : Outcome) :
    ResponseText (settled s upload outcome).message := by
  cases upload
  · exact catchFinally_responseText fun _ => jobResponse_responseText
  · exact catchFinally_responseText fun _ => resumesResponse_responseText

theorem cross_mem_error (text : String) : '❌' ∈ ("❌ Error: " ++ text).data :=
  List.mem_append.mpr (.inl (by decide))

theorem check_mem_resumesDone (count : Nat) :
    '✅' ∈ ("✅ Processed " ++ toString count ++ " resumes successfully!").data :=
  List.mem_append.mpr (.inl (List.mem_append.mpr (.inl (by decide))))

theorem cross_not_mem_resumesDone (count : Nat) :
    '❌' ∉ ("✅ Processed " ++ toString count ++ " resumes successfully!").data := by
  simp only [String.data_append, List.mem_append, not_or]
  exact ⟨⟨by decide, cross_not_mem_toString count⟩, by decide⟩

theorem bannerClass_resumesDone (count : Nat) :
    bannerClass ("✅ Processed " ++ toString count ++ " resumes successfully!") = some "success" :=
  bannerClass_of_not_mem (fun empty => by simpa [empty] using check_mem_resumesDone count)
    (cross_not_mem_resumesDone count)

/-- The banner's class after a response: `error` for the error texts, `success` for the
two success texts. -/
theorem bannerClass_responseText {message : String} (text : ResponseText message) :
    (bannerClass message = some "error" ↔ ∃ text, message = "❌ Error: " ++ text) ∧
    (bannerClass message = some "success" ↔
      message = "✅ Job description processed successfully!" ∨
      ∃ count : Nat, message = "✅ Processed " ++ toString count ++ " resumes successfully!") := by
  rcases text with rfl | ⟨count, rfl⟩ | ⟨text, rfl⟩
  · refine ⟨⟨fun classed => absurd classed (by decide), ?_⟩, ⟨fun _ => .inl rfl, fun _ => by decide⟩⟩
    rintro ⟨text, same⟩
    exact absurd (same ▸ cross_mem_error text) (by decide)
  · refine ⟨⟨fun classed => by simp [bannerClass_resumesDone] at classed, ?_⟩,
      ⟨fun _ => .inr ⟨count, rfl⟩, fun _ => bannerClass_resumesDone count⟩⟩
    rintro ⟨text, same⟩
    exact (cross_not_mem_resumesDone count (same ▸ cross_mem_error text)).elim
  · refine ⟨⟨fun _ => ⟨text, rfl⟩, fun _ => bannerClass_of_mem (cross_mem_error text)⟩,
      ⟨fun classed => by simp [bannerClass_of_mem (cross_mem_error text)] at classed, ?_⟩⟩
    rintro (same | ⟨count, same⟩)
    · exact absurd (same ▸ cross_mem_error text) (by decide)
    · exact (cross_not_mem_resumesDone count (same ▸ cross_mem_error text)).elim

/-- Every response text carries a `✅` or a `❌`. -/
theorem responseText_marked {message : String} (text : ResponseText message) :
    '✅' ∈ message.data ∨ '❌' ∈ message.data := by
  rcases text with rfl | ⟨count, rfl⟩ | ⟨text, rfl⟩
  · exact .inl (by decide)
  · exact .inl (check_mem_resumesDone count)
  · exact .inr (cross_mem_error text)

/-- The banner is empty while an upload waits, and otherwise empty or a response's text. -/
def BannerShape (s : State) : Prop :=
  (s.loading = true → s.message = "") ∧ (s.message = "" ∨ ResponseText s.message)

theorem bannerShape_next {e : Event} (enabled : Enabled session s e) (shape : BannerShape s) :
    BannerShape (next s e) := by
  cases e with
  | chooseJob | chooseResumes => exact shape
  | processJob =>
    obtain ⟨file, chosen, -⟩ := enabled_processJob enabled
    simp [BannerShape, next, handleJobUpload_of_some chosen]
  | rankCandidates =>
    obtain ⟨-, chosen, -⟩ := enabled_rankCandidates enabled
    simp [BannerShape, next, handleResumeUpload_of_ne chosen]
  | settle upload outcome => exact ⟨by simp [next], .inr (settled_responseText _ _ _)⟩

theorem run_bannerShape (run : Run session events s) : BannerShape s := by
  induction run with
  | mount => exact ⟨fun _ => rfl, .inl rfl⟩
  | step _ enabled shape => exact bannerShape_next enabled shape

/-- In every state of every run: no banner is rendered while an upload waits, so the
spinner and the banner never show together; a rendered banner is classed `error` exactly
when it holds `❌ Error: …`, and `success` exactly when it holds one of the two success
texts; and neither guard's "Please select" prompt is ever shown, since each button is
disabled whenever its guard would return early. -/
theorem banner_matches_outcome (run : Run session events s) :
    (s.loading = true → bannerClass s.message = none) ∧
    (bannerClass s.message = some "error" ↔ ∃ text, s.message = "❌ Error: " ++ text) ∧
    (bannerClass s.message = some "success" ↔
      s.message = "✅ Job description processed successfully!" ∨
      ∃ count : Nat, s.message = "✅ Processed " ++ toString count ++ " resumes successfully!") ∧
    s.message ≠ "Please select a job description file" ∧ s.message ≠ "Please select resume files" := by
  obtain ⟨quiet, empty | text⟩ := run_bannerShape run
  · rw [empty]
    refine ⟨fun _ => rfl, ⟨(fun classed => by cases classed), ?_⟩,
      ⟨(fun classed => by cases classed), ?_⟩, by decide, by decide⟩
    · rintro ⟨text, same⟩
      exact absurd (same ▸ cross_mem_error text) (by decide)
    · rintro (same | ⟨count, same⟩)
      · exact absurd same (by decide)
      · simpa [← same] using check_mem_resumesDone count
  · obtain ⟨error, success⟩ := bannerClass_responseText text
    refine ⟨fun loading => by rw [quiet loading]; rfl, error, success, ?_, ?_⟩ <;>
      intro prompt <;> rcases responseText_marked text with marked | marked <;>
      rw [prompt] at marked <;> exact absurd marked (by decide)

theorem ranking_banner_matches :
    ((rankingEvents.foldl next initial).loading = true →
      bannerClass (rankingEvents.foldl next initial).message = none) ∧
    (bannerClass (rankingEvents.foldl next initial).message = some "error" ↔
      ∃ text, (rankingEvents.foldl next initial).message = "❌ Error: " ++ text) ∧
    (bannerClass (rankingEvents.foldl next initial).message = some "success" ↔
      (rankingEvents.foldl next initial).message = "✅ Job description processed successfully!" ∨
      ∃ count : Nat, (rankingEvents.foldl next initial).message =
        "✅ Processed " ++ toString count ++ " resumes successfully!") ∧
    (rankingEvents.foldl next initial).message ≠ "Please select a job description file" ∧
    (rankingEvents.foldl next initial).message ≠ "Please select resume files" :=
  banner_matches_outcome ranking_run

/-! ### The rankings card -/

/-- The value `setResults(data.report)` stores on this event, if it stores one. -/
def Event.reported : Event → Option (Option Json)
  | .settle (.resumes _) outcome => reportOf outcome
  | _ => none

/-- The report of the last batch response that stored one, or the initial `null`. -/
def lastReport (events : List Event) : Option Json :=
  ((events.filterMap Event.reported).getLast?).getD (some .null)

theorem next_results (s : State) (e : Event) : (next s e).results = e.reported.getD s.results := by
  cases e with
  | chooseJob | chooseResumes => rfl
  | processJob => cases chosen : s.jobFile <;> simp [next, handleJobUpload, chosen, Event.reported]
  | rankCandidates =>
    by_cases chosen : s.resumeFiles.length = 0 <;>
      simp [next, handleResumeUpload, chosen, Event.reported]
  | settle upload outcome =>
    cases upload with
    | job file =>
      obtain ⟨_, h⟩ := settled_job { s with inflight := s.inflight.erase (.job file) } file outcome
      simp [next, h, Event.reported]
    | resumes files =>
      obtain ⟨_, h⟩ :=
        settled_resumes { s with inflight := s.inflight.erase (.resumes files) } files outcome
      simp [next, h, Event.reported]

theorem lastReport_append (events : List Event) (e : Event) :
    lastReport (events ++ [e]) = e.reported.getD (lastReport events) := by
  cases h : e.reported <;> simp [lastReport, h]

/-- In every state of every run, the rankings card shows the report of the last batch
response that stored one (`undefined` when its body had no `report`), or nothing before
any: job responses, failed batches and new file choices never replace it, so after a new
job description is processed the rankings computed against the old one stay on screen. -/
theorem results_last_report (run : Run session events s) : s.results = lastReport events := by
  induction run with
  | mount => rfl
  | step _ _ ih => rw [next_results, ih, lastReport_append]

/-- After the ranking, the second batch fails on the network, and a second job description
is chosen and accepted. -/
def newJobEvents : List Event :=
  rankingEvents ++ [.settle (.resumes resumePair) (.failure "Failed to fetch"),
    .chooseJob (some ⟨"job2.pdf"⟩), .processJob,
    .settle (.job ⟨"job2.pdf"⟩) (.response 200 (.ok (.object [])))]

theorem new_job_keeps_rankings :
    (newJobEvents.foldl next initial).results = lastReport newJobEvents :=
  results_last_report (Run.of_valid (by decide) : Run recruiter newJobEvents _)

end EaaRecruit.Home
