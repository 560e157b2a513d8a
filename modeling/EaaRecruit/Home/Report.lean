import EaaRecruit.Home.Pipeline

/-!
# The rankings card

The card `Home` renders from `results` (lines 197-228): the summary, then for each of
`results.candidates` a card with its fields and the first five of its
`top_matching_terms`. `resultsView` follows the render with every `TypeError` it can throw
and React's refusal of an object as a child; `toFixed(3)` and `toLocaleString()` are left
abstract, so a relevance is kept as its number's text and the timestamp as the value read.
For every report of the shape the spec's data model gives, the card is the projection of
its section 4.2, with the candidates in report order and each one's first five terms in
theirs (`resultsView_report`).
-/

namespace EaaRecruit.Home

/-! ### The render -/

structure TermTag where
  term : Option Json
  relevance : String

structure CandidateCard where
  rank : Option Json
  candidateId : Option Json
  matchPercentage : Option Json
  similarityScore : Option Json
  terms : List TermTag

structure RankingsCard where
  total : Option Json
  timestamp : Option Json
  candidates : List CandidateCard

/-- `{term.term} ({term.relevance.toFixed(3)})`. -/
def termTag (term : Json) : Except String TermTag := do
  let text ← term.get "term"
  match ← term.get "relevance" with
  | some (.number digits) => pure ⟨text, digits⟩
  | none => throw "Cannot read properties of undefined (reading 'toFixed')"
  | some .null => throw "Cannot read properties of null (reading 'toFixed')"
  | some _ => throw "term.relevance.toFixed is not a function"

/-- `candidate.top_matching_terms.length > 0 && ….slice(0, 5).map(…)`. A string is sliced
and has no `map`; a number, a boolean or an object has no `length`, so nothing is shown
(an object carrying its own `length` key is read as having none). -/
def topTerms : Option Json → Except String (List TermTag)
  | none => throw "Cannot read properties of undefined (reading 'length')"
  | some .null => throw "Cannot read properties of null (reading 'length')"
  | some (.array items) => if items.isEmpty then pure [] else (items.take 5).mapM termTag
  | some (.string text) =>
    if text.isEmpty then pure [] else throw "candidate.top_matching_terms.slice(...).map is not a function"
  | some _ => pure []

/-- One card of `results.candidates.map`; its `key` reads `candidate.candidate_id` first. -/
def candidateCard (candidate : Json) : Except String CandidateCard := do
  let candidateId ← candidate.get "candidate_id"
  let rank ← candidate.get "rank"
  let matchPercentage ← candidate.get "match_percentage"
  let similarityScore ← candidate.get "similarity_score"
  let terms ← topTerms (← candidate.get "top_matching_terms")
  pure ⟨rank, candidateId, matchPercentage, similarityScore, terms⟩

mutual
/-- Whether React can print a value given as a child: an object cannot. -/
def printable : Json → Bool
  | .object _ => false
  | .array items => printableItems items
  | _ => true
  termination_by structural v => v

def printableItems : List Json → Bool
  | [] => true
  | v :: rest => printable v && printableItems rest
  termination_by structural items => items
end

/-- The values the card gives React as children. -/
def RankingsCard.children (card : RankingsCard) : List (Option Json) :=
  card.total :: card.candidates.flatMap fun candidate =>
    [candidate.rank, candidate.candidateId, candidate.matchPercentage,
      candidate.similarityScore] ++ candidate.terms.map TermTag.term

/-- `{results && (…)}`: nothing when `results` is falsy; otherwise the card, the
`TypeError` its render throws, or React's error for an object given as a child. -/
def resultsView : Option Json → Except String (Option RankingsCard)
  | none => pure none
  | some report =>
    if truthy (some report) then do
      let total ← report.get "total_candidates"
      let timestamp ← report.get "timestamp"
      let candidates ← match ← report.get "candidates" with
        | some (.array candidates) => candidates.mapM candidateCard
        | none => throw "Cannot read properties of undefined (reading 'map')"
        | some .null => throw "Cannot read properties of null (reading 'map')"
        | some _ => throw "results.candidates.map is not a function"
      let card : RankingsCard := ⟨total, timestamp, candidates⟩
      if card.children.all fun child => child.all printable then pure (some card)
      else throw "Objects are not valid as a React child"
    else pure none

/-! ### The projection of the spec

Modelled from the spec: a ranking report of its data model, with its numbers as the JSON
texts the server sends, and the projection of its section 4.2. -/

structure TermScore where
  term : String
  relevance : String

structure CandidateResult where
  candidateId : String
  rank : String
  similarityScore : String
  matchPercentage : String
  topMatchingTerms : List TermScore

structure RankingReport where
  totalCandidates : String
  timestamp : String
  candidates : List CandidateResult

def TermScore.toJson (t : TermScore) : Json :=
  .object [("term", .string t.term), ("relevance", .number t.relevance)]

def CandidateResult.toJson (c : CandidateResult) : Json :=
  .object [("candidate_id", .string c.candidateId), ("rank", .number c.rank),
    ("similarity_score", .number c.similarityScore), ("match_percentage", .number c.matchPercentage),
    ("top_matching_terms", .array (c.topMatchingTerms.map TermScore.toJson))]

def RankingReport.toJson (r : RankingReport) : Json :=
  .object [("total_candidates", .number r.totalCandidates), ("timestamp", .string r.timestamp),
    ("candidates", .array (r.candidates.map CandidateResult.toJson))]

/-- Section 4.2: the total, the timestamp, and per candidate, in the report's order, its
fields and its top five matching terms in their existing order. -/
def projection (r : RankingReport) : RankingsCard :=
  ⟨some (.number r.totalCandidates), some (.string r.timestamp),
    r.candidates.map fun c =>
      ⟨some (.number c.rank), some (.string c.candidateId), some (.number c.matchPercentage),
        some (.number c.similarityScore),
        (c.topMatchingTerms.take 5).map fun t => ⟨some (.string t.term), t.relevance⟩⟩⟩

/-! ### The render meets the projection -/

theorem mapM_map_ok {α β γ : Type} {f : α → β} {g : β → Except String γ} {h : α → γ}
    (each : ∀ x, g (f x) = .ok (h x)) : ∀ l : List α, (l.map f).mapM g = .ok (l.map h)
  | [] => rfl
  | x :: rest => by rw [List.map_cons, List.mapM_cons, each, mapM_map_ok each rest]; rfl

theorem termTag_toJson (t : TermScore) :
    termTag t.toJson = .ok ⟨some (.string t.term), t.relevance⟩ := by
  simp [termTag, TermScore.toJson, Json.get, List.lookup_cons]

theorem topTerms_toJson (terms : List TermScore) :
    topTerms (some (.array (terms.map TermScore.toJson))) =
      .ok ((terms.take 5).map fun t => ⟨some (.string t.term), t.relevance⟩) := by
  cases terms with
  | nil => rfl
  | cons t rest =>
    simp only [topTerms, List.map_cons, List.isEmpty_cons, Bool.false_eq_true, if_false]
    rw [← List.map_cons, ← List.map_take]
    exact mapM_map_ok termTag_toJson _

theorem candidateCard_toJson (c : CandidateResult) :
    candidateCard c.toJson = .ok ⟨some (.number c.rank), some (.string c.candidateId),
      some (.number c.matchPercentage), some (.number c.similarityScore),
      (c.topMatchingTerms.take 5).map fun t => ⟨some (.string t.term), t.relevance⟩⟩ := by
  simp [candidateCard, CandidateResult.toJson, Json.get, List.lookup_cons, topTerms_toJson]

theorem printable_projection (r : RankingReport) :
    ((projection r).children.all fun child => child.all printable) = true := by
  simp [RankingsCard.children, projection, printable, -List.map_take]

/-- For every report of the spec's shape, the card renders without throwing, and shows
the report's total and timestamp and, for each candidate in the report's order, its
fields and the first five of its matching terms in their order. -/
theorem resultsView_report (r : RankingReport) :
    resultsView (some r.toJson) = .ok (some (projection r)) := by
  simp only [resultsView, RankingReport.toJson, truthy, if_true, Json.get, List.reverse_cons,
    List.reverse_nil, List.nil_append, List.singleton_append, List.cons_append, List.lookup_cons,
    String.reduceBEq, List.lookup_cons_self, except_ok_bind, mapM_map_ok candidateCard_toJson]
  exact if_pos (printable_projection r)

end EaaRecruit.Home
