import DocTable.Datasource.Answering
import DocTable.Proofs.Datasource.Sharing
import DocTable.Proofs.Store.Running
import DocTable.Proofs.Table.Frames
import Mathlib.Data.List.Forall2
import Mathlib.Tactic.Choose

/-!
# One answer for each query

The answers to a request are sent in the order of its queries, whatever order the queries come to
them in, and each is that of its own query: `Answering.step_sound` for one turn, and
`Answering.one_answer_per_query` for a whole run, which also says that it is what
`Clients.answerQueries` gives. The token that the queries share is in nobody else's hands. So the
executors here are quiet, and that none of their runs cancels it is kept by every turn.
-/

namespace DocTable

/-! ## Answers -/

namespace Answering

/-- What a query may answer: the error of a request without a client, or the response to the result
of its own run. -/
inductive Answers (executorOf : Client → Executor) (resolved : Resolved) (q : DataQuery) :
    DataResponse → Prop where
  | refused {e : ClientError} (h : resolved = .error e) :
    Answers executorOf resolved q (q.refuse e)
  | returned {config : DatasourceConfig} {client : Client} {result : Except QueryError Table}
      (h : resolved = .ok (config, client))
      (returns :
        Run.Returns (executorOf client) config.runSettings q.model.queryText false result) :
    Answers executorOf resolved q (q.respond result)

variable {executorOf executorOf' : Client → Executor} {resolved : Resolved} {q : DataQuery}
  {response response' : DataResponse} {pulls : Nat}

theorem Answers.refId (h : Answers executorOf resolved q response) : response.refId = q.refId := by
  cases h <;> rfl

theorem Answers.unique (h : Answers executorOf resolved q response)
    (h' : Answers executorOf resolved q response') : response = response' := by
  cases h with
  | refused refused =>
    cases h' with
    | refused refused' =>
      rw [refused] at refused'
      rw [Except.error.inj refused']
    | returned given _ =>
      rw [refused] at given
      cases given
  | returned given returns =>
    cases h' with
    | refused refused =>
      rw [given] at refused
      cases refused
    | returned given' returns' =>
      rw [given] at given'
      obtain ⟨rfl, rfl⟩ := Prod.mk.inj (Except.ok.inj given')
      rw [returns.eq returns']

theorem Answers.eq_of_error {e : ClientError} (h : Answers executorOf (.error e) q response) :
    response = ⟨q.refId, .error e.message⟩ := by
  cases h with
  | refused refused =>
    obtain rfl := Except.error.inj refused
    rfl
  | returned given _ => cases given

/-- The response to a result is its error, or its frame: the check never fails. -/
theorem Answers.of_ok {config : DatasourceConfig} {client : Client}
    (h : Answers executorOf (.ok (config, client)) q response) :
    (∃ e, response = ⟨q.refId, .error e.message⟩ ∧
      Run.Returns (executorOf client) config.runSettings q.model.queryText false (.error e)) ∨
    ∃ table, response = ⟨q.refId, .ok (Frame.ofTable table)⟩ ∧
      (Frame.ofTable table).Shows table ∧
      Run.Returns (executorOf client) config.runSettings q.model.queryText false (.ok table) := by
  cases h with
  | refused refused => cases refused
  | @returned config' client' result given returns =>
    obtain ⟨rfl, rfl⟩ := Prod.mk.inj (Except.ok.inj given)
    cases result with
    | error e => exact .inl ⟨e, rfl, returns⟩
    | ok table =>
      obtain ⟨records, rfl⟩ := returns.exists_records
      have shows := Frame.shows_ofTable records
      refine .inr ⟨_, ?_, shows, returns⟩
      rw [DataQuery.respond]
      simp [Except.mapError, bind, Except.bind, shows.checked]

/-- What other queries ask, and what they are told, does not come into an answer. -/
theorem Answers.congr (h : Answers executorOf resolved q response)
    (same : ∀ config client query, resolved = .ok (config, client) →
      Query.parse q.model.queryText config.store.database = .ok query →
        executorOf' client query = executorOf client query) :
    Answers executorOf' resolved q response := by
  cases h with
  | refused refused => exact .refused refused
  | @returned config client result given returns =>
    obtain ⟨fuel, returned⟩ := returns
    refine .returned given ⟨fuel, ?_⟩
    rw [← returned, Run.ofText_congr fun query parsed => same config client query given parsed]

theorem answers_of_pollQuery
    (h : (pollQuery executorOf resolved false pulls q).1 = some response) :
    Answers executorOf resolved q response := by
  cases given : resolved with
  | error e =>
    rw [given] at h
    obtain rfl := Option.some.inj h
    exact .refused rfl
  | ok found =>
    obtain ⟨config, client⟩ := found
    rw [given] at h
    obtain ⟨result, returned, rfl⟩ := Option.map_eq_some_iff.1 h
    exact .returned rfl ⟨pulls, returned⟩

theorem token_pollQuery (quiet : ∀ client, (executorOf client).Quiet) :
    (pollQuery executorOf resolved false pulls q).2 = false := by
  cases resolved with
  | error e => rfl
  | ok found => exact Run.cancelled_ofText (quiet found.2)

/-! ## One turn -/

section Turns

variable {queries : List DataQuery} {s : Answering} {turn : Turn} {place : Nat}

theorem poll_cases (executorOf : Client → Executor) (resolved : Resolved)
    (queries : List DataQuery) (s : Answering) (place pulls : Nat) :
    s.poll executorOf resolved queries place pulls = s ∨
      ∃ q, queries[place]? = some q ∧ s.answers[place]? = some none ∧
        s.poll executorOf resolved queries place pulls =
          { s with
            answers := s.answers.set place (pollQuery executorOf resolved s.cancelled pulls q).1
            cancelled := (pollQuery executorOf resolved s.cancelled pulls q).2 } := by
  rw [poll]
  split
  · next q asked waiting => exact .inr ⟨q, asked, waiting, rfl⟩
  · exact .inl rfl

theorem next_cases (s : Answering) :
    s.next = s ∧ (∀ response, s.answers[s.sent.length]? ≠ some (some response)) ∨
      ∃ response, s.answers[s.sent.length]? = some (some response) ∧
        s.next = { s with sent := s.sent ++ [response] } := by
  rw [next]
  split
  · next response ready => exact .inr ⟨response, ready, rfl⟩
  · next waiting => exact .inl ⟨rfl, waiting⟩

/-- What holds between any two turns: the answers are those of the queries at their places, and the
items sent are the first of them. -/
structure Sound (executorOf : Client → Executor) (resolved : Resolved) (queries : List DataQuery)
    (s : Answering) : Prop where
  length : s.answers.length = queries.length
  quiet : s.cancelled = false
  answered : ∀ (place : Nat) response, s.answers[place]? = some (some response) →
    ∃ q, queries[place]? = some q ∧ Answers executorOf resolved q response
  sent : s.sent.map some <+: s.answers

theorem sound_start : Sound executorOf resolved queries (start queries) where
  length := List.length_map _
  quiet := rfl
  answered place response h := by
    obtain ⟨q, -, none⟩ := Option.map_eq_some_iff.1 ((List.getElem?_map ..).symm.trans h)
    cases none
  sent := List.nil_prefix

theorem Sound.answer_of_sent (h : Sound executorOf resolved queries s)
    (sent : s.sent[place]? = some response) : s.answers[place]? = some (some response) := by
  obtain ⟨rest, split⟩ := h.sent
  have inside : place < (s.sent.map some).length := by
    rw [List.length_map]
    exact (List.getElem?_eq_some_iff.1 sent).1
  rw [← split, List.getElem?_append_left inside, List.getElem?_map, sent]
  rfl

theorem Sound.answers_of_sent (h : Sound executorOf resolved queries s)
    (asked : queries[place]? = some q) (sent : s.sent[place]? = some response) :
    Answers executorOf resolved q response := by
  obtain ⟨q', asked', answers⟩ := h.answered place response (h.answer_of_sent sent)
  rw [asked] at asked'
  rwa [Option.some.inj asked']

theorem Sound.length_sent_le (h : Sound executorOf resolved queries s) {waiting : Nat}
    (unanswered : s.answers[waiting]? = some none) : s.sent.length ≤ waiting := by
  by_contra more
  have inside : waiting < s.sent.length := by omega
  rw [h.answer_of_sent (List.getElem?_eq_getElem inside)] at unanswered
  cases unanswered

theorem Sound.poll (h : Sound executorOf resolved queries s)
    (quiet : ∀ client, (executorOf client).Quiet) :
    Sound executorOf resolved queries (s.poll executorOf resolved queries place pulls) := by
  rcases poll_cases executorOf resolved queries s place pulls with
    same | ⟨q, asked, unanswered, polled⟩
  · rwa [same]
  rw [polled, h.quiet]
  refine ⟨by rw [List.length_set, h.length], token_pollQuery quiet, fun i response given => ?_, ?_⟩
  · by_cases here : place = i
    · subst here
      have inside : place < s.answers.length := (List.getElem?_eq_some_iff.1 unanswered).1
      rw [List.getElem?_set_self inside, Option.some.injEq] at given
      exact ⟨q, asked, answers_of_pollQuery given⟩
    · rw [List.getElem?_set_ne here] at given
      exact h.answered i response given
  · obtain ⟨rest, split⟩ := h.sent
    have behind : (s.sent.map some).length ≤ place := by
      simpa using h.length_sent_le unanswered
    rw [← split, List.set_append_right _ _ behind]
    exact List.prefix_append ..

theorem Sound.next (h : Sound executorOf resolved queries s) :
    Sound executorOf resolved queries s.next := by
  rcases s.next_cases with ⟨same, -⟩ | ⟨response, ready, sent⟩
  · rwa [same]
  rw [sent]
  refine ⟨h.length, h.quiet, h.answered, ?_⟩
  obtain ⟨rest, split⟩ := h.sent
  rw [← split, List.getElem?_append_right (by simp), List.length_map, Nat.sub_self] at ready
  cases rest with
  | nil => cases ready
  | cons first rest =>
    obtain rfl : first = some response := by simpa using ready
    exact ⟨rest, by simp [← split]⟩

theorem step_sound (h : Sound executorOf resolved queries s)
    (quiet : ∀ client, (executorOf client).Quiet) :
    Sound executorOf resolved queries (step executorOf resolved queries s turn) := by
  cases turn with
  | poll place pulls => exact h.poll quiet
  | next => exact h.next

theorem run_sound (quiet : ∀ client, (executorOf client).Quiet) (turns : List Turn) :
    Sound executorOf resolved queries (run executorOf resolved queries turns) := by
  induction turns using List.reverseRecOn with
  | nil => exact sound_start
  | append_singleton turns turn ih =>
    rw [run, List.foldl_concat]
    exact step_sound ih quiet

/-! ## Whole runs -/

theorem Sound.refIds (h : Sound executorOf resolved queries s) :
    s.sent.map DataResponse.refId <+: queries.map DataQuery.refId := by
  rw [List.prefix_iff_getElem?]
  intro place inside
  have within : place < s.sent.length := by simpa using inside
  obtain ⟨q, asked, answers⟩ :=
    h.answered place _ (h.answer_of_sent (List.getElem?_eq_getElem within))
  rw [List.getElem?_map, asked, List.getElem_map, answers.refId]
  rfl

theorem step_keeps_answer {response : DataResponse}
    (h : s.answers[place]? = some (some response)) :
    (step executorOf resolved queries s turn).answers[place]? = some (some response) := by
  cases turn with
  | next =>
    rcases s.next_cases with ⟨same, -⟩ | ⟨other, -, sent⟩
    · rwa [step, same]
    · rwa [step, sent]
  | poll other pulls =>
    rcases poll_cases executorOf resolved queries s other pulls with
      same | ⟨q, -, unanswered, polled⟩
    · rwa [step, same]
    · have elsewhere : other ≠ place := by
        rintro rfl
        rw [h] at unanswered
        cases unanswered
      rwa [step, polled, List.getElem?_set_ne elsewhere]

theorem turns_keep_answer {response : DataResponse} (turns : List Turn)
    (h : s.answers[place]? = some (some response)) :
    (turns.foldl (step executorOf resolved queries) s).answers[place]? = some (some response) := by
  induction turns generalizing s with
  | nil => exact h
  | cons turn turns ih => exact ih (step_keeps_answer h)

theorem Sound.poll_answers (h : Sound executorOf resolved queries s)
    (asked : queries[place]? = some q)
    (comes : (pollQuery executorOf resolved false pulls q).1 = some response) :
    ∃ response, (s.poll executorOf resolved queries place pulls).answers[place]? =
      some (some response) := by
  have inside : place < s.answers.length := by
    rw [h.length]
    exact (List.getElem?_eq_some_iff.1 asked).1
  cases already : s.answers[place] with
  | some earlier =>
    have known : s.answers[place]? = some (some earlier) := by
      rw [List.getElem?_eq_getElem inside, already]
    have kept : (step executorOf resolved queries s (.poll place pulls)).answers[place]? =
        some (some earlier) := step_keeps_answer known
    exact ⟨earlier, kept⟩
  | none =>
    have unknown : s.answers[place]? = some none := by
      rw [List.getElem?_eq_getElem inside, already]
    refine ⟨response, ?_⟩
    rw [Answering.poll, asked, unknown, h.quiet]
    simp [comes, inside]

/-- Once all queries have answers, the stream sends one of them whenever it is asked. -/
theorem Sound.sends_all (h : Sound executorOf resolved queries s) (answered : none ∉ s.answers)
    {n : Nat} (enough : queries.length ≤ s.sent.length + n) :
    let ended := (List.replicate n Turn.next).foldl (step executorOf resolved queries) s
    ended.answers = s.answers ∧ ended.sent.map some = s.answers := by
  induction n generalizing s with
  | zero =>
    refine ⟨rfl, h.sent.eq_of_length_le ?_⟩
    rw [List.length_map, h.length]
    exact enough
  | succ n ih =>
    rcases s.next_cases with ⟨same, waiting⟩ | ⟨response, ready, sent⟩
    · have all : queries.length ≤ s.sent.length + n := by
        by_contra more
        have inside : s.sent.length < s.answers.length := by
          rw [h.length]
          omega
        cases at_next : s.answers[s.sent.length] with
        | none => exact answered (at_next ▸ List.getElem_mem inside)
        | some response =>
          exact waiting response (by rw [List.getElem?_eq_getElem inside, at_next])
      rw [List.replicate_succ, List.foldl_cons, step, same]
      exact ih h answered all
    · have kept := ih h.next (by rwa [sent]) (by rw [sent]; simp; omega)
      rw [sent] at kept
      rw [List.replicate_succ, List.foldl_cons, step, sent]
      exact kept

def Polled (executorOf : Client → Executor) (resolved : Resolved) (queries : List DataQuery)
    (turns : List Turn) : Prop :=
  ∀ (place : Nat) q, queries[place]? = some q → ∃ pulls, Turn.poll place pulls ∈ turns ∧
    (pollQuery executorOf resolved false pulls q).1.isSome = true

theorem Polled.none_not_mem {turns : List Turn} (h : Polled executorOf resolved queries turns)
    (quiet : ∀ client, (executorOf client).Quiet) :
    none ∉ (run executorOf resolved queries turns).answers := by
  intro mem
  obtain ⟨place, inside, unanswered⟩ := List.mem_iff_getElem.1 mem
  have within : place < queries.length := by
    rwa [← (run_sound quiet turns).length]
  have asked : queries[place]? = some queries[place] := List.getElem?_eq_getElem within
  obtain ⟨pulls, polled, comes⟩ := h place _ asked
  obtain ⟨response, comes⟩ := Option.isSome_iff_exists.1 comes
  obtain ⟨before, after, rfl⟩ := List.append_of_mem polled
  obtain ⟨response, answered⟩ := (run_sound quiet before).poll_answers asked comes
  have kept : (run executorOf resolved queries
      (before ++ .poll place pulls :: after)).answers[place]? = some (some response) := by
    rw [run, List.foldl_append]
    exact turns_keep_answer after answered
  rw [List.getElem?_eq_getElem inside, unanswered] at kept
  cases kept

theorem exists_polled (returns : ∀ q ∈ queries, ∀ config client, resolved = .ok (config, client) →
      ∃ result, Run.Returns (executorOf client) config.runSettings q.model.queryText false result)
    (turns : List Turn) : ∃ more, Polled executorOf resolved queries (turns ++ more) := by
  have comes : ∀ q ∈ queries, ∃ pulls,
      (pollQuery executorOf resolved false pulls q).1.isSome = true := by
    intro q mem
    cases given : resolved with
    | error e => exact ⟨0, rfl⟩
    | ok found =>
      obtain ⟨result, pulls, returned⟩ := returns q mem found.1 found.2 given
      exact ⟨pulls, by simp [pollQuery, returned]⟩
  choose! pulls comes using comes
  refine ⟨queries.zipIdx.map fun (q, place) => .poll place (pulls q), fun place q asked => ?_⟩
  refine ⟨pulls q, List.mem_append_right _ ?_, comes q (List.mem_of_getElem? asked)⟩
  exact List.mem_map.2 ⟨(q, place), List.mk_mem_zipIdx_iff_getElem?.2 asked, rfl⟩

theorem length_sent_of_answered {turns : List Turn}
    (quiet : ∀ client, (executorOf client).Quiet)
    (answered : none ∉ (run executorOf resolved queries turns).answers) :
    (run executorOf resolved queries
      (turns ++ List.replicate queries.length .next)).sent.length = queries.length := by
  have sound : Sound executorOf resolved queries (run executorOf resolved queries turns) :=
    run_sound quiet turns
  have all := congrArg List.length (sound.sends_all answered (Nat.le_add_left ..)).2
  rw [List.length_map, sound.length] at all
  rw [run, List.foldl_append]
  exact all

theorem Sound.sent_eq (h : Sound executorOf resolved queries s)
    (length : s.sent.length = queries.length) {responses : List DataResponse}
    (answers : List.Forall₂ (Answers executorOf resolved) queries responses) :
    s.sent = responses := by
  have sent : List.Forall₂ (Answers executorOf resolved) queries s.sent := by
    rw [List.forall₂_iff_get]
    refine ⟨length.symm, fun place asked inside => ?_⟩
    exact h.answers_of_sent (List.getElem?_eq_getElem asked) (List.getElem?_eq_getElem inside)
  exact Relator.RightUnique.forall₂ (fun _ _ _ first second => first.unique second) sent answers

end Turns

end Answering

/-! ## Requests -/

namespace Clients

variable {c : Clients} {server : Server} {settings : Option InstanceSettings}
  {config : DatasourceConfig} {client : Client}

theorem ofSettings_of_obtain? (h : (c.obtain? server settings).1 = .ok (config, client)) :
    DatasourceConfig.ofSettings settings = .ok config := by
  rw [obtain?] at h
  cases read : DatasourceConfig.ofSettings settings with
  | error e =>
    rw [read] at h
    cases h
  | ok own =>
    rw [read] at h
    cases found : c.lookup? own.uid own.store with
    | some kept =>
      simp only [found, Except.ok.injEq, Prod.mk.injEq] at h
      rw [h.1]
    | none =>
      cases opened : c.connect server own.store with
      | error e => simp [found, opened] at h
      | ok fresh =>
        simp only [found, opened, Except.ok.injEq, Prod.mk.injEq] at h
        rw [h.1]

theorem obtain?_misread {e : ConfigError} (h : DatasourceConfig.ofSettings settings = .error e) :
    (c.obtain? server settings).1 = .error (.config e) := by
  rw [obtain?, h]

theorem obtain?_unconnected {e : ConnectError}
    (h : DatasourceConfig.ofSettings settings = .ok config)
    (missed : c.lookup? config.uid config.store = none)
    (failed : server.connect config.store = .error e) :
    (c.obtain? server settings).1 = .error (.connect e) := by
  simp [obtain?, h, missed, connect, failed, bind, Except.bind]

theorem answers_answerQueries (queries : List DataQuery) :
    List.Forall₂ (Answering.Answers (fun client => server.executor client.settings)
      (c.obtain? server settings).1) queries
      ((c.answerQueries server settings queries).1.map (·.value)) := by
  rw [answerQueries]
  cases obtained : c.obtain? server settings with
  | mk resolved kept =>
    cases resolved with
    | error e =>
      simp only [List.map_map, List.forall₂_map_right_iff, List.forall₂_same]
      exact fun q _ => .refused rfl
    | ok found =>
      simp only [List.map_map, List.forall₂_map_right_iff, List.forall₂_same]
      exact fun q _ => .returned rfl Server.returns_run

end Clients

namespace Answering

/-- A request for data is answered by one item for each query, in the order of the queries, in
whatever order they come to their answers. An item is the error of the request if that has no
client, and otherwise the error or the frame of its own query's run; what the other queries ask
and are told does not come into it. A frame shows its table and passes its check. -/
theorem one_answer_per_query (executorOf : Client → Executor) (clients : Clients) (server : Server)
    (settings : Option InstanceSettings) (queries : List DataQuery) (turns : List Turn)
    (quiet : ∀ client, (executorOf client).Quiet) :
    let resolved := (clients.obtain? server settings).1
    let s := run executorOf resolved queries turns
    -- the items are in the order of the queries, and there are as many once all have answers
    s.sent.map DataResponse.refId <+: queries.map DataQuery.refId ∧
    (none ∉ s.answers →
      (run executorOf resolved queries (turns ++ List.replicate queries.length .next)).sent.map
        DataResponse.refId = queries.map DataQuery.refId) ∧
    ((∀ q ∈ queries, ∀ config client, resolved = .ok (config, client) → ∃ result,
        Run.Returns (executorOf client) config.runSettings q.model.queryText false result) →
      ∃ more, none ∉ (run executorOf resolved queries (turns ++ more)).answers) ∧
    -- what an item is, and when there is no client
    (∀ (place : Nat) response, s.sent[place]? = some response → ∃ q, queries[place]? = some q ∧
      (∀ e, resolved = .error e → response = ⟨q.refId, .error e.message⟩) ∧
      ∀ config client, resolved = .ok (config, client) →
        (∃ e, response = ⟨q.refId, .error e.message⟩ ∧
          Run.Returns (executorOf client) ⟨config.store.database, config.maxResults⟩
            q.model.queryText false (.error e)) ∨
        ∃ table, response = ⟨q.refId, .ok (Frame.ofTable table)⟩ ∧
          (Frame.ofTable table).Shows table ∧
          Run.Returns (executorOf client) ⟨config.store.database, config.maxResults⟩
            q.model.queryText false (.ok table)) ∧
    (∀ e, DatasourceConfig.ofSettings settings = .error e → resolved = .error (.config e)) ∧
    (∀ config, DatasourceConfig.ofSettings settings = .ok config →
      clients.lookup? config.uid config.store = none →
      ∀ e, server.connect config.store = .error e → resolved = .error (.connect e)) ∧
    (∀ config client, resolved = .ok (config, client) →
      DatasourceConfig.ofSettings settings = .ok config) ∧
    -- other queries and other answers to them, in other turns
    (∀ executorOf' queries' turns', (∀ client, (executorOf' client).Quiet) →
      ∀ (place place' : Nat) q response response',
        queries[place]? = some q → queries'[place']? = some q →
        (∀ config client query, resolved = .ok (config, client) →
          Query.parse q.model.queryText config.store.database = .ok query →
            executorOf' client query = executorOf client query) →
        s.sent[place]? = some response →
        (run executorOf' resolved queries' turns').sent[place']? = some response' →
        response' = response) ∧
    -- the answers that are computed at once
    (executorOf = (fun client => server.executor client.settings) →
      (∀ place < queries.length, ∃ pulls ≥ server.enoughPulls, Turn.poll place pulls ∈ turns) →
      (run executorOf resolved queries (turns ++ List.replicate queries.length .next)).sent =
        (clients.answerQueries server settings queries).1.map (·.value)) := by
  intro resolved s
  have sound : Sound executorOf resolved queries s := run_sound quiet turns
  refine ⟨sound.refIds, ?complete, ?live, ?items, fun e => Clients.obtain?_misread,
    fun config read missed e => Clients.obtain?_unconnected read missed,
    fun config client => Clients.ofSettings_of_obtain?, ?independent, ?computed⟩
  case complete =>
    intro answered
    have ended : Sound executorOf resolved queries
        (run executorOf resolved queries (turns ++ List.replicate queries.length .next)) :=
      run_sound quiet _
    refine ended.refIds.eq_of_length ?_
    rw [List.length_map, List.length_map]
    exact length_sent_of_answered quiet answered
  case live =>
    intro returns
    obtain ⟨more, polled⟩ := exists_polled returns turns
    exact ⟨more, polled.none_not_mem quiet⟩
  case items =>
    intro place response sent
    obtain ⟨q, asked, answers⟩ := sound.answered place response (sound.answer_of_sent sent)
    refine ⟨q, asked, fun e refused => ?_, fun config client given => ?_⟩
    · rw [refused] at answers
      exact answers.eq_of_error
    · rw [given] at answers
      exact answers.of_ok
  case independent =>
    intro executorOf' queries' turns' quiet' place place' q response response' asked asked' same
      sent sent'
    have sound' : Sound executorOf' resolved queries' (run executorOf' resolved queries' turns') :=
      run_sound quiet' turns'
    have answers := sound.answers_of_sent asked sent
    exact (sound'.answers_of_sent asked' sent').unique (answers.congr same)
  case computed =>
    rintro rfl enough
    have polled :
        Polled (fun client => server.executor client.settings) resolved queries turns := by
      intro place q asked
      obtain ⟨pulls, more, turn⟩ := enough place (List.getElem?_eq_some_iff.1 asked).1
      refine ⟨pulls, turn, ?_⟩
      cases given : resolved with
      | error e => rfl
      | ok found => simp [pollQuery, Server.isSome_ofText more]
    have ended : Sound _ resolved queries
        (run _ resolved queries (turns ++ List.replicate queries.length .next)) :=
      run_sound quiet _
    exact ended.sent_eq (length_sent_of_answered quiet (polled.none_not_mem quiet))
      (Clients.answers_answerQueries queries)

def peopleServer : Server :=
  { Recording.empty "mongodb://h" with
    collections := [("people", ⟨[[.ok [("n", .int32 1)]]], none, none⟩)] }.server

def peopleSettings : Option InstanceSettings :=
  some ⟨"ds", "mongodb://h", "", "db1", .null, []⟩

theorem obtain?_peopleServer : (Clients.empty.obtain? peopleServer peopleSettings).1 =
    .ok (⟨"ds", ⟨"mongodb://h", "", "", "db1"⟩, 1000⟩, ⟨⟨"mongodb://h", "", "", "db1"⟩, 0⟩) := rfl

/-- Two queries with one reference, of which the first has no method. -/
def namesakes : List DataQuery :=
  [⟨"A", ⟨"people", "table"⟩⟩, ⟨"A", ⟨"db.people.find()", "table"⟩⟩]

theorem parse_methodless : Query.parse "people" "db1" = .error (.notAQuery "people") := by
  have cut : Clauses.split? (Text.trim "people".toList) = none := by decide
  simp only [Query.parse, cut]
  rfl

/-- The second query ends first, and its answer is kept back. -/
def backwards : List Turn := [.poll 1 3, .next, .poll 0 3]

theorem one_answer_per_query_backwards :
    let executorOf := fun client : Client => peopleServer.executor client.settings
    let resolved := (Clients.empty.obtain? peopleServer peopleSettings).1
    let ended := run executorOf resolved namesakes (backwards ++ List.replicate 2 .next)
    (run executorOf resolved namesakes (backwards.take 2)).sent = [] ∧
    ended.sent =
      (Clients.empty.answerQueries peopleServer peopleSettings namesakes).1.map (·.value) ∧
    ended.sent.map DataResponse.refId = ["A", "A"] ∧
    ended.sent[0]? = some ⟨"A", .error "'people' is not a valid MongoDB query expression"⟩ := by
  intro executorOf resolved ended
  have quiet : ∀ client, (executorOf client).Quiet := fun _ => Server.executor_quiet
  obtain ⟨-, -, -, -, -, -, -, -, computed⟩ := one_answer_per_query executorOf .empty peopleServer
    peopleSettings namesakes backwards quiet
  obtain ⟨-, -, -, items, -⟩ := one_answer_per_query executorOf .empty peopleServer peopleSettings
    namesakes (backwards ++ List.replicate 2 .next) quiet
  have sent : ended.sent =
      (Clients.empty.answerQueries peopleServer peopleSettings namesakes).1.map (·.value) := by
    refine computed rfl fun place inside => ⟨3, by decide, ?_⟩
    have known : place = 0 ∨ place = 1 := by
      rw [namesakes, List.length_cons, List.length_singleton] at inside
      omega
    rcases known with rfl | rfl <;> simp [backwards]
  refine ⟨rfl, sent, ?_, ?_⟩
  · rw [sent, Clients.answerQueries]
    rfl
  · obtain ⟨response, first⟩ : ∃ response, ended.sent[0]? = some response := by
      rw [sent]
      exact ⟨_, rfl⟩
    obtain ⟨q, asked, -, own⟩ := items 0 response first
    obtain rfl := Option.some.inj asked
    rcases own _ _ obtain?_peopleServer with
      ⟨e, told, fuel, returned⟩ | ⟨table, -, -, fuel, returned⟩
    · rw [Run.ofText, parse_methodless] at returned
      obtain rfl := Except.error.inj (Option.some.inj returned)
      rw [first, told]
      rfl
    · rw [Run.ofText, parse_methodless] at returned
      cases returned

end Answering

end DocTable
