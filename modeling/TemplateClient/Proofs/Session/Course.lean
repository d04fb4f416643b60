import TemplateClient.Proofs.Session.Incidents

/-!
# The course of a submission

What a submission does to the widgets and to the service is settled by the session in which it
starts, and by what befalls it. It is ignored, or it is refused, or it makes an exchange with the
service; the reply that it takes is what it shows, a panic cuts it, and dropping it while it waits
ends it.

* `Refusal`, `Exchange`, `Session.Course` -- the deeds of a submission, and what becomes of it;
* `Session.Stage`, `Session.Turn`, `Session.Rest` -- a submission that runs, or has just run;
* `Turn.step` -- a step of a submission leads to the next stage, or to the end of its turn.
-/

namespace TemplateClient

/-! ## 1. Deeds -/

/-- The deeds of a submission until it waits for its answer. -/
def asking (request : FormValues) : List Deed :=
  [.call .block, .call .hideError, .request request]

/-- The deeds that draw a text. -/
def showing (text : String) (isError : Bool) : List Deed :=
  [.call (.setErrorState isError), .call (.setContent text), .call .showContainer, .call .update]

/-- The end of a submission, in the shape that was asked for. -/
def ended : Via → SubmitOutcome → Option TaskState
  | .submit, outcome => some (.done (.submitted outcome))
  | _, outcome => some (.done (.handled (some outcome)))

/-- What befalls a submission whose template is blank, its deeds, and how it stands after them. A
panic cuts the deeds after the call that panicked, and nothing follows. -/
inductive Refusal (via : Via) : List Incident → List Deed → Option TaskState → Prop where
  /-- The template could not be read. -/
  | unread (message : String) :
      Refusal via [.reaction (.read .template) (.panic message)] [] (some (.panicked message))
  | shown :
      Refusal via [] (showing "Template was empty; nothing to do." true)
        (ended via (.rejected "Template was empty; nothing to do."))
  | cut (pre post : List Deed) (c : Call) (message : String)
      (split : showing "Template was empty; nothing to do." true = pre ++ .call c :: post) :
      Refusal via [.reaction c.method (.panic message)] (pre ++ [.call c])
        (some (.panicked message))

/-- What befalls a submission that makes a request, its deeds, and how it stands after them. It
waits as long as no reply has come for it, and shows the reply that comes. A panic after blocking
the page cuts the deeds after the one that panicked, and the page is unblocked. -/
inductive Exchange (via : Via) (request : FormValues) :
    List Incident → List Deed → Option TaskState → Prop where
  /-- A field could not be read. -/
  | unread (x : FormField) (message : String) :
      Exchange via request [.reaction (.read x) (.panic message)] [] (some (.panicked message))
  /-- An old error could not be hidden. -/
  | unhidden (message : String) :
      Exchange via request [.reaction .hideError (.panic message)]
        [.call .block, .call .hideError, .call .unblock] (some (.panicked message))
  | pending : Exchange via request [] (asking request) (some .pending)
  | dropped :
      Exchange via request [.drop] (asking request ++ [.call .unblock]) (some .dropped)
  /-- It was dropped, and the page panicked when it was unblocked. -/
  | droppedLoudly (message : String) :
      Exchange via request [.drop, .reaction .unblock (.panic message)]
        (asking request ++ [.call .unblock]) (some .dropped)
  /-- The transport panicked. -/
  | unsent (message : String) :
      Exchange via request [.reply (.panic message)] (asking request ++ [.call .unblock])
        (some (.panicked message))
  | shown (a : Answer) (result : ExecutionResult) (shows : result = .ofAnswer a) :
      Exchange via request [.reply (.answer a)]
        (asking request ++ showing result.text result.isError ++ [.call .unblock])
        (ended via (.completed result))
  | cut (a : Answer) (pre post : List Deed) (c : Call) (result : ExecutionResult) (message : String)
      (shows : result = .ofAnswer a)
      (split : showing result.text result.isError = pre ++ .call c :: post) :
      Exchange via request [.reply (.answer a), .reaction c.method (.panic message)]
        (asking request ++ pre ++ [.call c] ++ [.call .unblock]) (some (.panicked message))
  /-- The page panicked when it was unblocked. -/
  | unblocked (a : Answer) (result : ExecutionResult) (message : String)
      (shows : result = .ofAnswer a) :
      Exchange via request [.reply (.answer a), .reaction .unblock (.panic message)]
        (asking request ++ showing result.text result.isError ++ [.call .unblock])
        (some (.panicked message))

namespace Session

/-- The request that a submission reads from the form. A form without syntax fields has no values
for them. -/
def request (s : Session) : FormValues :=
  if s.bareForm then { s.form with tagSyntax := none, interpolationSyntax := none } else s.form

/-- **The course of a submission** that starts in `s`: what befalls it, its deeds, and how it stands
after them. -/
def Course (via : Via) (s : Session) (befallen : List Incident) (deeds : List Deed)
    (fate : Option TaskState) : Prop :=
  if s.inFlight = true then befallen = [] ∧ deeds = [] ∧ fate = ended via .ignored
  else if Text.allBlank s.form.template = true then Refusal via befallen deeds fate
  else Exchange via s.request befallen deeds fate

/-- A submission that starts in the session takes the flag. -/
structure IsReady (s : Session) : Prop where
  free : s.inFlight = false
  full : Text.allBlank s.form.template = false

section Courses

variable {via : Via} {s : Session} {befallen : List Incident} {deeds : List Deed}
  {fate : Option TaskState}

theorem course_of_busy (busy : s.inFlight = true) : Course via s [] [] (ended via .ignored) := by
  rw [Course, if_pos busy]
  exact ⟨rfl, rfl, rfl⟩

theorem course_of_refusal (free : s.inFlight = false) (blank : Text.allBlank s.form.template = true)
    (h : Refusal via befallen deeds fate) : Course via s befallen deeds fate := by
  rw [Course, if_neg (Bool.eq_false_iff.mp free), if_pos blank]
  exact h

theorem course_of_exchange (ready : s.IsReady) (h : Exchange via s.request befallen deeds fate) :
    Course via s befallen deeds fate := by
  rw [Course, if_neg (Bool.eq_false_iff.mp ready.free), if_neg (Bool.eq_false_iff.mp ready.full)]
  exact h

theorem exchange_of_course (ready : s.IsReady) (h : Course via s befallen deeds fate) :
    Exchange via s.request befallen deeds fate := by
  rwa [Course, if_neg (Bool.eq_false_iff.mp ready.free), if_neg (Bool.eq_false_iff.mp ready.full)]
    at h

end Courses

theorem done_eq_ended (via : Via) (outcome : SubmitOutcome) :
    some (.done (outcomeOf via (some outcome))) = ended via outcome := by
  cases via <;> rfl

/-! ## 2. Reading the form -/

/-- The values after further fields of the form have been read. -/
def gathered (s : Session) (fields : List FormField) (values : FormValues) : FormValues :=
  fields.foldl (fun v x => if s.lacks x then v else v.copy x s.form) values

/-- Reading the fields one after the other gives the request. -/
theorem gathered_all (s : Session) :
    s.gathered (FormField.all.drop 1) { template := s.form.template } = s.request := by
  cases h : s.bareForm <;>
    simp [gathered, request, lacks, h, FormField.all, FormValues.copy]

/-! ## 3. Stages -/

/-- How far a running submission has come. It started in `s₁`; `flag` is the flag now, and `fresh`
tells that it has not been waiting yet. -/
inductive Stage (M : Surroundings) (via : Via) (s₁ : Session) :
    (flag fresh : Bool) → Work → List Incident → List Deed → Prop where
  | begin : Stage M via s₁ s₁.inFlight true .begin [] []
  | refuse {fresh : Bool} (pre post : List Call) (free : s₁.inFlight = false)
      (blank : Text.allBlank s₁.form.template = true)
      (split : showCalls emptyTemplate true = pre ++ post) :
      Stage M via s₁ s₁.inFlight fresh (.perform post (some (.rejected emptyTemplate))) []
        (pre.map .call)
  | gather (fields : List FormField) (values : FormValues) (ready : s₁.IsReady)
      (rest : s₁.gathered fields values = s₁.request) :
      Stage M via s₁ s₁.inFlight true (.gather fields values) [] []
  | hide {flag fresh : Bool} (ready : s₁.IsReady) :
      Stage M via s₁ flag fresh (.hide s₁.request) [] [.call .block]
  | send {flag fresh : Bool} (ready : s₁.IsReady) :
      Stage M via s₁ flag fresh (.send true s₁.request) [] [.call .block, .call .hideError]
  | await {flag fresh : Bool} (ready : s₁.IsReady) :
      Stage M via s₁ flag fresh (.await true) [] (asking s₁.request)
  | render {flag fresh : Bool} (a : Answer) (pre post : List Call) (result : ExecutionResult)
      (ready : s₁.IsReady) (shows : result = .ofAnswer a)
      (split : showCalls result.text result.isError = pre ++ post) :
      Stage M via s₁ flag fresh (.render post result) [.reply (.answer a)]
        (asking s₁.request ++ pre.map .call)
  | unwind {flag fresh : Bool} {befallen : List Incident} {deeds : List Deed} (message : String)
      (ready : s₁.IsReady)
      (cut : Exchange via s₁.request befallen (deeds ++ [.call .unblock])
        (some (.panicked message))) :
      Stage M via s₁ flag fresh (.unwind message) befallen deeds
  | finished {fresh : Bool} {befallen : List Incident} {deeds : List Deed} (outcome : SubmitOutcome)
      (course : Course via s₁ befallen deeds (ended via outcome)) :
      Stage M via s₁ s₁.inFlight fresh (.finished (some outcome)) befallen deeds
  | panicked {fresh : Bool} {befallen : List Incident} {deeds : List Deed} (message : String)
      (course : Course via s₁ befallen deeds (some (.panicked message))) :
      Stage M via s₁ s₁.inFlight fresh (.panicked message) befallen deeds
  /-- The page panicked when it was blocked. -/
  | stuck {fresh : Bool} (message : String) (ready : s₁.IsReady)
      (panics : M.reacts .block (.panic message)) :
      Stage M via s₁ true fresh (.panicked message) [.reaction .block (.panic message)]
        [.call .block]

/-- How far a dropped submission has come. -/
inductive DropStage (s₁ : Session) : (flag : Bool) → Work → List Incident → List Deed → Prop where
  | abandon {flag : Bool} : DropStage s₁ flag .abandon [.drop] (asking s₁.request)
  | finished : DropStage s₁ false (.finished none) [.drop] (asking s₁.request ++ [.call .unblock])
  | panicked (message : String) :
      DropStage s₁ false (.panicked message) [.drop, .reaction .unblock (.panic message)]
        (asking s₁.request ++ [.call .unblock])

/-- What is true of the rest of the session while the submission `k` that started in `s₁` has its
turn. If it has taken the flag then no other task holds it. -/
structure Alone (s₁ : Session) (k : TaskId) (fate : Option TaskState) (s : Session) : Prop where
  running : s.running = []
  started : k < s.nextTask
  absent : ∀ w ∈ s.waiting, w.task ≠ k
  unheld : s₁.IsReady → ∀ w ∈ s.waiting, w.guarded = false
  fate : s.fate? k = fate

/-- The submission `k` that started in `s₁` has its turn, after what has befallen it. -/
inductive Turn (M : Surroundings) (via : Via) (s₁ : Session) (k : TaskId) :
    List Incident → Session → Prop where
  | task {befallen : List Incident} (s : Session) (fresh : Bool) (work : Work)
      (alone : Alone s₁ k (if fresh then none else some .pending) s)
      (unread : fresh = true → s.form = s₁.form ∧ s.bareForm = s₁.bareForm)
      (stage : Stage M via s₁ s.inFlight fresh work befallen (s.deeds k)) :
      Turn M via s₁ k befallen (s.enter ⟨some k, true, via, fresh, work⟩)
  | drop {befallen : List Incident} (s : Session) (work : Work) (ready : s₁.IsReady)
      (alone : Alone s₁ k (some .dropped) s)
      (stage : DropStage s₁ s.inFlight work befallen (s.deeds k)) :
      Turn M via s₁ k befallen (s.enter ⟨some k, false, via, false, work⟩)

/-- The submission `k` that started in `s₁` has just had its turn, after what has befallen it. -/
inductive Rest (M : Surroundings) (via : Via) (s₁ : Session) (k : TaskId) :
    List Incident → Session → Prop where
  | pending {s : Session} (running : s.running = []) (started : k < s.nextTask) (ready : s₁.IsReady)
      (waiting : ∀ w : Waiting, w.task = k → (w ∈ s.waiting ↔ w = ⟨k, via, true⟩))
      (deeds : s.deeds k = asking s₁.request) (fate : s.fate? k = some .pending)
      (unanswered : s.replies = []) : Rest M via s₁ k [] s
  | closed {s : Session} {befallen : List Incident} {fate : Option TaskState}
      (alone : Alone s₁ k fate s) (course : Course via s₁ befallen (s.deeds k) fate)
      (flag : s.inFlight = s₁.inFlight) (final : fate ≠ some .pending) : Rest M via s₁ k befallen s
  | stuck {s : Session} (message : String) (ready : s₁.IsReady)
      (panics : M.reacts .block (.panic message)) (alone : Alone s₁ k (some (.panicked message)) s)
      (deeds : s.deeds k = [.call .block]) (flag : s.inFlight = true) :
      Rest M via s₁ k [.reaction .block (.panic message)] s

/-! ## 4. Parts of a turn -/

section Parts

variable {M : Surroundings} {via : Via} {s₁ b b' : Session} {k : TaskId} {fate : Option TaskState}
  {befallen : List Incident}

theorem step?_enter (f : Frame) (b : Session) : (b.enter f).step? = some (b.stepFrame f) := rfl

/-- The rest of the session after more entries, none of which tells how the task stands. -/
theorem Alone.grow {es : List Entry} (h : Alone s₁ k fate b) (running : b'.running = b.running)
    (next : b'.nextTask = b.nextTask) (waiting : b'.waiting = b.waiting)
    (trace : b'.trace = b.trace ++ es) (states : ∀ e ∈ es, e.stateOf? k = none) :
    Alone s₁ k fate b' where
  running := running.trans h.running
  started := next ▸ h.started
  absent := waiting ▸ h.absent
  unheld := waiting ▸ h.unheld
  fate := (fate?_of_trace_of_none trace states).trans h.fate

/-- The flag, the reactions and the replies do not matter for the rest of the session. -/
theorem Alone.same (h : Alone s₁ k fate b) (running : b'.running = b.running)
    (next : b'.nextTask = b.nextTask) (waiting : b'.waiting = b.waiting)
    (trace : b'.trace = b.trace) : Alone s₁ k fate b' :=
  h.grow running next waiting (trace.trans (List.append_nil _).symm)
    fun _ he => absurd he List.not_mem_nil

theorem Alone.note {x : Seen} (h : Alone s₁ k fate b) (actor : Option TaskId)
    (state : x.stateOf? k = none) : Alone s₁ k fate (b.note actor x) :=
  h.grow rfl rfl rfl rfl fun e he => by rw [List.mem_singleton.mp he]; exact state

theorem Alone.act (h : Alone s₁ k fate b) (actor : Option TaskId) (c : Call) :
    Alone s₁ k fate (b.act actor c) :=
  h.grow rfl rfl rfl rfl fun e he => (callEntries_cases b actor c e he).2 k

/-- The task stands as is seen of it. -/
theorem Alone.tell {state : TaskState} (h : Alone s₁ k fate b) (actor : Option TaskId)
    (known : state ≠ .unknown) : Alone s₁ k (some state) (b.note actor (.task k state)) :=
  ⟨h.running, h.started, h.absent, h.unheld, fate?_of_task (s := b) known rfl⟩

/-- A reading or a call ends as planned, or in a panic that waited for it, and starts nothing. The
step has begun in `a`, and what has waited there is used up by the reaction. -/
theorem react_sequential {a : Session} (seq : M.Sequential)
    (armed : ∀ h ∈ b.hooks, M.reacts h.1 h.2) (hooks : b.hooks = a.hooks)
    (replies : b.replies = a.replies) (m : Method) (f : Frame) (next : Work) :
    (b.react m f next = b.enter { f with work := next } ∧ a.usedUp (b.react m f next) = none) ∨
      ∃ message, M.reacts m (.panic message) ∧
        b.react m f next = (b.disarm m).enter
          { f with work := afterPanic (f.work.isGuarded && next.isGuarded) message } ∧
        a.usedUp (b.react m f next) = some (.reaction m (.panic message)) := by
  unfold react
  split
  · exact .inl ⟨rfl, usedUp_of_same hooks replies⟩
  · next t waits => exact absurd (armed _ (reaction?_mem waits)) (seq.starts m t)
  · next message waits =>
    have waits' : a.reaction? m = some (.panic message) := by rwa [reaction?, ← hooks]
    have disarmed : (b.disarm m).hooks = (a.disarm m).hooks := by
      dsimp only [disarm]
      rw [hooks]
    exact .inr ⟨message, armed _ (reaction?_mem waits), rfl,
      usedUp_of_disarm waits' disarmed replies⟩

theorem deeds_call {c : Call} (trace : b'.trace = b.trace ++ b.callEntries (some k) c) :
    b'.deeds k = b.deeds k ++ [.call c] := by
  have hside : ((b.sideEffects c).map (Entry.mk (some k))).filterMap (Entry.deedOf? k) = [] := by
    refine List.filterMap_eq_nil_iff.mpr fun e he => ?_
    obtain ⟨x, hx, rfl⟩ := List.mem_map.mp he
    rcases sideEffects_cases b c x hx with ⟨r, rfl⟩ | ⟨p, rfl⟩ <;> exact if_pos rfl
  rw [deeds_of_trace trace, callEntries, List.filterMap_cons, hside]
  simp [Entry.deedOf?, Seen.deed?]

/-- The turn goes on after a call, whether it ends as planned or in a panic. The step has begun in
`a`, which may have the flag set otherwise. -/
theorem Turn.of_call {fresh : Bool} {w next : Work} {a : Session} (c : Call) (seq : M.Sequential)
    (armed : ∀ h ∈ b.hooks, M.reacts h.1 h.2) (hooks : b.hooks = a.hooks)
    (replies : b.replies = a.replies)
    (alone : Alone s₁ k (if fresh then none else some .pending) b)
    (unread : fresh = true → b.form = s₁.form ∧ b.bareForm = s₁.bareForm)
    (planned : Stage M via s₁ b.inFlight fresh next befallen (b.deeds k ++ [.call c]))
    (panicked : ∀ message, M.reacts c.method (.panic message) →
      Stage M via s₁ b.inFlight fresh (afterPanic (w.isGuarded && next.isGuarded) message)
        (befallen ++ [.reaction c.method (.panic message)]) (b.deeds k ++ [.call c])) :
    Turn M via s₁ k
      (befallen ++ (a.usedUp (b.call ⟨some k, true, via, fresh, w⟩ c next)).toList)
      (b.call ⟨some k, true, via, fresh, w⟩ c next) := by
  have halone : Alone s₁ k (if fresh then none else some .pending) (b.act (some k) c) :=
    alone.act _ c
  have hdeeds : (b.act (some k) c).deeds k = b.deeds k ++ [.call c] := deeds_call (b := b) rfl
  rcases react_sequential (b := b.act (some k) c) seq armed hooks replies c.method
    ⟨some k, true, via, fresh, w⟩ next with ⟨heq, used⟩ | ⟨message, hm, heq, used⟩
  · rw [call, used, heq, Option.toList_none, List.append_nil]
    exact .task _ fresh next halone unread (hdeeds ▸ planned)
  · rw [call, used, heq]
    refine .task ((b.act (some k) c).disarm c.method) fresh _
      (halone.same rfl rfl rfl rfl) unread ?_
    exact hdeeds ▸ panicked message hm

/-- The turn goes on after a reading, whether it ends as planned or in a panic. -/
theorem Turn.of_read {w next : Work} (x : FormField) (seq : M.Sequential)
    (armed : ∀ h ∈ b.hooks, M.reacts h.1 h.2) (alone : Alone s₁ k none b)
    (unread : b.form = s₁.form ∧ b.bareForm = s₁.bareForm) (unguarded : w.isGuarded = false)
    (planned : Stage M via s₁ b.inFlight true next befallen (b.deeds k))
    (panicked : ∀ message, M.reacts (.read x) (.panic message) →
      Stage M via s₁ b.inFlight true (.panicked message)
        (befallen ++ [.reaction (.read x) (.panic message)]) (b.deeds k)) :
    Turn M via s₁ k
      (befallen ++ (b.usedUp (b.readField ⟨some k, true, via, true, w⟩ x next)).toList)
      (b.readField ⟨some k, true, via, true, w⟩ x next) := by
  have halone : Alone s₁ k none (b.note (some k) (.read x)) := alone.note _ rfl
  have hdeeds : (b.note (some k) (.read x)).deeds k = b.deeds k :=
    deeds_of_silent_entry (s := b) rfl rfl
  rcases react_sequential (b := b.note (some k) (.read x)) (a := b) seq armed rfl rfl (.read x)
    ⟨some k, true, via, true, w⟩ next with ⟨heq, used⟩ | ⟨message, hm, heq, used⟩
  · rw [readField, used, heq, Option.toList_none, List.append_nil]
    exact .task _ true next halone (fun _ => unread) (hdeeds ▸ planned)
  · rw [readField, used, heq, unguarded]
    refine .task ((b.note (some k) (.read x)).disarm (.read x)) true _
      (halone.same rfl rfl rfl rfl) (fun _ => unread) ?_
    exact hdeeds ▸ panicked message hm

/-- Splitting the calls that draw a text splits the deeds of a submission that draws it. -/
theorem split_showing {text : String} {isError : Bool} {pre post : List Call}
    (split : showCalls text isError = pre ++ post) :
    showing text isError = pre.map .call ++ post.map .call := by
  rw [← List.map_append, ← split]
  rfl

/-! ## 5. A step of a turn -/

/-- The step of a frame leads to `P`, which is told what the step has used up. -/
def Brings (P : List Incident → Session → Prop) (befallen : List Incident) (b : Session)
    (f : Frame) : Prop :=
  P (befallen ++ (b.usedUp (b.stepFrame f)).toList) (b.stepFrame f)

/-- A step that uses nothing up. -/
theorem Brings.of_same {P : List Incident → Session → Prop} {f : Frame}
    (steps : b.stepFrame f = b') (hooks : b'.hooks = b.hooks) (replies : b'.replies = b.replies)
    (h : P befallen b') : Brings P befallen b f := by
  rw [Brings, steps, usedUp_of_same hooks replies, Option.toList_none, List.append_nil]
  exact h

/-- A step that takes a reply. -/
theorem Brings.of_reply {P : List Incident → Session → Prop} {f : Frame} {r : Reply}
    (steps : b.stepFrame f = b') (taken : b.replies = r :: b'.replies)
    (h : P (befallen ++ [.reply r]) b') : Brings P befallen b f := by
  rw [Brings, steps, usedUp_of_reply taken]
  exact h

variable {fresh : Bool}

theorem Turn.step_begin (seq : M.Sequential) (armed : Armed M b) (flag : b.inFlight = s₁.inFlight)
    (deeds : b.deeds k = []) (alone : Alone s₁ k none b)
    (unread : b.form = s₁.form ∧ b.bareForm = s₁.bareForm) :
    Brings (Turn M via s₁ k) [] b ⟨some k, true, via, true, .begin⟩ := by
  by_cases busy : b.inFlight = true
  · have halone : Alone s₁ k none (b.note (some k) (.log .triggerIgnored)) :=
      alone.note _ rfl
    have heq : b.stepFrame ⟨some k, true, via, true, .begin⟩ =
        (b.note (some k) (.log .triggerIgnored)).enter
          ⟨some k, true, via, true, .finished (some .ignored)⟩ := if_pos busy
    refine .of_same heq rfl rfl (.task _ true _ halone (fun _ => unread) ?_)
    rw [deeds_of_silent_entry (s := b) rfl rfl, deeds]
    exact flag ▸ .finished .ignored (course_of_busy (flag ▸ busy))
  · have free : s₁.inFlight = false := flag ▸ Bool.eq_false_iff.mpr busy
    unfold Brings stepFrame
    dsimp only
    rw [if_neg busy]
    split
    · next blank =>
      rw [unread.1] at blank
      refine .of_read .template seq armed.hooks alone unread rfl ?_ fun message _ => ?_
      · rw [deeds, flag]
        exact .refuse [] _ free blank rfl
      · rw [deeds, flag]
        exact .panicked message (course_of_refusal free blank (.unread message))
    · next full =>
      rw [unread.1] at full
      have ready : s₁.IsReady := ⟨free, Bool.eq_false_iff.mpr full⟩
      refine .of_read .template seq armed.hooks alone unread rfl ?_ fun message _ => ?_
      · rw [deeds, flag, unread.1]
        exact .gather _ _ ready (gathered_all s₁)
      · rw [deeds, flag]
        exact .panicked message (course_of_exchange ready (.unread .template message))

theorem Turn.step_gather {fields : List FormField} {values : FormValues} (seq : M.Sequential)
    (armed : Armed M b) (flag : b.inFlight = s₁.inFlight) (deeds : b.deeds k = [])
    (alone : Alone s₁ k none b) (unread : b.form = s₁.form ∧ b.bareForm = s₁.bareForm)
    (ready : s₁.IsReady) (rest : s₁.gathered fields values = s₁.request) :
    Brings (Turn M via s₁ k) [] b ⟨some k, true, via, true, .gather fields values⟩ := by
  cases fields with
  | nil =>
    have hvalues : values = s₁.request := rest
    have hdeeds : Session.deeds k { b with inFlight := true } = [] := deeds
    unfold Brings stepFrame
    dsimp only
    rw [if_neg (Bool.eq_false_iff.mp (flag.trans ready.free))]
    refine .of_call .block seq armed.hooks rfl rfl (alone.same rfl rfl rfl rfl) (fun _ => unread)
      ?_ fun message hm => ?_
    · rw [hdeeds, hvalues]
      exact .hide ready
    · rw [hdeeds]
      exact .stuck message ready hm
  | cons x xs =>
    have hlacks : b.lacks x = s₁.lacks x := by rw [lacks, lacks, unread.2]
    rw [gathered, List.foldl_cons, ← hlacks] at rest
    by_cases h : b.lacks x = true
    · have heq : b.stepFrame ⟨some k, true, via, true, .gather (x :: xs) values⟩ =
          b.enter ⟨some k, true, via, true, .gather xs values⟩ := if_pos h
      rw [if_pos h] at rest
      refine .of_same heq rfl rfl (.task b true _ alone (fun _ => unread) ?_)
      rw [deeds, flag]
      exact .gather xs _ ready rest
    · rw [if_neg h] at rest
      unfold Brings stepFrame
      dsimp only
      rw [if_neg h]
      refine .of_read x seq armed.hooks alone unread rfl ?_ fun message _ => ?_
      · rw [deeds, flag, unread.1]
        exact .gather xs _ ready rest
      · rw [deeds, flag]
        exact .panicked message (course_of_exchange ready (.unread x message))

theorem Turn.step_perform {pre post : List Call} (seq : M.Sequential) (armed : Armed M b)
    (flag : b.inFlight = s₁.inFlight) (deeds : b.deeds k = pre.map .call)
    (alone : Alone s₁ k (if fresh then none else some .pending) b)
    (unread : fresh = true → b.form = s₁.form ∧ b.bareForm = s₁.bareForm)
    (free : s₁.inFlight = false) (blank : Text.allBlank s₁.form.template = true)
    (split : showCalls emptyTemplate true = pre ++ post) :
    Brings (Turn M via s₁ k) [] b
      ⟨some k, true, via, fresh, .perform post (some (.rejected emptyTemplate))⟩ := by
  cases post with
  | nil =>
    refine .of_same rfl rfl rfl (.task b fresh _ alone unread ?_)
    rw [List.append_nil] at split
    rw [deeds, flag, ← split]
    exact .finished _ (course_of_refusal free blank .shown)
  | cons c cs =>
    have hpre : pre.map Deed.call ++ [.call c] = (pre ++ [c]).map .call := by simp
    refine .of_call c seq armed.hooks rfl rfl alone unread ?_ fun message _ => ?_
    · rw [deeds, flag, hpre]
      exact .refuse (pre ++ [c]) cs free blank (by rw [split, List.append_assoc]; rfl)
    · rw [deeds, flag]
      exact .panicked message (course_of_refusal free blank
        (.cut _ (cs.map .call) c message (split_showing split)))

theorem Turn.step_hide (seq : M.Sequential) (armed : Armed M b)
    (deeds : b.deeds k = [.call .block])
    (alone : Alone s₁ k (if fresh then none else some .pending) b)
    (unread : fresh = true → b.form = s₁.form ∧ b.bareForm = s₁.bareForm)
    (ready : s₁.IsReady) :
    Brings (Turn M via s₁ k) [] b ⟨some k, true, via, fresh, .hide s₁.request⟩ := by
  refine .of_call .hideError seq armed.hooks rfl rfl alone unread ?_ fun message _ => ?_
  · rw [deeds]
    exact .send ready
  · rw [deeds]
    exact .unwind message ready (.unhidden message)

theorem Turn.step_send (deeds : b.deeds k = [.call .block, .call .hideError])
    (alone : Alone s₁ k (if fresh then none else some .pending) b)
    (unread : fresh = true → b.form = s₁.form ∧ b.bareForm = s₁.bareForm)
    (ready : s₁.IsReady) :
    Brings (Turn M via s₁ k) [] b ⟨some k, true, via, fresh, .send true s₁.request⟩ := by
  have halone : Alone s₁ k (if fresh then none else some .pending)
      (b.note (some k) (.request s₁.request)) := alone.note _ rfl
  refine .of_same rfl rfl rfl (.task _ fresh _ halone unread ?_)
  rw [deeds_of_trace (s := b) rfl, deeds]
  simp only [List.filterMap_cons, Entry.deedOf?, Seen.deed?, if_pos]
  exact .await ready

/-- No reply has come, so the submission waits. -/
theorem Rest.step_await (unanswered : b.replies = []) (deeds : b.deeds k = asking s₁.request)
    (alone : Alone s₁ k (if fresh then none else some .pending) b) (ready : s₁.IsReady) :
    Brings (Rest M via s₁ k) [] b ⟨some k, true, via, fresh, .await true⟩ := by
  have waiting : ∀ w : Waiting, w.task = k →
      (w ∈ insertWaiting ⟨k, via, true⟩ b.waiting ↔ w = ⟨k, via, true⟩) := by
    intro w hw
    rw [(insertWaiting_perm _ _).mem_iff, List.mem_cons]
    exact or_iff_left fun mem => alone.absent w mem hw
  have hfate := alone.fate
  cases fresh with
  | true =>
    have heq : b.stepFrame ⟨some k, true, via, true, .await true⟩ =
        { b with waiting := insertWaiting ⟨k, via, true⟩ b.waiting }.note (some k)
          (.task k .pending) := by
      simp only [stepFrame, unanswered, if_true]
    refine .of_same heq rfl rfl
      (.pending alone.running alone.started ready waiting ?_ ?_ unanswered)
    · rw [deeds_of_silent_entry (s := b) rfl rfl]
      exact deeds
    · exact fate?_of_task (s := b) nofun rfl
  | false =>
    have heq : b.stepFrame ⟨some k, true, via, false, .await true⟩ =
        { b with waiting := insertWaiting ⟨k, via, true⟩ b.waiting } := by
      simp [stepFrame, unanswered]
    exact .of_same heq rfl rfl
      (.pending alone.running alone.started ready waiting deeds hfate unanswered)

/-- The submission takes the reply that has come. -/
theorem Turn.step_await {r : Reply} {replies : List Reply} (taken : b.replies = r :: replies)
    (deeds : b.deeds k = asking s₁.request)
    (alone : Alone s₁ k (if fresh then none else some .pending) b)
    (unread : fresh = true → b.form = s₁.form ∧ b.bareForm = s₁.bareForm)
    (ready : s₁.IsReady) :
    Brings (Turn M via s₁ k) [] b ⟨some k, true, via, fresh, .await true⟩ := by
  cases r with
  | panic message =>
    have heq : b.stepFrame ⟨some k, true, via, fresh, .await true⟩ =
        { b with replies }.enter ⟨some k, true, via, fresh, .unwind message⟩ := by
      simp [stepFrame, taken, afterPanic]
    have hdeeds : Session.deeds k { b with replies } = asking s₁.request := deeds
    refine .of_reply heq taken
      (.task { b with replies } fresh _ (alone.same rfl rfl rfl rfl) unread ?_)
    rw [hdeeds]
    exact .unwind message ready (.unsent message)
  | answer a =>
    have heq : b.stepFrame ⟨some k, true, via, fresh, .await true⟩ =
        ({ b with replies }.noteAll (some k) a.records).enter ⟨some k, true, via, fresh, .render
          (showCalls (ExecutionResult.ofAnswer a).text (ExecutionResult.ofAnswer a).isError)
          (.ofAnswer a)⟩ := by
      simp [stepFrame, taken]
    have hlog : ∀ e ∈ a.records.map fun r => (⟨some k, .log r⟩ : Entry),
        e.seen.deed? = none ∧ e.stateOf? k = none := by
      intro e he
      obtain ⟨r, -, rfl⟩ := List.mem_map.mp he
      exact ⟨rfl, rfl⟩
    refine .of_reply heq taken
      (.task _ fresh _ (alone.grow rfl rfl rfl rfl fun e he => (hlog e he).2) unread ?_)
    rw [deeds_of_silent (s := b) rfl fun e he => (hlog e he).1, deeds]
    have h : Stage M via s₁ b.inFlight fresh _ _ (asking s₁.request ++ [].map .call) :=
      .render a [] _ _ ready rfl rfl
    rwa [List.map_nil, List.append_nil] at h

theorem Turn.step_render {pre post : List Call} {a : Answer} {result : ExecutionResult}
    (seq : M.Sequential) (armed : Armed M b)
    (deeds : b.deeds k = asking s₁.request ++ pre.map .call)
    (alone : Alone s₁ k (if fresh then none else some .pending) b)
    (unread : fresh = true → b.form = s₁.form ∧ b.bareForm = s₁.bareForm)
    (ready : s₁.IsReady) (shows : result = .ofAnswer a)
    (split : showCalls result.text result.isError = pre ++ post) :
    Brings (Turn M via s₁ k) [.reply (.answer a)] b
      ⟨some k, true, via, fresh, .render post result⟩ := by
  cases post with
  | nil =>
    rw [List.append_nil] at split
    have hdeeds : Session.deeds k { b with inFlight := false } =
        asking s₁.request ++ showing result.text result.isError :=
      deeds.trans (congrArg (fun calls => asking s₁.request ++ List.map .call calls) split.symm)
    have hflag : false = s₁.inFlight := ready.free.symm
    refine .of_call .unblock seq armed.hooks rfl rfl (alone.same rfl rfl rfl rfl) unread
      ?_ fun message _ => ?_
    · rw [hdeeds]
      exact hflag ▸ .finished _ (course_of_exchange ready (.shown a result shows))
    · rw [hdeeds]
      exact hflag ▸ .panicked message
        (course_of_exchange ready (.unblocked a result message shows))
  | cons c cs =>
    have hpre : asking s₁.request ++ pre.map Deed.call ++ [.call c] =
        asking s₁.request ++ (pre ++ [c]).map .call := by simp
    refine .of_call c seq armed.hooks rfl rfl alone unread ?_ fun message _ => ?_
    · rw [deeds, hpre]
      exact .render a (pre ++ [c]) cs result ready shows (by rw [split, List.append_assoc]; rfl)
    · rw [deeds]
      exact .unwind message ready
        (.cut a _ (cs.map .call) c result message shows (split_showing split))

theorem Turn.step_unwind {message : String}
    (alone : Alone s₁ k (if fresh then none else some .pending) b)
    (unread : fresh = true → b.form = s₁.form ∧ b.bareForm = s₁.bareForm) (ready : s₁.IsReady)
    (cut : Exchange via s₁.request befallen (b.deeds k ++ [.call .unblock])
      (some (.panicked message))) :
    Brings (Turn M via s₁ k) befallen b ⟨some k, true, via, fresh, .unwind message⟩ := by
  have halone : Alone s₁ k (if fresh then none else some .pending)
      ({ b with inFlight := false }.act (some k) .unblock) :=
    (alone.act _ .unblock).same rfl rfl rfl rfl
  have hflag : false = s₁.inFlight := ready.free.symm
  refine .of_same rfl rfl rfl (.task _ fresh _ halone unread ?_)
  rw [deeds_call (b := b) rfl]
  exact hflag ▸ .panicked message (course_of_exchange ready cut)

/-- The end of a task is the last that is seen of it. -/
theorem rest_of_end {state : TaskState} {deeds : List Deed}
    (alone : Alone s₁ k (if fresh then none else some .pending) b) (hdeeds : b.deeds k = deeds)
    (course : Course via s₁ befallen deeds (some state)) (flag : b.inFlight = s₁.inFlight)
    (known : state ≠ .unknown) (final : state ≠ .pending) :
    Rest M via s₁ k befallen { b with trace := b.trace ++ [⟨some k, .task k state⟩] } := by
  refine .closed (alone.tell _ known) ?_ flag fun h => final (Option.some.inj h)
  rw [deeds_of_silent_entry (s := b) rfl rfl, hdeeds]
  exact course

/-- The guard of a dropped submission is dropped with it. -/
theorem Turn.step_abandon (seq : M.Sequential) (armed : Armed M b) (ready : s₁.IsReady)
    (alone : Alone s₁ k (some .dropped) b) (deeds : b.deeds k = asking s₁.request) :
    Brings (Turn M via s₁ k) [.drop] b ⟨some k, false, via, false, .abandon⟩ := by
  have halone : Alone s₁ k (some .dropped) ({ b with inFlight := false }.act (some k) .unblock) :=
    (alone.act _ .unblock).same rfl rfl rfl rfl
  have hdeeds : ({ b with inFlight := false }.act (some k) .unblock).deeds k =
      asking s₁.request ++ [.call .unblock] := by
    rw [deeds_call (b := b) rfl, deeds]
  unfold Brings stepFrame
  dsimp only
  rcases react_sequential (b := { b with inFlight := false }.act (some k) .unblock) (a := b) seq
    armed.hooks rfl rfl (Call.method .unblock) ⟨some k, false, via, false, .abandon⟩
    (.finished none) with ⟨heq, used⟩ | ⟨message, hm, heq, used⟩
  · rw [call, used, heq]
    refine .drop _ _ ready halone ?_
    rw [hdeeds]
    exact .finished
  · rw [call, used, heq]
    refine .drop (({ b with inFlight := false }.act (some k) .unblock).disarm .unblock) _ ready
      (halone.same rfl rfl rfl rfl) ?_
    exact hdeeds ▸ DropStage.panicked message

theorem Turn.step_drop {work : Work} (seq : M.Sequential) (armed : Armed M b) (ready : s₁.IsReady)
    (alone : Alone s₁ k (some .dropped) b)
    (stage : DropStage s₁ b.inFlight work befallen (b.deeds k)) :
    Brings (Turn M via s₁ k) befallen b ⟨some k, false, via, false, work⟩ ∨
      Brings (Rest M via s₁ k) befallen b ⟨some k, false, via, false, work⟩ := by
  generalize hflag : b.inFlight = flag at stage
  generalize hdeeds : b.deeds k = deeds at stage
  cases stage with
  | abandon => exact .inl (.step_abandon seq armed ready alone hdeeds)
  | finished =>
    have halone : Alone s₁ k (some .dropped) { b with trace := b.trace ++ [] } :=
      alone.grow rfl rfl rfl rfl fun e he => absurd he List.not_mem_nil
    refine .inr (.of_same rfl rfl rfl (.closed halone ?_ ?_ nofun))
    · have hsame : Session.deeds k { b with trace := b.trace ++ [] } = b.deeds k :=
        deeds_of_silent rfl fun e he => absurd he List.not_mem_nil
      exact (hsame.trans hdeeds) ▸ course_of_exchange ready .dropped
    · exact hflag.trans ready.free.symm
  | panicked message =>
    refine .inr (.of_same rfl rfl rfl (.closed (alone.note _ rfl) ?_ ?_ nofun))
    · have hsame : Session.deeds k { b with trace := b.trace ++ [⟨some k, .panic message⟩] } =
          b.deeds k := deeds_of_silent_entry rfl rfl
      exact (hsame.trans hdeeds) ▸ course_of_exchange ready (.droppedLoudly message)
    · exact hflag.trans ready.free.symm

/-- **A step of a submission** leads to its next stage, or to the end of its turn. What the step has
used up has befallen the submission. -/
theorem Turn.step {s s' : Session} (seq : M.Sequential) (armed : Armed M s)
    (turn : Turn M via s₁ k befallen s) (hstep : s.step? = some s') :
    Turn M via s₁ k (befallen ++ (s.incident? k .step).toList) s' ∨
      Rest M via s₁ k (befallen ++ (s.incident? k .step).toList) s' := by
  cases turn with
  | task b fresh work alone unread stage =>
    rw [step?_enter] at hstep
    cases hstep
    rw [incident?_step rfl]
    have harmed : Armed M b := ⟨armed.hooks, armed.replies⟩
    generalize hflag : b.inFlight = flag at stage
    generalize hdeeds : b.deeds k = deeds at stage
    cases stage with
    | begin => exact .inl (.step_begin seq harmed hflag hdeeds alone (unread rfl))
    | refuse pre post free blank split =>
      exact .inl (.step_perform seq harmed hflag hdeeds alone unread free blank split)
    | gather fields values ready rest =>
      exact .inl (.step_gather seq harmed hflag hdeeds alone (unread rfl) ready rest)
    | hide ready => exact .inl (.step_hide seq harmed hdeeds alone unread ready)
    | send ready => exact .inl (.step_send hdeeds alone unread ready)
    | await ready =>
      cases hr : b.replies with
      | nil => exact .inr (.step_await hr hdeeds alone ready)
      | cons r replies => exact .inl (.step_await hr hdeeds alone unread ready)
    | render a pre post result ready shows split =>
      exact .inl (.step_render seq harmed hdeeds alone unread ready shows split)
    | unwind message ready cut =>
      subst hdeeds
      exact .inl (.step_unwind alone unread ready cut)
    | finished outcome course =>
      rw [← done_eq_ended] at course
      exact .inr (Brings.of_same rfl rfl rfl (rest_of_end alone hdeeds course hflag nofun nofun))
    | panicked message course =>
      exact .inr (Brings.of_same rfl rfl rfl (rest_of_end alone hdeeds course hflag nofun nofun))
    | stuck message ready panics =>
      refine .inr (Brings.of_same rfl rfl rfl
        (.stuck message ready panics (alone.tell _ nofun) ?_ hflag))
      exact (deeds_of_silent_entry (s := b) rfl rfl).trans hdeeds
  | drop b work ready alone stage =>
    rw [step?_enter] at hstep
    cases hstep
    rw [incident?_step rfl]
    exact Turn.step_drop seq ⟨armed.hooks, armed.replies⟩ ready alone stage

end Parts

end Session

end TemplateClient
