import TemplateClient.Proofs.Session.Tasks

/-!
# Runs are made of moves

Settling takes steps until no frame is left, and it does get there. So each step of a run begins and
ends between frames, and everything in it is a move. What moves keep, whole runs keep.

* `settle_running` -- settling leaves no frame;
* `Step.Obeys` -- a step of a run asks of the surroundings only what they may do;
* `take_settles`, `run_settles` -- a step of a run, and a whole run, are made of moves.
-/

namespace TemplateClient

/-! ## 1. Settling -/

namespace Session

variable {M : Surroundings} {s s' : Session}

theorem running_of_step?_none (h : s.step? = none) : s.running = [] := by
  cases hr : s.running with
  | nil => rfl
  | cons f running =>
    rw [step?_cons hr] at h
    cases h

theorem bound_step?_lt (sound : s.Sound) (h : s.step? = some s') : s'.bound < s.bound := by
  obtain ⟨f, running, hr, heq⟩ := step?_eq_some h
  have hlt := bound_stepFrame_lt (s := { s with running })
    (sound.frames f (hr ▸ List.mem_cons_self))
  rw [← heq] at hlt
  simp only [bound, hr, totalWeight] at hlt ⊢
  omega

theorem running_of_bound_zero (h : s.bound = 0) : s.running = [] := by
  cases hr : s.running with
  | nil => rfl
  | cons f running =>
    have hpos := weight_pos f.work
    simp only [bound, hr, totalWeight] at h
    omega

theorem steps_running (sound : s.Sound) {n : Nat} (h : s.bound ≤ n) : (steps n s).running = [] := by
  induction n generalizing s with
  | zero => exact running_of_bound_zero (Nat.le_zero.mp h)
  | succ n ih =>
    unfold steps
    split
    · next hstep => exact running_of_step?_none hstep
    · next s' hstep =>
      have hlt := bound_step?_lt sound hstep
      exact ih (sound.step hstep) (by omega)

/-- **Settling leaves no frame.** -/
theorem settle_running (sound : s.Sound) : s.settle.running = [] :=
  steps_running sound (Nat.le_refl _)

theorem steps_of_quiet (n : Nat) (quiet : s.running = []) : steps n s = s := by
  cases n with
  | zero => rfl
  | succ n =>
    have hnone : s.step? = none := by
      unfold step?
      rw [quiet]
    unfold steps
    rw [hnone]

/-- If steps lead from `P` to `P` or to `Q`, and nothing runs in `Q`, then settling leads to `Q`.
The induction is on the bound for the steps. -/
theorem settle_of_steps {P Q : Session → Prop}
    (next : ∀ s, P s → ∃ s', s.step? = some s' ∧ (P s' ∨ Q s')) (quiet : ∀ s, Q s → s.running = [])
    (sound : s.Sound) (h : P s) : Q s.settle := by
  unfold settle
  generalize hn : s.bound = n
  have hle : s.bound ≤ n := Nat.le_of_eq hn
  clear hn
  induction n generalizing s with
  | zero =>
    obtain ⟨s', hstep, -⟩ := next s h
    have hlt := bound_step?_lt sound hstep
    omega
  | succ n ih =>
    obtain ⟨s', hstep, hs'⟩ := next s h
    have hlt := bound_step?_lt sound hstep
    unfold steps
    rw [hstep]
    dsimp only
    rcases hs' with hp | hq
    · exact ih (sound.step hstep) hp (by omega)
    · rw [steps_of_quiet n (quiet s' hq)]
      exact hq

theorem steps_reaches (n : Nat) (s : Session) : s.Reaches M (steps n s) := by
  induction n generalizing s with
  | zero => exact .refl
  | succ n ih =>
    unfold steps
    split
    · exact .refl
    · next s' hstep => exact .head (.step hstep) (ih s')

theorem settle_reaches (s : Session) : s.Reaches M s.settle :=
  steps_reaches s.bound s

/-- Steps do not make a task stop waiting. -/
theorem mem_waiting_step? {w : Waiting} (sound : s.Sound) (h : s.step? = some s')
    (mem : w ∈ s.waiting) : w ∈ s'.waiting := by
  obtain ⟨f, running, -, -, hooks, -, s₁, heff, hcase⟩ := sound.stepsTo h
  have hmem : w ∈ s₁.waiting := by
    cases heff with
    | wait => exact (insertWaiting_perm _ _).mem_iff.mpr (List.mem_cons_of_mem _ mem)
    | _ => exact mem
  rcases hcase with heq | ⟨_, t, _, _, heq⟩
  · rw [heq]
    exact hmem
  · rw [heq]
    exact hmem

theorem mem_waiting_settle {w : Waiting} (sound : s.Sound) (mem : w ∈ s.waiting) :
    w ∈ s.settle.waiting := by
  unfold settle
  generalize s.bound = n
  induction n generalizing s with
  | zero => exact mem
  | succ n ih =>
    unfold steps
    split
    · exact mem
    · next s' hstep => exact ih (sound.step hstep) (mem_waiting_step? sound hstep mem)

end Session

/-! ## 2. Steps of a run -/

/-- The surroundings may do such an action. -/
def Action.Obeys (M : Surroundings) : Action → Prop
  | .configure => ∀ timings, M.calls (.configure timings)
  | .show text isError => ∀ c ∈ showCalls text isError, M.calls c
  | .call c => M.calls c
  | _ => True

/-- The surroundings may do such a step, and what is arranged before it. -/
structure Step.Obeys (M : Surroundings) (p : Step) : Prop where
  hooks : ∀ h ∈ p.hooks, M.reacts h.1 h.2
  replies : ∀ r ∈ p.replies, M.replies r
  action : p.action.Obeys M

namespace Session

variable {M : Surroundings} {s : Session}

/-- `s'` comes after `s` by moves, and no frame is left in it. -/
def Settles (M : Surroundings) (s s' : Session) : Prop :=
  s.Reaches M s' ∧ s'.running = []

theorem Settles.trans {s₁ s₂ s₃ : Session} (h₁ : Settles M s₁ s₂) (h₂ : Settles M s₂ s₃) :
    Settles M s₁ s₃ :=
  ⟨h₁.1.trans h₂.1, h₂.2⟩

/-- A move after which no frame is left, or any move and then settling. -/
theorem Settles.of_move {s s' : Session} (sound : s.Sound) (h : Move M s s') :
    Settles M s s'.settle :=
  ⟨.head h (settle_reaches s'), settle_running (sound.move h)⟩

theorem arm_settles (hooks : List (Method × Reaction)) (ok : ∀ h ∈ hooks, M.reacts h.1 h.2)
    (quiet : s.running = []) : Settles M s (hooks.foldl arm s) := by
  induction hooks generalizing s with
  | nil => exact ⟨.refl, quiet⟩
  | cons h hooks ih =>
    have hrest := ih (s := s.arm h) (fun h' hh => ok h' (List.mem_cons_of_mem _ hh)) quiet
    exact ⟨.head (.arm h (ok h List.mem_cons_self)) hrest.1, hrest.2⟩

theorem reply_settles (replies : List Reply) (ok : ∀ r ∈ replies, M.replies r)
    (quiet : s.running = []) : Settles M s { s with replies := s.replies ++ replies } := by
  induction replies generalizing s with
  | nil =>
    rw [List.append_nil]
    exact ⟨.refl, quiet⟩
  | cons r replies ih =>
    have hrest := ih (s := { s with replies := s.replies ++ [r] })
      (fun r' hr => ok r' (List.mem_cons_of_mem _ hr)) quiet
    rw [List.append_assoc] at hrest
    exact ⟨.head (.reply r (ok r List.mem_cons_self)) hrest.1, hrest.2⟩

/-- Every waiting task is still there when its turn comes. -/
theorem poll_settles (ws : List Waiting) (sound : s.Sound) (quiet : s.running = [])
    (mem : ∀ w ∈ ws, w ∈ s.waiting) (distinct : (ws.map (·.task)).Nodup) :
    Settles M s (ws.foldl pollTask s) := by
  induction ws generalizing s with
  | nil => exact ⟨.refl, quiet⟩
  | cons w ws ih =>
    have hmove : Move M s (s.resume w) := .resume w (mem w List.mem_cons_self) (.inl quiet)
    have hsettle := Settles.of_move sound hmove
    have hsound := sound.reaches hsettle.1
    refine hsettle.trans (ih hsound hsettle.2 (fun v hv => ?_) (List.nodup_cons.mp distinct).2)
    refine mem_waiting_settle (sound.move hmove) (List.mem_filter.mpr ⟨?_, ?_⟩)
    · exact mem v (List.mem_cons_of_mem _ hv)
    · have hne : v.task ≠ w.task := fun e =>
        (List.nodup_cons.mp distinct).1 (List.mem_map.mpr ⟨v, hv, e⟩)
      simpa using hne

theorem perform_settles (a : Action) (ok : a.Obeys M) (sound : s.Sound) (quiet : s.running = []) :
    Settles M s (s.perform a) := by
  have hopen : s.IsOpen M := .inl quiet
  cases a with
  | trigger t => exact .of_move sound (.trigger t hopen)
  | execute values => exact .of_move sound (.execute values hopen)
  | poll =>
    have nodup := (List.nodup_append.mp sound.distinct).2.1
    exact poll_settles s.waiting sound quiet (fun _ h => h) nodup
  | drop task => exact .of_move sound (.abandon task hopen)
  | advance => exact ⟨.refl, quiet⟩
  | edit fields => exact ⟨.single (.edit _ hopen), quiet⟩
  | configure =>
    exact .of_move sound (.address _ (fun c hc => List.mem_singleton.mp hc ▸ ok s.timings) hopen)
  | «show» text isError => exact .of_move sound (.address _ ok hopen)
  | call c => exact .of_move sound (.address _ (fun d hd => List.mem_singleton.mp hd ▸ ok) hopen)

theorem runTimer_running (change : Overlay → Overlay × Bool) (s : Session) :
    (s.runTimer change).running = s.running := by
  unfold runTimer
  dsimp only
  split <;> rfl

/-- **A step of a run is made of moves**, and no frame is left after it. -/
theorem take_settles {p : Step} (ok : p.Obeys M) (sound : s.Sound) (quiet : s.running = []) :
    Settles M s (s.take p) := by
  unfold take
  dsimp only
  have harm := arm_settles p.hooks ok.hooks quiet
  have hreply := harm.trans (reply_settles p.replies ok.replies harm.2)
  have hperform := hreply.trans
    (perform_settles p.action ok.action (sound.reaches hreply.1) hreply.2)
  generalize { p.hooks.foldl arm s with
    replies := (p.hooks.foldl arm s).replies ++ p.replies }.perform p.action = s₁ at hperform
  have hwake : Settles M s₁ (s₁.runTimer (Overlay.wake s₁.clock)) :=
    ⟨.single (.wake (.inl hperform.2)), (runTimer_running _ s₁).trans hperform.2⟩
  generalize s₁.runTimer (Overlay.wake s₁.clock) = s₂ at hwake
  have hpass : Settles M s₂ { s₂ with clock := s₂.clock + elapsed p.action } :=
    ⟨.single (.pass _ (.inl hwake.2)), hwake.2⟩
  have htick := runTimer_running (Overlay.tick (s₂.clock + elapsed p.action))
    { s₂ with clock := s₂.clock + elapsed p.action }
  exact ((hperform.trans hwake).trans hpass).trans
    ⟨.single (.tick (.inl hwake.2)), htick.trans hwake.2⟩

/-- **A run is made of moves**, and no frame is left after it. -/
theorem run_settles (steps : List Step) (ok : ∀ p ∈ steps, p.Obeys M) (sound : s.Sound)
    (quiet : s.running = []) : Settles M s (s.run steps) := by
  induction steps generalizing s with
  | nil => exact ⟨.refl, quiet⟩
  | cons p steps ih =>
    have hp := take_settles (ok p List.mem_cons_self) sound quiet
    exact hp.trans (ih (fun q hq => ok q (List.mem_cons_of_mem _ hq)) (sound.reaches hp.1) hp.2)

end Session

end TemplateClient
