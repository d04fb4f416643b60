import TemplateClient.Proofs.Session.Flag
import TemplateClient.Proofs.Session.Runs

/-!
# The flag and the overlay

The flag, the guard of a submission and the overlay are changed in different places: by taking the
flag, by the end of a submission, by a panic that unwinds it, and by dropping a task that waits.
They stay together all the same, as long as only submissions switch the page.

* `Session.switches` -- the calls that block and unblock the page, in order;
* `Session.Switched`, `Switched.reaches` -- the switches alternate, and the overlay follows them;
* `flagAgrees_throughout` -- the flag, its holder and the overlay at every point of every run.
-/

namespace TemplateClient

namespace Session

/-! ## 1. Switches -/

/-- The calls that block or unblock the page, in order. -/
def switches (s : Session) : List Call := s.calls.filter Call.isSwitch

/-- Blocking and unblocking `n` times in turn, and blocking once more if `on`. -/
def alternation : Nat → Bool → List Call
  | 0, on => if on then [.block] else []
  | n + 1, on => .block :: .unblock :: alternation n on

theorem alternation_block (n : Nat) : alternation n false ++ [.block] = alternation n true := by
  induction n with
  | zero => rfl
  | succ n ih => simp only [alternation, List.cons_append, ih]

theorem alternation_unblock (n : Nat) :
    alternation n true ++ [.unblock] = alternation (n + 1) false := by
  induction n with
  | zero => rfl
  | succ n ih =>
    rw [alternation, List.cons_append, List.cons_append, ih]
    rfl

theorem count_block_alternation (n : Nat) (on : Bool) :
    (alternation n on).count .block = n + on.toNat := by
  induction n with
  | zero => cases on <;> rfl
  | succ n ih =>
    have h : (alternation (n + 1) on).count .block = (alternation n on).count .block + 1 := by
      simp [alternation]
    omega

theorem count_unblock_alternation (n : Nat) (on : Bool) :
    (alternation n on).count .unblock = n := by
  induction n with
  | zero => cases on <;> rfl
  | succ n ih =>
    have h : (alternation (n + 1) on).count .unblock = (alternation n on).count .unblock + 1 := by
      simp [alternation]
    omega

/-- The switches of a kind are counted among the calls. -/
theorem count_switches {s : Session} {c : Call} (h : c.isSwitch = true) :
    s.switches.count c = s.calls.count c :=
  List.count_filter h

/-! ## 2. What the calls of a frame add -/

variable {M : Surroundings} {s s' : Session} {f : Frame}

theorem calls_own {actor : Option TaskId} {seen : List Seen} (own : ∀ x ∈ seen, x.IsOwn actor) :
    (seen.map (Entry.mk actor)).filterMap Entry.call? = [] := by
  refine List.filterMap_eq_nil_iff.mpr fun e he => ?_
  obtain ⟨x, hx, rfl⟩ := List.mem_map.mp he
  cases x with
  | call c => exact absurd (own _ hx) id
  | _ => rfl

theorem calls_callEntries (s : Session) (actor : Option TaskId) (c : Call) :
    (s.callEntries actor c).filterMap Entry.call? = [c] := by
  have h : ((s.sideEffects c).map (Entry.mk actor)).filterMap Entry.call? = [] := by
    refine List.filterMap_eq_nil_iff.mpr fun e he => ?_
    obtain ⟨x, hx, rfl⟩ := List.mem_map.mp he
    rcases sideEffects_cases s c x hx with ⟨r, rfl⟩ | ⟨p, rfl⟩ <;> rfl
  rw [callEntries, List.filterMap_cons, h]
  rfl

/-- What a frame adds of its own switches nothing. -/
theorem switches_own {actor : Option TaskId} {seen : List Seen}
    (h : s'.trace = s.trace ++ seen.map (Entry.mk actor)) (own : ∀ x ∈ seen, x.IsOwn actor) :
    s'.switches = s.switches := by
  rw [switches, switches, calls_of_trace h, calls_own own, List.append_nil]

theorem switches_call {actor : Option TaskId} {c : Call}
    (h : s'.trace = s.trace ++ s.callEntries actor c) :
    s'.switches = s.switches ++ [c].filter Call.isSwitch := by
  rw [switches, switches, calls_of_trace h, calls_callEntries, List.filter_append]

/-! ## 3. The invariant -/

/-- The switches alternate, the flag tells which comes next, and the overlay follows the flag. -/
structure Switched (s : Session) : Prop where
  discreet : ∀ f ∈ s.running, ∀ c ∈ f.work.calls, c.isSwitch = false
  switches : ∃ n, s.switches = alternation n s.inFlight
  blocked : s.overlay.isBlocked = (s.hasClock && s.inFlight)

theorem isBlocked_after {c : Call} {hasClock : Bool} (o : Overlay) (h : c.isSwitch = false) :
    (o.after hasClock c).isBlocked = o.isBlocked := by
  cases c <;> first | rfl | cases h

theorem isBlocked_block {hasClock : Bool} {o : Overlay} (h : o.isBlocked = false) :
    (o.after hasClock .block).isBlocked = (hasClock && true) := by
  cases hasClock with
  | true => rfl
  | false => exact h

/-- A frame has gone on and has switched nothing. -/
theorem Switched.replace {work : Work} (h : Switched { s with running := f :: s.running })
    (leads : f.work.Leads work) (running : s'.running = { f with work } :: s.running)
    (flag : s'.inFlight = s.inFlight) (switches : s'.switches = s.switches)
    (blocked : s'.overlay.isBlocked = s.overlay.isBlocked) (clock : s'.hasClock = s.hasClock) :
    Switched s' := by
  refine ⟨?_, ?_, ?_⟩
  · rw [running]
    intro g hg c hc
    rcases List.mem_cons.mp hg with rfl | hg
    · rcases leads.calls c hc with hc | hc
      · exact h.discreet f List.mem_cons_self c hc
      · exact hc
    · exact h.discreet g (List.mem_cons_of_mem _ hg) c hc
  · rw [switches, flag]
    exact h.switches
  · rw [blocked, clock, flag]
    exact h.blocked

/-- Taking the flag blocks the page, and dropping the guard unblocks it. A guard is dropped only
while the flag is set. -/
theorem Switched.effect {armed : List (Method × Reaction)}
    (held : holders { s with running := f :: s.running } ≤ s.inFlight.toNat)
    (h : Switched { s with running := f :: s.running }) (heff : Effect armed f s s') :
    Switched s' := by
  have hdiscreet : ∀ g ∈ s.running, ∀ c ∈ g.work.calls, c.isSwitch = false :=
    fun g hg => h.discreet g (List.mem_cons_of_mem _ hg)
  obtain ⟨n, hn⟩ := h.switches
  have hb : s.overlay.isBlocked = (s.hasClock && s.inFlight) := h.blocked
  cases heff with
  | proceed seen replies work own _ leads =>
    exact h.replace leads rfl rfl (switches_own rfl own) rfl rfl
  | call c work mem leads =>
    have hc : c.isSwitch = false := h.discreet f List.mem_cons_self c mem
    refine h.replace leads rfl rfl ?_ (isBlocked_after s.overlay hc) rfl
    rw [switches_call rfl, List.filter_cons_of_neg (by simp [hc]), List.filter_nil, List.append_nil]
  | take work free unguarded holds calls task =>
    rw [show s.inFlight = false from free] at hn
    refine ⟨?_, ⟨n, ?_⟩, ?_⟩
    · intro g hg c hc
      rcases List.mem_cons.mp hg with rfl | hg
      · exact calls c hc
      · exact hdiscreet g hg c hc
    · rw [switches_call rfl]
      exact (congrArg (· ++ [Call.block]) hn).trans (alternation_block n)
    · rw [free, Bool.and_false] at hb
      exact isBlocked_block hb
  | release work guarded unguarded calls side =>
    have hflag : s.inFlight = true := by
      rw [holders_cons, guarded, Bool.toNat_true] at held
      cases hf : s.inFlight with
      | true => rfl
      | false => simp [hf] at held
    rw [show s.inFlight = true from hflag] at hn
    refine ⟨?_, ⟨n + 1, ?_⟩, (Bool.and_false _).symm⟩
    · intro g hg c hc
      rcases List.mem_cons.mp hg with rfl | hg
      · rw [calls] at hc
        cases hc
      · exact hdiscreet g hg c hc
    · rw [switches_call rfl]
      exact (congrArg (· ++ [Call.unblock]) hn).trans (alternation_unblock n)
  | wait task guarded seen actor work pending =>
    have own := isOwn_of_pending actor pending
    exact ⟨hdiscreet, ⟨n, (switches_own rfl own).trans hn⟩, hb⟩
  | leave seen own unguarded =>
    exact ⟨hdiscreet, ⟨n, (switches_own rfl own).trans hn⟩, hb⟩

/-! ## 4. Every move keeps the invariant -/

/-- A frame that switches nothing may start at any time. -/
theorem Switched.enter (h : Switched s) (discreet : ∀ c ∈ f.work.calls, c.isSwitch = false) :
    Switched (s.enter f) := by
  refine ⟨?_, h.switches, h.blocked⟩
  intro g hg c hc
  rcases List.mem_cons.mp hg with rfl | hg
  · exact discreet c hc
  · exact h.discreet g hg c hc

theorem Switched.launch (via : Via) {work : Work} (h : Switched s)
    (discreet : ∀ c ∈ work.calls, c.isSwitch = false) : Switched (s.launch via work) :=
  have h' := h.enter (f := ⟨some s.nextTask, true, via, true, work⟩) discreet
  ⟨h'.discreet, h'.switches, h'.blocked⟩

theorem Switched.start (t : Trigger) (h : Switched s) : Switched (s.start t) :=
  h.launch _ (workOf_begins s t).2.1

theorem Switched.step (sound : s.Sound) (held : s.holders ≤ s.inFlight.toNat) (h : Switched s)
    (hstep : s.step? = some s') : Switched s' := by
  obtain ⟨f, running, hr, -, hooks, -, s₁, heff, hcase⟩ := sound.stepsTo hstep
  have hframe : Switched { s with hooks, running := f :: running } := by
    rw [← hr]
    exact ⟨h.discreet, h.switches, h.blocked⟩
  have hheld : holders { s with hooks, running := f :: running } ≤ s.inFlight.toNat := by
    rw [← hr]
    exact held
  have hs₁ : Switched s₁ := Switched.effect (s := { s with hooks, running }) hheld hframe heff
  rcases hcase with heq | ⟨_, t, _, _, heq⟩
  · rw [heq]
    exact hs₁
  · rw [heq]
    exact hs₁.start t

theorem switches_note {seen : Seen} (h : seen.call? = none) :
    (s.note none seen).switches = s.switches := by
  have hnil : [(⟨none, seen⟩ : Entry)].filterMap Entry.call? = [] := by
    simp [Entry.call?, h]
  rw [switches, switches, calls_of_trace rfl, hnil, List.append_nil]

theorem Switched.note {seen : Seen} (h : Switched s) (silent : seen.call? = none) :
    Switched (s.note none seen) := by
  obtain ⟨n, hn⟩ := h.switches
  exact ⟨h.discreet, ⟨n, (switches_note silent).trans hn⟩, h.blocked⟩

theorem Switched.abandon (task : TaskId) (h : Switched s) : Switched (s.abandon task) := by
  have hnote : Switched ((s.remove task).note none (.task task .dropped)) :=
    Switched.note (s := s.remove task) ⟨h.discreet, h.switches, h.blocked⟩ rfl
  unfold Session.abandon
  split
  · exact h.note rfl
  · dsimp only
    split
    · exact hnote.enter fun c hc => absurd hc List.not_mem_nil
    · exact hnote

/-- Timers log at most a notice, and a timer that runs out is still the timer of its block. -/
theorem Switched.runTimer {change : Overlay → Overlay × Bool} (h : Switched s)
    (blocked : ∀ o, (change o).1.isBlocked = o.isBlocked) : Switched (s.runTimer change) := by
  have h' : Switched { s with overlay := (change s.overlay).1 } :=
    ⟨h.discreet, h.switches, (blocked s.overlay).trans h.blocked⟩
  unfold Session.runTimer
  dsimp only
  split
  · exact h'.note rfl
  · exact h'

theorem isBlocked_wake (now : Nat) (o : Overlay) : (o.wake now).1.isBlocked = o.isBlocked := by
  unfold Overlay.wake
  split
  · next ht => split <;> simp [Overlay.isBlocked, ht]
  · rfl

theorem isBlocked_tick (now : Nat) (o : Overlay) : (o.tick now).1.isBlocked = o.isBlocked := by
  unfold Overlay.tick
  split
  · next ht => split <;> simp [Overlay.isBlocked, ht]
  · rfl

/-- **Every move keeps the switches in turn** if the page is switched by submissions only. -/
theorem Switched.move (only : ∀ c, M.calls c → c.isSwitch = false) (sound : s.Sound)
    (held : s.holders ≤ s.inFlight.toNat) (h : Switched s) (hm : Move M s s') : Switched s' := by
  cases hm with
  | step hstep => exact h.step sound held hstep
  | trigger t => exact h.start t
  | execute values => exact h.launch _ fun _ hc => nomatch hc
  | resume w mem =>
    exact Switched.enter (s := s.remove w.task) ⟨h.discreet, h.switches, h.blocked⟩
      fun _ hc => nomatch hc
  | abandon task => exact h.abandon task
  | address calls ok => exact h.enter fun c hc => only c (ok c hc)
  | wake => exact h.runTimer (isBlocked_wake _)
  | tick => exact h.runTimer (isBlocked_tick _)
  | _ => exact ⟨h.discreet, h.switches, h.blocked⟩

theorem switched_of_isFresh (h : s.IsFresh) : Switched s := by
  rw [h]
  exact ⟨by simp, ⟨0, rfl⟩, (Bool.and_false _).symm⟩

theorem Switched.reaches (only : ∀ c, M.calls c → c.isSwitch = false) (reg : Regular M s)
    (h : Switched s) (hr : s.Reaches M s') : Switched s' :=
  reg.keeps hr h fun _ _ reg h hm => h.move only reg.sound reg.held hm

/-! ## 5. Runs in which everything re-enters and panics -/

/-- What the flag tells of a session: whether a submission is between taking the flag and giving it
back, and whether the page is blocked. -/
structure FlagAgrees (hasClock : Bool) (s : Session) : Prop where
  holders_le_one : s.holders ≤ 1
  inFlight_iff : s.inFlight = true ↔ s.holders = 1
  balance : s.calls.count .block = s.calls.count .unblock + s.inFlight.toNat
  alternate : ∃ n, s.switches = alternation n s.inFlight
  blocked : s.overlay.isBlocked = (hasClock && s.inFlight)

theorem Switched.flagAgrees (h : Switched s) (held : s.holders = s.inFlight.toNat) :
    FlagAgrees s.hasClock s := by
  obtain ⟨n, hn⟩ := h.switches
  refine ⟨?_, ?_, ?_, ⟨n, hn⟩, h.blocked⟩
  · rw [held]
    exact Bool.toNat_le _
  · rw [held]
    cases s.inFlight <;> simp
  · have hblock := count_block_alternation n s.inFlight
    have hunblock := count_unblock_alternation n s.inFlight
    rw [← hn, count_switches rfl] at hblock hunblock
    omega

/-- **The flag, the guard and the overlay agree at every point of every run**: between the steps of
a run, at the end of each call, and in the middle of a submission that a collaborator starts. -/
theorem flagAgrees_throughout {s₀ : Session} (fresh : s₀.IsFresh) :
    (∀ s, s₀.Reaches .reentrant s → FlagAgrees s₀.hasClock s) ∧
      ∀ steps : List Step, (∀ p ∈ steps, p.Obeys .reentrant) →
        FlagAgrees s₀.hasClock (s₀.run steps) := by
  have reg : Regular .reentrant s₀ := regular_of_isFresh fresh
  have hreach : ∀ s, s₀.Reaches .reentrant s → FlagAgrees s₀.hasClock s := by
    intro s hr
    have hswitched := (switched_of_isFresh fresh).reaches (fun c hc => hc) reg hr
    have hblock : ∀ message, ¬ Surroundings.reentrant.reacts .block (.panic message) :=
      fun message hpanic => hpanic message rfl rfl
    rw [← hasClock_reaches reg.sound hr]
    exact hswitched.flagAgrees (holders_eq_reaches hblock reg (holders_of_isFresh fresh) hr)
  have quiet : s₀.running = [] := by rw [fresh]
  exact ⟨hreach, fun steps ok => hreach _ (run_settles steps ok reg.sound quiet).1⟩

/-- A getter starts a second submission, which takes the flag before the first one comes to it, and
the field that is fitted to the answer panics. -/
theorem flagAgrees_second_submission :
    let s₀ : Session := { form := { template := "x" } }
    let p : Step := { hooks := [(.read .locale, .start .submit)], action := .trigger .submit }
    let q : Step :=
      { hooks := [(.update, .panic "too long")],
        replies := [.answer (.error (.noAnswer "no route"))], action := .poll }
    (s₀.run [p]).inFlight = true ∧ (s₀.run [p, q]).inFlight = false ∧
      FlagAgrees true (s₀.run [p]) ∧ FlagAgrees true (s₀.run [p, q]) ∧
      FlagAgrees true (steps 12 ((s₀.arm (.read .locale, .start .submit)).start .submit)) := by
  intro s₀ p q
  have fresh : s₀.IsFresh := rfl
  have hp : p.Obeys .reentrant :=
    ⟨by simp [p, Surroundings.reentrant], by simp [p], trivial⟩
  have hq : q.Obeys .reentrant :=
    ⟨by simp [q, Surroundings.reentrant], by simp [q, Surroundings.reentrant], trivial⟩
  have hr : s₀.Reaches .reentrant
      (steps 12 ((s₀.arm (.read .locale, .start .submit)).start .submit)) :=
    (steps_reaches 12 _).head (.trigger .submit (.inr trivial)) |>.head
      (.arm _ (by simp [Surroundings.reentrant]))
  refine ⟨by decide, by decide, ?_, ?_, ?_⟩
  · exact (flagAgrees_throughout fresh).2 [p] (by simpa using hp)
  · exact (flagAgrees_throughout fresh).2 [p, q] (by simpa using ⟨hp, hq⟩)
  · exact (flagAgrees_throughout fresh).1 _ hr

end Session

end TemplateClient
