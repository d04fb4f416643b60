import TemplateClient.Session.Run

/-!
# What a trace tells

A trace holds everything that was seen of a session. The theorems about sessions speak of some
parts of it.

* `Session.calls` -- the calls of widgets, whoever made them;
* `Session.deeds` -- what one task did to the widgets and to the service, in order;
* `Session.fate?` -- how a task stands.
-/

namespace TemplateClient

/-! ## 1. Parts of an entry -/

/-- What a task does to the widgets and to the service. -/
inductive Deed where
  | call (call : Call)
  | request (values : FormValues)
deriving DecidableEq, Repr

namespace Seen

/-- The call that is seen, if one is. -/
def call? : Seen → Option Call
  | .call c => some c
  | _ => none

/-- The deed that is seen, if one is. -/
def deed? : Seen → Option Deed
  | .call c => some (.call c)
  | .request values => some (.request values)
  | _ => none

/-- The state of the task `k` that is seen, if one is. A request to drop a task that is not there
tells nothing about it. -/
def stateOf? (k : TaskId) : Seen → Option TaskState
  | .task _ .unknown => none
  | .task j state => if j = k then some state else none
  | _ => none

end Seen

namespace Entry

/-- The call of an entry. -/
def call? (e : Entry) : Option Call := e.seen.call?

/-- The deed of an entry, if the task `k` did it. -/
def deedOf? (k : TaskId) (e : Entry) : Option Deed :=
  if e.actor = some k then e.seen.deed? else none

/-- The state of the task `k` in an entry. -/
def stateOf? (k : TaskId) (e : Entry) : Option TaskState := e.seen.stateOf? k

theorem deedOf?_of_ne {k : TaskId} {e : Entry} (h : e.actor ≠ some k) : e.deedOf? k = none :=
  if_neg h

end Entry

/-! ## 2. Parts of a trace -/

namespace Session

/-- The calls of widgets so far, in order. -/
def calls (s : Session) : List Call := s.trace.filterMap Entry.call?

/-- What the task `k` has done to the widgets and to the service so far, in order. -/
def deeds (k : TaskId) (s : Session) : List Deed := s.trace.filterMap (Entry.deedOf? k)

/-- How the task `k` stands; nothing before it has waited or ended. -/
def fate? (k : TaskId) (s : Session) : Option TaskState :=
  (s.trace.filterMap (Entry.stateOf? k)).getLast?

/-! ## 3. Longer traces -/

variable {s s' : Session} {es : List Entry} {k : TaskId}

theorem calls_of_trace (h : s'.trace = s.trace ++ es) :
    s'.calls = s.calls ++ es.filterMap Entry.call? := by
  rw [calls, calls, h, List.filterMap_append]

theorem deeds_of_trace (h : s'.trace = s.trace ++ es) :
    s'.deeds k = s.deeds k ++ es.filterMap (Entry.deedOf? k) := by
  rw [deeds, deeds, h, List.filterMap_append]

/-- Entries of others are no deeds of a task. -/
theorem deeds_of_trace_of_ne (h : s'.trace = s.trace ++ es) (hes : ∀ e ∈ es, e.actor ≠ some k) :
    s'.deeds k = s.deeds k := by
  have hnil : es.filterMap (Entry.deedOf? k) = [] :=
    List.filterMap_eq_nil_iff.mpr fun e he => Entry.deedOf?_of_ne (hes e he)
  rw [deeds_of_trace h, hnil, List.append_nil]

/-- New entries that are no deeds add none. -/
theorem deeds_of_silent (h : s'.trace = s.trace ++ es) (hes : ∀ e ∈ es, e.seen.deed? = none) :
    s'.deeds k = s.deeds k := by
  have hnil : es.filterMap (Entry.deedOf? k) = [] := by
    refine List.filterMap_eq_nil_iff.mpr fun e he => ?_
    rw [Entry.deedOf?, hes e he, ite_self]
  rw [deeds_of_trace h, hnil, List.append_nil]

theorem deeds_of_silent_entry {e : Entry} (h : s'.trace = s.trace ++ [e])
    (silent : e.seen.deed? = none) : s'.deeds k = s.deeds k :=
  deeds_of_silent h fun e' he => by rw [List.mem_singleton.mp he, silent]

/-- The last of the new entries that tells how a task stands counts. -/
theorem fate?_of_trace (h : s'.trace = s.trace ++ es) :
    s'.fate? k = (es.filterMap (Entry.stateOf? k)).getLast?.or (s.fate? k) := by
  rw [fate?, fate?, h, List.filterMap_append, List.getLast?_append]

/-- A task stands as was seen last. -/
theorem fate?_of_task {state : TaskState} {actor : Option TaskId} (known : state ≠ .unknown)
    (h : s'.trace = s.trace ++ [⟨actor, .task k state⟩]) : s'.fate? k = some state := by
  have hstate : Entry.stateOf? k ⟨actor, .task k state⟩ = some state := by
    cases state <;> first | exact absurd rfl known | exact if_pos rfl
  rw [fate?_of_trace h, List.filterMap_cons, hstate]
  rfl

/-- New entries that do not mention a task leave its fate alone. -/
theorem fate?_of_trace_of_none (h : s'.trace = s.trace ++ es)
    (hes : ∀ e ∈ es, e.stateOf? k = none) : s'.fate? k = s.fate? k := by
  rw [fate?_of_trace h, List.filterMap_eq_nil_iff.mpr hes]
  rfl

end Session

end TemplateClient
