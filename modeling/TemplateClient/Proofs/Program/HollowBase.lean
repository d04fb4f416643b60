import TemplateClient.Proofs.Program.Ways
import TemplateClient.Proofs.Settings.Base

/-!
# Runs with a hollow base

A base of which nothing is left is no address, whether it is refused with the settings or let
through: nothing is posted, and the run fails. Only its message tells where the base came from.

* `Address.parse?_of_isHollow` -- a hollow base leads to no address;
* `Invocation.hollow_bases` -- which hollow bases are refused, which are let through, and what
  becomes of them.
-/

namespace TemplateClient

/-! ## 1. No address -/

/-- White space is no letter, in either case. -/
theorem Text.toLower_ne_of_isBlank {c : Char} (h : Text.isBlank c = true) : c.toLower ≠ 'h' := by
  intro hlower
  unfold Char.toLower at hlower
  split at hlower
  · next upper =>
    have low : 65 ≤ c.toNat := upper.1
    have high : c.toNat ≤ 90 := upper.2
    simp only [Text.isBlank, Bool.or_eq_true, Bool.and_eq_true, decide_eq_true_eq, beq_iff_eq] at h
    omega
  · subst hlower
    exact absurd h (by decide)

namespace Address

/-- The path of requests stays as it is behind white space, of which some does not count. -/
theorem clean_of_blank {blanks : List Char} (blank : ∀ c ∈ blanks, Text.isBlank c = true) :
    ∃ left, (∀ c ∈ left, Text.isBlank c = true) ∧
      clean (blanks ++ Settings.executePath.toList) = left ++ Settings.executePath.toList := by
  have hpath : Settings.executePath.toList = "/api/execut".toList ++ ['e'] := by decide
  have hfront : (blanks ++ Settings.executePath.toList).dropWhile (fun c => decide (c.toNat ≤ 0x20))
      = blanks.dropWhile (fun c => decide (c.toNat ≤ 0x20)) ++ Settings.executePath.toList := by
    rw [List.dropWhile_append]
    split
    · next hnone =>
      rw [List.isEmpty_iff.mp hnone, List.nil_append]
      decide
    · rfl
  have hends : Text.dropEndWhile (fun c => decide (c.toNat ≤ 0x20))
      (blanks.dropWhile (fun c => decide (c.toNat ≤ 0x20)) ++ Settings.executePath.toList) =
        blanks.dropWhile (fun c => decide (c.toNat ≤ 0x20)) ++ Settings.executePath.toList := by
    rw [hpath, ← List.append_assoc]
    exact Text.dropEndWhile_append_of_not (by decide) _
  have hkept : Settings.executePath.toList.filter (fun c => c != '\t' && c != '\n' && c != '\r') =
      Settings.executePath.toList := by decide
  refine ⟨(blanks.dropWhile (fun c => decide (c.toNat ≤ 0x20))).filter
    (fun c => c != '\t' && c != '\n' && c != '\r'), fun c hc => ?_, ?_⟩
  · have hmem : c ∈ blanks.dropWhile (fun c => decide (c.toNat ≤ 0x20)) := (List.mem_filter.mp hc).1
    exact blank c ((List.dropWhile_sublist _).subset hmem)
  · rw [clean, hfront, hends, List.filter_append, hkept]

/-- What begins with white space or a slash has no scheme. -/
theorem afterScheme?_of_blank {left : List Char} (blank : ∀ c ∈ left, Text.isBlank c = true) :
    afterScheme? (left ++ Settings.executePath.toList) = none := by
  have noScheme {n : Nat} {rest : List Char} :
      ((left ++ Settings.executePath.toList).take (n + 1)).map Char.toLower ≠ 'h' :: rest := by
    intro hscheme
    cases left with
    | nil => exact absurd (List.cons.inj hscheme).1 (by decide)
    | cons c cs =>
      rw [List.cons_append, List.take_succ_cons, List.map_cons] at hscheme
      exact Text.toLower_ne_of_isBlank (blank c List.mem_cons_self) (List.cons.inj hscheme).1
  unfold afterScheme?
  rw [if_neg noScheme, if_neg noScheme]

/-- **A hollow base leads to no address.** -/
theorem parse?_of_isHollow (toAscii? : String → Option String) {s : Settings}
    (hollow : IsHollow s.apiBase) : parse? toAscii? s.executeUrl = none := by
  obtain ⟨left, blank, hclean⟩ := clean_of_blank (Text.allBlank_iff.mp hollow)
  rw [parse?, Settings.executeUrl, String.toList_append, hclean, afterScheme?_of_blank blank]
  rfl

end Address

/-! ## 2. Runs -/

namespace Invocation

variable {i : Invocation} {c : CommandLine}

/-- What becomes of bases of which nothing is left. -/
structure HollowBases (i : Invocation) (c : CommandLine) : Prop where
  /-- Settings are refused for their base if a layer below the command line leaves a blank one. -/
  refused : i.settings c = .error (.settings .emptyBase) ↔ BaseRefused i c.config
  /-- Then the run says so, and posts nothing. -/
  reported : BaseRefused i c.config → ∀ net,
    i.run net = (.ofMessage "Configuration error: API base URL must not be empty", [])
  /-- Settings that are accepted have a hollow base if the command line gives one, or if it gives
  none and the layers below leave one in which a slash stands. -/
  passed : ∀ s, i.settings c = .ok s →
    (IsHollow s.apiBase ↔ (∃ base, c.apiBase = some base ∧ IsHollow base) ∨
      c.apiBase = none ∧ ∃ f e, Accepted i c.config f e ∧
        IsHollow (firstSet [e.apiBase, f.apiBase] "http://127.0.0.1:8080") ∧
        '/' ∈ (firstSet [e.apiBase, f.apiBase] "http://127.0.0.1:8080").toList)
  /-- Then the run posts nothing either; unless the template is blank, the service is reported to be
  unavailable. -/
  silent : ∀ s form, i.Loads c s form → IsHollow s.apiBase → ∀ net,
    i.run net = (.ofMessage
      (if Text.allBlank form.template then emptyTemplate else serviceUnavailable), [])

theorem run_of_refused (parses : CommandLine.parse i.args = .ok c)
    (refused : BaseRefused i c.config) (net : Network) :
    i.run net = (.ofMessage "Configuration error: API base URL must not be empty", []) := by
  have hsettings := settings_eq_emptyBase_iff.mpr refused
  have hplan : i.planOf c = .error (.settings .emptyBase) := by
    rw [planOf_eq, hsettings]
  have hmessage : Failure.message (.settings .emptyBase) =
      "Configuration error: API base URL must not be empty" := by decide
  rw [run_of_stop parses hplan, hmessage]

theorem run_of_hollow (parses : CommandLine.parse i.args = .ok c) {s : Settings}
    {form : FormValues} (loads : i.Loads c s form) (hollow : IsHollow s.apiBase) (net : Network) :
    i.run net = (.ofMessage
      (if Text.allBlank form.template then emptyTemplate else serviceUnavailable), []) := by
  cases hblank : Text.allBlank form.template with
  | true => exact run_of_blank parses loads.planOf_eq hblank
  | false =>
    have unusable := Address.parse?_of_isHollow net.toAscii? hollow
    rw [run_of_full parses loads.planOf_eq hblank, net.exchange_eq,
      Network.fetch_of_unusable unusable]
    rfl

/-- **Hollow bases.** A blank base below the command line is refused. A base of slashes is not, nor
is any base of the command line; but a hollow base is never posted to. -/
theorem hollow_bases (parses : CommandLine.parse i.args = .ok c) : HollowBases i c where
  refused := settings_eq_emptyBase_iff
  reported := run_of_refused parses
  passed := fun _ loads => isHollow_apiBase_iff loads
  silent := fun _ _ loads hollow => run_of_hollow parses loads hollow

/-- An empty base on the command line is let through. -/
theorem hollow_bases_empty_flag :
    let disk : Disk := ⟨fun _ => .error .notFound, fun _ => false⟩
    let i : Invocation :=
      { args := ["-t", "-", "--api-base", ""], disk, input := "x".toUTF8, userFile := "" }
    let c : CommandLine := { template := "-", apiBase := some "" }
    CommandLine.parse i.args = .ok c ∧ i.Loads c { apiBase := "" } { template := "x" } ∧
      IsHollow "" ∧ ∀ net, i.run net = (.ofMessage serviceUnavailable, []) := by
  intro disk i c
  have parses : CommandLine.parse i.args = .ok c := rfl
  have loads : i.Loads c { apiBase := "" } { template := "x" } :=
    ⟨by decide +kernel, by decide +kernel⟩
  have hollow : IsHollow "" := by
    unfold IsHollow
    decide
  have full : ¬ Text.allBlank "x" = true := by decide
  refine ⟨parses, loads, hollow, fun net => ?_⟩
  have silent := (hollow_bases parses).silent _ _ loads hollow net
  rw [if_neg full] at silent
  exact silent

end Invocation

end TemplateClient
