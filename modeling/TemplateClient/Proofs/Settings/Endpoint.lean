import TemplateClient.Proofs.Text.Trimming
import TemplateClient.Settings.Basic

/-!
# Where a base leads

Requests go to a fixed path below the base. The slashes at the end of the base do not count, however
many they are; all else does, slashes inside the base and the path itself among it. So a base can be
told from the place that it leads to, up to the slashes at its end.

* `StemOf` -- a base without the slashes at its end;
* `stemOf_normalBase`, `StemOf.eq_normalBase` -- a base has one stem, and only one;
* `Settings.executeUrl_eq_append_iff` -- what stands in front of the path is the stem;
* `Settings.endpoint_of_stem` -- which bases lead to the same place.
-/

namespace TemplateClient

/-! ## 1. Stems -/

/-- The base is the stem and then slashes, of which none is left in the stem. -/
structure StemOf (base stem : String) : Prop where
  split : ∃ n, base.toList = stem.toList ++ List.replicate n '/'
  stop : stem.toList.getLast? ≠ some '/'

variable {base stem : String}

theorem StemOf.eq_normalBase (h : StemOf base stem) : stem = Settings.normalBase base := by
  obtain ⟨n, hsplit⟩ := h.split
  have inside : ∀ c ∈ List.replicate n '/', (c == '/') = true := fun c hc =>
    beq_iff_eq.mpr (List.eq_of_mem_replicate hc)
  have stop : ∀ c ∈ stem.toList.getLast?, (c == '/') = false := fun c hc =>
    beq_eq_false_iff_ne.mpr fun hslash => h.stop (hslash ▸ hc)
  rw [Settings.normalBase, hsplit, Text.dropEndWhile_append_run inside,
    Text.dropEndWhile_eq_self stop, String.ofList_toList]

/-- **Every base has a stem.** -/
theorem stemOf_normalBase (base : String) : StemOf base (Settings.normalBase base) := by
  obtain ⟨run, hrun, inside⟩ := Text.exists_append_dropEndWhile (· == '/') base.toList
  have hslashes : run = List.replicate run.length '/' :=
    List.eq_replicate_iff.mpr ⟨rfl, fun c hc => eq_of_beq (inside c hc)⟩
  constructor
  · exact ⟨run.length, by rw [Settings.normalBase, String.toList_ofList, ← hslashes, ← hrun]⟩
  · intro hlast
    rw [Settings.normalBase, String.toList_ofList] at hlast
    have hstop := Text.getLast_dropEndWhile '/' hlast
    exact absurd hstop (by decide)

theorem stemOf_iff : StemOf base stem ↔ stem = Settings.normalBase base :=
  ⟨StemOf.eq_normalBase, fun h => h ▸ stemOf_normalBase base⟩

/-- More slashes at its end leave a base its stem. -/
theorem StemOf.append_slashes (h : StemOf base stem) (n : Nat) :
    StemOf (base ++ String.ofList (List.replicate n '/')) stem := by
  obtain ⟨m, hsplit⟩ := h.split
  refine ⟨⟨m + n, ?_⟩, h.stop⟩
  rw [String.toList_append, String.toList_ofList, hsplit, List.append_assoc,
    List.replicate_append_replicate]

/-- A stem is its own stem. -/
theorem StemOf.self (h : StemOf base stem) : StemOf stem stem :=
  ⟨⟨0, (List.append_nil _).symm⟩, h.stop⟩

/-! ## 2. Places -/

namespace Settings

/-- **What stands in front of the path is the stem of the base.** -/
theorem executeUrl_eq_append_iff {s : Settings} {part : String} :
    s.executeUrl = part ++ "/api/execute" ↔ StemOf s.apiBase part := by
  rw [stemOf_iff, eq_comm (a := part)]
  exact String.append_left_inj "/api/execute"

example : ({ apiBase := "http://b/api/execute//" } : Settings).executeUrl =
    "http://b/api/execute/api/execute" := by decide

theorem executeUrl_eq_iff {s t : Settings} :
    s.executeUrl = t.executeUrl ↔ normalBase s.apiBase = normalBase t.apiBase :=
  String.append_left_inj executePath

/-- **Which bases lead to the same place**: those with the same stem, and no others. What stands in
front of the path, which comes last in every place, does not end with a slash; as a base it leads to
the same place again, and so does the base with any number of slashes more at its end. -/
theorem endpoint_of_stem (s t : Settings) :
    (s.executeUrl = t.executeUrl ↔ ∃ stem, StemOf s.apiBase stem ∧ StemOf t.apiBase stem) ∧
    (∀ part, s.executeUrl = part ++ "/api/execute" ↔ StemOf s.apiBase part) ∧
    (∃ part, s.executeUrl = part ++ "/api/execute" ∧ part.toList.getLast? ≠ some '/' ∧
      ({ s with apiBase := part } : Settings).executeUrl = s.executeUrl) ∧
    ∀ n, ({ s with apiBase := s.apiBase ++ String.ofList (List.replicate n '/') } :
      Settings).executeUrl = s.executeUrl := by
  have hstem := stemOf_normalBase s.apiBase
  refine ⟨?_, fun part => executeUrl_eq_append_iff, ⟨_, rfl, hstem.stop, ?_⟩, fun n => ?_⟩
  · rw [executeUrl_eq_iff]
    constructor
    · intro same
      exact ⟨_, hstem, same ▸ stemOf_normalBase t.apiBase⟩
    · rintro ⟨stem, ofS, ofT⟩
      exact ofS.eq_normalBase.symm.trans ofT.eq_normalBase
  · exact executeUrl_eq_iff.mpr hstem.self.eq_normalBase.symm
  · exact executeUrl_eq_iff.mpr (hstem.append_slashes n).eq_normalBase.symm

end Settings

end TemplateClient
