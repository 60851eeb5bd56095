import GraphLens.Proofs.Frames
import Mathlib.Data.List.Induction

namespace GraphLens

open RecordingSurface

variable {α : Type} [Scalar α]

/-- What a canvas keeps: the current matrix, and below it the saved ones, newest first. There is
always a current one. -/
structure MatrixStack (α : Type) where
  top : Affine α
  below : List (Affine α)

namespace MatrixStack

def bare : MatrixStack α := ⟨.identity, []⟩

def toList (m : MatrixStack α) : List (Affine α) := m.top :: m.below

def times (m : MatrixStack α) (n : Affine α) : MatrixStack α := ⟨m.top * n, m.below⟩

/-- A matrix that is the only one is not given up. -/
def drop (m : MatrixStack α) : MatrixStack α :=
  match m.below with
  | [] => m
  | saved :: below => ⟨saved, below⟩

def after (m : MatrixStack α) : Surface.Call α (ImageHandle α) → MatrixStack α
  | .save => ⟨m.top, m.toList⟩
  | .restore => m.drop
  | .translate v => m.times (.shift v)
  | .scale sx sy => m.times (.scaling sx sy)
  | .rotate angle => m.times (.rotation angle)
  | .transform n => m.times n
  | .setTransform n => ⟨n, m.below⟩
  | .clearRect _ | .drawImage _ _ => m

def run (m : MatrixStack α) (calls : List (Surface.Call α (ImageHandle α))) : MatrixStack α :=
  calls.foldl after m

def snapshot (m : MatrixStack α) : Snapshot α := ⟨m.top, m.toList.length - 1⟩

theorem run_concat (m : MatrixStack α) (calls : List (Surface.Call α (ImageHandle α)))
    (call : Surface.Call α (ImageHandle α)) : m.run (calls ++ [call]) = (m.run calls).after call :=
  List.foldl_append

theorem run_append (m : MatrixStack α) (calls more : List (Surface.Call α (ImageHandle α))) :
    m.run (calls ++ more) = (m.run calls).run more :=
  List.foldl_append

theorem after_of_isDraw {call : Surface.Call α (ImageHandle α)} (h : call.isDraw = true)
    (m : MatrixStack α) : m.after call = m := by
  cases call <;> first | rfl | cases h

theorem length_below_after_le (m : MatrixStack α) (call : Surface.Call α (ImageHandle α)) :
    (m.after call).below.length ≤ m.below.length + 1 := by
  obtain ⟨top, below⟩ := m
  cases call with
  | save => exact Nat.le_refl _
  | restore =>
      cases below with
      | nil => exact Nat.le_succ _
      | cons saved below =>
          change below.length ≤ below.length + 1 + 1
          omega
  | translate | scale | rotate | transform | setTransform | clearRect | drawImage =>
      exact Nat.le_succ _

theorem length_below_run_le (m : MatrixStack α) (calls : List (Surface.Call α (ImageHandle α))) :
    (m.run calls).below.length ≤ m.below.length + calls.length := by
  induction calls generalizing m with
  | nil => exact Nat.le_refl _
  | cons call calls ih =>
      have hcall := m.length_below_after_le call
      have hcalls := ih (m.after call)
      rw [List.length_cons]
      change ((m.after call).run calls).below.length ≤ _
      omega

end MatrixStack

namespace RecordingSurface

inductive Act (α : Type) where
  | perform (call : Surface.Call α (ImageHandle α))
  | clearEvents

def Act.call? : Act α → Option (Surface.Call α (ImageHandle α))
  | .perform call => some call
  | .clearEvents => none

def after (s : RecordingSurface α) : Act α → RecordingSurface α
  | .perform call => DrawingSurface.perform s call
  | .clearEvents => s.clearEvents

def run (s : RecordingSurface α) (acts : List (Act α)) : RecordingSurface α := acts.foldl after s

def calls (acts : List (Act α)) : List (Surface.Call α (ImageHandle α)) := acts.filterMap Act.call?

/-- The surface holds what the stack of matrices holds, and knows how many it has saved. -/
structure Models (s : RecordingSurface α) (m : MatrixStack α) : Prop where
  transform : s.state.transform = m.top
  stack : s.stack.map (·.transform) = m.below
  depth : s.DepthKept

theorem models_ofSize (size : Size α) : Models (ofSize size) .bare := ⟨rfl, rfl, rfl⟩

section

variable {s : RecordingSurface α} {m : MatrixStack α}

theorem Models.perform (h : Models s m) (call : Surface.Call α (ImageHandle α)) :
    Models (DrawingSurface.perform s call) (m.after call) := by
  obtain ⟨top, below⟩ := m
  obtain ⟨size, ⟨transform, depth⟩, stack, events⟩ := s
  obtain ⟨htransform, hstack, hdepth⟩ := h
  cases htransform
  cases hstack
  cases call with
  | restore =>
      cases stack with
      | nil => exact ⟨rfl, rfl, rfl⟩
      | cons saved stack => exact ⟨rfl, rfl, rfl⟩
  | save | translate | scale | rotate | transform | setTransform | clearRect | drawImage =>
      exact ⟨rfl, rfl, hdepth.perform _⟩

theorem Models.performAll (h : Models s m) (calls : List (Surface.Call α (ImageHandle α))) :
    Models (calls.foldl DrawingSurface.perform s) (m.run calls) := by
  induction calls generalizing s m with
  | nil => exact h
  | cons call calls ih => exact ih (h.perform call)

theorem Models.run (h : Models s m) (acts : List (Act α)) :
    Models (s.run acts) (m.run (calls acts)) := by
  induction acts generalizing s m with
  | nil => exact h
  | cons act acts ih =>
      cases act with
      | perform call => exact ih (h.perform call)
      | clearEvents =>
          have kept : Models s.clearEvents m := ⟨h.transform, h.stack, h.depth⟩
          exact ih kept

omit [Scalar α] in
theorem Models.state_eq (h : Models s m) (shallow : m.below.length < Nat.pow 2 32) :
    s.state = m.snapshot := by
  have hlength : s.stack.length = m.below.length := by rw [← h.stack, List.length_map]
  have hlimit : depthLimit = Nat.pow 2 32 - 1 := rfl
  have hdepth : s.state.depth = m.below.length := by
    rw [h.depth, depthOf, hlength]
    omega
  have hstate : s.state = ⟨s.state.transform, s.state.depth⟩ := rfl
  rw [hstate, h.transform, hdepth]
  rfl

theorem getElem?_entries (s : RecordingSurface α) (calls : List (Surface.Call α (ImageHandle α)))
    (i : Nat) :
    (s.entries calls)[i]? = calls[i]?.map fun call =>
      ⟨call, ((calls.take (i + 1)).foldl DrawingSurface.perform s).state⟩ := by
  induction calls generalizing s i with
  | nil => rfl
  | cons call calls ih =>
      cases i with
      | zero => rfl
      | succ i => exact ih (DrawingSurface.perform s call) i

theorem map_call_entries (s : RecordingSurface α)
    (calls : List (Surface.Call α (ImageHandle α))) : (s.entries calls).map (·.call) = calls := by
  induction calls generalizing s with
  | nil => rfl
  | cons call calls ih => exact congrArg (call :: ·) (ih (DrawingSurface.perform s call))

def Cleared (acts : List (Act α)) : Prop := acts = [] ∨ acts.getLast? = some .clearEvents

omit [Scalar α] in
theorem exists_cleared (acts : List (Act α)) :
    ∃ (before : List (Act α)) (since : List (Surface.Call α (ImageHandle α))),
      acts = before ++ since.map .perform ∧ Cleared before := by
  induction acts using List.reverseRecOn with
  | nil => exact ⟨[], [], rfl, .inl rfl⟩
  | append_singleton acts act ih =>
      cases act with
      | perform call =>
          obtain ⟨before, since, rfl, cleared⟩ := ih
          exact ⟨before, since ++ [call], by simp, cleared⟩
      | clearEvents => exact ⟨acts ++ [.clearEvents], [], by simp, .inr (by simp)⟩

theorem events_run_of_cleared {acts : List (Act α)} (h : Cleared acts) (size : Size α) :
    ((ofSize size).run acts).events = #[] := by
  rcases h with rfl | hlast
  · rfl
  · obtain ⟨before, rfl⟩ := List.getLast?_eq_some_iff.mp hlast
    rw [run, List.foldl_append]
    rfl

theorem run_append_map_perform (s : RecordingSurface α) (acts : List (Act α))
    (since : List (Surface.Call α (ImageHandle α))) :
    s.run (acts ++ since.map .perform) = since.foldl DrawingSurface.perform (s.run acts) := by
  rw [run, List.foldl_append, List.foldl_map]
  rfl

omit [Scalar α] in
theorem calls_append_map_perform (acts : List (Act α))
    (since : List (Surface.Call α (ImageHandle α))) :
    calls (acts ++ since.map .perform) = calls acts ++ since := by
  rw [calls, List.filterMap_append, List.filterMap_map]
  exact congrArg _ List.filterMap_some

omit [Scalar α] in
theorem image?_eq_some_iff {call : Surface.Call α (ImageHandle α)} {image : ImageHandle α} :
    call.image? = some image ↔ ∃ origin, call = .drawImage image origin := by
  cases call <;> simp [Surface.Call.image?]

omit [Scalar α] in
theorem lastImage_eq_some_iff {s : RecordingSurface α} {image : ImageHandle α} :
    s.lastImage = some image ↔ ∃ earlier origin later,
      s.recorded = earlier ++ .drawImage image origin :: later ∧ ∀ c ∈ later, c.image? = none := by
  have hlast : s.lastImage = s.recorded.reverse.findSome? (·.image?) := by
    rw [lastImage, recorded, ← @Array.toArray_toList _ s.events, List.filterMap_toArray,
      List.back?_toArray, ← List.getLast?_filterMap, List.filterMap_map]
    rfl
  rw [hlast, List.findSome?_eq_some_iff]
  constructor
  · rintro ⟨later, call, earlier, hsplit, hcall, hlater⟩
    obtain ⟨origin, rfl⟩ := image?_eq_some_iff.mp hcall
    refine ⟨earlier.reverse, origin, later.reverse, ?_, ?_⟩
    · rw [← List.reverse_reverse s.recorded, hsplit]
      simp
    · simpa using hlater
  · rintro ⟨earlier, origin, later, hsplit, hlater⟩
    exact ⟨later.reverse, .drawImage image origin, earlier.reverse, by simp [hsplit], rfl,
      by simpa using hlater⟩

end

/-- After any calls to a fresh surface, with any numbers, and with its record cleared at any times,
the surface has the matrices of the stack and knows how many are saved. On its record are the
calls since it was cleared last, each with the stack as it was after that call; a drawing leaves
the stack alone. The last image is that of the last drawing among them. -/
theorem surface_and_record_follow_matrix_stack (size : Size α) (acts : List (Act α))
    (shallow : ∀ before, before <+: calls acts →
      (MatrixStack.bare.run before).below.length < Nat.pow 2 32) :
    let s := (ofSize size).run acts
    let m := MatrixStack.bare.run (calls acts)
    (s.state.transform = m.top ∧ s.stack.map (·.transform) = m.below ∧
      s.state.depth = m.toList.length - 1) ∧
    ∃ before since, acts = before ++ since.map .perform ∧ Cleared before ∧
      s.recorded = since ∧
      (∀ (i : Nat) (e : Event α), s.events[i]? = some e →
        let earlier := MatrixStack.bare.run (calls before ++ since.take i)
        let now := MatrixStack.bare.run (calls before ++ since.take (i + 1))
        e.state = now.snapshot ∧ (e.call.isDraw = true → now = earlier)) ∧
      ∀ image, s.lastImage = some image ↔ ∃ earlier origin later,
        since = earlier ++ .drawImage image origin :: later ∧ ∀ c ∈ later, c.image? = none := by
  intro s m
  have hmodels : Models s m := (models_ofSize size).run acts
  have hstate : s.state = m.snapshot := hmodels.state_eq (shallow _ (List.prefix_refl _))
  obtain ⟨before, since, hacts, cleared⟩ := exists_cleared acts
  have hcalls : calls acts = calls before ++ since := by rw [hacts, calls_append_map_perform]
  have hevents : s.events.toList = ((ofSize size).run before).entries since := by
    change ((ofSize size).run acts).events.toList = _
    rw [hacts, run_append_map_perform, events_foldl, events_run_of_cleared cleared]
    rfl
  have hrecorded : s.recorded = since := by rw [recorded, hevents, map_call_entries]
  refine ⟨⟨hmodels.transform, hmodels.stack, congrArg Snapshot.depth hstate⟩, before, since, hacts,
    cleared, hrecorded, ?_, ?_⟩
  · intro i e he earlier now
    rw [← Array.getElem?_toList, hevents, getElem?_entries, Option.map_eq_some_iff] at he
    obtain ⟨call, hcall, rfl⟩ := he
    have hnow : now = earlier.after call := by
      rw [← MatrixStack.run_concat, List.append_assoc, ← Option.toList_some, ← hcall,
        ← List.take_add_one]
    have hprefix : calls before ++ since.take (i + 1) <+: calls acts := by
      rw [hcalls]
      exact (List.prefix_append_right_inj _).mpr (List.take_prefix _ _)
    have hthen := ((models_ofSize size).run before).performAll (since.take (i + 1))
    rw [← MatrixStack.run_append] at hthen
    refine ⟨hthen.state_eq (shallow _ hprefix), ?_⟩
    · intro draws
      rw [hnow, MatrixStack.after_of_isDraw draws]
  · intro image
    rw [lastImage_eq_some_iff, hrecorded]

theorem unmatched_restore_and_drawing_follow_matrix_stack :
    let acts : List (Act Float) :=
      [.perform (.scale 2 2), .perform .save, .perform (.translate ⟨5, 0⟩), .clearEvents,
        .perform .restore, .perform .restore, .perform (.drawImage ⟨9, ⟨1, 1⟩⟩ .origin)]
    let s := (ofSize ⟨100, 50⟩).run acts
    (∀ before, before <+: calls acts →
      (MatrixStack.bare.run before).below.length < Nat.pow 2 32) ∧
    s.state.transform = .identity * .scaling 2 2 ∧ s.state.depth = 0 ∧
    s.recorded = [.restore, .restore, .drawImage ⟨9, ⟨1, 1⟩⟩ .origin] ∧
    s.lastImage = some ⟨9, ⟨1, 1⟩⟩ := by
  intro acts s
  have shallow : ∀ before, before <+: calls acts →
      (MatrixStack.bare.run before).below.length < Nat.pow 2 32 := by
    intro before h
    have hlength : before.length ≤ 6 := h.length_le
    have hbelow : (MatrixStack.bare.run before).below.length ≤ 0 + before.length :=
      MatrixStack.length_below_run_le .bare before
    have hlimit : 6 < Nat.pow 2 32 := by decide
    omega
  obtain ⟨⟨htransform, -, hdepth⟩, before, since, -, -, hrecorded, -, hlast⟩ :=
    surface_and_record_follow_matrix_stack ⟨100, 50⟩ acts shallow
  have hcalls : s.recorded = [.restore, .restore, .drawImage ⟨9, ⟨1, 1⟩⟩ .origin] := rfl
  refine ⟨shallow, htransform, hdepth, hcalls, (hlast _).mpr ⟨[.restore, .restore], .origin, [], ?_,
    by simp⟩⟩
  exact hrecorded.symm.trans hcalls

end RecordingSurface

end GraphLens
