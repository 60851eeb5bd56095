import GraphLens.Proofs.Presses

namespace GraphLens

namespace Pointer

variable {τ α : Type} [Scalar α] [PanZoomTarget τ α] {p : Pointer α} {target : τ}

theorem Zooms.response_ne_released {clicks : α} {o : Outcome τ α} (h : Zooms p target clicks o) :
    o.response ≠ .released := by
  cases h with
  | accepted ok => nofun
  | refused error => nofun

theorem Zooms.suppressesSelection {clicks : α} {o : Outcome τ α} (h : Zooms p target clicks o) :
    o.response.suppressesSelection = false := by
  cases h with
  | accepted ok => rfl
  | refused error => rfl

theorem Steps.suppressesSelection_iff {e : Event α} {o : Outcome τ α} (h : Steps p target e o) :
    o.response.suppressesSelection = true ↔
      o.pointer.isDragging = true ∧ e.zooms = false ∧ o.response ≠ .rejected := by
  cases h with
  | pressed | panned => simp [Response.suppressesSelection, Pointer.isDragging, Event.zooms]
  | hovered | unpressed | released => simp [Response.suppressesSelection, Pointer.isDragging]
  | panRefused => simp [Response.suppressesSelection]
  | clicked held still zooms =>
      simp [zooms.suppressesSelection, zooms.pointer, Pointer.isDragging]
  | unturned => simp [Response.suppressesSelection, Event.zooms]
  | turned turn zooms | zoomed zooms => simp [zooms.suppressesSelection, Event.zooms]
  | cancelled =>
      cases p.isDragging <;> simp [Response.suppressesSelection, Pointer.isDragging]

namespace Scene

/-- Whatever is panned and zoomed: the release of a press tells of a drag, and leaves the target
alone, exactly if some move of the press to another place was carried out. Otherwise it is a click,
and that also if the pointer was elsewhere meanwhile but all moves to there were refused. -/
theorem release_is_click_unless_panned_away (s : Scene τ α) (press : Point α)
    (during : List (Input α)) (unended : ∀ i ∈ during, i.presses = false ∧ i.releases = false)
    (pos : Point α) (modifiers : Modifiers) :
    let pressed := s.after (.event (.down press))
    let now := pressed.run during
    let idle : Pointer α := ⟨now.pointer.config, pos, none⟩
    now.outcome (.up pos modifiers) =
      if (observed Scene.after pannedMoves pressed during).any (· != press) then
        ⟨idle, now.target, .released, [.dragEnded]⟩
      else idle.zoom now.target (now.pointer.clickClicks modifiers) := by
  intro pressed now
  have held : Holds press false pressed := ⟨_, rfl, rfl, rfl⟩
  have hnow := held.during unended
  rw [Bool.false_or] at hnow
  exact hnow.outcome_up pos modifiers

theorem carried_move_after_refused_one_ends_as_drag :
    let target : Viewport (RecordingSurface Float) Float (ImageHandle Float) :=
      .ofSurface (.ofSize ⟨640, 480⟩)
    let pressed := (new .standard target).after (.event (.down ⟨3, 4⟩))
    let during : List (Input Float) :=
      [.event (.move ⟨0 / 0, 4⟩), .event (.move ⟨5, 5⟩), .event (.wheel ⟨0, 0⟩ 0),
        .event (.move ⟨3, 4⟩)]
    let now := pressed.run during
    (∀ i ∈ during, i.presses = false ∧ i.releases = false) ∧
    (observed Scene.after pannedMoves pressed during).any (· != ⟨3, 4⟩) = true ∧
    now.outcome (.up ⟨3, 4⟩ .shiftKey) =
      ⟨⟨now.pointer.config, ⟨3, 4⟩, none⟩, now.target, .released, [.dragEnded]⟩ := by
  intro target pressed during now
  have unended : ∀ i ∈ during, i.presses = false ∧ i.releases = false := by
    simp [during, Input.presses, Input.releases]
  have away : (observed Scene.after pannedMoves pressed during).any (· != ⟨3, 4⟩) = true := by
    decide +kernel
  have h := release_is_click_unless_panned_away (new .standard target) ⟨3, 4⟩ during unended
    ⟨3, 4⟩ .shiftKey
  exact ⟨unended, away, h.trans (if_pos away)⟩

theorem press_with_refused_move_is_not_released :
    let half : Tracker (RecordingSurface Float) Float :=
      (Tracker.ofSurface (.ofSize ⟨800, 600⟩)).after (.scale 0.5 0.5)
    let target : Viewport (RecordingSurface Float) Float (ImageHandle Float) := ⟨half, none⟩
    let pressed := (new .standard target).after (.event (.down ⟨0, 0⟩))
    let during : List (Input Float) := [.event (.move ⟨1.5e308, 0⟩)]
    during.any (Input.leaves ⟨0, 0⟩) = true ∧
    ((pressed.run during).outcome (.up ⟨0, 0⟩ .empty)).response ≠ .released := by
  intro half target pressed during
  have held : Holds ⟨0, 0⟩ false pressed := ⟨_, rfl, rfl, rfl⟩
  have unended : ∀ i ∈ during, i.presses = false ∧ i.releases = false := by
    simp [during, Input.presses, Input.releases]
  have refused : (observed Scene.after pannedMoves pressed during).any (· != ⟨0, 0⟩) = false := by
    decide +kernel
  refine ⟨by decide +kernel, ?_⟩
  have hnow := held.during unended
  rw [refused] at hnow
  rw [hnow.outcome_up]
  exact (zooms_zoom _ _ _).response_ne_released

/-- Whatever a new pointer has handled before: the answer to an event has the selection of text
suppressed exactly if a press is held after the event, the event was no zoom, and it was not
refused. A press is held from when the pointer goes down until it goes up or is cancelled. -/
theorem selection_is_suppressed_iff (config : PanZoomConfig α) (target : τ) (log : List (Input α))
    (e : Event α) :
    let o := ((new config target).run log).outcome e
    (o.response.suppressesSelection = true ↔
      o.pointer.isDragging = true ∧ e.zooms = false ∧ o.response ≠ .rejected) ∧
    (o.pointer.isDragging = true ↔
      ∃ before i rest, log ++ [.event e] = before ++ i :: rest ∧ i.presses = true ∧
        ∀ k ∈ rest, ¬k.releases = true) := by
  intro o
  refine ⟨(steps_outcome _ e).suppressesSelection_iff, ?_⟩
  have held := isDragging_run_iff config target (log ++ [.event e])
  rwa [run_concat] at held

theorem wheel_in_a_drag_frees_the_selection :
    let target : Viewport (RecordingSurface Float) Float (ImageHandle Float) :=
      .ofSurface (.ofSize ⟨800, 600⟩)
    let pressed := (new .standard target).after (.event (.down ⟨10, 20⟩))
    let turned := pressed.outcome (.wheel ⟨10, 20⟩ 40)
    turned.pointer.isDragging = true ∧ turned.response.suppressesSelection = false := by
  intro target pressed turned
  have h : Steps pressed.pointer pressed.target (.wheel ⟨10, 20⟩ 40) turned :=
    pressed.steps_outcome _
  refine ⟨h.isDragging, Bool.eq_false_iff.mpr fun suppressed => ?_⟩
  obtain ⟨_, noZoom, _⟩ := h.suppressesSelection_iff.mp suppressed
  cases noZoom

end Scene

end Pointer

end GraphLens
