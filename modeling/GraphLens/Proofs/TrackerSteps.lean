import GraphLens.Tracker

namespace GraphLens

theorem Transform.forward_of_ofAffine {α : Type} [Scalar α] {m : Affine α} {t : Transform α}
    (h : ofAffine m = .ok t) : t.forward = m := by
  unfold ofAffine at h
  split at h
  · cases h; rfl
  · cases h

/-- A transform that was accepted at some time, or the one that needs no check. -/
inductive Transform.Checked {α : Type} [Scalar α] : Transform α → Prop
  | identity : Checked .identity
  | accepted {m : Affine α} {t : Transform α} (sound : ofAffine m = .ok t) : Checked t

/-- A transform that the operations on transforms can make, from the identity or from any map. -/
inductive Transform.Reachable {α : Type} [Scalar α] : Transform α → Prop
  | identity : Reachable .identity
  | ofAffine {m : Affine α} {t : Transform α} (ok : ofAffine m = .ok t) : Reachable t
  | compose {t u : Transform α} {m : Affine α} (ht : Reachable t) (ok : t.compose m = .ok u) :
      Reachable u
  | translate {t u : Transform α} {v : Vec α} (ht : Reachable t) (ok : t.translate v = .ok u) :
      Reachable u
  | scale {t u : Transform α} {sx sy : α} (ht : Reachable t) (ok : t.scale sx sy = .ok u) :
      Reachable u
  | rotate {t u : Transform α} {angle : α} (ht : Reachable t) (ok : t.rotate angle = .ok u) :
      Reachable u
  | multiply {s t u : Transform α} (hs : Reachable s) (ht : Reachable t)
      (ok : s.multiply t = .ok u) : Reachable u
  | invert {t u : Transform α} (ht : Reachable t) (ok : t.invert = .ok u) : Reachable u

theorem Transform.Checked.reachable {α : Type} [Scalar α] {t : Transform α} (h : t.Checked) :
    t.Reachable := by
  cases h with
  | identity => exact .identity
  | accepted sound => exact .ofAffine sound

namespace Tracker

variable {σ α ι : Type} [Scalar α] [DrawingSurface σ α ι]

def after (t : Tracker σ α) (op : Op α ι) : Tracker σ α := (t.serve op).2

def run (t : Tracker σ α) (ops : List (Op α ι)) : Tracker σ α := ops.foldl after t

theorem perform_of_serve_eq_ok {t t' : Tracker σ α} {op : Op α ι} (h : t.serve op = (.ok (), t')) :
    t.perform op = .ok t' := by
  rw [perform, h]
  rfl

theorem perform_of_serve_eq_error {t t' : Tracker σ α} {op : Op α ι} {e : DegenerateError α}
    (h : t.serve op = (.error e, t')) : t.perform op = .error e := by
  rw [perform, h]
  rfl

def Op.checked? (m : Affine α) : Op α ι → Option (Affine α)
  | .translate v => some (m * .shift v)
  | .scale sx sy => some (m * .scaling sx sy)
  | .rotate angle => some (m * .rotation angle)
  | .transform n => some (m * n)
  | .setTransform n => some n
  | .save | .restore | .resetTransform | .clearRect _ | .drawImage _ _ => none

/-- What an accepted request can do. -/
inductive Steps (t : Tracker σ α) : Op α ι → Tracker σ α → Prop
  | saved : Steps t .save ⟨DrawingSurface.perform t.surface .save, t.current, t.current :: t.stack⟩
  | unmatched (empty : t.stack = []) : Steps t .restore t
  | restored {saved : Transform α} {stack : List (Transform α)} (top : t.stack = saved :: stack) :
      Steps t .restore ⟨DrawingSurface.perform t.surface .restore, saved, stack⟩
  | installed {op : Op α ι} {m : Affine α} {next : Transform α}
      (checked : op.checked? t.current.forward = some m) (sound : Transform.ofAffine m = .ok next) :
      Steps t op ⟨DrawingSurface.perform t.surface op.call, next, t.stack⟩
  | reset : Steps t .resetTransform
      ⟨DrawingSurface.perform t.surface (.setTransform .identity), .identity, t.stack⟩
  | drawn {op : Op α ι} (draws : op.call.isDraw = true) :
      Steps t op ⟨DrawingSurface.perform t.surface op.call, t.current, t.stack⟩

omit [Scalar α] in
theorem install_eq_ok {t t' : Tracker σ α} {next : Except (DegenerateError α) (Transform α)}
    {call : Surface.Call α ι} (h : t.install next call = (.ok (), t')) :
    ∃ u, next = .ok u ∧ t' = ⟨DrawingSurface.perform t.surface call, u, t.stack⟩ := by
  unfold install at h
  cases next with
  | error e => cases h
  | ok u => exact ⟨u, rfl, (congrArg Prod.snd h).symm⟩

omit [Scalar α] in
theorem install_eq_error {t t' : Tracker σ α} {next : Except (DegenerateError α) (Transform α)}
    {call : Surface.Call α ι} {e : DegenerateError α} (h : t.install next call = (.error e, t')) :
    t' = t := by
  unfold install at h
  cases next with
  | error e => exact (congrArg Prod.snd h).symm
  | ok u => cases h

theorem steps_of_serve {t t' : Tracker σ α} {op : Op α ι} (h : t.serve op = (.ok (), t')) :
    t.Steps op t' := by
  have installs {next : Except (DegenerateError α) (Transform α)} {m : Affine α}
      (hm : op.checked? t.current.forward = some m) (hnext : next = Transform.ofAffine m)
      (hi : t.install next op.call = (.ok (), t')) : t.Steps op t' := by
    obtain ⟨u, hu, rfl⟩ := install_eq_ok hi
    exact .installed hm (hnext ▸ hu)
  cases op with
  | save => cases h; exact .saved
  | restore =>
      obtain ⟨surface, current, stack⟩ := t
      cases stack with
      | nil => cases h; exact .unmatched rfl
      | cons saved stack => cases h; exact .restored rfl
  | translate v => exact installs rfl rfl h
  | scale sx sy => exact installs rfl rfl h
  | rotate angle => exact installs rfl rfl h
  | transform m => exact installs rfl rfl h
  | setTransform m => exact installs rfl rfl h
  | resetTransform => cases h; exact .reset
  | clearRect r => cases h; exact .drawn rfl
  | drawImage image origin => cases h; exact .drawn rfl

theorem eq_of_serve_eq_error {t t' : Tracker σ α} {op : Op α ι} {e : DegenerateError α}
    (h : t.serve op = (.error e, t')) : t' = t := by
  cases op with
  | translate | scale | rotate | transform | setTransform => exact install_eq_error h
  | save | restore | resetTransform | clearRect | drawImage => cases h

theorem serve_cases (t : Tracker σ α) (op : Op α ι) :
    t.serve op = (.ok (), t.after op) ∧ t.Steps op (t.after op) ∨
      (∃ e, t.serve op = (.error e, t)) ∧ t.after op = t := by
  unfold after
  rcases h : t.serve op with ⟨e | _, t'⟩
  · obtain rfl := eq_of_serve_eq_error h
    exact .inr ⟨⟨e, rfl⟩, rfl⟩
  · exact .inl ⟨rfl, steps_of_serve h⟩

theorem after_cases (t : Tracker σ α) (op : Op α ι) : t.after op = t ∨ t.Steps op (t.after op) := by
  rcases t.serve_cases op with ⟨_, moved⟩ | ⟨_, same⟩
  · exact .inr moved
  · exact .inl same

theorem after_restore {t : Tracker σ α} {saved : Transform α} {rest : List (Transform α)}
    (top : t.stack = saved :: rest) :
    t.after .restore = ⟨DrawingSurface.perform t.surface .restore, saved, rest⟩ := by
  obtain ⟨surface, current, stack⟩ := t
  cases top
  rfl

theorem after_setTransform {t : Tracker σ α} {m : Affine α} {next : Transform α}
    (sound : Transform.ofAffine m = .ok next) :
    t.after (.setTransform m) =
      ⟨DrawingSurface.perform t.surface (.setTransform m), next, t.stack⟩ := by
  simp only [after, serve, setTransform, sound, install, draw]

theorem surface_after_of_silent {t : Tracker σ α} {op : Op α ι} (h : t.notices op = []) :
    (t.after op).surface = DrawingSurface.perform t.surface op.call := by
  rcases t.serve_cases op with ⟨ok, moved⟩ | ⟨⟨e, refused⟩, _⟩
  · generalize t.after op = t' at ok moved
    cases moved with
    | unmatched empty => simp [notices, perform_of_serve_eq_ok ok, empty] at h
    | saved | restored | installed | reset | drawn => rfl
  · simp [notices, perform_of_serve_eq_error refused] at h

theorem after_of_reported {t : Tracker σ α} {op : Op α ι} (h : t.notices op ≠ []) :
    t.after op = t := by
  rcases t.serve_cases op with ⟨ok, moved⟩ | ⟨_, same⟩
  · cases op with
    | restore =>
        generalize t.after .restore = t' at ok moved
        cases moved with
        | unmatched empty => rfl
        | restored top => simp [notices, perform_of_serve_eq_ok ok, top] at h
        | installed checked sound => cases checked
        | drawn draws => cases draws
    | save | translate | scale | rotate | transform | setTransform | resetTransform | clearRect
    | drawImage => simp [notices, perform_of_serve_eq_ok ok] at h
  · exact same

/-- The calls that reach the surface: one for each request of which nothing is reported. -/
def calls : Tracker σ α → List (Op α ι) → List (Surface.Call α ι)
  | _, [] => []
  | t, op :: ops =>
      (if (t.notices op).isEmpty then [op.call] else []) ++ (t.after op).calls ops

theorem run_induction {P : Tracker σ α → Prop} {t : Tracker σ α} (start : P t)
    (step : ∀ {t t' : Tracker σ α} {op : Op α ι}, P t → t.Steps op t' → P t')
    (ops : List (Op α ι)) : P (t.run ops) := by
  induction ops generalizing t with
  | nil => exact start
  | cons op ops ih =>
      refine ih ?_
      rcases t.after_cases op with same | moved
      · rwa [same]
      · exact step start moved

def transforms (t : Tracker σ α) : List (Transform α) := t.current :: t.stack

def AllChecked (t : Tracker σ α) : Prop := ∀ u ∈ t.transforms, u.Checked

theorem allChecked_ofSurface (surface : σ) : (ofSurface surface).AllChecked :=
  List.forall_mem_singleton.mpr .identity

omit [DrawingSurface σ α ι] in
theorem AllChecked.current {t : Tracker σ α} (h : t.AllChecked) : t.current.Checked :=
  h _ (.head _)

theorem AllChecked.step {t t' : Tracker σ α} {op : Op α ι} (h : t.AllChecked)
    (hs : t.Steps op t') : t'.AllChecked := by
  have hstack : ∀ u ∈ t.stack, u.Checked := fun u hu => h u (.tail _ hu)
  cases hs with
  | saved => exact List.forall_mem_cons.mpr ⟨h.current, h⟩
  | unmatched empty => exact h
  | restored top =>
      rw [top] at hstack
      exact hstack
  | installed checked sound => exact List.forall_mem_cons.mpr ⟨.accepted sound, hstack⟩
  | reset => exact List.forall_mem_cons.mpr ⟨.identity, hstack⟩
  | drawn draws => exact h

end Tracker

end GraphLens
