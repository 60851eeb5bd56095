import GraphLens.Geometry.Affine

namespace GraphLens

/-- A request to a surface over images of type `ι`. Arguments are in the coordinates that the
surface's current transform makes. -/
inductive Surface.Call (α ι : Type) where
  | save
  | restore
  | translate (v : Vec α)
  | scale (sx sy : α)
  | rotate (angle : α)
  | transform (m : Affine α)
  | setTransform (m : Affine α)
  | clearRect (r : Rect α)
  | drawImage (image : ι) (origin : Point α)

namespace Surface.Call

variable {α ι : Type}

def name : Call α ι → String
  | save => "save"
  | restore => "restore"
  | translate _ => "translate"
  | scale _ _ => "scale"
  | rotate _ => "rotate"
  | transform _ => "transform"
  | setTransform _ => "set_transform"
  | clearRect _ => "clear_rect"
  | drawImage _ _ => "draw_image"

def numbers : Call α ι → List α
  | save | restore => []
  | translate v => [v.x, v.y]
  | scale sx sy => [sx, sy]
  | rotate angle => [angle]
  | transform m | setTransform m => m.coeffs
  | clearRect r => [r.x0, r.y0, r.x1, r.y1]
  | drawImage _ origin => [origin.x, origin.y]

def isDraw : Call α ι → Bool
  | clearRect _ | drawImage _ _ => true
  | _ => false

def image? : Call α ι → Option ι
  | drawImage image _ => some image
  | _ => none

end Surface.Call

class DrawingSurface (σ : Type) (α ι : outParam Type) where
  size : σ → Size α
  perform : σ → Surface.Call α ι → σ

end GraphLens
