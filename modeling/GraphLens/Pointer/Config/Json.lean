import GraphLens.Json.Record
import GraphLens.Json.Writer
import GraphLens.Pointer.Config

namespace GraphLens.PanZoomConfig

open Json

structure Draft where
  scaleFactor : Option Float := none
  wheelDeltaDivisor : Option Float := none
  clickZoomClicks : Option Float := none

def readFactor : Reader Float := return (← Reader.numberAs "f64").toFloat

def record : Record Draft (PanZoomConfig Float) where
  title := "struct PanZoomConfig"
  blank := {}
  fields :=
    [{ name := "scale_factor"
       isSet := (·.scaleFactor.isSome)
       read := fun d => return { d with scaleFactor := some (← readFactor) } },
     { name := "wheel_delta_divisor"
       isSet := (·.wheelDeltaDivisor.isSome)
       read := fun d => return { d with wheelDeltaDivisor := some (← readFactor) } },
     { name := "click_zoom_clicks"
       isSet := (·.clickZoomClicks.isSome)
       read := fun d => return { d with clickZoomClicks := some (← readFactor) } }]
  mayEndEarly := true
  finish d :=
    let base : PanZoomConfig Float := standard
    .ok ⟨d.scaleFactor.getD base.scaleFactor, d.wheelDeltaDivisor.getD base.wheelDeltaDivisor,
      d.clickZoomClicks.getD base.clickZoomClicks⟩

def ofJson (raw : String) : Except Fault (PanZoomConfig Float) := Reader.readAll record.read raw

def toJson (c : PanZoomConfig Float) : String :=
  writeObject
    [("scale_factor", numberLayout.render c.scaleFactor),
      ("wheel_delta_divisor", numberLayout.render c.wheelDeltaDivisor),
      ("click_zoom_clicks", numberLayout.render c.clickZoomClicks)]

end GraphLens.PanZoomConfig
