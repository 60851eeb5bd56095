import GraphLens.Description
import GraphLens.Page.Workbench
import GraphLens.Pipeline.Views
import GraphLens.Pointer.Config.Json
import GraphLens.Pointer.Modifiers.Json
import GraphLens.Proofs.Dragging
import GraphLens.Proofs.Lockstep
import GraphLens.Proofs.Staleness
import GraphLens.Surface.Recording
import GraphLens.Proofs.Frames
import GraphLens.Proofs.Caching
import GraphLens.Proofs.Interleaving
import GraphLens.Proofs.LastApplied
import GraphLens.Proofs.Invertibility
import GraphLens.Proofs.CenteredZoom
import GraphLens.Proofs.Loading
import GraphLens.Proofs.Resizing
import GraphLens.Proofs.Responses
import GraphLens.Proofs.ExactTransforms
import GraphLens.Proofs.StepwiseZoom
import GraphLens.Proofs.VisibleRect
import GraphLens.Proofs.NeutralRepaints
import GraphLens.Proofs.Sequencing
import GraphLens.Proofs.CompileSchema
import GraphLens.Proofs.MessageLines
import GraphLens.Proofs.ConfigText
import GraphLens.Proofs.MatrixStack
import GraphLens.Proofs.Following
