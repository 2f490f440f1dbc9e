import InteriorPoint.Scalar.Binary64
import InteriorPoint.Linear.Matrix
import InteriorPoint.Norm.Spelling
import InteriorPoint.Options
import InteriorPoint.Bounds.Damping
import InteriorPoint.Slack
import InteriorPoint.StepLimit
import InteriorPoint.Optimality
import InteriorPoint.State
import InteriorPoint.Cache
import InteriorPoint.Problem.Quartic
import InteriorPoint.Quantity
import InteriorPoint.Quantity.Formula
import InteriorPoint.Engine.Memory
import InteriorPoint.Engine
import InteriorPoint.Decimal.Positional
import InteriorPoint.Decimal.Reading
import InteriorPoint.Options.Document
import InteriorPoint.Problem.Spoiled
import InteriorPoint.Quantity.Catalogue
import InteriorPoint.Proofs.Engine.Transparency
import InteriorPoint.Proofs.Engine.SlackFloor
import InteriorPoint.Proofs.Engine.EvaluatedOnce
import InteriorPoint.Proofs.Engine.TrialReuse
import InteriorPoint.Proofs.Engine.WrongShapes
import InteriorPoint.Proofs.Engine.Refusals
import InteriorPoint.Proofs.Engine.CountedOnce
import InteriorPoint.Proofs.Engine.BarrierGradient
import InteriorPoint.Proofs.Engine.Gradients
import InteriorPoint.Proofs.Engine.StepLimits
import InteriorPoint.Proofs.Engine.UndefinedResiduals
import InteriorPoint.Proofs.State.InPlace
import InteriorPoint.Proofs.Cache.Client
import InteriorPoint.Proofs.Engine.ComputedOnce
import InteriorPoint.Proofs.Chronicle
import InteriorPoint.Proofs.Slack.Lifting
import InteriorPoint.Proofs.StepLimit.Longest
import InteriorPoint.Proofs.Engine.SlackSteps
import InteriorPoint.Proofs.Engine.Centering
import InteriorPoint.Proofs.Bounds.Position
import InteriorPoint.Proofs.Quantity.Coordinates
import InteriorPoint.Proofs.Engine.Coordinates
import InteriorPoint.Proofs.Bounds.Damping
import InteriorPoint.Proofs.Bounds.Arrays
import InteriorPoint.Proofs.Bounds.Box
import InteriorPoint.Proofs.Bounds.Isometry
import InteriorPoint.Proofs.Step.Outcome
import InteriorPoint.Proofs.Engine.Infeasibility
import InteriorPoint.Proofs.Engine.JacobianProducts
import InteriorPoint.Proofs.Cache.Capacity
import InteriorPoint.Proofs.Norm.Spelling
