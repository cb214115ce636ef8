import TypedScalar.Main
import TypedScalar.Session.Operation
import TypedScalar.Proofs.Floating.Shortest
import TypedScalar.Proofs.Text.Digits
import TypedScalar.Proofs.Floating.Text
import TypedScalar.Proofs.Text.LetterCase
import TypedScalar.Proofs.Text.Numeral
import TypedScalar.Proofs.NullToken
import TypedScalar.Proofs.Action
import TypedScalar.Proofs.Scalar.Casting
import TypedScalar.Proofs.TokenSpellings
import TypedScalar.Proofs.Registry
import TypedScalar.Proofs.DoubleText
import TypedScalar.Proofs.Floating.Window
import TypedScalar.Proofs.Floating.DoubleRounding
import TypedScalar.Proofs.Floating.Reread
import TypedScalar.Proofs.SingleText
import TypedScalar.Proofs.Registry.Failure
import TypedScalar.Proofs.Registry.Queries
import TypedScalar.Proofs.Scalar.Registered
import TypedScalar.Proofs.Scalar.TextCast
import TypedScalar.Proofs.TwoRuns
import TypedScalar.Proofs.Scalar.Settings
import TypedScalar.Proofs.Session.Settings
import TypedScalar.Proofs.Floating.Value
import TypedScalar.Proofs.Floating.Widening
import TypedScalar.Proofs.Scalar.Exact
import TypedScalar.Proofs.Scalar.WholeCast
import TypedScalar.Proofs.Scalar.Equality
import TypedScalar.Proofs.Text.Canonical
import TypedScalar.Proofs.Value.Keys
import TypedScalar.Proofs.Value.Shown
import TypedScalar.Proofs.Scalar.WholeText
import TypedScalar.Proofs.Scalar.Making
import TypedScalar.Proofs.Scalar.ThroughText
import TypedScalar.Proofs.Scalar.Recast
import TypedScalar.Proofs.Scalar.Chain
import TypedScalar.Proofs.Scalar.Representation
import TypedScalar.Proofs.Session.Representation
import TypedScalar.Proofs.Text.Utf8
import TypedScalar.Proofs.Scalar.Utf8
import TypedScalar.Proofs.Scalar.CastTotal
import TypedScalar.Proofs.Config.Change
import TypedScalar.Proofs.Scalar.Inferring
import TypedScalar.Proofs.Invariant
import TypedScalar.Proofs.Frame
import TypedScalar.Proofs.Config.Fields
import TypedScalar.Proofs.Session.Frame
import TypedScalar.Proofs.Config.Settled
import TypedScalar.Proofs.Session.Settled
import TypedScalar.Proofs.Yaml.Meaning
import TypedScalar.Proofs.Catching
import TypedScalar.Proofs.Config.Load
import TypedScalar.Proofs.Scalar.Refusing
import TypedScalar.Proofs.CommandLine.Answer
import TypedScalar.Proofs.Floating.Closest
import TypedScalar.Proofs.Scalar.FloatingCast
import TypedScalar.Proofs.Session.Copying
import TypedScalar.Proofs.Scalar.Renumber
import TypedScalar.Proofs.Lockstep
import TypedScalar.Proofs.CommandLine.Library
import TypedScalar.Proofs.Session.Lockstep
import TypedScalar.Proofs.Session.Queries
import TypedScalar.Proofs.Text.Runs
import TypedScalar.Proofs.Text.Grammar
import TypedScalar.Proofs.Text.RealText
import TypedScalar.Proofs.Floating.Overflow
import TypedScalar.Proofs.Floating.Order
import TypedScalar.Proofs.Scalar.FloatingRange
import TypedScalar.Proofs.Scalar.CastOrder
import TypedScalar.Proofs.Scalar.ReadReal
import TypedScalar.Proofs.Scalar.ReadInteger
import TypedScalar.Proofs.Floating.Distance
import TypedScalar.Proofs.Scalar.Tolerance
import TypedScalar.Proofs.Config.Document
import TypedScalar.Proofs.Registry.History
import TypedScalar.Proofs.Log.InEffect
import TypedScalar.Proofs.TypeName
