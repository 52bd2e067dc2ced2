import JsonValidation.Cache.Bank
import JsonValidation.Path.Cursor
import JsonValidation.Predicate
import JsonValidation.Proofs.Agreement
import JsonValidation.Proofs.Ownership
import JsonValidation.Regex.Dialect
import JsonValidation.Session.Basic
import JsonValidation.Session.Trial
import JsonValidation.Value.Reader
import JsonValidation.Proofs.Building
import JsonValidation.Proofs.Compilation
import JsonValidation.Proofs.Blueprints
import JsonValidation.Proofs.CacheIndependence
import JsonValidation.Proofs.Sessions
import JsonValidation.Proofs.Replies
import JsonValidation.Proofs.CacheSoundness
import JsonValidation.Proofs.Footprint
import JsonValidation.Proofs.PathThreading
import JsonValidation.Proofs.Outcomes
import JsonValidation.Proofs.Outputs
import JsonValidation.Proofs.Localisation
import JsonValidation.Proofs.FieldNames
import JsonValidation.Proofs.Revalidation
import JsonValidation.Proofs.Messages
import JsonValidation.Proofs.Rewording
import JsonValidation.Proofs.FailureSites
import JsonValidation.Proofs.ByteOrder
import JsonValidation.Proofs.OffendingValues
import JsonValidation.Proofs.Registries
import JsonValidation.Proofs.Warming
import JsonValidation.Proofs.WriteOnce
import JsonValidation.Schema.Agenda
import JsonValidation.Schema.Rulebook
import JsonValidation.Proofs.Agendas
import JsonValidation.Proofs.SingleBuilds
import JsonValidation.Proofs.WarmCounts
import JsonValidation.Proofs.Histories
import JsonValidation.Proofs.HistoryOutcomes
import JsonValidation.Proofs.ObjectFields
import JsonValidation.Proofs.SameOutcomes
import JsonValidation.Proofs.ObjectShapes
import JsonValidation.Proofs.Unions
import JsonValidation.Proofs.ArrayItems
import JsonValidation.Proofs.Wrappers
import JsonValidation.Proofs.Erasure
import JsonValidation.Proofs.FirstBuilds
import JsonValidation.Proofs.Rounding
import JsonValidation.Proofs.NumberMatching
import JsonValidation.Proofs.NumberBounds
import JsonValidation.Proofs.Refinements
import JsonValidation.Proofs.Paths
