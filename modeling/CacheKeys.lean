import CacheKeys.Main
import CacheKeys.Request.Http
import CacheKeys.Proofs.Template.Concatenation
import CacheKeys.Proofs.Template.RoundTrip
import CacheKeys.Proofs.Template.Equivalence
import CacheKeys.Proofs.Document.Records
import CacheKeys.Proofs.Request.CanonicalQuery
import CacheKeys.Proofs.Rule.Markers
import CacheKeys.Proofs.Rule.Registration
import CacheKeys.Proofs.Rule.Loading
import CacheKeys.Proofs.Metrics.Sharding
import CacheKeys.Proofs.Template.Reference
import CacheKeys.Proofs.Rule.Dependence
import CacheKeys.Proofs.Template.Offsets
import CacheKeys.Proofs.Template.Normalization
import CacheKeys.Proofs.Template.ErrorPositions
import CacheKeys.Proofs.Template.Limits
import CacheKeys.Proofs.Template.Recursion
import CacheKeys.Proofs.CommandLine.FailingCalls
import CacheKeys.Proofs.Template.Descent.InPlace
import CacheKeys.Proofs.Template.Quotes
import CacheKeys.Proofs.Path.Decomposition
import CacheKeys.Proofs.Template.Finality
import CacheKeys.Proofs.Builtin.Strings
import CacheKeys.Proofs.Request.Settings
import CacheKeys.Proofs.Request.Cookies
import CacheKeys.Proofs.CommandLine.Simulation
import CacheKeys.Proofs.Metrics.Statistics
import CacheKeys.Proofs.Document.Configuration
import CacheKeys.Proofs.CommandLine.Sampling
import CacheKeys.Proofs.CommandLine.Output
