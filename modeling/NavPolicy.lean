import NavPolicy.Cache
import NavPolicy.Main
import NavPolicy.Pattern.Description
import NavPolicy.Proofs.Regex.Meaning
import NavPolicy.Proofs.Regex.Search
import NavPolicy.Proofs.Regex.Literal
import NavPolicy.Proofs.Pattern.GlobExpression
import NavPolicy.Proofs.Url.Characters
import NavPolicy.Proofs.Url.Parts
import NavPolicy.Proofs.Url.Mention
import NavPolicy.Proofs.Url.Origin
import NavPolicy.Proofs.Decision.HostConfinement
import NavPolicy.Proofs.Json.Distinct
import NavPolicy.Proofs.Json.Records
import NavPolicy.Proofs.Url.Refusal
import NavPolicy.Proofs.Cache.Faithful
import NavPolicy.Proofs.Cache.Runs
import NavPolicy.Proofs.Cache.Transparency
import NavPolicy.Proofs.Compilation.Enforcement
import NavPolicy.Proofs.Pattern.Surroundings
import NavPolicy.Proofs.Artifact.ContentRules
import NavPolicy.Proofs.Cache.LastKnownGood
import NavPolicy.Proofs.Artifact.Alignment
import NavPolicy.Proofs.Decision.MoreBlocks
import NavPolicy.Proofs.Script.Additions
import NavPolicy.Proofs.Artifact.FilterModes
import NavPolicy.Proofs.Artifact.PathFilters
import NavPolicy.Proofs.Pattern.GlobMatchers
import NavPolicy.Proofs.Decision.Law
import NavPolicy.Proofs.Json.Places
import NavPolicy.Proofs.Json.Walk
import NavPolicy.Proofs.Json.Reading
import NavPolicy.Proofs.Policy.Content
import NavPolicy.Proofs.Policy.Essence
import NavPolicy.Proofs.Policy.Violations
import NavPolicy.Proofs.Json.RoundTrip
import NavPolicy.Proofs.Policy.RoundTrip
import NavPolicy.Proofs.Compilation.EntryPoints
import NavPolicy.Proofs.Json.Printed
import NavPolicy.Proofs.Json.Numerals
import NavPolicy.Proofs.Script.Slots
import NavPolicy.Proofs.Url.Serialization
import NavPolicy.Proofs.Decision.PathGlobs
import NavPolicy.Proofs.Decision.Respelling
import NavPolicy.Proofs.Artifact.Requests
import NavPolicy.Proofs.Artifact.ContentRulesText
import NavPolicy.Proofs.Artifact.OriginConfinement
import NavPolicy.Proofs.Artifact.Trimming
import NavPolicy.Proofs.Cache.Answers
import NavPolicy.Proofs.Compilation.Failures
import NavPolicy.Proofs.Command.Agreement
import NavPolicy.Proofs.Decision.TargetList
import NavPolicy.Proofs.Script.Selectors
import NavPolicy.Proofs.Json.DocumentOrder
import NavPolicy.Proofs.Options.Overlay
