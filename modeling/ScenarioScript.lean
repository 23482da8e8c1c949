import ScenarioScript.Main
import ScenarioScript.Proofs.Placeholder.Occurrences
import ScenarioScript.Proofs.Statement.Scan
import ScenarioScript.Proofs.Statement.Sentence
import ScenarioScript.Proofs.Statement.Meaning
import ScenarioScript.Proofs.Forest.Stream
import ScenarioScript.Proofs.Statement.Agreement
import ScenarioScript.Proofs.Compilation.Accounts
import ScenarioScript.Proofs.CommandLine.Verdict
import ScenarioScript.Proofs.Compilation.Layout
import ScenarioScript.Proofs.Script.Lexing
import ScenarioScript.Proofs.CommandLine.Delivery
import ScenarioScript.Proofs.Forest.Guards
import ScenarioScript.Proofs.Placeholder.Phrases
import ScenarioScript.Proofs.CommandLine.Concatenation
import ScenarioScript.Proofs.Placeholder.Templates
import ScenarioScript.Proofs.Session.Metering
import ScenarioScript.Proofs.Session.Attribution
import ScenarioScript.Proofs.Forest.Ownership
import ScenarioScript.Proofs.Placeholder.Searching
import ScenarioScript.Proofs.Statement.Rewriting
import ScenarioScript.Proofs.Statement.Leftovers
import ScenarioScript.Proofs.Forest.Listing
import ScenarioScript.Proofs.Forest.Origins
import ScenarioScript.Proofs.Forest.Indentation
import ScenarioScript.Proofs.Suggestion.EditDistance
import ScenarioScript.Proofs.Suggestion.Nearest
import ScenarioScript.Proofs.Scenario.Problems
import ScenarioScript.Proofs.Session.Persistence
import ScenarioScript.Proofs.Session.Overwriting
import ScenarioScript.Proofs.Json.RoundTrip
import ScenarioScript.Proofs.Output.Slug
import ScenarioScript.Proofs.Log.Structured
import ScenarioScript.Proofs.Placeholder.Shadowing
import ScenarioScript.Proofs.Compilation.Literals
import ScenarioScript.Proofs.Placeholder.Leftmost
import ScenarioScript.Proofs.Placeholder.Greed
import ScenarioScript.Proofs.Statement.TokenFamily
import ScenarioScript.Proofs.Script.Assertions
