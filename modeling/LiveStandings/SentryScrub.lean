/-
What leaves the process in a Sentry event: `before_send` walks the event and
redacts by key name, with the pattern the log processor uses.
-/
import LiveStandings.Library.PyText
import LiveStandings.Library.Redaction

namespace LiveStandings

open PyText Redaction

universe u v

/-- The words of `PII_KEY_PATTERN`. -/
def piiWords : List String :=
  ["password", "token", "secret", "authorization", "cookie", "api_key",
    "credential"]

/-- `PII_KEY_PATTERN.search`. -/
def piiKeyPattern (name : String) : Bool :=
  piiWords.any fun word => searchFolded word.toList name.toList

example : piiKeyPattern "TOKEN_FRESH" = true := by decide
example : piiKeyPattern "user_email" = false := by decide

/-- The values of an event that are neither dicts nor lists, strings among
them, and its keys with their `str(k)`. -/
structure EventTypes (K : Type u) (S : Type v) where
  str : K → String
  text : String → S

variable {K : Type u} {S : Type v} (types : EventTypes K S)

/-- A key whose value must not leave. -/
def EventTypes.piiKey (k : K) : Bool := piiKeyPattern (types.str k)

/-- What a redacted value reads. -/
def EventTypes.redacted : S := types.text "[REDACTED]"

/-- `_scrub_pii`; it reads nothing of the hint. -/
def scrubPii (event : Tree K S) : Tree K S :=
  event.redact types.piiKey types.redacted

/-- No value under a sensitive key is left at any depth, everything a path of
other accesses reaches shows what it showed, and a scrubbed event is scrubbed
for good. -/
theorem scrubPii_complete [DecidableEq K] (event : Tree K S) :
    (∀ path k found, types.piiKey k = true →
        (scrubPii types event).at? (path ++ [.key k]) = some found →
          found = .scalar types.redacted) ∧
      (∀ path : List (Access K),
        (∀ k, .key k ∈ path → types.piiKey k = false) →
          ((scrubPii types event).at? path).map Tree.outline =
            (event.at? path).map Tree.outline) ∧
      scrubPii types (scrubPii types event) = scrubPii types event := by
  refine ⟨?_, ?_, redact_redact _ _ event⟩
  · intro path k found hpii hfound
    exact at?_redact_hidden _ _ hpii hfound
  · intro path hshown
    have hopen : ∀ access ∈ path, access.Open types.piiKey := by
      intro access haccess
      cases access with
      | key k => exact hshown k haccess
      | index i => trivial
    rw [scrubPii, at?_redact _ _ hopen, Option.map_map]
    congr 1
    funext tree
    exact outline_redact _ _ tree

end LiveStandings
