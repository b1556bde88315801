import OpenidTlsConnector.Foundations.OrderedUnion
import OpenidTlsConnector.Users

/-!
# The groups of a token

The groups of a client are appended to the default groups, which are taken as
they are configured.
-/

namespace OpenidTlsConnector

open Foundations

theorem resolveGroups_eq (clientGroups defaultGroups : List String) :
    resolveGroups clientGroups defaultGroups = clientGroups.foldl appendNew defaultGroups := rfl

/-- The groups are the ordered union exactly when no default group is
configured twice. -/
theorem orderedUnion_resolveGroups_iff (clientGroups defaultGroups : List String) :
    OrderedUnion defaultGroups clientGroups (resolveGroups clientGroups defaultGroups) ↔
      defaultGroups.Nodup := by
  rw [resolveGroups_eq]
  exact orderedUnion_foldl_iff defaultGroups clientGroups

/-- A default group that is configured twice is issued twice. -/
theorem not_orderedUnion_resolveGroups :
    ¬ OrderedUnion ["everyone", "everyone"] ["spa-users"]
      (resolveGroups ["spa-users"] ["everyone", "everyone"]) := by
  intro union
  exact absurd union.nodup (by decide)

end OpenidTlsConnector
