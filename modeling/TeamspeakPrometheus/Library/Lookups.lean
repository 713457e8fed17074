import Mathlib.Data.Multiset.AddSub
import Mathlib.Data.Multiset.Count

/-! What a list of uses finds in a partial map, each under a key of its own, counted without order. -/

namespace TeamspeakPrometheus.Library.Lookups

section Lost

variable {α β : Type} {f g : α → Option β} {l : List α} {a : α} {b : β}

end Lost

section Found

variable {κ γ ν β : Type} {render : γ → ν → β} {uses : List (κ × γ)} {m m' : κ → Option ν}

def found (render : γ → ν → β) (uses : List (κ × γ)) (m : κ → Option ν) : Multiset β :=
  ↑(uses.filterMap fun use => (m use.1).map (render use.2))

end Found

end TeamspeakPrometheus.Library.Lookups
