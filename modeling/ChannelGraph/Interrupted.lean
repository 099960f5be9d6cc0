/-!
# Runs that stop part way

Some operations change a state step by step and may have to stop between two steps. What they
changed until then stays, so they answer with the cause together with the state reached.
-/

namespace ChannelGraph

/-- A run that had to stop: why, and in which state. -/
structure Interrupted (ε σ : Type) where
  /-- Why the run stopped. -/
  cause : ε
  /-- The state in which it stopped. -/
  reached : σ

/-- The state after a run, whether it stopped part way or not. -/
def stateAfter {ε σ : Type} : Except (Interrupted ε σ) σ → σ
  | .ok s => s
  | .error i => i.reached

end ChannelGraph
