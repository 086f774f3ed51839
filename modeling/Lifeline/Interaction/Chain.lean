import Lifeline.Interaction.Basic

namespace Lifeline.Interaction

/-- For each call the calls that lead to it, the call itself last. `path` are those that lead to the
call before. -/
def pathsFrom (path : List Message) : List Message → List (List Message)
  | [] => []
  | m :: rest =>
    let next := path.take m.depth ++ [m]
    next :: pathsFrom next rest

def paths (s : Interaction) : List (List Message) :=
  pathsFrom [] s.calls

def route (path : List Message) : List (ParticipantId × ParticipantId × String) :=
  path.map fun m => (m.sender, m.receiver, m.operation)

def endsIn (targets : List ParticipantId) (path : List Message) : Bool :=
  path.getLast?.any fun m => targets.contains m.receiver

def pathsInto (s : Interaction) (targets : List ParticipantId) : List (List Message) :=
  distinctBy route (s.paths.filter (endsIn targets))

def chainLabel (label : String) (total index : Nat) : String :=
  if total > 1 then s!"{label} #{index + 1}" else label

def chains (s : Interaction) (targets : List ParticipantId) : List Interaction :=
  let found := s.pathsInto targets
  found.mapIdx fun i path =>
    { label := chainLabel s.label found.length i, entryPoints := s.entryPoints,
      messages := path.toArray }

end Lifeline.Interaction
